import CortexGateway.Core.Text
import CortexGateway.Schemas.Chat

/-! # Prices and costs

`app/routing/metadata.py` and `app/budget/cost.py`.  The catalog is the
dictionary the last refresh loaded; prices are not negative, as the model
schema requires. -/
set_option autoImplicit false
namespace CortexGateway.Budgeting

structure ModelMetadata where
  provider : String
  model : String
  costPer1kTokens : ℚ
  inputCostPer1k : ℚ
  outputCostPer1k : ℚ
  capabilities : List String
  contextWindow : ℤ
  baselineLatencyMs : ℚ
  costNonneg : 0 ≤ costPer1kTokens
  inputCostNonneg : 0 ≤ inputCostPer1k
  outputCostNonneg : 0 ≤ outputCostPer1k

structure ModelMetadataCatalog where
  catalog : String → Option ModelMetadata
  ollamaDefaultCost : ℚ
  ollamaDefaultNonneg : 0 ≤ ollamaDefaultCost

theorem free_nonneg : (0 : ℚ) ≤ 0 := le_rfl

/-- `model.split(":")[0]`. -/
def beforeColon (model : String) : String := String.ofList (model.toList.takeWhile (· ≠ ':'))

def ModelMetadataCatalog.get (catalog : ModelMetadataCatalog) (provider model : String) :
    ModelMetadata :=
  match catalog.catalog (lower provider ++ ":" ++ strip model) with
  | some entry => entry
  | none =>
      match catalog.catalog (lower provider ++ ":" ++ strip (beforeColon model)) with
      | some entry => { entry with provider := provider, model := model }
      | none =>
          let isOllama : Bool := lower provider = "ollama"
          { provider := lower provider
            model := model
            costPer1kTokens := if isOllama then catalog.ollamaDefaultCost else 5/10000
            inputCostPer1k := 0
            outputCostPer1k := 0
            capabilities :=
              ["text", "code", "json"] ++
                if textContains (lower model) "vision" || textContains (lower model) "llava" then
                  ["vision"]
                else []
            contextWindow := 8192
            baselineLatencyMs := if isOllama then 300 else 500
            costNonneg := by
              split_ifs
              · exact catalog.ollamaDefaultNonneg
              · norm_num
            inputCostNonneg := le_refl 0
            outputCostNonneg := le_refl 0 }

structure CostCalculator where
  catalog : ModelMetadataCatalog

namespace CostCalculator

def estimatedInputTokens (request : ChatCompletionRequest) : ℕ :=
  max 1 ((request.messages.map fun m => m.content.length).sum / 4)

/-- `request.max_tokens or _DEFAULT_ESTIMATE_OUTPUT_TOKENS`. -/
def estimatedOutputTokens (request : ChatCompletionRequest) : ℤ :=
  match request.maxTokens with
  | some tokens => if tokens = 0 then 500 else tokens
  | none => 500

def estimateCost (calculator : CostCalculator) (provider model : String)
    (request : ChatCompletionRequest) : ℚ :=
  let metadata := calculator.catalog.get provider model
  let inputCost := (estimatedInputTokens request : ℚ) / 1000 * metadata.inputCostPer1k
  let outputCost := (estimatedOutputTokens request : ℚ) / 1000 * metadata.outputCostPer1k
  roundTo ((inputCost + outputCost) * (3/2)) 8

def calculateActualCost (calculator : CostCalculator) (provider model : String)
    (usage : Option UsageMetadata) (estimatedCost : ℚ) : ℚ :=
  match usage with
  | none => estimatedCost
  | some usage =>
      let metadata := calculator.catalog.get provider model
      let promptTokens := usage.promptTokens.getD 0
      let completionTokens := usage.completionTokens.getD 0
      if promptTokens = 0 ∧ completionTokens = 0 then estimatedCost
      else
        let inputCost := (promptTokens : ℚ) / 1000 * metadata.inputCostPer1k
        let outputCost := (completionTokens : ℚ) / 1000 * metadata.outputCostPer1k
        roundTo (inputCost + outputCost) 8

theorem estimatedOutputTokens_pos (request : ChatCompletionRequest) :
    0 < estimatedOutputTokens request := by
  unfold estimatedOutputTokens
  cases given : request.maxTokens with
  | none => simp
  | some tokens =>
      have positive := request.maxTokensPositive tokens given
      simp only
      split_ifs <;> omega

/-- Estimates are never negative, as the budget theorems ask of them. -/
theorem estimateCost_nonneg (calculator : CostCalculator) (provider model : String)
    (request : ChatCompletionRequest) : 0 ≤ calculator.estimateCost provider model request := by
  have input := (calculator.catalog.get provider model).inputCostNonneg
  have output := (calculator.catalog.get provider model).outputCostNonneg
  have tokens : (0 : ℚ) ≤ (estimatedOutputTokens request : ℚ) := by
    exact_mod_cast (estimatedOutputTokens_pos request).le
  apply roundTo_nonneg
  positivity

theorem calculateActualCost_nonneg (calculator : CostCalculator) (provider model : String)
    (usage : Option UsageMetadata) (estimatedCost : ℚ) (estimated : 0 ≤ estimatedCost)
    (prompt : ∀ u ∈ usage, 0 ≤ u.promptTokens.getD 0)
    (completion : ∀ u ∈ usage, 0 ≤ u.completionTokens.getD 0) :
    0 ≤ calculator.calculateActualCost provider model usage estimatedCost := by
  cases usage with
  | none => exact estimated
  | some usage =>
      have input := (calculator.catalog.get provider model).inputCostNonneg
      have output := (calculator.catalog.get provider model).outputCostNonneg
      have promptTokens : (0 : ℚ) ≤ (usage.promptTokens.getD 0 : ℚ) := by
        exact_mod_cast prompt usage rfl
      have completionTokens : (0 : ℚ) ≤ (usage.completionTokens.getD 0 : ℚ) := by
        exact_mod_cast completion usage rfl
      simp only [calculateActualCost]
      split_ifs
      · exact estimated
      · apply roundTo_nonneg
        positivity

end CostCalculator

end CortexGateway.Budgeting
