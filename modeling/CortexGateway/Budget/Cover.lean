import CortexGateway.Budget.Cost

/-! # The estimate covers the charge

`estimate_cost` and `calculate_actual_cost` of `app/budget/cost.py` with the
rounding of `round(x, 8)` left open. -/
set_option autoImplicit false
namespace CortexGateway.Budgeting

/-! ## round(x, n) is monotone -/

theorem floor_le_roundHalfEven (x : ℚ) : ⌊x⌋ ≤ roundHalfEven x := by
  simp only [roundHalfEven]
  split_ifs <;> omega

theorem roundHalfEven_le_floor (x : ℚ) : roundHalfEven x ≤ ⌊x⌋ + 1 := by
  simp only [roundHalfEven]
  split_ifs <;> omega

theorem roundHalfEven_mono {x y : ℚ} (below : x ≤ y) : roundHalfEven x ≤ roundHalfEven y := by
  rcases (Int.floor_mono below).lt_or_eq with apart | together
  · calc roundHalfEven x ≤ ⌊x⌋ + 1 := roundHalfEven_le_floor x
      _ ≤ ⌊y⌋ := apart
      _ ≤ roundHalfEven y := floor_le_roundHalfEven y
  · have fractions : x - (⌊y⌋ : ℚ) ≤ y - (⌊y⌋ : ℚ) := sub_le_sub_right below _
    simp only [roundHalfEven, together]
    split_ifs <;> first | omega | linarith

theorem roundTo_mono (digits : ℕ) : Monotone (roundTo · digits) := by
  intro x y below
  have scaled : x * 10 ^ digits ≤ y * 10 ^ digits :=
    mul_le_mul_of_nonneg_right below (by positivity)
  have rounded : (roundHalfEven (x * 10 ^ digits) : ℚ) ≤ roundHalfEven (y * 10 ^ digits) := by
    exact_mod_cast roundHalfEven_mono scaled
  exact div_le_div_of_nonneg_right rounded (by positivity)

namespace CostCalculator

/-! ## The two formulas under any rounding -/

section Rounded
variable (round : ℚ → ℚ) (calculator : CostCalculator) (provider model : String)

/-- `estimate_cost`. -/
def estimateCostBy (request : ChatCompletionRequest) : ℚ :=
  let metadata := calculator.catalog.get provider model
  let inputCost := (estimatedInputTokens request : ℚ) / 1000 * metadata.inputCostPer1k
  let outputCost := (estimatedOutputTokens request : ℚ) / 1000 * metadata.outputCostPer1k
  round ((inputCost + outputCost) * (3/2))

/-- `calculate_actual_cost`. -/
def calculateActualCostBy (usage : Option UsageMetadata) (estimatedCost : ℚ) : ℚ :=
  match usage with
  | none => estimatedCost
  | some usage =>
      let metadata := calculator.catalog.get provider model
      let promptTokens := usage.promptTokens.getD 0
      let completionTokens := usage.completionTokens.getD 0
      if promptTokens = 0 ∧ completionTokens = 0 then estimatedCost
      else
        let inputCost := (promptTokens : ℚ) / 1000 * metadata.inputCostPer1k
        let outputCost := (completionTokens : ℚ) / 1000 * metadata.outputCostPer1k
        round (inputCost + outputCost)

end Rounded

/-- The calculator rounds to eight digits. -/
theorem estimateCost_eq : estimateCost = estimateCostBy (roundTo · 8) := rfl

theorem calculateActualCost_eq :
    calculateActualCost = calculateActualCostBy (roundTo · 8) := rfl

/-- `usage.prompt_tokens or 0` -/
def promptTokens (usage : Option UsageMetadata) : ℤ :=
  (usage.bind UsageMetadata.promptTokens).getD 0

/-- `usage.completion_tokens or 0` -/
def completionTokens (usage : Option UsageMetadata) : ℤ :=
  (usage.bind UsageMetadata.completionTokens).getD 0

/-- The counts stay within the safety margin of what was estimated. -/
structure WithinMargin (request : ChatCompletionRequest) (usage : Option UsageMetadata) : Prop where
  prompt : (promptTokens usage : ℚ) ≤ 3/2 * estimatedInputTokens request
  completion : (completionTokens usage : ℚ) ≤ 3/2 * estimatedOutputTokens request

theorem calculateActualCostBy_uncounted (round : ℚ → ℚ) (calculator : CostCalculator)
    (provider model : String) {usage : Option UsageMetadata} (noPrompt : promptTokens usage = 0)
    (noCompletion : completionTokens usage = 0) (estimatedCost : ℚ) :
    calculator.calculateActualCostBy round provider model usage estimatedCost = estimatedCost := by
  cases usage with
  | none => rfl
  | some usage => exact if_pos ⟨noPrompt, noCompletion⟩

theorem calculateActualCostBy_counted (round : ℚ → ℚ) (calculator : CostCalculator)
    (provider model : String) {usage : Option UsageMetadata}
    (counted : ¬(promptTokens usage = 0 ∧ completionTokens usage = 0)) (estimatedCost : ℚ) :
    calculator.calculateActualCostBy round provider model usage estimatedCost =
      round ((promptTokens usage : ℚ) / 1000 *
          (calculator.catalog.get provider model).inputCostPer1k +
        (completionTokens usage : ℚ) / 1000 *
          (calculator.catalog.get provider model).outputCostPer1k) := by
  cases usage with
  | none => exact absurd ⟨rfl, rfl⟩ counted
  | some usage => exact if_neg counted

/-- One side of the sum: tokens within the margin cost at most the margin. -/
theorem side_le {tokens estimated price : ℚ} (within : tokens ≤ 3/2 * estimated)
    (nonneg : 0 ≤ price) : tokens / 1000 * price ≤ estimated / 1000 * price * (3/2) := by
  have priced : tokens * price ≤ 3/2 * estimated * price :=
    mul_le_mul_of_nonneg_right within nonneg
  linarith

/-- A charge within the margin is at most the estimate, whatever the rounding, and
is the estimate where nothing was counted. -/
theorem estimate_covers_charge (round : ℚ → ℚ) (monotone : Monotone round)
    (calculator : CostCalculator) (provider model : String) (request : ChatCompletionRequest)
    (usage : Option UsageMetadata) (within : WithinMargin request usage) :
    let estimatedCost := calculator.estimateCostBy round provider model request
    let actualCost := calculator.calculateActualCostBy round provider model usage estimatedCost
    actualCost ≤ estimatedCost ∧
      (promptTokens usage = 0 ∧ completionTokens usage = 0 → actualCost = estimatedCost) := by
  intro estimatedCost actualCost
  by_cases uncounted : promptTokens usage = 0 ∧ completionTokens usage = 0
  · have same : actualCost = estimatedCost :=
      calculateActualCostBy_uncounted round calculator provider model uncounted.1 uncounted.2 _
    exact ⟨same.le, fun _ => same⟩
  · refine ⟨?_, fun nothing => absurd nothing uncounted⟩
    have charged : actualCost = _ :=
      calculateActualCostBy_counted round calculator provider model uncounted estimatedCost
    rw [charged]
    refine monotone ?_
    have input := side_le within.prompt (calculator.catalog.get provider model).inputCostNonneg
    have output :=
      side_le within.completion (calculator.catalog.get provider model).outputCostNonneg
    rw [add_mul]
    exact add_le_add input output

end CostCalculator

/-- One catalogued model, a dime for a thousand prompt tokens and twice that for
a thousand completion tokens. -/
def priced : CostCalculator :=
  ⟨⟨fun key => if key = "groq:llama" then
      some ⟨"groq", "llama", 15/100, 10/100, 20/100, ["text"], 8192, 500,
        by norm_num, by norm_num, by norm_num⟩
    else none, 0, free_nonneg⟩⟩

/-- `hello` is estimated at one prompt token and charged one. -/
theorem hello_covered :
    priced.calculateActualCostBy (roundTo · 8) "groq" "llama" helloBack.usage
        (priced.estimateCostBy (roundTo · 8) "groq" "llama" hello) ≤
      priced.estimateCostBy (roundTo · 8) "groq" "llama" hello :=
  (CostCalculator.estimate_covers_charge (roundTo · 8) (roundTo_mono 8) priced "groq" "llama" hello
    helloBack.usage ⟨by decide +kernel, by decide +kernel⟩).1

end CortexGateway.Budgeting
