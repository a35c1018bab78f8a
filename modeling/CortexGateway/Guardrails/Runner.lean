import CortexGateway.Policy.Schemas

/-! # Guardrails

`app/guardrails`.  The compiled patterns are the searches they stand for. -/
set_option autoImplicit false
namespace CortexGateway

inductive GuardrailAction
  | warn
  | block
  deriving DecidableEq, Repr

structure GuardrailResult where
  guardrail : String
  action : GuardrailAction
  reasonCode : Option String
  deriving DecidableEq

structure GuardrailRunResult where
  triggeredNames : List String
  finalAction : Option GuardrailAction
  results : List GuardrailResult
  deriving DecidableEq

namespace GuardrailRunResult

def anyTriggered (run : GuardrailRunResult) : Bool := !run.triggeredNames.isEmpty

def isBlocked (run : GuardrailRunResult) : Bool := run.finalAction = some .block

end GuardrailRunResult

/-- What `re` searches a prompt for. -/
structure GuardrailPatterns where
  piiPatterns : List (String × (String → Bool))
  injectionPhrases : List (String → Bool)

def PromptSizeGuardrail.check (maxChars : Option ℤ) (prompt : String) : Option GuardrailResult :=
  maxChars.bind fun maxChars =>
    if maxChars < prompt.length then some ⟨"prompt_size", .block, some "MAX_LENGTH_EXCEEDED"⟩
    else none

/-- The action of a detector that is switched on. -/
def DetectionMode.action : DetectionMode → Option GuardrailAction
  | .off => none
  | .warn => some .warn
  | .block => some .block

/-- The first pattern that matches gives the reason. -/
def PiiGuardrail.check (patterns : GuardrailPatterns) (mode : DetectionMode) (prompt : String) :
    Option GuardrailResult := do
  let action ← mode.action
  let (reasonCode, _) ← patterns.piiPatterns.find? fun pattern => pattern.2 prompt
  return ⟨"pii", action, some reasonCode⟩

def InjectionGuardrail.check (patterns : GuardrailPatterns) (mode : DetectionMode)
    (prompt : String) : Option GuardrailResult := do
  let action ← mode.action
  let _ ← patterns.injectionPhrases.find? fun phrase => phrase prompt
  return ⟨"injection", action, some "INJECTION_PATTERN"⟩

namespace GuardrailRunner

def buildPrompt (request : ChatCompletionRequest) : String :=
  " ".intercalate (request.messages.map ChatMessage.content)

def aggregate (results : List GuardrailResult) : Option GuardrailAction :=
  if results.any (·.action = .block) then some .block
  else if results.isEmpty then none
  else some .warn

/-- A prompt that is too large is not scanned. -/
def run (patterns : GuardrailPatterns) (request : ChatCompletionRequest)
    (policy : GuardrailsPolicy) : GuardrailRunResult :=
  let prompt := buildPrompt request
  match PromptSizeGuardrail.check policy.maxPromptLength prompt with
  | some size => ⟨[size.guardrail], some .block, [size]⟩
  | none =>
      let results := (PiiGuardrail.check patterns policy.piiDetection prompt).toList ++
        (InjectionGuardrail.check patterns policy.injectionDetection prompt).toList
      ⟨results.map GuardrailResult.guardrail, aggregate results, results⟩

theorem aggregate_blocks_iff (results : List GuardrailResult) :
    aggregate results = some .block ↔ ∃ result ∈ results, result.action = .block := by
  unfold aggregate
  split_ifs with blocks none
  · simpa using blocks
  · simp [List.isEmpty_iff.mp none]
  · simpa using blocks

theorem run_names (patterns : GuardrailPatterns) (request : ChatCompletionRequest)
    (policy : GuardrailsPolicy) :
    (run patterns request policy).triggeredNames =
      (run patterns request policy).results.map GuardrailResult.guardrail := by
  unfold run
  dsimp only
  split
  · rfl
  · rfl

theorem run_blocked_iff (patterns : GuardrailPatterns) (request : ChatCompletionRequest)
    (policy : GuardrailsPolicy) :
    (run patterns request policy).isBlocked = true ↔
      ∃ result ∈ (run patterns request policy).results, result.action = .block := by
  unfold run
  dsimp only
  split
  · rename_i size tooLarge
    have blocks : size.action = .block := by
      obtain ⟨maxChars, -, exceeded⟩ := Option.bind_eq_some_iff.mp tooLarge
      split_ifs at exceeded
      cases exceeded
      rfl
    simp [GuardrailRunResult.isBlocked, blocks]
  · rw [GuardrailRunResult.isBlocked, decide_eq_true_eq]
    exact aggregate_blocks_iff _

end GuardrailRunner

end CortexGateway
