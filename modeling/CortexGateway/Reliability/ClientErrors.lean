import CortexGateway.Providers.Errors
import CortexGateway.Reliability.Recording

/-! # Client errors and the circuit breakers

Runs of the executor in which upstream answers with 4xx statuses only.  An
adapter that translates such an answer into `ProviderError` reports status 502,
and the breaker counts it. -/
set_option autoImplicit false
namespace CortexGateway.Reliability
open CircuitBreakerRegistry ProviderCircuitBreaker Transition

/-- A step of the system in which a failed call is the answer it got, or the
refusal of the adapter. -/
inductive ClientAction
  | act (action : Action)
  | answered (request : ℕ) (answer : Answer) (draw : ℚ)
  | refused (request : ℕ) (draw : ℚ)

/-- The adapter a task calls, and the request it calls it with. -/
def Task.call (task : Task) : Option (Adapter × ChatCompletionRequest) :=
  (adapterOf task.currentProvider).map fun adapter =>
    (adapter, task.request.withTarget task.currentProvider task.currentModel)

/-- The exception a refused call ends in. -/
def Task.refusal (task : Task) : Option Exc := do
  let (adapter, request) ← task.call
  adapter.refuses request

/-- The exception a call ends in that was not refused and got this answer. -/
def Task.failure (str : Json → String) (task : Task) (answer : Answer) : Option Exc := do
  let (adapter, request) ← task.call
  guard (adapter.refuses request).isNone
  adapter.translate str request.model answer

theorem refusal_eq_some (task : Task) (exc : Exc) (refused : task.refusal = some exc) :
    ∃ call ∈ task.call, call.1.refuses call.2 = some exc := by
  unfold Task.refusal at refused
  obtain ⟨call, called, refused⟩ := Option.bind_eq_some_iff.mp refused
  exact ⟨call, called, refused⟩

theorem failure_eq_some (str : Json → String) (task : Task) (answer : Answer) (exc : Exc)
    (failed : task.failure str answer = some exc) :
    ∃ call ∈ task.call, call.1.translate str call.2.model answer = some exc := by
  unfold Task.failure at failed
  obtain ⟨call, called, failed⟩ := Option.bind_eq_some_iff.mp failed
  obtain ⟨_, -, translated⟩ := Option.bind_eq_some_iff.mp failed
  exact ⟨call, called, translated⟩

section ClientErrors
variable (executor : ReliabilityExecutor) (str : Json → String)

/-- Calls end by an answer or a refusal only. -/
def clientAction (system : System) : ClientAction → Option Action
  | .act (.event _ (.failed ..)) => none
  | .act (.event _ (.responded _)) => none
  | .act action => some action
  | .answered request answer draw => do
      let task ← system.tasks request
      let exc ← task.failure str answer
      return .event request (.failed exc draw)
  | .refused request draw => do
      let task ← system.tasks request
      let exc ← task.refusal
      return .event request (.failed exc draw)

def clientStep (system : System) (action : ClientAction) : Option System :=
  (clientAction str system action).bind (step executor system)

/-- Every upstream answer is a 4xx status. -/
def OnlyClientErrors (_ : System) : ClientAction → Prop
  | .answered _ answer _ => answer.isClientError = true
  | _ => True

/-! ## What is asked of a run -/

/-- Every breaker is closed and has counted nothing. -/
def Unmoved (system : System) : Prop :=
  ∀ breakerKey, (system.shared.circuits.breakerAt breakerKey).state = .CLOSED ∧
    (system.shared.circuits.breakerAt breakerKey).failureCount = 0

/-- Taken from this state, the action lets its request retry. -/
def Retries (system : System) (request : ℕ) (action : ClientAction) : Prop :=
  ∃ next task after, clientStep executor str system action = some next ∧
    system.tasks request = some task ∧ next.tasks request = some after ∧
    task.retryCount < after.retryCount

/-- Of the calls that end, only one answered 429 is retried. -/
def RetriesRateLimits (system : System) (action : ClientAction) : Prop :=
  match action with
  | .answered request answer _ =>
      Retries executor str system request action → answer.isRateLimit = true
  | .refused request _ => ¬ Retries executor str system request action
  | .act _ => True

/-! ## Which steps move nothing -/

/-- The call of this task is not the last attempt, and `spared` holds of the next one. -/
def BeforeLast (task : Task) (spared : ℕ → Prop) : Prop :=
  ∃ attemptIdx : ℕ, task.control = .calling attemptIdx ∧
    (attemptIdx : ℤ) ≠ executor.retryPolicy.maxRetries ∧ spared attemptIdx

/-- Every answer is translated as a client error and no call is refused, except
where a deadline cuts the retry off, or another attempt follows a 429. -/
def WellTranslated (system : System) : ClientAction → Prop
  | .answered request answer draw => ∀ task ∈ system.tasks request, ∀ call ∈ task.call,
      call.1.Translates answer ∨ BeforeLast executor task fun attemptIdx =>
        answer.isRateLimit = true ∨ CutOff executor system.shared.now task attemptIdx draw
  | .refused request draw => ∀ task ∈ system.tasks request,
      BeforeLast executor task fun attemptIdx =>
        CutOff executor system.shared.now task attemptIdx draw
  | .act _ => True

/-! ## Translations and the classifiers -/

theorem translate_uncounted (adapter : Adapter) (model : String) (answer : Answer) (exc : Exc)
    (translated : adapter.translate str model answer = some exc)
    (well : adapter.Translates answer) :
    isCircuitBreakerFailure exc = false ∧
      (isTransientError exc = true → answer.isRateLimit = true) := by
  cases answer with
  | http status body json =>
      cases adapter with
      | gemini => cases well
      | groq =>
          cases translated
          simp only [Adapter.Translates, List.mem_cons, List.not_mem_nil, or_false] at well
          rcases well with rfl | rfl | rfl | rfl
          · exact ⟨rfl, fun transient => by cases transient⟩
          · exact ⟨rfl, fun transient => by cases transient⟩
          · exact ⟨rfl, fun transient => by cases transient⟩
          · exact ⟨rfl, fun _ => rfl⟩
      | ollama =>
          cases translated
          obtain ⟨rfl, missing⟩ := well
          cases message : OllamaProvider.errorMsg body json with
          | str text =>
              have missed := missing text message
              simp only [OllamaProvider.handleHttpError, if_true, message, missed]
              exact ⟨rfl, fun transient => by cases transient⟩
          | _ =>
              simp only [OllamaProvider.handleHttpError, if_true, message]
              exact ⟨rfl, fun transient => by cases transient⟩
  | google cls text =>
      cases adapter with
      | groq => cases well
      | ollama => cases well
      | gemini =>
          cases translated
          rcases well with listed | ⟨rfl, missed⟩
          · simp only [List.mem_cons, List.not_mem_nil, or_false] at listed
            rcases listed with rfl | rfl | rfl
            · exact ⟨rfl, fun transient => by cases transient⟩
            · exact ⟨rfl, fun transient => by cases transient⟩
            · exact ⟨rfl, fun _ => rfl⟩
          · simp only [GeminiProvider.translate, missed, if_true]
            exact ⟨rfl, fun transient => by cases transient⟩

/-- Any other 4xx answer counts toward the circuit. -/
theorem translate_counted (adapter : Adapter) (model : String) (answer : Answer) (exc : Exc)
    (client : answer.isClientError = true)
    (translated : adapter.translate str model answer = some exc)
    (badly : ¬ adapter.Translates answer) : isCircuitBreakerFailure exc = true := by
  cases answer with
  | http status body json =>
      simp only [Answer.isClientError, Bool.and_eq_true, decide_eq_true_eq] at client
      cases adapter with
      | gemini => cases translated
      | groq =>
          cases translated
          simp only [Adapter.Translates, List.mem_cons, List.not_mem_nil, or_false, not_or] at badly
          obtain ⟨unauthorized, forbidden, missing, limited⟩ := badly
          rw [GroqProvider.raiseFromStatus, if_neg (by simp [unauthorized, forbidden]),
            if_neg limited, if_neg missing, if_neg (by omega)]
          rfl
      | ollama =>
          cases translated
          by_cases missing : status = 404
          · have unnamed : ∃ text, OllamaProvider.errorMsg body json = .str text ∧
                OllamaProvider.missesModel text = false := by
              simpa [Adapter.Translates, missing] using badly
            obtain ⟨text, message, unnamed⟩ := unnamed
            simp only [OllamaProvider.handleHttpError, missing, if_true, message, unnamed]
            rfl
          · rw [OllamaProvider.handleHttpError, if_neg missing, if_neg (by omega)]
            rfl
  | google cls text =>
      cases adapter with
      | groq => cases translated
      | ollama => cases translated
      | gemini =>
          cases translated
          cases cls with
          | googleAPIError =>
              have unnamed : GeminiProvider.missesModel text = false := by
                simpa [Adapter.Translates] using badly
              simp only [GeminiProvider.translate, unnamed]
              rfl
          | deadlineExceeded => cases client
          | serviceUnavailable => cases client
          | unauthenticated => exact absurd (Or.inl (by simp)) badly
          | permissionDenied => exact absurd (Or.inl (by simp)) badly
          | resourceExhausted => exact absurd (Or.inl (by simp)) badly

theorem refuses_counted (adapter : Adapter) (request : ChatCompletionRequest) (exc : Exc)
    (refused : adapter.refuses request = some exc) : isCircuitBreakerFailure exc = true := by
  unfold Adapter.refuses at refused
  split at refused
  · rename_i failed
    cases refused
    rw [GeminiProvider.payload_eq] at failed
    split at failed
    · cases failed
      rfl
    · cases failed
  · cases refused

/-! ## A failed call -/

theorem failoverTrigger_retryCount (shared : Shared) (task : Task) (recorded : Bool) :
    (failoverTrigger executor shared task recorded).2.retryCount = task.retryCount := by
  simp only [failoverTrigger]
  split_ifs <;> rfl

theorem callProvider_keeps (shared : Shared) (task : Task) (attemptIdx : ℕ) :
    (callProvider executor shared task attemptIdx).1.circuits = shared.circuits ∧
      (callProvider executor shared task attemptIdx).2.retryCount = task.retryCount := by
  unfold callProvider
  split <;> exact ⟨rfl, rfl⟩

theorem retryAttempt_retries (shared : Shared) (task : Task) (attemptIdx : ℕ) (draw : ℚ)
    (inTime : ¬ CutOff executor shared.now task attemptIdx draw) :
    (retryAttempt executor shared task (attemptIdx + 1) draw).1.circuits = shared.circuits ∧
      (retryAttempt executor shared task (attemptIdx + 1) draw).2.retryCount =
        task.retryCount + 1 := by
  obtain ⟨early, short⟩ := not_or.mp inTime
  simp only [retryAttempt, if_neg early, Nat.add_sub_cancel, if_neg short]
  split_ifs
  · exact ⟨rfl, rfl⟩
  · exact callProvider_keeps executor _ _ _

/-- What a failed call does to the breakers and to the number of retries. -/
inductive FailureOutcome (shared : Shared) (task : Task) (attemptIdx : ℕ) (exc : Exc) (draw : ℚ)
    (after : Shared × Task) : Prop
  | stopped (permanent : isTransientError exc = false)
      (circuits : after.1.circuits = shared.circuits)
      (retryCount : after.2.retryCount = task.retryCount)
  | recorded (last : (attemptIdx : ℤ) = executor.retryPolicy.maxRetries)
      (circuits : after.1.circuits =
        shared.circuits.recordFailure task.currentProvider exc shared.now)
      (retryCount : after.2.retryCount = task.retryCount)
  | cutOff (more : (attemptIdx : ℤ) ≠ executor.retryPolicy.maxRetries)
      (late : CutOff executor shared.now task attemptIdx draw)
      (circuits : after.1.circuits = shared.circuits)
      (retryCount : after.2.retryCount = task.retryCount)
  | retried (transient : isTransientError exc = true)
      (more : (attemptIdx : ℤ) ≠ executor.retryPolicy.maxRetries)
      (inTime : ¬ CutOff executor shared.now task attemptIdx draw)
      (circuits : after.1.circuits = shared.circuits)
      (retryCount : after.2.retryCount = task.retryCount + 1)

theorem attemptFailed_outcome (shared : Shared) (task : Task) (attemptIdx : ℕ) (exc : Exc)
    (draw : ℚ) : FailureOutcome executor shared task attemptIdx exc draw
      (attemptFailed executor shared task attemptIdx exc draw) := by
  cases transient : isTransientError exc with
  | false =>
      rw [attemptFailed_permanent executor shared task attemptIdx exc draw transient]
      exact .stopped transient rfl rfl
  | true =>
      by_cases last : (attemptIdx : ℤ) = executor.retryPolicy.maxRetries
      · rw [attemptFailed_last executor shared task attemptIdx exc draw transient last]
        refine .recorded last ?_ (failoverTrigger_retryCount executor _ _ _)
        rw [(failoverTrigger_leaves executor _ _ _).1, leave_circuits]
      rw [attemptFailed_again executor shared task attemptIdx exc draw transient last]
      by_cases late : CutOff executor shared.now task attemptIdx draw
      · rw [retryAttempt_cutOff executor shared (task.failing exc) attemptIdx draw late]
        exact .cutOff last late rfl rfl
      · have again := retryAttempt_retries executor shared (task.failing exc) attemptIdx draw late
        exact .retried transient last late again.1 again.2

theorem failed_step (system next : System) (request : ℕ) (task : Task) (exc : Exc) (draw : ℚ)
    (present : system.tasks request = some task) (ordinary : exc.isException = true)
    (stepped : step executor system (.event request (.failed exc draw)) = some next) :
    ∃ attemptIdx after, task.control = .calling attemptIdx ∧
      FailureOutcome executor system.shared task attemptIdx exc draw after ∧
      next.shared = after.1 ∧ next.tasks request = some after.2 := by
  cases stepped_of_step executor system next _ stepped with
  | event request event running after found resumed =>
      obtain rfl : task = running := Option.some.inj (present.symm.trans found)
      cases resumed_of_resume executor system.shared task _ after resumed with
      | failed attemptIdx exc draw control =>
          exact ⟨attemptIdx, _, control, attemptFailed_outcome executor _ _ _ _ _, rfl,
            Function.update_self _ _ _⟩
      | escaped attemptIdx exc draw control other =>
          rw [ordinary] at other
          cases other

theorem unmoved_of_circuits (system next : System) (unmoved : Unmoved system)
    (same : next.shared.circuits = system.shared.circuits) : Unmoved next := by
  unfold Unmoved
  rw [same]
  exact unmoved

theorem unmoved_uncounted (system next : System) (task : Task) (attemptIdx : ℕ) (exc : Exc)
    (draw : ℚ) (after : Shared × Task) (unmoved : Unmoved system)
    (uncounted : isCircuitBreakerFailure exc = false)
    (outcome : FailureOutcome executor system.shared task attemptIdx exc draw after)
    (shared : next.shared = after.1) : Unmoved next := by
  cases outcome with
  | stopped _ circuits => exact unmoved_of_circuits system next unmoved (by rw [shared, circuits])
  | cutOff _ _ circuits => exact unmoved_of_circuits system next unmoved (by rw [shared, circuits])
  | retried _ _ _ circuits =>
      exact unmoved_of_circuits system next unmoved (by rw [shared, circuits])
  | recorded _ circuits =>
      intro breakerKey
      rw [shared, circuits, CircuitBreakerRegistry.recordFailure,
        recordFailure_uncounted _ exc _ uncounted, setBreaker_getBreaker]
      exact unmoved breakerKey

/-- A failure that is counted moves the breaker unless it is not the last one,
and is retried unless a deadline cuts it off. -/
theorem counted_exact (system next : System) (task : Task) (attemptIdx : ℕ) (exc : Exc) (draw : ℚ)
    (after : Shared × Task) (allowed : Prop) (unmoved : Unmoved system)
    (control : task.control = .calling attemptIdx) (counted : isCircuitBreakerFailure exc = true)
    (outcome : FailureOutcome executor system.shared task attemptIdx exc draw after)
    (shared : next.shared = after.1) :
    (Unmoved next ∧ (task.retryCount < after.2.retryCount → allowed)) ↔
      BeforeLast executor task fun attemptIdx =>
        allowed ∨ CutOff executor system.shared.now task attemptIdx draw := by
  have at_ (spared : ℕ → Prop) : BeforeLast executor task spared ↔
      (attemptIdx : ℤ) ≠ executor.retryPolicy.maxRetries ∧ spared attemptIdx := by
    constructor
    · rintro ⟨other, same, more, spares⟩
      rw [control] at same
      cases same
      exact ⟨more, spares⟩
    · rintro ⟨more, spares⟩
      exact ⟨attemptIdx, control, more, spares⟩
  rw [at_]
  cases outcome with
  | stopped permanent =>
      rw [isTransientError_of_isCircuitBreakerFailure exc counted] at permanent
      cases permanent
  | recorded last circuits =>
      refine iff_of_false ?_ fun spared => spared.1 last
      rintro ⟨still, -⟩
      have before := unmoved (key task.currentProvider)
      have tripped := recordFailure_closed _ exc system.shared.now counted before.1
      have count := (still (key task.currentProvider)).2
      rw [shared, circuits, CircuitBreakerRegistry.recordFailure, setBreaker_self, getBreaker,
        tripped.1] at count
      omega
  | cutOff more late circuits retryCount =>
      refine iff_of_true ⟨unmoved_of_circuits system next unmoved (by rw [shared, circuits]), ?_⟩
        ⟨more, Or.inr late⟩
      intro increased
      rw [retryCount] at increased
      exact absurd increased (lt_irrefl _)
  | retried transient more inTime circuits retryCount =>
      constructor
      · rintro ⟨-, allows⟩
        exact ⟨more, Or.inl (allows (by omega))⟩
      · rintro ⟨-, spared⟩
        exact ⟨unmoved_of_circuits system next unmoved (by rw [shared, circuits]),
          fun _ => spared.resolve_right inTime⟩

/-! ## Every step -/

theorem unmoved_quiet (system next : System) (unmoved : Unmoved system)
    (quiet : Quiet system.shared next.shared) : Unmoved next := by
  intro breakerKey
  rw [quiet.closed breakerKey (unmoved breakerKey).1]
  exact unmoved breakerKey

theorem act_unmoved (system next : System) (action : Action) (unmoved : Unmoved system)
    (stepped : clientStep executor str system (.act action) = some next) : Unmoved next := by
  obtain ⟨taken, chosen, taking⟩ := Option.bind_eq_some_iff.mp stepped
  have same : taken = action := by
    cases action with
    | spawn request arguments => exact (Option.some.inj chosen).symm
    | tick seconds => exact (Option.some.inj chosen).symm
    | event request event => cases event <;> cases chosen <;> rfl
  subst same
  cases stepped_of_step executor system next taken taking with
  | spawn request arguments free =>
      exact unmoved_quiet system _ unmoved (enterProvider_quiet executor _ _)
  | tick seconds forward => exact unmoved
  | event request event task after present resumed =>
      cases resumed_of_resume executor system.shared task event after resumed with
      | woken attemptIdx wakeAt control =>
          exact unmoved_of_circuits system _ unmoved (callProvider_keeps executor _ _ _).1
      | candidates circuitErr found control =>
          exact unmoved_quiet system _ unmoved (candidatesFound_quiet executor _ _ _ _)
      | cancelled => exact unmoved
      -- how a call ends is an action of its own
      | responded attemptIdx response control => cases chosen
      | failed attemptIdx exc draw control => cases chosen
      | escaped attemptIdx exc draw control => cases chosen

theorem translate_isException (adapter : Adapter) (model : String) (answer : Answer) (exc : Exc)
    (translated : adapter.translate str model answer = some exc) : exc.isException = true := by
  cases answer with
  | http status body json =>
      cases adapter with
      | gemini => cases translated
      | groq =>
          cases translated
          unfold GroqProvider.raiseFromStatus
          split_ifs <;> rfl
      | ollama =>
          cases translated
          unfold OllamaProvider.handleHttpError
          dsimp only
          split_ifs
          · split
            · split_ifs <;> rfl
            · rfl
          · rfl
          · rfl
  | google cls text =>
      cases adapter with
      | groq => cases translated
      | ollama => cases translated
      | gemini =>
          cases translated
          cases cls <;> try rfl
          unfold GeminiProvider.translate
          dsimp only
          split_ifs <;> rfl

theorem retries_iff (system next : System) (request : ℕ) (action : ClientAction) (task after : Task)
    (stepped : clientStep executor str system action = some next)
    (present : system.tasks request = some task) (left : next.tasks request = some after) :
    Retries executor str system request action ↔ task.retryCount < after.retryCount := by
  constructor
  · rintro ⟨_, _, _, same, found, ends, increased⟩
    rw [stepped] at same
    cases same
    rw [present] at found
    cases found
    rw [left] at ends
    cases ends
    exact increased
  · intro increased
    exact ⟨next, task, after, stepped, present, left, increased⟩

theorem step_of_refused (system next : System) (request : ℕ) (draw : ℚ)
    (stepped : clientStep executor str system (.refused request draw) = some next) :
    ∃ task exc, system.tasks request = some task ∧ task.refusal = some exc ∧
      step executor system (.event request (.failed exc draw)) = some next := by
  obtain ⟨taken, chosen, stepped⟩ := Option.bind_eq_some_iff.mp stepped
  obtain ⟨task, present, chosen⟩ := Option.bind_eq_some_iff.mp chosen
  obtain ⟨exc, refusal, chosen⟩ := Option.bind_eq_some_iff.mp chosen
  cases chosen
  exact ⟨task, exc, present, refusal, stepped⟩

theorem step_of_answered (system next : System) (request : ℕ) (answer : Answer) (draw : ℚ)
    (stepped : clientStep executor str system (.answered request answer draw) = some next) :
    ∃ task exc, system.tasks request = some task ∧ task.failure str answer = some exc ∧
      step executor system (.event request (.failed exc draw)) = some next := by
  obtain ⟨taken, chosen, stepped⟩ := Option.bind_eq_some_iff.mp stepped
  obtain ⟨task, present, chosen⟩ := Option.bind_eq_some_iff.mp chosen
  obtain ⟨exc, failure, chosen⟩ := Option.bind_eq_some_iff.mp chosen
  cases chosen
  exact ⟨task, exc, present, failure, stepped⟩

/-- Every refusal is counted, unless the call is not the last attempt and is cut off. -/
theorem refused_exact (system next : System) (request : ℕ) (draw : ℚ) (unmoved : Unmoved system)
    (stepped : clientStep executor str system (.refused request draw) = some next) :
    (Unmoved next ∧ RetriesRateLimits executor str system (.refused request draw)) ↔
      WellTranslated executor system (.refused request draw) := by
  obtain ⟨task, exc, present, refusal, taken⟩ :=
    step_of_refused executor str system next request draw stepped
  obtain ⟨call, -, refused⟩ := refusal_eq_some task exc refusal
  have counted := refuses_counted call.1 call.2 exc refused
  have ordinary := isException_of_isTransientError exc
    (isTransientError_of_isCircuitBreakerFailure exc counted)
  obtain ⟨attemptIdx, after, control, outcome, shared, left⟩ := failed_step executor system next
    request task exc draw present ordinary taken
  have exact_ := counted_exact executor system next task attemptIdx exc draw after False unmoved
    control counted outcome shared
  simp only [false_or] at exact_
  simp only [RetriesRateLimits, WellTranslated, present, Option.mem_def, Option.some.injEq,
    forall_eq', retries_iff executor str system next request _ task after.2 stepped present left]
  exact exact_

theorem answered_exact (system next : System) (request : ℕ) (answer : Answer) (draw : ℚ)
    (unmoved : Unmoved system) (client : answer.isClientError = true)
    (stepped : clientStep executor str system (.answered request answer draw) = some next) :
    (Unmoved next ∧ RetriesRateLimits executor str system (.answered request answer draw)) ↔
      WellTranslated executor system (.answered request answer draw) := by
  obtain ⟨task, exc, present, failure, taken⟩ :=
    step_of_answered executor str system next request answer draw stepped
  obtain ⟨call, called, translated⟩ := failure_eq_some str task answer exc failure
  obtain ⟨attemptIdx, after, control, outcome, shared, left⟩ := failed_step executor system next
    request task exc draw present (translate_isException str call.1 _ answer exc translated) taken
  simp only [RetriesRateLimits, WellTranslated, present, Option.mem_def.mp called,
    Option.mem_def, Option.some.injEq, forall_eq',
    retries_iff executor str system next request _ task after.2 stepped present left]
  by_cases well : call.1.Translates answer
  · obtain ⟨uncounted, limited⟩ := translate_uncounted str call.1 _ answer exc translated well
    refine iff_of_true ⟨unmoved_uncounted executor system next task attemptIdx exc draw after
      unmoved uncounted outcome shared, ?_⟩ (Or.inl well)
    intro increased
    cases outcome with
    | stopped _ _ retryCount => omega
    | recorded _ _ retryCount => omega
    | cutOff _ _ _ retryCount => omega
    | retried transient => exact limited transient
  · have counted := translate_counted str call.1 _ answer exc client translated well
    rw [counted_exact executor system next task attemptIdx exc draw after _ unmoved control
      counted outcome shared]
    simp only [well, false_or]

/-- From an unmoved state, exactly the steps that translate their answer well
move nothing and retry only rate limits. -/
theorem clientStep_exact (system next : System) (action : ClientAction) (unmoved : Unmoved system)
    (client : OnlyClientErrors system action)
    (stepped : clientStep executor str system action = some next) :
    (Unmoved next ∧ RetriesRateLimits executor str system action) ↔
      WellTranslated executor system action := by
  cases action with
  | act action =>
      have still := act_unmoved executor str system next action unmoved stepped
      exact iff_of_true ⟨still, trivial⟩ trivial
  | refused request draw =>
      exact refused_exact executor str system next request draw unmoved stepped
  | answered request answer draw =>
      exact answered_exact executor str system next request answer draw unmoved client stepped

/-- Client errors leave every breaker closed and uncounted, and only rate limits
are retried, exactly in the runs whose answers are all translated well. -/
theorem clientErrors_iff_wellTranslated (now : ℚ) (failureThreshold halfOpenTrials : ℤ)
    (cooldownSeconds : ℚ) (actions : List ClientAction)
    (client : StepsMeet (clientStep executor str) OnlyClientErrors
      (start now failureThreshold halfOpenTrials cooldownSeconds) actions) :
    (HoldsThroughout (clientStep executor str) Unmoved
        (start now failureThreshold halfOpenTrials cooldownSeconds) actions ∧
      StepsMeet (clientStep executor str) (RetriesRateLimits executor str)
        (start now failureThreshold halfOpenTrials cooldownSeconds) actions) ↔
      StepsMeet (clientStep executor str) (WellTranslated executor)
        (start now failureThreshold halfOpenTrials cooldownSeconds) actions := by
  have startUnmoved : Unmoved (start now failureThreshold halfOpenTrials cooldownSeconds) :=
    fun _ => ⟨rfl, rfl⟩
  constructor
  · rintro ⟨unmoved, limited⟩ before action initial reached next first last
    have earlier : before <+: actions := (List.prefix_append before [action]).trans initial
    have after : Unmoved next := unmoved (before ++ [action]) initial next
      (by rw [run_snoc _ _ reached before action first, last])
    exact (clientStep_exact executor str reached next action (unmoved before earlier reached first)
      (client before action initial reached next first last) last).mp
        ⟨after, limited before action initial reached next first last⟩
  · intro met
    have both : StepsMeet (clientStep executor str)
        (fun system action => OnlyClientErrors system action ∧ WellTranslated executor system action)
        (start now failureThreshold halfOpenTrials cooldownSeconds) actions :=
      fun before action initial reached next first last =>
        ⟨client before action initial reached next first last,
          met before action initial reached next first last⟩
    have unmoved := holdsThroughout_of_steps (clientStep executor str) Unmoved _
      (fun system action next holds guard stepped =>
        ((clientStep_exact executor str system next action holds guard.1 stepped).mpr guard.2).1)
      _ startUnmoved actions both
    refine ⟨unmoved, fun before action initial reached next first last => ?_⟩
    have earlier : before <+: actions := (List.prefix_append before [action]).trans initial
    exact ((clientStep_exact executor str reached next action (unmoved before earlier reached first)
      (client before action initial reached next first last) last).mpr
        (met before action initial reached next first last)).2

end ClientErrors

/-! ## A bad request -/

/-- One request to Groq is answered with this status, and not retried. -/
def answeredOnce (status : ℕ) : List ClientAction :=
  [.act (.spawn 1 helloArguments), .answered 1 (.http status "bad request" none) 0]

theorem answeredOnce_client (status : ℕ)
    (client : (Answer.http status "bad request" none).isClientError = true) :
    StepsMeet (clientStep oneAttempt fun _ => "") OnlyClientErrors (start 0 1 1 30)
      (answeredOnce status) := by
  intro before action initial system next first last
  have member : action ∈ answeredOnce status :=
    initial.subset (List.mem_append_right before (List.mem_singleton_self action))
  simp only [answeredOnce, List.mem_cons, List.not_mem_nil, or_false] at member
  rcases member with rfl | rfl
  · trivial
  · exact client

/-- A single 400 of Groq opens the circuit of a threshold of one. -/
theorem badRequest_opens :
    StepsMeet (clientStep oneAttempt fun _ => "") OnlyClientErrors (start 0 1 1 30)
        (answeredOnce 400) ∧
      ¬ HoldsThroughout (clientStep oneAttempt fun _ => "") Unmoved (start 0 1 1 30)
        (answeredOnce 400) := by
  have opened : (run (clientStep oneAttempt fun _ => "") (start 0 1 1 30) (answeredOnce 400)).map
      (fun system => (system.shared.circuits.breakerAt "groq").state) = some .OPEN := by
    decide +kernel
  obtain ⟨reached, taken, state⟩ := Option.map_eq_some_iff.mp opened
  constructor
  · exact answeredOnce_client 400 rfl
  · intro unmoved
    have closed := (unmoved (answeredOnce 400) (List.prefix_refl _) reached taken "groq").1
    rw [state] at closed
    cases closed

/-- A missing model leaves it alone. -/
theorem missingModel_unmoved :
    HoldsThroughout (clientStep oneAttempt fun _ => "") Unmoved (start 0 1 1 30)
        (answeredOnce 404) ∧
      StepsMeet (clientStep oneAttempt fun _ => "") (RetriesRateLimits oneAttempt fun _ => "")
        (start 0 1 1 30) (answeredOnce 404) := by
  have adapter : (clientStep oneAttempt (fun _ => "") (start 0 1 1 30)
      (.act (.spawn 1 helloArguments))).map
        (fun system => (system.tasks 1).map fun task => task.call.map Prod.fst) =
          some (some (some .groq)) := by decide +kernel
  apply (clientErrors_iff_wellTranslated oneAttempt (fun _ => "") 0 1 1 30 (answeredOnce 404)
    (answeredOnce_client 404 rfl)).mpr
  unfold answeredOnce
  rw [stepsMeet_cons]
  intro spawned stepped
  refine ⟨trivial, ?_⟩
  rw [stepsMeet_cons]
  intro next last
  refine ⟨?_, stepsMeet_nil _ _ _⟩
  intro task present call called
  rw [stepped, Option.map_some, Option.some_inj, Option.mem_def.mp present, Option.map_some,
    Option.some_inj, Option.mem_def.mp called, Option.map_some, Option.some_inj] at adapter
  rw [adapter]
  exact Or.inl (by simp [Adapter.Translates])

end CortexGateway.Reliability
