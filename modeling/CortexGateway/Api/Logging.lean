import CortexGateway.Api.Chat
import CortexGateway.Services.Settlement

/-! # Which requests are logged

Every way the endpoint can end registers one row that names it, unless the
request is cancelled.  The row is written only if the endpoint returns. -/
set_option autoImplicit false
namespace CortexGateway

section Logging
variable {σ τ : Type}
variable (deps : ChatDependencies σ τ) (patterns : GuardrailPatterns) (settings : ChatSettings)
variable (policy : ResolvedPolicy) (request : ChatCompletionRequest) (logged : LoggedRequest)
variable (state : ChatState σ τ)

/-- The status that names the way a request ended. -/
def outcomeStatus : EStateM.Result ChatError (ChatState σ τ) ChatCompletionResponse → String
  | .ok .. => "success"
  | .error (.guardrailBlocked ..) _ => "guardrail_blocked"
  | .error (.pipeline (.rateLimitExceeded ..)) _ => "rate_limited"
  | .error (.pipeline (.budgetExceeded ..)) _ => "budget_blocked"
  | .error (.pipeline _) _ => "failure"

/-- One row is written, and its status names the way the request ended. -/
def LoggedOnce (sent : Bool)
    (result : EStateM.Result ChatError (ChatState σ τ) ChatCompletionResponse) : Prop :=
  (writesRun sent result).map RequestLog.status = [outcomeStatus result]

instance (sent : Bool)
    (result : EStateM.Result ChatError (ChatState σ τ) ChatCompletionResponse) :
    Decidable (LoggedOnce sent result) :=
  inferInstanceAs (Decidable (_ = _))

/-- The state once a row has been registered. -/
def ChatState.register (state : ChatState σ τ) (log : RequestLog) : ChatState σ τ :=
  { state with backgroundTasks := state.backgroundTasks ++ [log] }

theorem run_addLogTask (enabled : settings.requestLogEnabled = true) (log : RequestLog) :
    (addLogTask settings log : ChatM σ τ Unit).run state = .ok () (state.register log) := by
  rw [addLogTask, if_pos enabled]
  rfl

/-- `complete` as the endpoint calls it. -/
def served : EStateM.Result Exc (World σ τ) ChatCompletionResponse :=
  (ChatService.complete deps.collaborators settings.toSettings policy request logged.requestId
    (some logged.context)).run state.world

theorem chatCompletions_blocked (enabled : settings.requestLogEnabled = true)
    (blocked : (GuardrailRunner.run patterns request policy.guardrails).isBlocked = true) :
    (chatCompletions deps patterns settings policy request logged).run state =
      .error (guardrailError (GuardrailRunner.run patterns request policy.guardrails))
        (state.register
          (guardrailLog logged (GuardrailRunner.run patterns request policy.guardrails))) := by
  unfold chatCompletions
  rw [if_pos blocked, EStateM.run_bind, run_addLogTask settings state enabled]
  rfl

theorem chatCompletions_answered (enabled : settings.requestLogEnabled = true)
    (unblocked : (GuardrailRunner.run patterns request policy.guardrails).isBlocked = false)
    (response : ChatCompletionResponse) (world : World σ τ)
    (answered : served deps settings policy request logged state = .ok response world) :
    (chatCompletions deps patterns settings policy request logged).run state =
      .ok response (ChatState.register { state with world := world }
        (successLog policy logged (GuardrailRunner.run patterns request policy.guardrails)
          response)) := by
  have awaited : (awaitComplete (ChatService.complete deps.collaborators settings.toSettings policy
      request logged.requestId (some logged.context))).run state =
        .ok response { state with world := world } := by
    unfold served at answered
    simp only [awaitComplete, EStateM.run] at answered ⊢
    rw [answered]
  unfold chatCompletions
  simp only [unblocked, Bool.false_eq_true, if_false]
  rw [EStateM.run_bind, Exits.run_tryCatch, awaited]
  dsimp only
  rw [EStateM.run_bind, run_addLogTask settings _ enabled]
  rfl

theorem chatCompletions_failed (enabled : settings.requestLogEnabled = true)
    (unblocked : (GuardrailRunner.run patterns request policy.guardrails).isBlocked = false)
    (exc : Exc) (world : World σ τ)
    (failed : served deps settings policy request logged state = .error exc world) :
    (chatCompletions deps patterns settings policy request logged).run state =
      .error (.pipeline exc) (if exc.isException then
        ChatState.register { state with world := world } (failureLog logged exc)
      else { state with world := world }) := by
  have awaited : (awaitComplete (ChatService.complete deps.collaborators settings.toSettings policy
      request logged.requestId (some logged.context))).run state =
        .error (.pipeline exc) { state with world := world } := by
    unfold served at failed
    simp only [awaitComplete, EStateM.run] at failed ⊢
    rw [failed]
  unfold chatCompletions
  simp only [unblocked, Bool.false_eq_true, if_false]
  rw [EStateM.run_bind, Exits.run_tryCatch, awaited]
  cases ordinary : exc.isException with
  | true =>
      simp only [ordinary, if_true]
      rw [EStateM.run_bind, run_addLogTask settings _ enabled]
      rfl
  | false => simp only [ordinary, Bool.false_eq_true, if_false]; rfl

/-- The tasks registered when the endpoint is left. -/
def registered :
    EStateM.Result ChatError (ChatState σ τ) ChatCompletionResponse → List RequestLog
  | .ok _ state => state.backgroundTasks
  | .error _ state => state.backgroundTasks

theorem failureLog_status (exc : Exc) (state : ChatState σ τ) :
    (failureLog logged exc).status = outcomeStatus (.error (.pipeline exc) state) := by
  cases exc <;> rfl

/-- One row is registered for every ending except a cancellation. -/
theorem registered_once (enabled : settings.requestLogEnabled = true)
    (fresh : state.backgroundTasks = [])
    (ordinary : ∀ exc world, served deps settings policy request logged state = .error exc world →
      exc.isException = true) :
    (registered ((chatCompletions deps patterns settings policy request logged).run state)).map
        RequestLog.status =
      [outcomeStatus ((chatCompletions deps patterns settings policy request logged).run state)] := by
  cases blocked : (GuardrailRunner.run patterns request policy.guardrails).isBlocked with
  | true =>
      rw [chatCompletions_blocked deps patterns settings policy request logged state enabled blocked]
      simp only [registered, ChatState.register, fresh, List.nil_append, List.map_cons, List.map_nil]
      rfl
  | false =>
      cases ended : served deps settings policy request logged state with
      | ok response world =>
          rw [chatCompletions_answered deps patterns settings policy request logged state enabled
            blocked response world ended]
          simp only [registered, ChatState.register, fresh, List.nil_append, List.map_cons,
            List.map_nil]
          rfl
      | error exc world =>
          rw [chatCompletions_failed deps patterns settings policy request logged state enabled
            blocked exc world ended, if_pos (ordinary exc world ended)]
          simp only [registered, ChatState.register, fresh, List.nil_append, List.map_cons,
            List.map_nil]
          exact congrArg (fun status => [status]) (failureLog_status logged exc _)

/-- A request is logged if and only if its response is sent: no guardrail
blocks it and `complete` answers it. -/
theorem loggedOnce_iff (enabled : settings.requestLogEnabled = true)
    (fresh : state.backgroundTasks = []) (sent : Bool) :
    LoggedOnce sent ((chatCompletions deps patterns settings policy request logged).run state) ↔
      sent = true ∧ (GuardrailRunner.run patterns request policy.guardrails).isBlocked = false ∧
        ∃ response world, served deps settings policy request logged state = .ok response world := by
  cases blocked : (GuardrailRunner.run patterns request policy.guardrails).isBlocked with
  | true =>
      rw [chatCompletions_blocked deps patterns settings policy request logged state enabled blocked]
      simp [LoggedOnce, writesRun]
  | false =>
      cases ended : served deps settings policy request logged state with
      | ok response world =>
          rw [chatCompletions_answered deps patterns settings policy request logged state enabled
            blocked response world ended]
          cases sent with
          | true =>
              simp only [LoggedOnce, writesRun, ChatState.register, fresh, if_true]
              exact iff_of_true rfl ⟨trivial, trivial, response, world, rfl⟩
          | false => simp [LoggedOnce, writesRun]
      | error exc world =>
          rw [chatCompletions_failed deps patterns settings policy request logged state enabled
            blocked exc world ended]
          simp [LoggedOnce, writesRun]

end Logging

/-! ## A provider that is down -/

def loggingSettings : ChatSettings := ⟨defaultSettings, true⟩

/-- The greeting of a member, served by this executor. -/
def greeted (execute : EStateM Exc Budgeting.BudgetTable ChatCompletionResponse) :
    EStateM.Result ChatError (ChatState Budgeting.BudgetTable Budgeting.AsyncSession)
      ChatCompletionResponse :=
  (chatCompletions (oneProviderDependencies april execute) ⟨[], []⟩ loggingSettings
    globalDefaultPolicy hello ⟨"req-1", member, none⟩).run ⟨unusedWorld, []⟩

def unavailable : EStateM Exc Budgeting.BudgetTable ChatCompletionResponse :=
  throw (.provider .providerUnavailableError "The provider is down.")

theorem failure_never_logged :
    outcomeStatus (greeted unavailable) = "failure" ∧ writesRun true (greeted unavailable) = [] ∧
      ¬ LoggedOnce true (greeted unavailable) := by
  decide +kernel

theorem answer_loggedOnce : LoggedOnce true (greeted (pure helloBack)) := by
  have serves : (match served (oneProviderDependencies april (pure helloBack)) loggingSettings
      globalDefaultPolicy hello ⟨"req-1", member, none⟩ ⟨unusedWorld, []⟩ with
    | .ok .. => true
    | .error .. => false) = true := by decide +kernel
  apply (loggedOnce_iff _ _ _ _ _ _ ⟨unusedWorld, []⟩ rfl rfl true).mpr
  refine ⟨rfl, by decide +kernel, ?_⟩
  split at serves
  · rename_i response world answered
    exact ⟨response, world, answered⟩
  · cases serves

end CortexGateway
