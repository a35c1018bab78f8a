import CortexGateway.Reliability.Executor

/-! # What each stretch of a task does

One equation for each way a stretch of `execute` can go, and the facts every
run of the system has.  The theorems about runs unfold no stretch again. -/
set_option autoImplicit false
namespace CortexGateway.Reliability
open CircuitBreakerRegistry ProviderCircuitBreaker Transition

/-- The task is in the retry loop of its current provider. -/
def Task.InLoop (task : Task) : Prop :=
  match task.control with
  | .sleeping .. => True
  | .calling _ => True
  | _ => False

instance : DecidablePred Task.InLoop := fun task =>
  match h : task.control with
  | .sleeping .. => isTrue (by simp [Task.InLoop, h])
  | .calling _ => isTrue (by simp [Task.InLoop, h])
  | .selecting _ => isFalse (by simp [Task.InLoop, h])
  | .returned _ => isFalse (by simp [Task.InLoop, h])
  | .raised _ => isFalse (by simp [Task.InLoop, h])

/-- The task after a call that failed. -/
def Task.failing (task : Task) (exc : Exc) : Task :=
  { task with lastError := some exc, failures := exc :: task.failures }

/-- The task an admission hands to the attempt loop. -/
def Task.ticketed (task : Task) (circuits : CircuitBreakerRegistry) : Task :=
  { task with
    attemptedProviders := lower task.currentProvider :: task.attemptedProviders
    ticket := ticketOf circuits task.currentProvider
    failures := [] }

@[simp] theorem raising_outside (task : Task) (exc : Exc) : ¬ (task.raising exc).InLoop :=
  not_false

@[simp] theorem raiseLast_outside (task : Task) : ¬ task.raiseLast.InLoop := not_false

section Stretches
variable (executor : ReliabilityExecutor)

/-- The task a request starts with. -/
def firstTask (shared : Shared) (arguments : Arguments) : Task where
  request := arguments.request
  routingMode := arguments.routingMode
  deadlineTimestamp := shared.now + executor.totalRequestTimeoutSeconds
  originalProvider := arguments.initialProvider
  attemptedProviders := []
  retryCount := 0
  failoverAttempts := 0
  failoverTriggered := false
  currentProvider := arguments.initialProvider
  currentModel := arguments.initialModel
  lastError := none
  control := .selecting none
  ticket := none
  failures := []

theorem execute_eq (shared : Shared) (arguments : Arguments) :
    execute executor shared arguments =
      enterProvider executor shared (firstTask executor shared arguments) := rfl

/-! ## Calls and retries -/

theorem callProvider_registered (shared : Shared) (task : Task) (attemptIdx : ℕ)
    (registered : executor.engine.registry.isRegistered task.currentProvider = true) :
    callProvider executor shared task attemptIdx =
      (shared, { task with control := .calling attemptIdx }) := by
  simp [callProvider, ProviderRegistry.get, registered]

theorem callProvider_unregistered (shared : Shared) (task : Task) (attemptIdx : ℕ)
    (unregistered : executor.engine.registry.isRegistered task.currentProvider = false) :
    (callProvider executor shared task attemptIdx).1 = shared.leave task false ∧
      ¬ (callProvider executor shared task attemptIdx).2.InLoop := by
  simp [callProvider, ProviderRegistry.get, unregistered]

theorem failoverTrigger_leaves (shared : Shared) (task : Task) (recorded : Bool) :
    (failoverTrigger executor shared task recorded).1 = shared.leave task recorded ∧
      ¬ (failoverTrigger executor shared task recorded).2.InLoop := by
  simp only [failoverTrigger]
  split_ifs
  · exact ⟨rfl, raiseLast_outside task⟩
  · exact ⟨rfl, raiseLast_outside task⟩
  · exact ⟨rfl, not_false⟩

/-- A deadline cuts off the attempt after `attemptIdx`. -/
def CutOff (now : ℚ) (task : Task) (attemptIdx : ℕ) (draw : ℚ) : Prop :=
  task.deadlineTimestamp ≤ now ∨
    task.deadlineTimestamp ≤ now + executor.retryPolicy.computeDelay attemptIdx draw

instance (now : ℚ) (task : Task) (attemptIdx : ℕ) (draw : ℚ) :
    Decidable (CutOff executor now task attemptIdx draw) :=
  inferInstanceAs (Decidable (_ ∨ _))

theorem retryAttempt_cutOff (shared : Shared) (task : Task) (attemptIdx : ℕ) (draw : ℚ)
    (cutOff : CutOff executor shared.now task attemptIdx draw) :
    retryAttempt executor shared task (attemptIdx + 1) draw =
      (shared.leave task false, task.raising totalDeadlineExceededError) := by
  by_cases late : task.deadlineTimestamp ≤ shared.now
  · simp only [retryAttempt, if_pos late]
  · have tooLong := cutOff.resolve_left late
    simp only [retryAttempt, if_neg late, Nat.add_sub_cancel, if_pos tooLong]

/-- In time, the next attempt is for the same provider on the same slot. -/
theorem retryAttempt_inTime (shared : Shared) (task : Task) (attemptIdx : ℕ) (draw : ℚ)
    (registered : executor.engine.registry.isRegistered task.currentProvider = true)
    (inTime : ¬ CutOff executor shared.now task attemptIdx draw) :
    ∃ next, retryAttempt executor shared task (attemptIdx + 1) draw = (shared, next) ∧
      next.InLoop ∧ next.currentProvider = task.currentProvider ∧ next.ticket = task.ticket := by
  obtain ⟨early, short⟩ := not_or.mp inTime
  simp only [retryAttempt, if_neg early, Nat.add_sub_cancel, if_neg short]
  split_ifs with sleeps
  · exact ⟨_, rfl, trivial, rfl, rfl⟩
  · refine ⟨_, callProvider_registered executor shared
      { task with retryCount := task.retryCount + 1 } (attemptIdx + 1) registered, trivial, rfl, rfl⟩

theorem attemptFailed_permanent (shared : Shared) (task : Task) (attemptIdx : ℕ) (exc : Exc)
    (draw : ℚ) (permanent : isTransientError exc = false) :
    attemptFailed executor shared task attemptIdx exc draw =
      (shared.leave (task.failing exc) false, (task.failing exc).raising exc) := by
  simp only [attemptFailed, permanent, Bool.not_false, if_true, Task.failing]

theorem attemptFailed_last (shared : Shared) (task : Task) (attemptIdx : ℕ) (exc : Exc) (draw : ℚ)
    (transient : isTransientError exc = true)
    (last : (attemptIdx : ℤ) = executor.retryPolicy.maxRetries) :
    attemptFailed executor shared task attemptIdx exc draw =
      failoverTrigger executor
        { shared with
          circuits := shared.circuits.recordFailure task.currentProvider exc shared.now }
        (task.failing exc) true := by
  simp only [attemptFailed, transient, Bool.not_true, Bool.false_eq_true, if_false, if_pos last,
    Task.failing]

theorem attemptFailed_again (shared : Shared) (task : Task) (attemptIdx : ℕ) (exc : Exc)
    (draw : ℚ) (transient : isTransientError exc = true)
    (more : (attemptIdx : ℤ) ≠ executor.retryPolicy.maxRetries) :
    attemptFailed executor shared task attemptIdx exc draw =
      retryAttempt executor shared (task.failing exc) (attemptIdx + 1) draw := by
  simp only [attemptFailed, transient, Bool.not_true, Bool.false_eq_true, if_false, if_neg more,
    Task.failing]

/-! ## Entering a provider -/

section Entering
variable (shared : Shared) (task : Task) (circuits : CircuitBreakerRegistry)
variable (inRange : ¬ executor.maxFailoverAttempts < (task.failoverAttempts : ℤ))
variable (early : ¬ task.deadlineTimestamp ≤ shared.now)

theorem enterProvider_over (beyond : executor.maxFailoverAttempts < (task.failoverAttempts : ℤ) ∨
      task.deadlineTimestamp ≤ shared.now) :
    (enterProvider executor shared task).1 = shared ∧
      ¬ (enterProvider executor shared task).2.InLoop := by
  by_cases exhausted : executor.maxFailoverAttempts < (task.failoverAttempts : ℤ)
  · simp [enterProvider, exhausted]
  · have late := beyond.resolve_left exhausted
    simp [enterProvider, exhausted, late]

include inRange early

theorem enterProvider_refused
    (outcome : shared.circuits.canExecute task.currentProvider shared.now = (false, circuits)) :
    (enterProvider executor shared task).1 = { shared with circuits := circuits } ∧
      ¬ (enterProvider executor shared task).2.InLoop := by
  simp only [enterProvider, if_neg inRange, if_neg early, outcome, Bool.false_eq_true, if_false]
  split_ifs
  · exact ⟨rfl, raising_outside _ _⟩
  · exact ⟨rfl, not_false⟩

theorem enterProvider_admitted (retries : 0 ≤ executor.retryPolicy.maxRetries)
    (outcome : shared.circuits.canExecute task.currentProvider shared.now = (true, circuits)) :
    enterProvider executor shared task =
      callProvider executor { shared with circuits := circuits } (task.ticketed circuits) 0 := by
  simp only [enterProvider, if_neg inRange, if_neg early, outcome, if_true]
  rw [if_neg (not_lt.mpr retries)]
  simp only [firstAttempt, if_neg early, Task.ticketed]

/-- With a negative number of retries the loop body never runs. -/
theorem enterProvider_emptyLoop (noRetries : executor.retryPolicy.maxRetries < 0)
    (outcome : shared.circuits.canExecute task.currentProvider shared.now = (true, circuits)) :
    enterProvider executor shared task =
      failoverTrigger executor { shared with circuits := circuits } (task.ticketed circuits)
        false := by
  simp only [enterProvider, if_neg inRange, if_neg early, outcome, if_true]
  rw [if_pos noRetries]
  simp only [Task.ticketed]

end Entering

/-- The ways entering a provider can go. -/
inductive Entered (shared : Shared) (task : Task) (after : Shared × Task) : Prop
  | beyond (kept : after.1 = shared) (outside : ¬ after.2.InLoop)
  | refused (circuits : CircuitBreakerRegistry)
      (outcome : shared.circuits.canExecute task.currentProvider shared.now = (false, circuits))
      (asked : after.1 = { shared with circuits := circuits }) (outside : ¬ after.2.InLoop)
  | left (circuits : CircuitBreakerRegistry)
      (outcome : shared.circuits.canExecute task.currentProvider shared.now = (true, circuits))
      (leaves : after.1 =
        Shared.leave { shared with circuits := circuits } (task.ticketed circuits) false)
      (outside : ¬ after.2.InLoop)
      (uncalled : executor.retryPolicy.maxRetries < 0 ∨
        executor.engine.registry.isRegistered task.currentProvider = false)
  | calling (circuits : CircuitBreakerRegistry)
      (outcome : shared.circuits.canExecute task.currentProvider shared.now = (true, circuits))
      (known : executor.engine.registry.isRegistered task.currentProvider = true)
      (calls : after =
        ({ shared with circuits := circuits }, { task.ticketed circuits with control := .calling 0 }))

theorem entered_enterProvider (shared : Shared) (task : Task) :
    Entered executor shared task (enterProvider executor shared task) := by
  by_cases beyond : executor.maxFailoverAttempts < (task.failoverAttempts : ℤ) ∨
      task.deadlineTimestamp ≤ shared.now
  · obtain ⟨kept, outside⟩ := enterProvider_over executor shared task beyond
    exact .beyond kept outside
  obtain ⟨inRange, early⟩ := not_or.mp beyond
  rcases outcome : shared.circuits.canExecute task.currentProvider shared.now with
    ⟨allowed, circuits⟩
  cases allowed with
  | false =>
      obtain ⟨asked, outside⟩ :=
        enterProvider_refused executor shared task circuits inRange early outcome
      exact .refused circuits outcome asked outside
  | true =>
      by_cases noRetries : executor.retryPolicy.maxRetries < 0
      · rw [enterProvider_emptyLoop executor shared task circuits inRange early noRetries outcome]
        obtain ⟨leaves, outside⟩ := failoverTrigger_leaves executor
          { shared with circuits := circuits } (task.ticketed circuits) false
        exact .left circuits outcome leaves outside (Or.inl noRetries)
      · rw [enterProvider_admitted executor shared task circuits inRange early
          (not_lt.mp noRetries) outcome]
        cases known : executor.engine.registry.isRegistered task.currentProvider with
        | true =>
            exact .calling circuits outcome known
              (callProvider_registered executor _ (task.ticketed circuits) 0 known)
        | false =>
            obtain ⟨leaves, outside⟩ := callProvider_unregistered executor
              { shared with circuits := circuits } (task.ticketed circuits) 0 known
            exact .left circuits outcome leaves outside (Or.inr known)

/-- The rule for entering a provider: its breaker is asked, if it is not too late,
and the provider may be left before any call. -/
theorem enterProvider_rule (holds : Shared → Prop) (shared : Shared) (task : Task)
    (start : holds shared)
    (asked : holds { shared with
      circuits := (shared.circuits.canExecute task.currentProvider shared.now).2 })
    (leaves : ∀ circuits, holds { shared with circuits := circuits } →
      holds (Shared.leave { shared with circuits := circuits } (task.ticketed circuits) false)) :
    holds (enterProvider executor shared task).1 := by
  cases entered_enterProvider executor shared task with
  | beyond kept outside =>
      rw [kept]
      exact start
  | refused circuits outcome refuses outside =>
      rw [outcome] at asked
      rw [refuses]
      exact asked
  | left circuits outcome leaving outside uncalled =>
      rw [outcome] at asked
      rw [leaving]
      exact leaves circuits asked
  | calling circuits outcome known calls =>
      rw [outcome] at asked
      rw [calls]
      exact asked

theorem selectFallback_circuits (circuits : CircuitBreakerRegistry)
    (request : ChatCompletionRequest) (attemptedProviders : List String)
    (found : List RoutingCandidate) (now : ℚ) :
    (selectFallback executor.engine circuits request attemptedProviders found now).2 =
      (filterAvailable now circuits (eligible attemptedProviders found)).2 := rfl

theorem attemptSucceeded_breakers (shared : Shared) (task : Task)
    (response : ChatCompletionResponse) :
    (attemptSucceeded shared task response).1.circuits.breakerAt =
      (shared.circuits.setBreaker task.currentProvider
        (((shared.circuits.getBreaker task.currentProvider).recordSuccess shared.now).resolveState
          shared.now)).breakerAt := by
  have stored : (shared.circuits.setBreaker task.currentProvider
      ((shared.circuits.getBreaker task.currentProvider).recordSuccess shared.now)).getBreaker
        task.currentProvider =
      (shared.circuits.getBreaker task.currentProvider).recordSuccess shared.now :=
    setBreaker_self _ _ _
  funext breakerKey
  simp only [attemptSucceeded, getState, CircuitBreakerRegistry.recordSuccess]
  rw [stored]
  by_cases own : breakerKey = key task.currentProvider
  · rw [own, setBreaker_self, setBreaker_self]
  · rw [setBreaker_other _ _ _ _ own, setBreaker_other _ _ _ _ own,
      setBreaker_other _ _ _ _ own]

/-! ## Steps -/

/-- The ways a task can run on from its await. -/
inductive Resumed (shared : Shared) (task : Task) : Event → Shared × Task → Prop
  | woken (attemptIdx : ℕ) (wakeAt : ℚ) (control : task.control = .sleeping attemptIdx wakeAt) :
      Resumed shared task .woken (callProvider executor shared task attemptIdx)
  | responded (attemptIdx : ℕ) (response : ChatCompletionResponse)
      (control : task.control = .calling attemptIdx) :
      Resumed shared task (.responded response) (attemptSucceeded shared task response)
  | failed (attemptIdx : ℕ) (exc : Exc) (draw : ℚ) (control : task.control = .calling attemptIdx)
      (ordinary : exc.isException = true) :
      Resumed shared task (.failed exc draw)
        (attemptFailed executor shared task attemptIdx exc draw)
  | escaped (attemptIdx : ℕ) (exc : Exc) (draw : ℚ) (control : task.control = .calling attemptIdx)
      (other : exc.isException = false) :
      Resumed shared task (.failed exc draw) (shared, task.raising exc)
  | candidates (circuitErr : Option Exc) (found : List RoutingCandidate)
      (control : task.control = .selecting circuitErr) :
      Resumed shared task (.candidates found) (candidatesFound executor shared task circuitErr found)
  | cancelled : Resumed shared task .cancelled (shared, task.raising .cancelledError)

theorem resumed_of_resume (shared : Shared) (task : Task) (event : Event) (after : Shared × Task)
    (resumed : resume executor shared task event = some after) :
    Resumed executor shared task event after := by
  unfold resume at resumed
  split at resumed
  · rename_i attemptIdx wakeAt control
    simp only [Option.ite_none_right_eq_some, Option.some.injEq] at resumed
    obtain ⟨-, rfl⟩ := resumed
    exact .woken attemptIdx wakeAt control
  · rename_i attemptIdx response control
    cases resumed
    exact .responded attemptIdx response control
  · rename_i attemptIdx exc draw control
    simp only [Option.ite_none_left_eq_some] at resumed
    obtain ⟨-, resumed⟩ := resumed
    split_ifs at resumed with ordinary
    · cases resumed
      exact .failed attemptIdx exc draw control ordinary
    · cases resumed
      exact .escaped attemptIdx exc draw control (by simpa using ordinary)
  · rename_i circuitErr found control
    cases resumed
    exact .candidates circuitErr found control
  · cases resumed
    exact .cancelled
  · cases resumed
    exact .cancelled
  · cases resumed
    exact .cancelled
  · cases resumed

/-- The ways the system can go on. -/
inductive Stepped (system : System) : Action → System → Prop
  | spawn (request : ℕ) (arguments : Arguments) (free : system.tasks request = none) :
      Stepped system (.spawn request arguments)
        { system.put request (execute executor system.shared arguments) with
          requests := request :: system.requests }
  | tick (seconds : ℚ) (forward : 0 ≤ seconds) :
      Stepped system (.tick seconds)
        { system with shared := { system.shared with now := system.shared.now + seconds } }
  | event (request : ℕ) (event : Event) (task : Task) (after : Shared × Task)
      (present : system.tasks request = some task)
      (resumed : resume executor system.shared task event = some after) :
      Stepped system (.event request event) (system.put request after)

theorem stepped_of_step (system next : System) (action : Action)
    (stepped : step executor system action = some next) : Stepped executor system action next := by
  cases action with
  | spawn request arguments =>
      cases free : system.tasks request with
      | some present => simp [step, free] at stepped
      | none =>
          simp only [step, free, Option.some.injEq] at stepped
          subst stepped
          exact .spawn request arguments free
  | tick seconds =>
      simp only [step, Option.ite_none_left_eq_some, Option.some.injEq, not_lt] at stepped
      obtain ⟨forward, rfl⟩ := stepped
      exact .tick seconds forward
  | event request event =>
      cases present : system.tasks request with
      | none => simp [step, present] at stepped
      | some task =>
          simp only [step, present] at stepped
          obtain ⟨after, resumed, rfl⟩ := Option.map_eq_some_iff.mp stepped
          exact .event request event task after present resumed

/-- Candidates are awaited outside every attempt loop. -/
theorem resume_candidates (shared : Shared) (task : Task) (found : List RoutingCandidate)
    (after : Shared × Task) (resumed : resume executor shared task (.candidates found) = some after) :
    ∃ circuitErr, ¬ task.InLoop ∧ after = candidatesFound executor shared task circuitErr found := by
  cases resumed_of_resume executor shared task _ after resumed with
  | candidates circuitErr found control =>
      exact ⟨circuitErr, by simp [Task.InLoop, control], rfl⟩

/-! ## Which tasks there are -/

theorem callProvider_known (shared : Shared) (task : Task) (attemptIdx : ℕ)
    (inLoop : (callProvider executor shared task attemptIdx).2.InLoop) :
    executor.engine.registry.isRegistered
      (callProvider executor shared task attemptIdx).2.currentProvider = true := by
  cases known : executor.engine.registry.isRegistered task.currentProvider with
  | true =>
      rw [callProvider_registered executor shared task attemptIdx known]
      exact known
  | false => exact absurd inLoop (callProvider_unregistered executor shared task attemptIdx known).2

theorem enterProvider_known (shared : Shared) (task : Task)
    (inLoop : (enterProvider executor shared task).2.InLoop) :
    executor.engine.registry.isRegistered
      (enterProvider executor shared task).2.currentProvider = true := by
  cases entered_enterProvider executor shared task with
  | beyond kept outside => exact absurd inLoop outside
  | refused circuits outcome asked outside => exact absurd inLoop outside
  | left circuits outcome leaves outside uncalled => exact absurd inLoop outside
  | calling circuits outcome known calls =>
      rw [calls]
      exact known

theorem candidatesFound_known (shared : Shared) (task : Task) (circuitErr : Option Exc)
    (found : List RoutingCandidate)
    (inLoop : (candidatesFound executor shared task circuitErr found).2.InLoop) :
    executor.engine.registry.isRegistered
      (candidatesFound executor shared task circuitErr found).2.currentProvider = true := by
  simp only [candidatesFound] at inLoop ⊢
  split at inLoop
  · exact absurd inLoop (raising_outside _ _)
  · exact absurd inLoop (raiseLast_outside _)
  · exact enterProvider_known executor _ _ inLoop

theorem attemptFailed_known (shared : Shared) (task : Task) (attemptIdx : ℕ) (exc : Exc) (draw : ℚ)
    (registered : executor.engine.registry.isRegistered task.currentProvider = true)
    (inLoop : (attemptFailed executor shared task attemptIdx exc draw).2.InLoop) :
    executor.engine.registry.isRegistered
      (attemptFailed executor shared task attemptIdx exc draw).2.currentProvider = true := by
  cases transient : isTransientError exc with
  | false =>
      rw [attemptFailed_permanent executor shared task attemptIdx exc draw transient] at inLoop
      exact absurd inLoop (raising_outside _ _)
  | true =>
      by_cases last : (attemptIdx : ℤ) = executor.retryPolicy.maxRetries
      · rw [attemptFailed_last executor shared task attemptIdx exc draw transient last] at inLoop
        exact absurd inLoop (failoverTrigger_leaves executor _ _ _).2
      rw [attemptFailed_again executor shared task attemptIdx exc draw transient last] at inLoop ⊢
      by_cases cutOff : CutOff executor shared.now (task.failing exc) attemptIdx draw
      · rw [retryAttempt_cutOff executor shared _ attemptIdx draw cutOff] at inLoop
        exact absurd inLoop (raising_outside _ _)
      · obtain ⟨next, outcome, -, provider, -⟩ := retryAttempt_inTime executor shared
          (task.failing exc) attemptIdx draw registered cutOff
        rw [outcome, provider]
        exact registered

theorem resume_known (shared : Shared) (task : Task) (event : Event) (after : Shared × Task)
    (registered : task.InLoop →
      executor.engine.registry.isRegistered task.currentProvider = true)
    (resumed : resume executor shared task event = some after) (inLoop : after.2.InLoop) :
    executor.engine.registry.isRegistered after.2.currentProvider = true := by
  cases resumed_of_resume executor shared task event after resumed with
  | woken attemptIdx wakeAt control => exact callProvider_known executor _ _ _ inLoop
  | responded attemptIdx response control => exact absurd inLoop not_false
  | failed attemptIdx exc draw control =>
      exact attemptFailed_known executor shared task attemptIdx exc draw
        (registered (by simp [Task.InLoop, control])) inLoop
  | escaped attemptIdx exc draw control => exact absurd inLoop (raising_outside _ _)
  | candidates circuitErr found control => exact candidatesFound_known executor _ _ _ _ inLoop
  | cancelled => exact absurd inLoop (raising_outside _ _)

/-- A task is only ever in the loop of a registered provider. -/
def KnownProviders (system : System) : Prop :=
  ∀ request task, system.tasks request = some task → task.InLoop →
    executor.engine.registry.isRegistered task.currentProvider = true

theorem put_cases (system : System) (request : ℕ) (outcome : Shared × Task) (other : ℕ)
    (task : Task) (found : (system.put request outcome).tasks other = some task) :
    (other = request ∧ task = outcome.2) ∨
      (other ≠ request ∧ system.tasks other = some task) := by
  simp only [System.put] at found
  by_cases same : other = request
  · subst same
    rw [Function.update_self] at found
    exact Or.inl ⟨rfl, (Option.some.inj found).symm⟩
  · rw [Function.update_of_ne same] at found
    exact Or.inr ⟨same, found⟩

theorem knownProviders_step (system next : System) (action : Action)
    (known : KnownProviders executor system) (stepped : step executor system action = some next) :
    KnownProviders executor next := by
  intro other task found inLoop
  cases stepped_of_step executor system next action stepped with
  | spawn request arguments free =>
      rcases put_cases system request _ other task found with ⟨-, rfl⟩ | ⟨-, found⟩
      · exact enterProvider_known executor _ _ inLoop
      · exact known other task found inLoop
  | tick seconds forward => exact known other task found inLoop
  | event request event running after present resumed =>
      rcases put_cases system request after other task found with ⟨-, rfl⟩ | ⟨-, found⟩
      · exact resume_known executor system.shared running event after
          (known request running present) resumed inLoop
      · exact known other task found inLoop

/-- Only the listed requests have a task. -/
def System.Listed (system : System) : Prop :=
  ∀ request task, system.tasks request = some task → request ∈ system.requests

theorem listed_step (system next : System) (action : Action) (listed : system.Listed)
    (stepped : step executor system action = some next) : next.Listed := by
  intro other task found
  cases stepped_of_step executor system next action stepped with
  | spawn request arguments free =>
      rcases put_cases system request _ other task found with ⟨rfl, -⟩ | ⟨-, found⟩
      · exact List.mem_cons_self
      · exact List.mem_cons_of_mem _ (listed other task found)
  | tick seconds forward => exact listed other task found
  | event request event running after present resumed =>
      rcases put_cases system request after other task found with ⟨rfl, -⟩ | ⟨-, found⟩
      · exact listed other running present
      · exact listed other task found

theorem listed_start (now : ℚ) (failureThreshold halfOpenTrials : ℤ) (cooldownSeconds : ℚ) :
    (start now failureThreshold halfOpenTrials cooldownSeconds).Listed := by
  intro request task found
  cases found

theorem listed_of_run (now : ℚ) (failureThreshold halfOpenTrials : ℤ) (cooldownSeconds : ℚ)
    (actions : List Action) (final : System)
    (taken : run (step executor) (start now failureThreshold halfOpenTrials cooldownSeconds)
      actions = some final) :
    ∀ request task, final.tasks request = some task → request ∈ final.requests :=
  invariant_of_steps (step executor) System.Listed (fun _ _ => True)
    (fun system action next listed _ stepped =>
      listed_step executor system next action listed stepped)
    _ (listed_start now failureThreshold halfOpenTrials cooldownSeconds) actions
    (fun _ _ _ _ _ _ _ => trivial) final taken

end Stretches

/-! ## One provider -/

def helloArguments : Arguments := ⟨hello, "groq", "llama", some .manual⟩

/-- One registered provider, no retries and no failover. -/
def oneAttempt : ReliabilityExecutor :=
  { engine := ⟨⟨["groq"]⟩, .auto⟩
    retryPolicy := ⟨0, 1/4, 2, false⟩
    totalRequestTimeoutSeconds := 120
    maxFailoverAttempts := 0 }

end CortexGateway.Reliability
