import CortexGateway.Reliability.Stretches

/-! # Trial slots of a HALF_OPEN breaker

A full HALF_OPEN breaker admits nobody, and only an outcome that is recorded
ends its episode.  So it stays usable only while a request admitted in the
episode is still in its attempt loop.  A slot is lost when the last such
request leaves without a counted outcome, or when `select_fallback` takes the
last slots for candidates it does not run. -/
set_option autoImplicit false
namespace CortexGateway.Reliability
open CircuitBreakerRegistry ProviderCircuitBreaker Transition

/-- The task was admitted in the episode and is in its attempt loop. -/
def Task.HoldsTrial (task : Task) (breakerKey : String) (episode : ℕ) : Prop :=
  task.InLoop ∧ key task.currentProvider = breakerKey ∧ task.ticket = some episode

instance (task : Task) (breakerKey : String) (episode : ℕ) :
    Decidable (task.HoldsTrial breakerKey episode) :=
  inferInstanceAs (Decidable (_ ∧ _ ∧ _))

/-- Some request is still to report on the episode. -/
def System.Awaits (system : System) (breakerKey : String) (episode : ℕ) : Prop :=
  ∃ request task, system.tasks request = some task ∧ task.HoldsTrial breakerKey episode

/-- A breaker all of whose trial slots are taken waits for one of its trials. -/
def NeverStuck (system : System) : Prop :=
  ∀ breakerKey, (system.shared.circuits.breakerAt breakerKey).Full →
    system.Awaits breakerKey (system.shared.circuits.breakerAt breakerKey).episode

section Trials
variable (executor : ReliabilityExecutor)

/-- The event ends the attempt loop of the task with nothing recorded: a
cancellation, an error that is not transient, a last attempt whose error the
breaker does not count, or a deadline that cuts off the next attempt. -/
def Leaks (now : ℚ) (task : Task) : Event → Prop
  | .failed exc draw =>
      match task.control with
      | .calling attemptIdx =>
          isTransientError exc = false ∨
            ((attemptIdx : ℤ) = executor.retryPolicy.maxRetries ∧
              isCircuitBreakerFailure exc = false) ∨
            ((attemptIdx : ℤ) ≠ executor.retryPolicy.maxRetries ∧
              CutOff executor now task attemptIdx draw)
      | _ => False
  | .cancelled => task.InLoop
  | _ => False

/-- `select_fallback` does not take the last free slot of a breaker no request
reports on. -/
def SparesTrials (system : System) (task : Task) : Event → Prop
  | .candidates found =>
      ∀ c ∈ eligible task.attemptedProviders found,
        (system.shared.circuits.getBreaker c.provider).takesTrial system.shared.now = true →
        let resolved :=
          (system.shared.circuits.getBreaker c.provider).resolveState system.shared.now
        (candidatesOf (key c.provider) (eligible task.attemptedProviders found) : ℤ) <
            resolved.halfOpenTrials - resolved.halfOpenTrialCount ∨
          ∃ request ∈ system.requests, ∃ other ∈ system.tasks request,
            other.HoldsTrial (key c.provider) resolved.episode
  | _ => True

/-- A task that leaks the slot it holds of a full breaker is not the last to report on it. -/
def LeavesTrial (system : System) (request : ℕ) (task : Task) (event : Event) : Prop :=
  Leaks executor system.shared.now task event →
    let breaker := system.shared.circuits.getBreaker task.currentProvider
    breaker.Full → task.HoldsTrial (key task.currentProvider) breaker.episode →
      ∃ other ∈ system.requests, other ≠ request ∧ ∃ holder ∈ system.tasks other,
        holder.HoldsTrial (key task.currentProvider) breaker.episode

def KeepsTrials (system : System) : Action → Prop
  | .event request event => ∀ task ∈ system.tasks request,
      LeavesTrial executor system request task event ∧ SparesTrials system task event
  | _ => True

instance (now : ℚ) (task : Task) : DecidablePred (Leaks executor now task)
  | .failed exc draw =>
      match h : task.control with
      | .calling attemptIdx =>
          decidable_of_iff (isTransientError exc = false ∨
            ((attemptIdx : ℤ) = executor.retryPolicy.maxRetries ∧
              isCircuitBreakerFailure exc = false) ∨
            ((attemptIdx : ℤ) ≠ executor.retryPolicy.maxRetries ∧
              CutOff executor now task attemptIdx draw)) (by simp only [Leaks, h])
      | .sleeping .. => isFalse (by simp [Leaks, h])
      | .selecting _ => isFalse (by simp [Leaks, h])
      | .returned _ => isFalse (by simp [Leaks, h])
      | .raised _ => isFalse (by simp [Leaks, h])
  | .cancelled => decidable_of_iff task.InLoop Iff.rfl
  | .woken => isFalse id
  | .responded _ => isFalse id
  | .candidates _ => isFalse id

instance (system : System) (task : Task) : DecidablePred (SparesTrials system task)
  | .candidates found =>
      inferInstanceAs (Decidable (∀ c ∈ eligible task.attemptedProviders found,
        (system.shared.circuits.getBreaker c.provider).takesTrial system.shared.now = true →
          _ ∨ _))
  | .failed .. => isTrue trivial
  | .cancelled => isTrue trivial
  | .woken => isTrue trivial
  | .responded _ => isTrue trivial

instance (system : System) (request : ℕ) (task : Task) (event : Event) :
    Decidable (LeavesTrial executor system request task event) :=
  inferInstanceAs (Decidable (Leaks executor system.shared.now task event →
    (system.shared.circuits.getBreaker task.currentProvider).Full → _ → _))

instance (system : System) (action : Action) : Decidable (KeepsTrials executor system action) :=
  match action with
  | .event request event =>
      inferInstanceAs (Decidable (∀ task ∈ system.tasks request,
        LeavesTrial executor system request task event ∧ SparesTrials system task event))
  | .spawn .. => isTrue trivial
  | .tick _ => isTrue trivial

/-! ## The candidates of select_fallback -/

/-- The filter fills a breaker only by taking all its free slots. -/
theorem filterAvailable_full (now : ℚ) (circuits : CircuitBreakerRegistry)
    (pool : List RoutingCandidate) (breakerKey : String)
    (trials : 1 ≤ (circuits.breakerAt breakerKey).halfOpenTrials)
    (full : ((filterAvailable now circuits pool).2.breakerAt breakerKey).Full) :
    (filterAvailable now circuits pool).2.breakerAt breakerKey =
        circuits.breakerAt breakerKey ∨
      ((circuits.breakerAt breakerKey).takesTrial now = true ∧
        (circuits.breakerAt breakerKey).halfOpenTrials -
            ((circuits.breakerAt breakerKey).resolveState now).halfOpenTrialCount ≤
          candidatesOf breakerKey pool ∧
        ((filterAvailable now circuits pool).2.breakerAt breakerKey).episode =
          ((circuits.breakerAt breakerKey).resolveState now).episode) := by
  induction pool generalizing circuits with
  | nil => exact Or.inl rfl
  | cons c rest ih =>
      simp only [filterAvailable] at full ⊢
      by_cases own : key c.provider = breakerKey
      · subst own
        have counted : candidatesOf (key c.provider) (c :: rest) =
            candidatesOf (key c.provider) rest + 1 := by
          simp [candidatesOf]
        rw [counted]
        push_cast
        rcases CircuitBreakerRegistry.canExecute_cases circuits c.provider now trials with
          ⟨outcome, -⟩ | ⟨outcome, -⟩ | ⟨outcome, takes⟩
        all_goals
          rw [outcome] at full ⊢
        -- refused or closed: the breaker is as it was
        iterate 2
          have later := ih _ (by rwa [setBreaker_getBreaker]) full
          rw [setBreaker_getBreaker] at later
          rcases later with same | ⟨takes, enough, episode⟩
          · exact Or.inl same
          · exact Or.inr ⟨takes, by omega, episode⟩
        -- admitted as a trial
        have later := ih _ (by rw [setBreaker_self, afterTrial_halfOpenTrials]; exact trials) full
        refine Or.inr ⟨takes, ?_⟩
        rw [setBreaker_self, resolveState_afterTrial _ now takes] at later
        rcases later with same | ⟨-, enough, episode⟩
        · -- this slot was the last one
          simp only at full ⊢
          rw [same] at full ⊢
          have count := full.2
          simp only [afterTrial_halfOpenTrials, afterTrial_halfOpenTrialCount] at count
          push_cast at count
          exact ⟨by simp only [getBreaker] at count; omega, rfl⟩
        · simp only [afterTrial_halfOpenTrials, afterTrial_halfOpenTrialCount] at enough
          push_cast at enough
          exact ⟨by simp only [getBreaker] at enough; omega, episode⟩
      · have unchanged : ((circuits.canExecute c.provider now).2).breakerAt breakerKey =
            circuits.breakerAt breakerKey :=
          setBreaker_other _ _ _ _ (Ne.symm own)
        have counted : candidatesOf breakerKey (c :: rest) = candidatesOf breakerKey rest := by
          simp [candidatesOf, own]
        have later := ih (circuits.canExecute c.provider now).2 (by rwa [unchanged]) full
        rw [unchanged] at later
        rw [counted]
        exact later

/-! ## What a stretch of a task does to the breakers -/

/-- Every breaker has a trial, and one nobody can call never left CLOSED. -/
structure Admissible (circuits : CircuitBreakerRegistry) : Prop where
  trials : ∀ breakerKey, 1 ≤ (circuits.breakerAt breakerKey).halfOpenTrials
  unregistered : ∀ provider, executor.engine.registry.isRegistered provider = false →
    (circuits.getBreaker provider).state = .CLOSED

theorem isRegistered_congr (registry : ProviderRegistry) (first second : String)
    (same : key first = key second) :
    registry.isRegistered first = registry.isRegistered second := by
  simp only [key, strip_lower] at same
  simp only [ProviderRegistry.isRegistered, ProviderRegistry.key, same]

theorem admissible_setBreaker (circuits : CircuitBreakerRegistry) (provider : String)
    (breaker : ProviderCircuitBreaker) (frame : Admissible executor circuits)
    (trials : 1 ≤ breaker.halfOpenTrials)
    (closed : executor.engine.registry.isRegistered provider = false → breaker.state = .CLOSED) :
    Admissible executor (circuits.setBreaker provider breaker) := by
  constructor
  · intro breakerKey
    by_cases own : breakerKey = key provider
    · rw [own, setBreaker_self]
      exact trials
    · rw [setBreaker_other _ _ _ _ own]
      exact frame.trials breakerKey
  · intro other unregistered
    by_cases own : key other = key provider
    · rw [getBreaker, own, setBreaker_self]
      exact closed (by rw [← isRegistered_congr _ _ _ own, unregistered])
    · rw [getBreaker, setBreaker_other _ _ _ _ own]
      exact frame.unregistered other unregistered

theorem admissible_congr (circuits other : CircuitBreakerRegistry)
    (same : other.breakerAt = circuits.breakerAt) (frame : Admissible executor circuits) :
    Admissible executor other := by
  constructor
  · intro breakerKey
    rw [same]
    exact frame.trials breakerKey
  · intro provider unregistered
    rw [getBreaker, same]
    exact frame.unregistered provider unregistered

/-- A breaker that takes a trial was called before. -/
theorem registered_of_takesTrial (circuits : CircuitBreakerRegistry) (provider : String) (now : ℚ)
    (frame : Admissible executor circuits)
    (takes : (circuits.getBreaker provider).takesTrial now = true) :
    executor.engine.registry.isRegistered provider = true := by
  by_contra unknown
  have closed := frame.unregistered provider (by simpa using unknown)
  have halfOpen := halfOpen_of_takesTrial _ now takes
  rw [resolveState_closed _ now closed, closed] at halfOpen
  cases halfOpen

theorem admissible_canExecute (circuits : CircuitBreakerRegistry) (provider : String) (now : ℚ)
    (frame : Admissible executor circuits) :
    Admissible executor (circuits.canExecute provider now).2 := by
  have trials := frame.trials (key provider)
  rcases circuits.canExecute_kept_or_taken provider now trials with same | ⟨outcome, takes⟩
  · exact admissible_congr executor circuits _ same frame
  · rw [outcome]
    apply admissible_setBreaker executor circuits provider _ frame
    · rw [afterTrial_halfOpenTrials]
      exact trials
    · intro unregistered
      rw [registered_of_takesTrial executor circuits provider now frame takes] at unregistered
      cases unregistered

theorem admissible_filterAvailable (now : ℚ) (circuits : CircuitBreakerRegistry)
    (pool : List RoutingCandidate) (frame : Admissible executor circuits) :
    Admissible executor (filterAvailable now circuits pool).2 := by
  induction pool generalizing circuits with
  | nil => exact frame
  | cons c rest ih =>
      have first := admissible_canExecute executor circuits c.provider now frame
      simp only [filterAvailable]
      exact ih _ first

theorem ticketOf_afterTrial (circuits : CircuitBreakerRegistry) (provider : String) (now : ℚ)
    (takes : (circuits.getBreaker provider).takesTrial now = true) :
    ticketOf (circuits.setBreaker provider ((circuits.getBreaker provider).afterTrial now))
      provider = some ((circuits.getBreaker provider).afterTrial now).episode := by
  have halfOpen : ((circuits.getBreaker provider).afterTrial now).state = .HALF_OPEN :=
    halfOpen_of_takesTrial _ now takes
  have stored : (circuits.setBreaker provider
      ((circuits.getBreaker provider).afterTrial now)).getBreaker provider =
      (circuits.getBreaker provider).afterTrial now := setBreaker_self _ _ _
  simp only [ticketOf, stored, halfOpen, if_true]

/-- What a stretch of a task may do to the breakers: it leaves them admissible
and fills one only by a slot the task then holds. -/
structure EntersSafely (before : CircuitBreakerRegistry) (after : Shared × Task) : Prop where
  frame : Admissible executor after.1.circuits
  filled : ∀ breakerKey, (after.1.circuits.breakerAt breakerKey).Full →
    after.1.circuits.breakerAt breakerKey = before.breakerAt breakerKey ∨
      after.2.HoldsTrial breakerKey (after.1.circuits.breakerAt breakerKey).episode

theorem entersSafely_of_kept (before : CircuitBreakerRegistry) (after : Shared × Task)
    (frame : Admissible executor before)
    (same : after.1.circuits.breakerAt = before.breakerAt) :
    EntersSafely executor before after :=
  ⟨admissible_congr executor before _ same frame, fun _ _ => Or.inl (by rw [same])⟩

/-- Entering a provider whose circuit takes no trial changes no breaker. -/
theorem enterProvider_keeps (shared : Shared) (task : Task)
    (same : (shared.circuits.canExecute task.currentProvider shared.now).2.breakerAt =
      shared.circuits.breakerAt) :
    (enterProvider executor shared task).1.circuits.breakerAt = shared.circuits.breakerAt :=
  enterProvider_rule executor (fun after => after.circuits.breakerAt = shared.circuits.breakerAt)
    shared task rfl same fun _ kept => kept

theorem enterProvider_safe (shared : Shared) (task : Task)
    (frame : Admissible executor shared.circuits)
    (retries : 0 ≤ executor.retryPolicy.maxRetries) :
    EntersSafely executor shared.circuits (enterProvider executor shared task) := by
  have after := admissible_canExecute executor shared.circuits task.currentProvider shared.now frame
  rcases shared.circuits.canExecute_kept_or_taken task.currentProvider shared.now
      (frame.trials _) with same | ⟨taken, takes⟩
  · exact entersSafely_of_kept executor _ _ frame (enterProvider_keeps executor shared task same)
  cases entered_enterProvider executor shared task with
  | beyond kept outside => exact entersSafely_of_kept executor _ _ frame (by rw [kept])
  | refused circuits outcome asked outside =>
      rw [taken] at outcome
      cases outcome
  | left circuits outcome leaves outside uncalled =>
      -- a breaker that is HALF_OPEN guards a registered provider
      have known := registered_of_takesTrial executor shared.circuits _ _ frame takes
      rcases uncalled with noRetries | unregistered
      · exact absurd retries (not_le.mpr noRetries)
      · rw [known] at unregistered
        cases unregistered
  | calling circuits outcome known calls =>
      rw [taken] at outcome after
      cases outcome
      rw [calls]
      refine ⟨after, fun breakerKey _ => ?_⟩
      by_cases own : breakerKey = key task.currentProvider
      · refine Or.inr ⟨trivial, own.symm, ?_⟩
        rw [own, setBreaker_self]
        simp only [Task.ticketed]
        rw [ticketOf_afterTrial shared.circuits task.currentProvider shared.now takes]
      · refine Or.inl ?_
        rw [setBreaker_other _ _ _ _ own]

theorem candidatesFound_safe (shared : Shared) (task : Task) (circuitErr : Option Exc)
    (found : List RoutingCandidate) (frame : Admissible executor shared.circuits)
    (retries : 0 ≤ executor.retryPolicy.maxRetries) :
    EntersSafely executor
      (filterAvailable shared.now shared.circuits (eligible task.attemptedProviders found)).2
      (candidatesFound executor shared task circuitErr found) := by
  have filtered := admissible_filterAvailable executor shared.now shared.circuits
    (eligible task.attemptedProviders found) frame
  rw [← selectFallback_circuits executor shared.circuits task.request] at filtered ⊢
  simp only [candidatesFound]
  cases chosen : (selectFallback executor.engine shared.circuits task.request
      task.attemptedProviders found shared.now).1 with
  | none =>
      cases circuitErr <;> exact ⟨filtered, fun _ _ => Or.inl rfl⟩
  | some fallback =>
      cases circuitErr <;>
        exact enterProvider_safe executor
          { shared with
            circuits := (selectFallback executor.engine shared.circuits task.request
              task.attemptedProviders found shared.now).2 } _ filtered retries

/-- What an event other than `candidates` may do: no breaker fills, and a slot
the task held is still held or leaks. -/
structure Reports (shared : Shared) (task : Task) (event : Event) (after : Shared × Task) :
    Prop where
  frame : Admissible executor after.1.circuits
  kept : ∀ breakerKey, (after.1.circuits.breakerAt breakerKey).Full →
    after.1.circuits.breakerAt breakerKey = shared.circuits.breakerAt breakerKey ∧
      ∀ episode, task.HoldsTrial breakerKey episode →
        after.2.HoldsTrial breakerKey episode ∨ Leaks executor shared.now task event

theorem reports_of_leak (shared : Shared) (task : Task) (event : Event) (after : Shared × Task)
    (frame : Admissible executor shared.circuits)
    (same : after.1.circuits.breakerAt = shared.circuits.breakerAt)
    (leaks : task.InLoop → Leaks executor shared.now task event) :
    Reports executor shared task event after := by
  refine ⟨admissible_congr executor _ _ same frame, fun breakerKey _ => ⟨by rw [same], ?_⟩⟩
  rintro episode ⟨inLoop, -⟩
  exact Or.inr (leaks inLoop)

theorem reports_of_stay (shared : Shared) (task : Task) (event : Event) (after : Shared × Task)
    (frame : Admissible executor shared.circuits)
    (same : after.1.circuits.breakerAt = shared.circuits.breakerAt) (inLoop : after.2.InLoop)
    (provider : after.2.currentProvider = task.currentProvider)
    (ticket : after.2.ticket = task.ticket) :
    Reports executor shared task event after := by
  refine ⟨admissible_congr executor _ _ same frame, fun breakerKey _ => ⟨by rw [same], ?_⟩⟩
  rintro episode ⟨-, own, taken⟩
  exact Or.inl ⟨inLoop, provider ▸ own, ticket ▸ taken⟩

/-- A stretch that stores an outcome in the breaker of a registered provider:
afterwards that breaker is not HALF_OPEN, and every other one is as it was. -/
theorem reports_of_recorded (shared : Shared) (task : Task) (event : Event)
    (after : Shared × Task) (breaker : ProviderCircuitBreaker)
    (frame : Admissible executor shared.circuits)
    (registered : executor.engine.registry.isRegistered task.currentProvider = true)
    (stored : after.1.circuits.breakerAt =
      (shared.circuits.setBreaker task.currentProvider breaker).breakerAt)
    (trials : breaker.halfOpenTrials = (shared.circuits.getBreaker
      task.currentProvider).halfOpenTrials)
    (ended : breaker.state ≠ .HALF_OPEN) :
    Reports executor shared task event after := by
  refine ⟨?_, fun breakerKey full => ?_⟩
  · apply admissible_congr executor _ _ stored
    apply admissible_setBreaker executor _ _ _ frame
    · rw [trials]
      exact frame.trials _
    · intro unregistered
      rw [registered] at unregistered
      cases unregistered
  · by_cases own : breakerKey = key task.currentProvider
    · rw [stored, own, setBreaker_self] at full
      exact absurd full.1 ended
    · refine ⟨by rw [stored, setBreaker_other _ _ _ _ own], ?_⟩
      rintro episode ⟨-, mine, -⟩
      exact absurd mine.symm own

theorem attemptFailed_reports (shared : Shared) (task : Task) (attemptIdx : ℕ) (exc : Exc)
    (draw : ℚ) (frame : Admissible executor shared.circuits)
    (registered : executor.engine.registry.isRegistered task.currentProvider = true)
    (control : task.control = .calling attemptIdx) :
    Reports executor shared task (.failed exc draw)
      (attemptFailed executor shared task attemptIdx exc draw) := by
  cases transient : isTransientError exc with
  | false =>
      rw [attemptFailed_permanent executor shared task attemptIdx exc draw transient]
      apply reports_of_leak executor shared task _ _ frame rfl
      intro _
      simp only [Leaks, control]
      exact Or.inl transient
  | true =>
      by_cases last : (attemptIdx : ℤ) = executor.retryPolicy.maxRetries
      · rw [attemptFailed_last executor shared task attemptIdx exc draw transient last]
        have same := (failoverTrigger_leaves executor
          { shared with
            circuits := shared.circuits.recordFailure task.currentProvider exc shared.now }
          (task.failing exc) true).1
        cases counted : isCircuitBreakerFailure exc with
        | true =>
            apply reports_of_recorded executor shared task _ _
              ((shared.circuits.getBreaker task.currentProvider).recordFailure exc shared.now)
              frame registered _ (recordFailure_halfOpenTrials _ exc shared.now)
              (recordFailure_not_halfOpen _ exc shared.now counted)
            rw [same]
            rfl
        | false =>
            have unchanged := recordFailure_uncounted
              (shared.circuits.getBreaker task.currentProvider) exc shared.now counted
            apply reports_of_leak executor shared task _ _ frame
            · rw [same]
              simp only [Shared.leave, CircuitBreakerRegistry.recordFailure]
              rw [unchanged, setBreaker_getBreaker]
            · intro _
              simp only [Leaks, control]
              exact Or.inr (Or.inl ⟨last, counted⟩)
      · rw [attemptFailed_again executor shared task attemptIdx exc draw transient last]
        by_cases cutOff : CutOff executor shared.now task attemptIdx draw
        · rw [retryAttempt_cutOff executor shared (task.failing exc) attemptIdx draw cutOff]
          apply reports_of_leak executor shared task _ _ frame rfl
          intro _
          simp only [Leaks, control]
          exact Or.inr (Or.inr ⟨last, cutOff⟩)
        · obtain ⟨next, outcome, inLoop, provider, ticket⟩ := retryAttempt_inTime executor shared
            (task.failing exc) attemptIdx draw registered cutOff
          rw [outcome]
          exact reports_of_stay executor shared task _ _ frame rfl inLoop provider ticket

theorem attemptSucceeded_reports (shared : Shared) (task : Task)
    (response : ChatCompletionResponse) (frame : Admissible executor shared.circuits)
    (registered : executor.engine.registry.isRegistered task.currentProvider = true) :
    Reports executor shared task (.responded response) (attemptSucceeded shared task response) := by
  apply reports_of_recorded executor shared task _ _
    (((shared.circuits.getBreaker task.currentProvider).recordSuccess shared.now).resolveState
      shared.now) frame registered
  · exact attemptSucceeded_breakers shared task response
  · rw [resolveState_halfOpenTrials, recordSuccess_halfOpenTrials]
  · exact resolveState_recordSuccess _ shared.now

theorem resume_reports (shared : Shared) (task : Task) (event : Event) (after : Shared × Task)
    (frame : Admissible executor shared.circuits)
    (registered : task.InLoop →
      executor.engine.registry.isRegistered task.currentProvider = true)
    (other : ∀ found, event ≠ .candidates found)
    (resumed : resume executor shared task event = some after) :
    Reports executor shared task event after := by
  cases resumed_of_resume executor shared task event after resumed with
  | woken attemptIdx wakeAt control =>
      rw [callProvider_registered executor shared task attemptIdx
        (registered (by simp [Task.InLoop, control]))]
      exact reports_of_stay executor shared task _ _ frame rfl trivial rfl rfl
  | responded attemptIdx response control =>
      exact attemptSucceeded_reports executor shared task _ frame
        (registered (by simp [Task.InLoop, control]))
  | failed attemptIdx exc draw control =>
      exact attemptFailed_reports executor shared task attemptIdx exc draw frame
        (registered (by simp [Task.InLoop, control])) control
  | escaped attemptIdx exc draw control base =>
      apply reports_of_leak executor shared task _ _ frame rfl
      intro _
      simp only [Leaks, control]
      refine Or.inl ?_
      by_contra transient
      rw [isException_of_isTransientError exc (by simpa using transient)] at base
      cases base
  | candidates circuitErr found control => exact absurd rfl (other _)
  -- a cancellation leaks what the task holds, and it holds nothing while it selects
  | cancelled => exact reports_of_leak executor shared task _ _ frame rfl fun inLoop => inLoop

/-! ## Every run -/

/-- The invariant of the system. -/
structure Orderly (system : System) : Prop where
  frame : Admissible executor system.shared.circuits
  known : KnownProviders executor system
  neverStuck : NeverStuck system

theorem awaits_of_other (system : System) (request : ℕ) (outcome : Shared × Task)
    (breakerKey : String) (episode : ℕ) (other : ℕ) (different : other ≠ request) (holder : Task)
    (found : system.tasks other = some holder) (holds : holder.HoldsTrial breakerKey episode) :
    (system.put request outcome).Awaits breakerKey episode := by
  refine ⟨other, holder, ?_, holds⟩
  simp only [System.put]
  rw [Function.update_of_ne different, found]

theorem awaits_of_own (system : System) (request : ℕ) (outcome : Shared × Task)
    (breakerKey : String) (episode : ℕ) (holds : outcome.2.HoldsTrial breakerKey episode) :
    (system.put request outcome).Awaits breakerKey episode :=
  ⟨request, outcome.2, Function.update_self .., holds⟩

theorem orderly_spawn (system : System) (request : ℕ) (arguments : Arguments)
    (orderly : Orderly executor system) (retries : 0 ≤ executor.retryPolicy.maxRetries)
    (free : system.tasks request = none)
    (known : KnownProviders executor
      { system.put request (execute executor system.shared arguments) with
        requests := request :: system.requests }) :
    Orderly executor
      { system.put request (execute executor system.shared arguments) with
        requests := request :: system.requests } := by
  have safe : EntersSafely executor system.shared.circuits
      (execute executor system.shared arguments) :=
    enterProvider_safe executor system.shared _ orderly.frame retries
  refine ⟨safe.frame, known, fun breakerKey full => ?_⟩
  rcases safe.filled breakerKey full with same | holds
  · have before := orderly.neverStuck breakerKey (same ▸ full)
    obtain ⟨other, holder, found, holds⟩ := before
    have different : other ≠ request := by
      rintro rfl
      rw [free] at found
      cases found
    exact awaits_of_other system request _ breakerKey _ other different holder found (same ▸ holds)
  · exact awaits_of_own system request _ breakerKey _ holds

theorem orderly_reports (system : System) (request : ℕ) (task : Task) (event : Event)
    (after : Shared × Task) (orderly : Orderly executor system)
    (present : system.tasks request = some task)
    (known : KnownProviders executor (system.put request after))
    (leaves : LeavesTrial executor system request task event)
    (reports : Reports executor system.shared task event after) :
    Orderly executor (system.put request after) := by
  refine ⟨reports.frame, known, fun breakerKey full => ?_⟩
  obtain ⟨same, kept⟩ := reports.kept breakerKey full
  change (system.put request after).Awaits breakerKey (after.1.circuits.breakerAt breakerKey).episode
  rw [same]
  have fullBefore : (system.shared.circuits.breakerAt breakerKey).Full := same ▸ full
  obtain ⟨other, holder, found, holds⟩ := orderly.neverStuck breakerKey fullBefore
  by_cases own : other = request
  · subst own
    obtain rfl : task = holder := Option.some.inj (present.symm.trans found)
    rcases kept _ holds with stays | leaks
    · exact awaits_of_own system other after breakerKey _ stays
    · obtain rfl : key task.currentProvider = breakerKey := holds.2.1
      obtain ⟨another, -, different, heir, heirFound, heirHolds⟩ := leaves leaks fullBefore holds
      exact awaits_of_other system other after _ _ another different heir heirFound heirHolds
  · exact awaits_of_other system request after breakerKey _ other own holder found holds

theorem orderly_candidates (system : System) (request : ℕ) (task : Task)
    (found : List RoutingCandidate) (circuitErr : Option Exc) (orderly : Orderly executor system)
    (retries : 0 ≤ executor.retryPolicy.maxRetries)
    (present : system.tasks request = some task) (outside : ¬ task.InLoop)
    (known : KnownProviders executor
      (system.put request (candidatesFound executor system.shared task circuitErr found)))
    (spares : SparesTrials system task (.candidates found)) :
    Orderly executor
      (system.put request (candidatesFound executor system.shared task circuitErr found)) := by
  have safe := candidatesFound_safe executor system.shared task circuitErr found orderly.frame
    retries
  refine ⟨safe.frame, known, fun breakerKey full => ?_⟩
  have others : ∀ episode, system.Awaits breakerKey episode → (system.put request
      (candidatesFound executor system.shared task circuitErr found)).Awaits breakerKey episode := by
    rintro episode ⟨other, holder, located, holds⟩
    have different : other ≠ request := by
      rintro rfl
      obtain rfl : task = holder := Option.some.inj (present.symm.trans located)
      exact outside holds.1
    exact awaits_of_other system request _ breakerKey episode other different holder located holds
  rcases safe.filled breakerKey full with same | holds
  · change System.Awaits _ breakerKey ((candidatesFound executor system.shared task circuitErr
      found).1.circuits.breakerAt breakerKey).episode
    have filled : ((filterAvailable system.shared.now system.shared.circuits
        (eligible task.attemptedProviders found)).2.breakerAt breakerKey).Full := same ▸ full
    rw [same]
    rcases filterAvailable_full system.shared.now system.shared.circuits _ breakerKey
      (orderly.frame.trials breakerKey) filled with unchanged | ⟨takes, enough, episode⟩
    · rw [unchanged] at filled ⊢
      exact others _ (orderly.neverStuck breakerKey filled)
    · rw [episode]
      -- the free slots were taken for candidates of this breaker
      have room : 0 < candidatesOf breakerKey (eligible task.attemptedProviders found) := by
        simp only [takesTrial, Bool.and_eq_true, decide_eq_true_eq,
          resolveState_halfOpenTrials] at takes
        omega
      obtain ⟨c, inPool, mine⟩ := List.countP_pos_iff.mp room
      obtain rfl : key c.provider = breakerKey := by simpa using mine
      rcases spares c inPool takes with few | ⟨other, -, holder, located, holds⟩
      · simp only [getBreaker, resolveState_halfOpenTrials] at few
        omega
      · exact others _ ⟨other, holder, located, holds⟩
  · exact awaits_of_own system request _ breakerKey _ holds

theorem orderly_step (system next : System) (action : Action) (orderly : Orderly executor system)
    (retries : 0 ≤ executor.retryPolicy.maxRetries) (keeps : KeepsTrials executor system action)
    (stepped : step executor system action = some next) : Orderly executor next := by
  have known := knownProviders_step executor system next action orderly.known stepped
  cases stepped_of_step executor system next action stepped with
  | spawn request arguments free =>
      exact orderly_spawn executor system request arguments orderly retries free known
  | tick seconds forward => exact ⟨orderly.frame, known, orderly.neverStuck⟩
  | event request event task after present resumed =>
      obtain ⟨leaves, spares⟩ := keeps task present
      by_cases candidates : ∃ found, event = .candidates found
      · obtain ⟨found, rfl⟩ := candidates
        obtain ⟨circuitErr, outside, rfl⟩ := resume_candidates executor _ task found after resumed
        exact orderly_candidates executor system request task found circuitErr orderly retries
          present outside known spares
      · have reports := resume_reports executor system.shared task event after orderly.frame
          (orderly.known request task present) (fun found same => candidates ⟨found, same⟩) resumed
        exact orderly_reports executor system request task event after orderly present known leaves
          reports

theorem orderly_start (now : ℚ) (failureThreshold halfOpenTrials : ℤ) (cooldownSeconds : ℚ)
    (trials : 1 ≤ halfOpenTrials) :
    Orderly executor (start now failureThreshold halfOpenTrials cooldownSeconds) := by
  refine ⟨⟨fun _ => trials, fun _ _ => rfl⟩, ?_, ?_⟩
  · intro request task found
    cases found
  · rintro breakerKey ⟨halfOpen, -⟩
    cases halfOpen

/-- In a run that keeps its trial slots no breaker is ever stuck in HALF_OPEN. -/
theorem neverStuck_throughout (retries : 0 ≤ executor.retryPolicy.maxRetries) (now : ℚ)
    (failureThreshold halfOpenTrials : ℤ) (cooldownSeconds : ℚ) (trials : 1 ≤ halfOpenTrials)
    (actions : List Action)
    (keeps : StepsMeet (step executor) (KeepsTrials executor)
      (start now failureThreshold halfOpenTrials cooldownSeconds) actions) :
    HoldsThroughout (step executor) NeverStuck
      (start now failureThreshold halfOpenTrials cooldownSeconds) actions := by
  have throughout := holdsThroughout_of_steps (step executor) (Orderly executor)
    (KeepsTrials executor)
    (fun system action next orderly keeps stepped =>
      orderly_step executor system next action orderly retries keeps stepped)
    _ (orderly_start executor now failureThreshold halfOpenTrials cooldownSeconds trials) actions
    keeps
  exact throughout.imp _ fun system orderly => orderly.neverStuck

end Trials

/-- A timeout opens the breaker; after the cooldown the trial request meets an
`InvalidModelError` and nobody is left to report. -/
def lostTrial : List Action :=
  [.spawn 0 helloArguments, .event 0 (.failed .httpxTimeoutException 0), .tick 30,
    .spawn 1 helloArguments, .event 1 (.failed (.provider .invalidModelError "no such model") 0)]

/-- Full, and no listed request holds a trial of the episode. -/
def stuckAt (system : System) (breakerKey : String) : Bool :=
  let breaker := system.shared.circuits.breakerAt breakerKey
  breaker.Full ∧ ∀ request ∈ system.requests, ∀ task ∈ system.tasks request,
    ¬ task.HoldsTrial breakerKey breaker.episode

theorem lostTrial_sticks :
    ¬ HoldsThroughout (step oneAttempt) NeverStuck (start 0 1 1 30) lostTrial ∧
      ((run (step oneAttempt) (start 0 1 1 30) (lostTrial ++ [.tick 1000000])).map fun final =>
        (final.shared.circuits.canExecute "groq" final.shared.now).1) = some false := by
  have reached : (run (step oneAttempt) (start 0 1 1 30) lostTrial).map (stuckAt · "groq") =
      some true := by decide +kernel
  refine ⟨fun throughout => ?_, by decide +kernel⟩
  obtain ⟨final, taken, stuck⟩ := Option.map_eq_some_iff.mp reached
  obtain ⟨full, nobody⟩ := of_decide_eq_true stuck
  obtain ⟨request, task, found, holds⟩ :=
    throughout lostTrial (List.prefix_refl _) final taken "groq" full
  exact nobody request (listed_of_run oneAttempt 0 1 1 30 lostTrial final taken request task found)
    task found holds

/-- The same run with a response to the trial. -/
theorem neverStuck_answeredTrial :
    HoldsThroughout (step oneAttempt) NeverStuck (start 0 1 1 30)
      [.spawn 0 helloArguments, .event 0 (.failed .httpxTimeoutException 0), .tick 30,
        .spawn 1 helloArguments, .event 1 (.responded helloBack)] :=
  neverStuck_throughout oneAttempt (by decide) 0 1 1 30 (by decide) _ (by decide +kernel)

end CortexGateway.Reliability
