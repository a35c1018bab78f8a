import CortexGateway.Reliability.Selection
import CortexGateway.Reliability.Stretches

/-! # What is done to a breaker

Every method of a breaker is an operation on it.  At one step of a request a
call that ends may report to its breaker, and after that breakers are only
asked: by `can_execute`, or for their state. -/
set_option autoImplicit false
namespace CortexGateway.Reliability
open CircuitBreakerRegistry ProviderCircuitBreaker Transition

namespace ProviderCircuitBreaker

inductive Operation
  | canExecute
  | getState
  | recordSuccess
  | recordFailure (exc : Exc)
  | trip
  | reset
  deriving DecidableEq

def perform (now : ℚ) (breaker : ProviderCircuitBreaker) : Operation → ProviderCircuitBreaker
  | .canExecute => (breaker.canExecute now).2
  | .getState => breaker.resolveState now
  | .recordSuccess => breaker.recordSuccess now
  | .recordFailure exc => breaker.recordFailure exc now
  | .trip => breaker.trip now
  | .reset => breaker.reset

def Operation.Asks : Operation → Prop
  | .canExecute => True
  | .getState => True
  | _ => False

/-- Operations at one moment, one after the other. -/
def performAll (now : ℚ) (breaker : ProviderCircuitBreaker) (operations : List Operation) :
    ProviderCircuitBreaker :=
  operations.foldl (perform now) breaker

/-- The second breaker is the first after some questions. -/
def Asked (now : ℚ) (before after : ProviderCircuitBreaker) : Prop :=
  ∃ asks : List Operation, (∀ operation ∈ asks, operation.Asks) ∧ after = performAll now before asks

theorem asked_refl (now : ℚ) (breaker : ProviderCircuitBreaker) : Asked now breaker breaker :=
  ⟨[], by simp, rfl⟩

theorem asked_once (now : ℚ) (breaker : ProviderCircuitBreaker) (operation : Operation)
    (asks : operation.Asks) : Asked now breaker (breaker.perform now operation) :=
  ⟨[operation], by simpa using asks, rfl⟩

theorem Asked.trans {now : ℚ} {first second third : ProviderCircuitBreaker}
    (early : Asked now first second) (late : Asked now second third) : Asked now first third := by
  obtain ⟨earlier, earlierAsks, rfl⟩ := early
  obtain ⟨later, laterAsks, rfl⟩ := late
  refine ⟨earlier ++ later, ?_, (List.foldl_append ..).symm⟩
  intro operation member
  rcases List.mem_append.mp member with old | new
  · exact earlierAsks operation old
  · exact laterAsks operation new

theorem Asked.keeps {now : ℚ} {before after : ProviderCircuitBreaker}
    (asked : Asked now before after) (holds : ProviderCircuitBreaker → Prop)
    (kept : ∀ breaker operation, Operation.Asks operation → holds breaker →
      holds (breaker.perform now operation))
    (start : holds before) : holds after := by
  obtain ⟨asks, onlyAsks, rfl⟩ := asked
  induction asks generalizing before with
  | nil => exact start
  | cons operation rest ih =>
      obtain ⟨first, others⟩ := List.forall_mem_cons.mp onlyAsks
      exact ih (kept before operation first start) others

end ProviderCircuitBreaker

/-- Between the two every breaker was only asked, at one moment. -/
structure OnlyAsked (before after : Shared) : Prop where
  now : after.now = before.now
  breakers : ∀ breakerKey, Asked before.now (before.circuits.breakerAt breakerKey)
    (after.circuits.breakerAt breakerKey)

theorem onlyAsked_refl (shared : Shared) : OnlyAsked shared shared :=
  ⟨rfl, fun _ => asked_refl _ _⟩

theorem onlyAsked_leave (shared : Shared) (task : Task) (recorded : Bool) :
    OnlyAsked shared (shared.leave task recorded) :=
  ⟨rfl, fun _ => asked_refl _ _⟩

theorem onlyAsked_stored (shared : Shared) (provider : String) :
    OnlyAsked shared
      { shared with
        circuits := shared.circuits.setBreaker provider (shared.circuits.getBreaker provider) } :=
  ⟨rfl, fun breakerKey => by
    rw [setBreaker_getBreaker]
    exact asked_refl _ _⟩

theorem OnlyAsked.trans {first second third : Shared} (early : OnlyAsked first second)
    (late : OnlyAsked second third) : OnlyAsked first third :=
  ⟨late.now.trans early.now,
    fun breakerKey => (early.breakers breakerKey).trans (early.now ▸ late.breakers breakerKey)⟩

theorem asked_canExecute (circuits : CircuitBreakerRegistry) (provider : String) (now : ℚ)
    (breakerKey : String) : Asked now (circuits.breakerAt breakerKey)
      ((circuits.canExecute provider now).2.breakerAt breakerKey) := by
  rw [breakerAt_canExecute]
  split_ifs
  · exact asked_once now _ .canExecute trivial
  · exact asked_refl now _

theorem asked_filterAvailable (now : ℚ) (circuits : CircuitBreakerRegistry)
    (pool : List RoutingCandidate) (breakerKey : String) :
    Asked now (circuits.breakerAt breakerKey)
      ((filterAvailable now circuits pool).2.breakerAt breakerKey) := by
  induction pool generalizing circuits with
  | nil => exact asked_refl now _
  | cons c rest ih =>
      have first := asked_canExecute circuits c.provider now breakerKey
      simp only [filterAvailable]
      exact first.trans (ih _)

section Operations
variable (executor : ReliabilityExecutor)

/-- What the end of an await reports to the breaker of the task's provider: a
success, or a failure that is counted on the last attempt. -/
def reportOf (task : Task) (event : Event) : Option Operation :=
  match task.control, event with
  | .calling _, .responded _ => some .recordSuccess
  | .calling attemptIdx, .failed exc _ =>
      if (attemptIdx : ℤ) = executor.retryPolicy.maxRetries ∧ isCircuitBreakerFailure exc = true then
        some (.recordFailure exc)
      else none
  | _, _ => none

/-- The breakers once the report is in. -/
def Shared.reported (shared : Shared) (task : Task) (event : Event) : Shared :=
  match reportOf executor task event with
  | some operation =>
      { shared with
        circuits := shared.circuits.setBreaker task.currentProvider
          ((shared.circuits.getBreaker task.currentProvider).perform shared.now operation) }
  | none => shared

theorem reported_some (shared : Shared) (task : Task) (event : Event) (operation : Operation)
    (reports : reportOf executor task event = some operation) :
    shared.reported executor task event =
      { shared with
        circuits := shared.circuits.setBreaker task.currentProvider
          ((shared.circuits.getBreaker task.currentProvider).perform shared.now operation) } := by
  simp only [Shared.reported, reports]

theorem reported_none (shared : Shared) (task : Task) (event : Event)
    (silent : reportOf executor task event = none) :
    shared.reported executor task event = shared := by
  simp only [Shared.reported, silent]

theorem enterProvider_asks (shared : Shared) (task : Task) :
    OnlyAsked shared (enterProvider executor shared task).1 :=
  enterProvider_rule executor (OnlyAsked shared) shared task (onlyAsked_refl shared)
    ⟨rfl, asked_canExecute shared.circuits task.currentProvider shared.now⟩
    fun _ asked => asked.trans (onlyAsked_leave _ _ _)

theorem candidatesFound_asks (shared : Shared) (task : Task) (circuitErr : Option Exc)
    (found : List RoutingCandidate) :
    OnlyAsked shared (candidatesFound executor shared task circuitErr found).1 := by
  have filtered : OnlyAsked shared
      { shared with
        circuits := (selectFallback executor.engine shared.circuits task.request
          task.attemptedProviders found shared.now).2 } :=
    ⟨rfl, asked_filterAvailable shared.now shared.circuits
      (eligible task.attemptedProviders found)⟩
  simp only [candidatesFound]
  split
  · exact filtered
  · exact filtered
  · exact filtered.trans (enterProvider_asks executor _ _)

theorem callProvider_asks (shared : Shared) (task : Task) (attemptIdx : ℕ) :
    OnlyAsked shared (callProvider executor shared task attemptIdx).1 := by
  unfold callProvider
  split
  · exact onlyAsked_refl shared
  · exact onlyAsked_leave _ _ _

theorem retryAttempt_asks (shared : Shared) (task : Task) (attemptIdx : ℕ) (draw : ℚ) :
    OnlyAsked shared (retryAttempt executor shared task attemptIdx draw).1 := by
  unfold retryAttempt
  dsimp only
  split_ifs
  · exact onlyAsked_leave _ _ _
  · exact onlyAsked_leave _ _ _
  · exact onlyAsked_refl shared
  · exact callProvider_asks executor _ _ _

theorem attemptFailed_asks (shared : Shared) (task : Task) (attemptIdx : ℕ) (exc : Exc) (draw : ℚ)
    (control : task.control = .calling attemptIdx) :
    OnlyAsked (shared.reported executor task (.failed exc draw))
      (attemptFailed executor shared task attemptIdx exc draw).1 := by
  cases counted : isCircuitBreakerFailure exc with
  | false =>
      rw [reported_none executor shared task _ (by simp [reportOf, control, counted])]
      cases transient : isTransientError exc with
      | false =>
          rw [attemptFailed_permanent executor shared task attemptIdx exc draw transient]
          exact onlyAsked_leave _ _ _
      | true =>
          by_cases last : (attemptIdx : ℤ) = executor.retryPolicy.maxRetries
          · rw [attemptFailed_last executor shared task attemptIdx exc draw transient last,
              (failoverTrigger_leaves executor _ _ _).1]
            simp only [CircuitBreakerRegistry.recordFailure,
              recordFailure_uncounted _ exc shared.now counted]
            exact (onlyAsked_stored shared task.currentProvider).trans (onlyAsked_leave _ _ _)
          · rw [attemptFailed_again executor shared task attemptIdx exc draw transient last]
            exact retryAttempt_asks executor _ _ _ _
  | true =>
      have transient := isTransientError_of_isCircuitBreakerFailure exc counted
      by_cases last : (attemptIdx : ℤ) = executor.retryPolicy.maxRetries
      · rw [reported_some executor shared task _ (.recordFailure exc)
          (by simp [reportOf, control, last, counted]),
          attemptFailed_last executor shared task attemptIdx exc draw transient last,
          (failoverTrigger_leaves executor _ _ _).1]
        exact onlyAsked_leave _ _ _
      · rw [reported_none executor shared task _ (by simp [reportOf, control, last]),
          attemptFailed_again executor shared task attemptIdx exc draw transient last]
        exact retryAttempt_asks executor _ _ _ _

theorem attemptSucceeded_asks (shared : Shared) (task : Task) (response : ChatCompletionResponse)
    (attemptIdx : ℕ) (control : task.control = .calling attemptIdx) :
    OnlyAsked (shared.reported executor task (.responded response))
      (attemptSucceeded shared task response).1 := by
  have heard : shared.reported executor task (.responded response) =
      { shared with
        circuits := shared.circuits.recordSuccess task.currentProvider shared.now } := by
    simp only [Shared.reported, reportOf, control, perform, CircuitBreakerRegistry.recordSuccess]
  rw [heard]
  refine ⟨by simp only [attemptSucceeded], fun breakerKey => ?_⟩
  rw [attemptSucceeded_breakers]
  simp only [CircuitBreakerRegistry.recordSuccess]
  by_cases own : breakerKey = key task.currentProvider
  · rw [own, setBreaker_self, setBreaker_self]
    exact asked_once _ _ .getState trivial
  · rw [setBreaker_other _ _ _ _ own, setBreaker_other _ _ _ _ own]
    exact asked_refl _ _

/-- A stretch reports what its event says and then only asks. -/
theorem resume_asks (shared : Shared) (task : Task) (event : Event) (after : Shared × Task)
    (resumed : resume executor shared task event = some after) :
    OnlyAsked (shared.reported executor task event) after.1 := by
  cases resumed_of_resume executor shared task event after resumed with
  | woken attemptIdx wakeAt control =>
      rw [reported_none executor shared task _ (by simp [reportOf, control])]
      exact callProvider_asks executor _ _ _
  | responded attemptIdx response control =>
      exact attemptSucceeded_asks executor shared task response attemptIdx control
  | failed attemptIdx exc draw control =>
      exact attemptFailed_asks executor shared task attemptIdx exc draw control
  | escaped attemptIdx exc draw control other =>
      have uncounted : isCircuitBreakerFailure exc = false := by
        by_contra counted
        rw [isException_of_isTransientError exc
          (isTransientError_of_isCircuitBreakerFailure exc (by simpa using counted))] at other
        cases other
      rw [reported_none executor shared task _ (by simp [reportOf, control, uncounted])]
      exact onlyAsked_refl shared
  | candidates circuitErr found control =>
      rw [reported_none executor shared task _ (by simp [reportOf, control])]
      exact candidatesFound_asks executor _ _ _ _
  | cancelled =>
      rw [reported_none executor shared task _ (by cases task.control <;> simp [reportOf, *])]
      exact onlyAsked_refl shared

/-- A report is one operation on the breaker of the task's provider. -/
theorem reported_operations (shared : Shared) (task : Task) (event : Event) (breakerKey : String) :
    ∃ operations, (shared.reported executor task event).circuits.breakerAt breakerKey =
      performAll shared.now (shared.circuits.breakerAt breakerKey) operations := by
  unfold Shared.reported
  split
  · rename_i operation reports
    by_cases own : breakerKey = key task.currentProvider
    · refine ⟨[operation], ?_⟩
      rw [own, setBreaker_self]
      rfl
    · exact ⟨[], setBreaker_other _ _ _ _ own⟩
  · exact ⟨[], rfl⟩

theorem reported_now (shared : Shared) (task : Task) (event : Event) :
    (shared.reported executor task event).now = shared.now := by
  unfold Shared.reported
  split <;> rfl

/-- A step lets time pass, or does some operations to each breaker at one moment. -/
theorem step_operations (system next : System) (action : Action)
    (stepped : step executor system action = some next) (breakerKey : String) :
    (system.shared.now ≤ next.shared.now ∧ next.shared.circuits = system.shared.circuits) ∨
      (next.shared.now = system.shared.now ∧
        ∃ operations, next.shared.circuits.breakerAt breakerKey =
          performAll system.shared.now (system.shared.circuits.breakerAt breakerKey)
            operations) := by
  cases stepped_of_step executor system next action stepped with
  | spawn request arguments free =>
      have asked : OnlyAsked system.shared (execute executor system.shared arguments).1 :=
        enterProvider_asks executor system.shared _
      obtain ⟨operations, -, same⟩ := asked.breakers breakerKey
      exact Or.inr ⟨asked.now, operations, same⟩
  | tick seconds forward => exact Or.inl ⟨le_add_of_nonneg_right forward, rfl⟩
  | event request event task after present resumed =>
      have asked := resume_asks executor system.shared task event after resumed
      obtain ⟨reports, first⟩ := reported_operations executor system.shared task event breakerKey
      obtain ⟨asks, -, second⟩ := asked.breakers breakerKey
      have moment := reported_now executor system.shared task event
      refine Or.inr ⟨asked.now.trans moment, reports ++ asks, ?_⟩
      rw [performAll, List.foldl_append]
      exact second.trans (by rw [first, moment]; rfl)

end Operations

end CortexGateway.Reliability
