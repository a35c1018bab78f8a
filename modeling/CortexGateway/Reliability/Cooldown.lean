import CortexGateway.Reliability.Operations

/-! # The cooldown of a tripped breaker

A breaker that opens at `t` is due for its first trial at `t + cooldown`.  But
every counted failure moves `_last_failure_time`, also one of a call that was
under way when the circuit opened, and a late success closes the circuit once
the cooldown is over.  `trips` lists the trips whose first trial is still to
come and is read by no operation. -/
set_option autoImplicit false
namespace CortexGateway.Reliability
open CircuitBreakerRegistry ProviderCircuitBreaker Transition

namespace ProviderCircuitBreaker
variable (breaker : ProviderCircuitBreaker) (now : ℚ)

/-- From now on the breaker refuses until `due`, and after that takes the next
request for a trial. -/
def FirstTrialAt (due : ℚ) : Prop :=
  ∀ later, now ≤ later →
    (later < due → (breaker.canExecute later).1 = false) ∧
      (due ≤ later → breaker.takesTrial later = true)

/-- The failure opens the circuit. -/
def TrippedBy (exc : Exc) : Prop :=
  isCircuitBreakerFailure exc = true ∧ (breaker.resolveState now).state ≠ .OPEN ∧
    (breaker.recordFailure exc now).state = .OPEN

instance (exc : Exc) : Decidable (breaker.TrippedBy now exc) :=
  inferInstanceAs (Decidable (_ ∧ _ ∧ _))

/-! ## Breakers that wait for a trial -/

theorem resolveState_later (later : ℚ) (forward : now ≤ later) :
    (breaker.resolveState now).resolveState later = breaker.resolveState later := by
  cases shown : breaker.state with
  | CLOSED => rw [resolveState_closed breaker now shown]
  | HALF_OPEN => rw [resolveState_halfOpen breaker now shown]
  | OPEN =>
      cases last : breaker.lastFailureTime with
      | none => simp [resolveState, shown, last]
      | some failed =>
          by_cases cooled : breaker.cooldownSeconds ≤ now - failed
          · have still : breaker.cooldownSeconds ≤ later - failed := by linarith
            simp [resolveState, shown, last, cooled, still]
          · simp [resolveState, shown, last, cooled]

theorem firstTrialAt_resolveState (due : ℚ) :
    (breaker.resolveState now).FirstTrialAt now due ↔ breaker.FirstTrialAt now due := by
  refine forall₂_congr fun later forward => ?_
  simp only [ProviderCircuitBreaker.canExecute, takesTrial,
    resolveState_later breaker now later forward]

theorem FirstTrialAt.later {breaker : ProviderCircuitBreaker} {now due : ℚ}
    (waits : breaker.FirstTrialAt now due) (later : ℚ) (forward : now ≤ later) :
    breaker.FirstTrialAt later due := fun last further => waits last (forward.trans further)

theorem open_takesTrial (trials : 1 ≤ breaker.halfOpenTrials) (opened : breaker.state = .OPEN)
    (failed : ℚ) (last : breaker.lastFailureTime = some failed) :
    breaker.takesTrial now = true ↔ failed + breaker.cooldownSeconds ≤ now := by
  have same : breaker.cooldownSeconds ≤ now - failed ↔ failed + breaker.cooldownSeconds ≤ now := by
    constructor <;> intro le <;> linarith
  by_cases cooled : breaker.cooldownSeconds ≤ now - failed
  · simp [takesTrial, resolveState, opened, last, cooled, ← same]
    omega
  · simp [takesTrial, resolveState, opened, last, cooled, ← same]

theorem open_canExecute (trials : 1 ≤ breaker.halfOpenTrials) (opened : breaker.state = .OPEN)
    (failed : ℚ) (last : breaker.lastFailureTime = some failed) :
    (breaker.canExecute now).1 = true ↔ failed + breaker.cooldownSeconds ≤ now := by
  rw [← open_takesTrial breaker now trials opened failed last]
  rcases canExecute_cases breaker now trials with
    ⟨outcome, -, refused⟩ | ⟨-, closed⟩ | ⟨takes, outcome⟩
  · simp [outcome, refused]
  · rw [opened] at closed
    cases closed
  · simp [outcome, takes]

theorem FirstTrialAt.takes {breaker : ProviderCircuitBreaker} {now due : ℚ}
    (waits : breaker.FirstTrialAt now due) : breaker.takesTrial (max now due) = true :=
  (waits _ (le_max_left now due)).2 (le_max_right now due)

theorem firstTrialAt_halfOpen_iff (halfOpen : breaker.state = .HALF_OPEN) (due : ℚ) :
    breaker.FirstTrialAt now due ↔
      (breaker.halfOpenTrialCount : ℤ) < breaker.halfOpenTrials ∧ due ≤ now := by
  have takes : ∀ later, breaker.takesTrial later = true ↔
      (breaker.halfOpenTrialCount : ℤ) < breaker.halfOpenTrials := by
    intro later
    simp [takesTrial, resolveState_halfOpen breaker later halfOpen, halfOpen]
  constructor
  · intro waits
    have room := (takes _).mp waits.takes
    refine ⟨room, ?_⟩
    by_contra early
    have refused := (waits now le_rfl).1 (not_le.mp early)
    simp [ProviderCircuitBreaker.canExecute, resolveState_halfOpen breaker now halfOpen, halfOpen,
      room] at refused
  · rintro ⟨room, past⟩ later forward
    refine ⟨fun early => ?_, fun _ => (takes _).mpr room⟩
    exact absurd (past.trans forward) (not_le.mpr early)

theorem firstTrialAt_open_iff (trials : 1 ≤ breaker.halfOpenTrials) (opened : breaker.state = .OPEN)
    (failed : ℚ) (last : breaker.lastFailureTime = some failed) (due : ℚ) :
    breaker.FirstTrialAt now due ↔
      max now (failed + breaker.cooldownSeconds) = max now due := by
  have admits := fun later => open_canExecute breaker later trials opened failed last
  have takes := fun later => open_takesTrial breaker later trials opened failed last
  constructor
  · intro waits
    apply le_antisymm
    · exact max_le (le_max_left _ _) ((takes _).mp waits.takes)
    · refine max_le (le_max_left _ _) ?_
      by_contra early
      have refused := (waits _ (le_max_left _ _)).1 (not_le.mp early)
      rw [(admits _).mpr (le_max_right _ _)] at refused
      cases refused
  · intro same later forward
    have both : max now (failed + breaker.cooldownSeconds) ≤ later ↔ max now due ≤ later := by
      rw [same]
    have reached : failed + breaker.cooldownSeconds ≤ later ↔ due ≤ later := by
      simpa [forward] using both
    refine ⟨fun early => ?_, fun past => (takes later).mpr (reached.mpr past)⟩
    by_contra admitted
    exact not_le.mpr early (reached.mp ((admits later).mp (by simpa using admitted)))

/-- The breakers that wait: open with the cooldown running to the due time, or
HALF_OPEN with a trial left once it has passed. -/
theorem firstTrialAt_iff (trials : 1 ≤ breaker.halfOpenTrials) (due : ℚ) :
    breaker.FirstTrialAt now due ↔
      (breaker.state = .OPEN ∧ ∃ failed, breaker.lastFailureTime = some failed ∧
          max now (failed + breaker.cooldownSeconds) = max now due) ∨
        (breaker.state = .HALF_OPEN ∧
          (breaker.halfOpenTrialCount : ℤ) < breaker.halfOpenTrials ∧ due ≤ now) := by
  cases shown : breaker.state with
  | CLOSED =>
      have never : ¬ breaker.FirstTrialAt now due := by
        intro waits
        have takes := waits.takes
        simp [takesTrial, resolveState_closed breaker _ shown, shown] at takes
      simp [never]
  | HALF_OPEN =>
      rw [firstTrialAt_halfOpen_iff breaker now shown due]
      simp
  | OPEN =>
      cases last : breaker.lastFailureTime with
      | none =>
          have never : ¬ breaker.FirstTrialAt now due := by
            intro waits
            have takes := waits.takes
            simp [takesTrial, resolveState, last, shown] at takes
          simp [never]
      | some failed =>
          rw [firstTrialAt_open_iff breaker now trials shown failed last due]
          simp

/-! ## What an operation does to a breaker that waits -/

section Waiting
variable (trials : 1 ≤ breaker.halfOpenTrials)

include trials in
/-- A question before the due time changes nothing. -/
theorem FirstTrialAt.refuses {due : ℚ} (waits : breaker.FirstTrialAt now due) (early : now < due) :
    (breaker.canExecute now).2 = breaker ∧ breaker.takesTrial now = false := by
  have refused := (waits now le_rfl).1 early
  rcases canExecute_cases breaker now trials with
    ⟨outcome, -, none⟩ | ⟨outcome, -⟩ | ⟨-, outcome⟩
  · exact ⟨by rw [outcome], none⟩
  · rw [outcome] at refused
    cases refused
  · rw [outcome] at refused
    cases refused

include trials in
/-- Before the due time a success is ignored, and after it it closes the circuit. -/
theorem FirstTrialAt.recordSuccess_iff {due : ℚ} (waits : breaker.FirstTrialAt now due) :
    (breaker.recordSuccess now).FirstTrialAt now due ↔ now < due := by
  rcases lt_or_ge now due with early | past
  · refine iff_of_true ?_ early
    have none := (waits.refuses breaker now trials early).2
    rcases (firstTrialAt_iff breaker now trials due).mp waits with
      ⟨opened, -⟩ | ⟨-, -, past⟩
    · have same : breaker.resolveState now = breaker := by
        rcases resolveState_cases breaker now with same | ⟨-, started⟩
        · exact same
        · simp only [takesTrial, started, decide_true, Bool.true_and, decide_eq_false_iff_not] at none
          omega
      have ignored : breaker.recordSuccess now = breaker := by
        simp only [ProviderCircuitBreaker.recordSuccess, same, opened]
      rw [ignored]
      exact waits
    · exact absurd early (not_lt.mpr past)
  · refine iff_of_false ?_ (not_lt.mpr past)
    have halfOpen := halfOpen_of_takesTrial breaker now ((waits now le_rfl).2 past)
    have closed : (breaker.recordSuccess now).state = .CLOSED := by
      simp [ProviderCircuitBreaker.recordSuccess, halfOpen]
    intro still
    rcases (firstTrialAt_iff _ now (by simpa using trials) due).mp still with
      ⟨opened, -⟩ | ⟨again, -⟩
    · rw [closed] at opened
      cases opened
    · rw [closed] at again
      cases again

/-- A breaker that is open since `failed`, whatever happened before. -/
theorem firstTrialAt_of_open (trials : 1 ≤ breaker.halfOpenTrials) (opened : breaker.state = .OPEN)
    (last : breaker.lastFailureTime = some now) (due : ℚ) :
    breaker.FirstTrialAt now due ↔ max now (now + breaker.cooldownSeconds) = max now due := by
  simp [firstTrialAt_iff breaker now trials due, opened, last]

include trials in
/-- A counted failure later than the trip moves a cooldown there is. -/
theorem FirstTrialAt.recordFailure_iff {tripped : ℚ}
    (waits : breaker.FirstTrialAt now (tripped + breaker.cooldownSeconds)) (exc : Exc)
    (counted : isCircuitBreakerFailure exc = true) (past : tripped ≤ now) :
    (breaker.recordFailure exc now).FirstTrialAt now (tripped + breaker.cooldownSeconds) ↔
      (0 < breaker.cooldownSeconds → now ≤ tripped) := by
  have reopened : (breaker.recordFailure exc now).state = .OPEN ∧
      (breaker.recordFailure exc now).cooldownSeconds = breaker.cooldownSeconds := by
    rcases (firstTrialAt_iff breaker now trials _).mp waits with ⟨opened, -⟩ | ⟨halfOpen, -⟩
    · rcases le_or_gt breaker.cooldownSeconds 0 with instant | cooldown
      · rw [recordFailure_instant breaker exc now counted opened instant]
        exact ⟨opened, rfl⟩
      · rw [recordFailure_open breaker exc now counted opened cooldown]
        exact ⟨opened, rfl⟩
    · rw [recordFailure_halfOpen breaker exc now counted halfOpen]
      exact ⟨rfl, rfl⟩
  rw [firstTrialAt_of_open _ now (by simpa using trials) reopened.1
    (recordFailure_lastFailureTime breaker exc now counted), reopened.2]
  rcases le_or_gt breaker.cooldownSeconds 0 with instant | cooldown
  · rw [max_eq_left (by linarith), max_eq_left (by linarith)]
    exact iff_of_true rfl fun positive => absurd positive (not_lt.mpr instant)
  · rw [max_eq_right (by linarith)]
    constructor
    · intro same _
      by_contra moved
      have earlier : max now (tripped + breaker.cooldownSeconds) < now + breaker.cooldownSeconds :=
        max_lt (by linarith) (by linarith)
      exact absurd same (ne_of_gt earlier)
    · intro still
      rw [le_antisymm past (still cooldown), max_eq_right (by linarith)]

end Waiting

end ProviderCircuitBreaker

/-! ## A breaker and its trips -/

structure Watched where
  now : ℚ
  breaker : ProviderCircuitBreaker
  trips : List ℚ

inductive Moment
  | elapse (seconds : ℚ)
  | perform (operation : Operation)

/-- A trip is settled by the first `can_execute` at its due time or after it,
by `reset`, and by a `trip` of its own. -/
def tripsAfter (state : Watched) : Operation → List ℚ
  | .canExecute =>
      state.trips.filter fun tripped => state.now < tripped + state.breaker.cooldownSeconds
  | .recordFailure exc =>
      if state.breaker.TrippedBy state.now exc then state.now :: state.trips else state.trips
  | .trip => [state.now]
  | .reset => []
  | .getState => state.trips
  | .recordSuccess => state.trips

def watch (state : Watched) : Moment → Option Watched
  | .elapse seconds =>
      if seconds < 0 then none else some { state with now := state.now + seconds }
  | .perform operation => some
      { state with
        breaker := state.breaker.perform state.now operation
        trips := tripsAfter state operation }

/-- The cooldown is measured from each trip that is not settled yet. -/
def MeasuredFromTrip (state : Watched) : Prop :=
  ∀ tripped ∈ state.trips,
    state.breaker.FirstTrialAt state.now (tripped + state.breaker.cooldownSeconds)

/-- Nothing is recorded that moves or ends the cooldown: no counted failure
later than the trip, and no success once the cooldown is over. -/
def Undisturbed (state : Watched) : Moment → Prop
  | .perform (.recordFailure exc) => isCircuitBreakerFailure exc = true →
      ∀ tripped ∈ state.trips, 0 < state.breaker.cooldownSeconds → state.now ≤ tripped
  | .perform .recordSuccess =>
      ∀ tripped ∈ state.trips, state.now < tripped + state.breaker.cooldownSeconds
  | _ => True

instance (state : Watched) (moment : Moment) : Decidable (Undisturbed state moment) :=
  match moment with
  | .perform (.recordFailure exc) =>
      inferInstanceAs (Decidable (isCircuitBreakerFailure exc = true →
        ∀ tripped ∈ state.trips, 0 < state.breaker.cooldownSeconds → state.now ≤ tripped))
  | .perform .recordSuccess =>
      inferInstanceAs (Decidable (∀ tripped ∈ state.trips,
        state.now < tripped + state.breaker.cooldownSeconds))
  | .perform .canExecute => isTrue trivial
  | .perform .getState => isTrue trivial
  | .perform .trip => isTrue trivial
  | .perform .reset => isTrue trivial
  | .elapse _ => isTrue trivial

/-- The breaker has a trial, and trips are in the past. -/
structure Tracked (state : Watched) : Prop where
  trials : 1 ≤ state.breaker.halfOpenTrials
  past : ∀ tripped ∈ state.trips, tripped ≤ state.now

theorem perform_settings (breaker : ProviderCircuitBreaker) (now : ℚ) (operation : Operation) :
    SameSettings (breaker.perform now operation) breaker := by
  cases operation with
  | canExecute =>
      obtain ⟨threshold, cooldown, trials⟩ := resolveState_settings breaker now
      simp only [perform]
      rcases canExecute_resolved breaker now with
        ⟨outcome, -⟩ | ⟨outcome, -⟩ | ⟨outcome, -⟩ | ⟨outcome, -⟩
      all_goals
        rw [outcome]
        exact ⟨threshold, cooldown, trials⟩
  | getState => exact resolveState_settings breaker now
  | recordSuccess => exact recordSuccess_settings breaker now
  | recordFailure exc => exact recordFailure_settings breaker exc now
  | trip => exact ⟨rfl, rfl, rfl⟩
  | reset => exact ⟨rfl, rfl, rfl⟩

theorem tracked_step (state next : Watched) (moment : Moment) (tracked : Tracked state)
    (stepped : watch state moment = some next) : Tracked next := by
  cases moment with
  | elapse seconds =>
      simp only [watch, Option.ite_none_left_eq_some, Option.some.injEq, not_lt] at stepped
      obtain ⟨forward, rfl⟩ := stepped
      exact ⟨tracked.trials, fun tripped member =>
        (tracked.past tripped member).trans (le_add_of_nonneg_right forward)⟩
  | perform operation =>
      cases stepped
      refine ⟨(perform_settings state.breaker state.now operation).halfOpenTrials ▸ tracked.trials, ?_⟩
      intro tripped member
      cases operation with
      | canExecute => exact tracked.past tripped (List.mem_of_mem_filter member)
      | getState => exact tracked.past tripped member
      | recordSuccess => exact tracked.past tripped member
      | recordFailure exc =>
          simp only [tripsAfter] at member
          split_ifs at member
          · rcases List.mem_cons.mp member with rfl | old
            · exact le_rfl
            · exact tracked.past tripped old
          · exact tracked.past tripped member
      | trip => exact (List.mem_singleton.mp member).le
      | reset => cases member

theorem firstTrialAt_tripped (breaker : ProviderCircuitBreaker) (now : ℚ) (exc : Exc)
    (trials : 1 ≤ breaker.halfOpenTrials) (opens : breaker.TrippedBy now exc) :
    (breaker.recordFailure exc now).FirstTrialAt now (now + breaker.cooldownSeconds) := by
  obtain ⟨counted, -, opened⟩ := opens
  rw [firstTrialAt_of_open _ now (by simpa using trials) opened
    (recordFailure_lastFailureTime breaker exc now counted),
    (recordFailure_settings breaker exc now).cooldownSeconds]

theorem measured_recordFailure (state : Watched) (exc : Exc) (tracked : Tracked state)
    (measured : MeasuredFromTrip state) :
    (∀ tripped ∈ tripsAfter state (.recordFailure exc),
      (state.breaker.recordFailure exc state.now).FirstTrialAt state.now
        (tripped + state.breaker.cooldownSeconds)) ↔
      Undisturbed state (.perform (.recordFailure exc)) := by
  cases counted : isCircuitBreakerFailure exc with
  | false =>
      have quiet : ¬ state.breaker.TrippedBy state.now exc := by
        rintro ⟨heard, -⟩
        rw [counted] at heard
        cases heard
      refine iff_of_true ?_ ?_
      · rw [recordFailure_uncounted _ exc _ counted, tripsAfter, if_neg quiet]
        exact measured
      · intro heard
        rw [counted] at heard
        cases heard
  | true =>
      have each : ∀ tripped ∈ state.trips,
          ((state.breaker.recordFailure exc state.now).FirstTrialAt state.now
              (tripped + state.breaker.cooldownSeconds) ↔
            (0 < state.breaker.cooldownSeconds → state.now ≤ tripped)) := fun tripped member =>
        (measured tripped member).recordFailure_iff state.breaker state.now tracked.trials exc
          counted (tracked.past tripped member)
      simp only [Undisturbed, counted, true_implies]
      constructor
      · intro waits tripped member
        refine (each tripped member).mp (waits tripped ?_)
        simp only [tripsAfter]
        split_ifs
        · exact List.mem_cons_of_mem _ member
        · exact member
      · intro still tripped member
        simp only [tripsAfter] at member
        split_ifs at member with opens
        · rcases List.mem_cons.mp member with rfl | old
          · exact firstTrialAt_tripped _ _ exc tracked.trials opens
          · exact (each tripped old).mpr (still tripped old)
        · exact (each tripped member).mpr (still tripped member)

theorem measured_step (state next : Watched) (moment : Moment) (tracked : Tracked state)
    (measured : MeasuredFromTrip state) (stepped : watch state moment = some next) :
    MeasuredFromTrip next ↔ Undisturbed state moment := by
  cases moment with
  | elapse seconds =>
      simp only [watch, Option.ite_none_left_eq_some, Option.some.injEq, not_lt] at stepped
      obtain ⟨forward, rfl⟩ := stepped
      exact iff_of_true
        (fun tripped member => (measured tripped member).later _ (le_add_of_nonneg_right forward))
        trivial
  | perform operation =>
      cases stepped
      simp only [MeasuredFromTrip, (perform_settings state.breaker state.now operation).cooldownSeconds]
      cases operation with
      | canExecute =>
          refine iff_of_true ?_ trivial
          intro tripped member
          obtain ⟨pending, early⟩ := List.mem_filter.mp member
          have waits := measured tripped pending
          rw [perform, (waits.refuses _ _ tracked.trials (by simpa using early)).1]
          exact waits
      | getState =>
          exact iff_of_true (fun tripped member =>
            (firstTrialAt_resolveState _ _ _).mpr (measured tripped member)) trivial
      | recordSuccess =>
          exact forall₂_congr fun tripped member =>
            (measured tripped member).recordSuccess_iff _ _ tracked.trials
      | recordFailure exc => exact measured_recordFailure state exc tracked measured
      | trip =>
          refine iff_of_true ?_ trivial
          intro tripped member
          rw [List.mem_singleton.mp member]
          exact (firstTrialAt_of_open (state.breaker.trip state.now) state.now tracked.trials rfl rfl
            _).mpr rfl
      | reset => exact iff_of_true (fun tripped member => by cases member) trivial

/-- In a run of a breaker the cooldown is measured from every trip exactly if
nothing is recorded that disturbs it. -/
theorem measuredFromTrip_iff (now : ℚ) (breaker : ProviderCircuitBreaker)
    (trials : 1 ≤ breaker.halfOpenTrials) (moments : List Moment) :
    HoldsThroughout watch MeasuredFromTrip ⟨now, breaker, []⟩ moments ↔
      StepsMeet watch Undisturbed ⟨now, breaker, []⟩ moments := by
  apply holdsThroughout_iff_stepsMeet watch MeasuredFromTrip Tracked (fun _ _ => True) Undisturbed
  · intro state moment next tracked measured _ stepped
    exact ⟨measured_step state next moment tracked measured stepped,
      fun _ => tracked_step state next moment tracked stepped⟩
  · exact ⟨trials, fun tripped member => by cases member⟩
  · intro tripped member
    cases member
  · exact fun _ _ _ _ _ _ _ => trivial

/-! ## The breakers of the executor -/

theorem watch_operations (state : Watched) (operations : List Operation) :
    ∃ trips, run watch state (operations.map .perform) =
      some ⟨state.now, performAll state.now state.breaker operations, trips⟩ := by
  induction operations generalizing state with
  | nil => exact ⟨state.trips, rfl⟩
  | cons operation rest ih =>
      exact ih ⟨state.now, state.breaker.perform state.now operation, tripsAfter state operation⟩

/-- Every run of requests is, for each breaker, a run of operations on it. -/
theorem watched_of_run (executor : ReliabilityExecutor) (now : ℚ)
    (failureThreshold halfOpenTrials : ℤ) (cooldownSeconds : ℚ) (actions : List Action)
    (final : System)
    (taken : run (step executor) (start now failureThreshold halfOpenTrials cooldownSeconds)
      actions = some final) (breakerKey : String) :
    ∃ moments state,
      run watch ⟨now, (start now failureThreshold halfOpenTrials
        cooldownSeconds).shared.circuits.breakerAt breakerKey, []⟩ moments = some state ∧
        state.now = final.shared.now ∧
        state.breaker = final.shared.circuits.breakerAt breakerKey := by
  refine invariant_of_steps (step executor)
    (fun system => ∃ moments state,
      run watch ⟨now, (start now failureThreshold halfOpenTrials
        cooldownSeconds).shared.circuits.breakerAt breakerKey, []⟩ moments = some state ∧
        state.now = system.shared.now ∧
        state.breaker = system.shared.circuits.breakerAt breakerKey)
    (fun _ _ => True) ?_ _ ⟨[], _, rfl, rfl, rfl⟩ actions (fun _ _ _ _ _ _ _ => trivial) final taken
  rintro system action next ⟨moments, state, earlier, sameNow, sameBreaker⟩ - stepped
  rcases step_operations executor system next action stepped breakerKey with
    ⟨forward, circuits⟩ | ⟨moment, operations, performed⟩
  · refine ⟨moments ++ [.elapse (next.shared.now - system.shared.now)],
      ⟨next.shared.now, state.breaker, state.trips⟩, ?_, rfl, by rw [sameBreaker, circuits]⟩
    rw [run_snoc watch _ state moments _ earlier]
    simp [watch, not_lt.mpr (sub_nonneg.mpr forward), sameNow]
  · obtain ⟨trips, later⟩ := watch_operations state operations
    refine ⟨moments ++ operations.map .perform,
      ⟨state.now, performAll state.now state.breaker operations, trips⟩, ?_, ?_, ?_⟩
    · rw [run_append, earlier]
      exact later
    · exact sameNow.trans moment.symm
    · rw [performed, sameNow, sameBreaker]

/-! ## A late failure -/

/-- A breaker as the registry constructs it. -/
def freshBreaker : ProviderCircuitBreaker :=
  (start 0 1 1 30).shared.circuits.breakerAt "groq"

/-- The breaker opens at once, and 20 s later another call of before times out. -/
def lateFailure : List Moment :=
  [.perform .canExecute, .perform .canExecute, .perform (.recordFailure .httpxTimeoutException),
    .elapse 20, .perform (.recordFailure .httpxTimeoutException)]

/-- After the 30 s of the cooldown it still refuses, for a breaker alone and for
two requests of the executor. -/
theorem lateFailure_moves :
    ¬ HoldsThroughout watch MeasuredFromTrip ⟨0, freshBreaker, []⟩ lateFailure ∧
      ((run (step oneAttempt) (start 0 1 1 30)
        [.spawn 0 helloArguments, .spawn 1 helloArguments,
          .event 1 (.failed .httpxTimeoutException 0), .tick 20,
          .event 0 (.failed .httpxTimeoutException 0), .tick 10]).map fun final =>
            (final.shared.now, (final.shared.circuits.canExecute "groq" final.shared.now).1)) =
        some (30, false) := by
  refine ⟨fun throughout => ?_, by decide +kernel⟩
  have reached : (run watch ⟨0, freshBreaker, []⟩ lateFailure).map (fun final =>
      decide (final.now ≤ 30 ∧ 0 ∈ final.trips ∧ final.breaker.cooldownSeconds = 30 ∧
        final.breaker.takesTrial 30 = false)) = some true := by decide +kernel
  obtain ⟨final, taken, shown⟩ := Option.map_eq_some_iff.mp reached
  obtain ⟨early, pending, cooldown, refuses⟩ := of_decide_eq_true shown
  have waits := throughout lateFailure (List.prefix_refl _) final taken 0 pending
  rw [(waits 30 early).2 (by rw [cooldown]; norm_num)] at refuses
  cases refuses

/-- A failure at the moment of the trip and a success before the cooldown is over. -/
theorem undisturbed_measured :
    HoldsThroughout watch MeasuredFromTrip ⟨0, freshBreaker, []⟩
      [.perform (.recordFailure .httpxTimeoutException),
        .perform (.recordFailure .httpxTimeoutException), .elapse 20, .perform .recordSuccess,
        .elapse 10, .perform .canExecute, .perform .recordSuccess] :=
  (measuredFromTrip_iff 0 freshBreaker (by decide) _).mpr (by decide +kernel)

end CortexGateway.Reliability
