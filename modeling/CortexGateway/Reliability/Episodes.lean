import CortexGateway.Reliability.Operations

/-! # Who ends a HALF_OPEN episode

A report carries no token of the episode its call was admitted in.  So any call
of the provider ends the episode it reports in, also one that was admitted
before the circuit opened and is only slow.  An episode is its trials' alone
if no call outlives the cooldown. -/
set_option autoImplicit false
namespace CortexGateway.Reliability
open CircuitBreakerRegistry ProviderCircuitBreaker Transition

/-! ## The episode of a breaker -/

namespace ProviderCircuitBreaker
variable (breaker : ProviderCircuitBreaker) (now : ℚ)

/-- The episode a breaker is in, also when its cooldown is over and nobody has
asked yet. -/
def currentEpisode : Option ℕ :=
  if (breaker.resolveState now).state = .HALF_OPEN then some (breaker.resolveState now).episode
  else none

/-- An open breaker that would be HALF_OPEN if it were asked. -/
def Cooled : Prop := breaker.state = .OPEN ∧ (breaker.resolveState now).state = .HALF_OPEN

instance : Decidable (breaker.Cooled now) :=
  inferInstanceAs (Decidable (breaker.state = .OPEN ∧ (breaker.resolveState now).state = .HALF_OPEN))

theorem resolveState_canExecute :
    (breaker.canExecute now).2.resolveState now = (breaker.canExecute now).2 := by
  rcases canExecute_resolved breaker now with
    ⟨outcome, -⟩ | ⟨outcome, -⟩ | ⟨outcome, halfOpen, -⟩ | ⟨outcome, -⟩
  · rw [outcome, resolveState_idem]
  · rw [outcome, resolveState_idem]
  · rw [outcome]
    exact resolveState_halfOpen _ now halfOpen
  · rw [outcome, resolveState_idem]

theorem currentEpisode_canExecute :
    (breaker.canExecute now).2.currentEpisode now = breaker.currentEpisode now := by
  rw [currentEpisode, resolveState_canExecute]
  rcases canExecute_resolved breaker now with
    ⟨outcome, -⟩ | ⟨outcome, -⟩ | ⟨outcome, -⟩ | ⟨outcome, -⟩
  all_goals
    rw [outcome]
    rfl

theorem currentEpisode_ask (operation : Operation) (asks : operation.Asks) :
    (breaker.perform now operation).currentEpisode now = breaker.currentEpisode now := by
  cases operation with
  | canExecute => exact currentEpisode_canExecute breaker now
  | getState => simp only [perform, currentEpisode, resolveState_idem]
  | recordSuccess => cases asks
  | recordFailure exc => cases asks
  | trip => cases asks
  | reset => cases asks

theorem currentEpisode_asked (after : ProviderCircuitBreaker) (asked : Asked now breaker after) :
    after.currentEpisode now = breaker.currentEpisode now :=
  asked.keeps (fun other => other.currentEpisode now = breaker.currentEpisode now)
    (fun other operation asks same => (currentEpisode_ask other now operation asks).trans same) rfl

theorem currentEpisode_halfOpen (halfOpen : breaker.state = .HALF_OPEN) :
    breaker.currentEpisode now = some breaker.episode := by
  simp [currentEpisode, resolveState_halfOpen breaker now halfOpen, halfOpen]

/-- A breaker is in an episode if it is HALF_OPEN, or open with its cooldown over. -/
theorem currentEpisode_cases (episode : ℕ) (current : breaker.currentEpisode now = some episode) :
    (breaker.state = .HALF_OPEN ∧ breaker.episode = episode) ∨
      (breaker.Cooled now ∧ breaker.episode + 1 = episode) := by
  simp only [currentEpisode, Option.ite_none_right_eq_some, Option.some.injEq] at current
  obtain ⟨halfOpen, same⟩ := current
  rcases resolveState_cases breaker now with unchanged | ⟨opened, started⟩
  · rw [unchanged] at halfOpen same
    exact Or.inl ⟨halfOpen, same⟩
  · refine Or.inr ⟨⟨opened, halfOpen⟩, ?_⟩
    rw [started] at same
    exact same

/-- Time alone ends no episode. -/
theorem currentEpisode_later (later : ℚ) (forward : now ≤ later) (episode : ℕ)
    (current : breaker.currentEpisode now = some episode) :
    breaker.currentEpisode later = some episode := by
  rcases currentEpisode_cases breaker now episode current with
    ⟨halfOpen, rfl⟩ | ⟨⟨opened, resolved⟩, rfl⟩
  · exact currentEpisode_halfOpen breaker later halfOpen
  · cases last : breaker.lastFailureTime with
    | none => simp [resolveState, opened, last] at resolved
    | some failed =>
        have elapsed : breaker.cooldownSeconds ≤ now - failed := by
          by_contra early
          simp [resolveState, opened, last, early] at resolved
        have still : breaker.cooldownSeconds ≤ later - failed := by linarith
        simp [currentEpisode, resolveState, opened, last, still]

theorem recordSuccess_endsEpisode : (breaker.recordSuccess now).currentEpisode now = none := by
  have ended := resolveState_recordSuccess breaker now
  simp only [currentEpisode, if_neg ended]

/-- A counted failure ends the episode it is recorded in; without a cooldown
the next one starts at once. -/
theorem recordFailure_endsEpisode (exc : Exc) (counted : isCircuitBreakerFailure exc = true)
    (episode : ℕ) (current : breaker.currentEpisode now = some episode) :
    (breaker.recordFailure exc now).currentEpisode now ≠ some episode := by
  intro again
  rcases currentEpisode_cases breaker now episode current with ⟨halfOpen, rfl⟩ | ⟨⟨opened, -⟩, rfl⟩
  · rw [recordFailure_halfOpen breaker exc now counted halfOpen] at again
    rcases currentEpisode_cases _ now _ again with ⟨shut, -⟩ | ⟨-, next⟩
    · cases shut
    · simp at next
  · by_cases instant : breaker.cooldownSeconds ≤ 0
    · rw [recordFailure_instant breaker exc now counted opened instant] at again
      rcases currentEpisode_cases _ now _ again with ⟨shut, -⟩ | ⟨-, next⟩
      · simp [opened] at shut
      · simp at next
    · rw [recordFailure_open breaker exc now counted opened (not_le.mp instant)] at again
      simp [currentEpisode, resolveState, opened, instant] at again

end ProviderCircuitBreaker

/-! ## Outcomes and reports -/

def System.episodeOf (system : System) (breakerKey : String) : Option ℕ :=
  (system.shared.circuits.breakerAt breakerKey).currentEpisode system.shared.now

/-- A provider call ends with a success or a failure. -/
def CallEnds (task : Task) : Event → Prop
  | .responded _ => ∃ attemptIdx, task.control = .calling attemptIdx
  | .failed .. => ∃ attemptIdx, task.control = .calling attemptIdx
  | _ => False

/-- The action is the outcome of a call that was admitted in the episode. -/
def TrialOutcome (system : System) (breakerKey : String) (episode : ℕ) : Action → Prop
  | .event request event => ∃ task ∈ system.tasks request,
      CallEnds task event ∧ key task.currentProvider = breakerKey ∧ task.ticket = some episode
  | _ => False

section Episodes
variable (executor : ReliabilityExecutor)

/-- Where the step ends an episode, it is the outcome of one of its trials. -/
def OnlyTrialsDecide (system : System) (action : Action) : Prop :=
  ∀ next, step executor system action = some next → ∀ breakerKey episode,
    system.episodeOf breakerKey = some episode →
      next.episodeOf breakerKey = some episode ∨ TrialOutcome system breakerKey episode action

/-- A call that reports in an episode was admitted in it. -/
def ReportsOnTrial (system : System) : Action → Prop
  | .event request event => ∀ task ∈ system.tasks request,
      (reportOf executor task event).isSome →
        ∀ episode ∈ system.episodeOf (key task.currentProvider), task.ticket = some episode
  | _ => True

/-- When the cooldown of a breaker is over, no call of its provider is under way. -/
def QuietCooldown (system : System) (_ : Action) : Prop :=
  ∀ request ∈ system.requests, ∀ task ∈ system.tasks request, task.InLoop →
    ¬ (system.shared.circuits.getBreaker task.currentProvider).Cooled system.shared.now

instance (system : System) (action : Action) : Decidable (ReportsOnTrial executor system action) :=
  match action with
  | .event request event =>
      inferInstanceAs (Decidable (∀ task ∈ system.tasks request,
        (reportOf executor task event).isSome → _))
  | .spawn .. => isTrue trivial
  | .tick _ => isTrue trivial

instance (system : System) (action : Action) : Decidable (QuietCooldown system action) :=
  inferInstanceAs (Decidable (∀ request ∈ system.requests, ∀ task ∈ system.tasks request,
    task.InLoop → ¬ _))

/-! ## Which steps end an episode -/

theorem callEnds_of_report (task : Task) (event : Event) (operation : Operation)
    (reports : reportOf executor task event = some operation) : CallEnds task event := by
  unfold reportOf at reports
  split at reports
  · exact ⟨_, by assumption⟩
  · exact ⟨_, by assumption⟩
  · cases reports

theorem reported_endsEpisode (shared : Shared) (task : Task) (event : Event)
    (operation : Operation) (reports : reportOf executor task event = some operation) (episode : ℕ)
    (current : (shared.circuits.getBreaker task.currentProvider).currentEpisode shared.now =
      some episode) :
    ((shared.circuits.getBreaker task.currentProvider).perform shared.now operation).currentEpisode
      shared.now ≠ some episode := by
  unfold reportOf at reports
  split at reports
  · cases reports
    simp only [perform, recordSuccess_endsEpisode, ne_eq, reduceCtorEq, not_false_eq_true]
  · rename_i attemptIdx exc draw control
    simp only [Option.ite_none_right_eq_some, Option.some.injEq] at reports
    obtain ⟨⟨-, counted⟩, rfl⟩ := reports
    exact recordFailure_endsEpisode _ _ exc counted episode current
  · cases reports

theorem episode_of_asked (before after : Shared) (asked : OnlyAsked before after)
    (breakerKey : String) :
    (after.circuits.breakerAt breakerKey).currentEpisode after.now =
      (before.circuits.breakerAt breakerKey).currentEpisode before.now := by
  rw [asked.now]
  exact currentEpisode_asked _ _ _ (asked.breakers breakerKey)

theorem episodeOf_put (system : System) (request : ℕ) (task : Task) (event : Event)
    (after : Shared × Task) (resumed : resume executor system.shared task event = some after)
    (breakerKey : String) :
    (system.put request after).episodeOf breakerKey =
      ((system.shared.reported executor task event).circuits.breakerAt breakerKey).currentEpisode
        (system.shared.reported executor task event).now :=
  episode_of_asked _ _ (resume_asks executor system.shared task event after resumed) breakerKey

/-- An event leaves every breaker in its episode but the one it reports to. -/
theorem episodeOf_unreported (system : System) (request : ℕ) (task : Task) (event : Event)
    (after : Shared × Task) (resumed : resume executor system.shared task event = some after)
    (breakerKey : String)
    (unreported : ¬ ((reportOf executor task event).isSome ∧
      key task.currentProvider = breakerKey)) :
    (system.put request after).episodeOf breakerKey = system.episodeOf breakerKey := by
  rw [episodeOf_put executor system request task event after resumed]
  cases reports : reportOf executor task event with
  | none =>
      rw [reported_none executor system.shared task event reports]
      rfl
  | some operation =>
      have other : breakerKey ≠ key task.currentProvider := by
        rintro rfl
        exact unreported ⟨by rw [reports]; rfl, rfl⟩
      rw [reported_some executor system.shared task event operation reports]
      simp only [setBreaker_other _ _ _ _ other]
      rfl

theorem episodeOf_reported (system : System) (request : ℕ) (task : Task) (event : Event)
    (after : Shared × Task) (resumed : resume executor system.shared task event = some after)
    (reports : (reportOf executor task event).isSome) (episode : ℕ)
    (current : system.episodeOf (key task.currentProvider) = some episode) :
    (system.put request after).episodeOf (key task.currentProvider) ≠ some episode := by
  obtain ⟨operation, reports⟩ := Option.isSome_iff_exists.mp reports
  rw [episodeOf_put executor system request task event after resumed,
    reported_some executor system.shared task event operation reports, setBreaker_self]
  exact reported_endsEpisode executor system.shared task event operation reports episode current

theorem onlyTrialsDecide_step (system next : System) (action : Action)
    (stepped : step executor system action = some next) :
    OnlyTrialsDecide executor system action ↔ ReportsOnTrial executor system action := by
  have decides_iff : OnlyTrialsDecide executor system action ↔
      ∀ breakerKey episode, system.episodeOf breakerKey = some episode →
        next.episodeOf breakerKey = some episode ∨
          TrialOutcome system breakerKey episode action := by
    constructor
    · exact fun decide => decide next stepped
    · intro decides other same
      cases stepped.symm.trans same
      exact decides
  rw [decides_iff]
  cases stepped_of_step executor system next action stepped with
  | spawn request arguments free =>
      refine iff_of_true (fun breakerKey episode current => Or.inl ?_) trivial
      exact (episode_of_asked _ _ (enterProvider_asks executor system.shared _) breakerKey).trans
        current
  | tick seconds forward =>
      refine iff_of_true (fun breakerKey episode current => Or.inl ?_) trivial
      exact currentEpisode_later _ _ _ (le_add_of_nonneg_right forward) episode current
  | event request event task after present resumed =>
      constructor
      · intro decides running found reports episode current
        obtain rfl : task = running := Option.some.inj (present.symm.trans found)
        rcases decides _ episode current with stays | ⟨other, found, -, -, ticket⟩
        · exact absurd stays (episodeOf_reported executor system request task event after resumed
            reports episode current)
        · obtain rfl : task = other := Option.some.inj (present.symm.trans found)
          exact ticket
      · intro onTrial breakerKey episode current
        by_cases reports : (reportOf executor task event).isSome ∧
            key task.currentProvider = breakerKey
        · obtain ⟨some?, rfl⟩ := reports
          obtain ⟨operation, reports⟩ := Option.isSome_iff_exists.mp some?
          exact Or.inr ⟨task, present, callEnds_of_report executor task event operation reports,
            rfl, onTrial task present some? episode current⟩
        · exact Or.inl ((episodeOf_unreported executor system request task event after resumed
            breakerKey reports).trans current)

/-! ## Which calls are under way in an episode -/

/-- In its loop the task has the ticket of the episode its breaker is in. -/
def OnTrial (shared : Shared) (task : Task) : Prop :=
  task.InLoop → task.ticket =
    (shared.circuits.breakerAt (key task.currentProvider)).currentEpisode shared.now

/-- In its loop the task goes on with the ticket it had. -/
def KeepsTicket (before after : Task) : Prop :=
  after.InLoop → after.currentProvider = before.currentProvider ∧ after.ticket = before.ticket

theorem callProvider_keepsTicket (shared : Shared) (task : Task) (attemptIdx : ℕ) :
    KeepsTicket task (callProvider executor shared task attemptIdx).2 := by
  unfold callProvider
  split
  · exact fun _ => ⟨rfl, rfl⟩
  · exact fun _ => ⟨rfl, rfl⟩

theorem retryAttempt_keepsTicket (shared : Shared) (task : Task) (attemptIdx : ℕ) (draw : ℚ) :
    KeepsTicket task (retryAttempt executor shared task attemptIdx draw).2 := by
  unfold retryAttempt
  dsimp only
  split_ifs
  · exact fun _ => ⟨rfl, rfl⟩
  · exact fun _ => ⟨rfl, rfl⟩
  · exact fun _ => ⟨rfl, rfl⟩
  · exact callProvider_keepsTicket executor _ _ _

theorem attemptFailed_keepsTicket (shared : Shared) (task : Task) (attemptIdx : ℕ) (exc : Exc)
    (draw : ℚ) : KeepsTicket task (attemptFailed executor shared task attemptIdx exc draw).2 := by
  unfold attemptFailed
  dsimp only
  split_ifs
  · exact fun _ => ⟨rfl, rfl⟩
  · exact fun inLoop => absurd inLoop (failoverTrigger_leaves executor _ _ _).2
  · exact retryAttempt_keepsTicket executor _ _ _ _

theorem ticketOf_canExecute (circuits : CircuitBreakerRegistry) (provider : String) (now : ℚ) :
    ticketOf (circuits.canExecute provider now).2 provider =
      ((circuits.canExecute provider now).2.breakerAt (key provider)).currentEpisode now := by
  have stored : (circuits.canExecute provider now).2.breakerAt (key provider) =
      ((circuits.getBreaker provider).canExecute now).2 := setBreaker_self _ _ _
  simp only [ticketOf, getBreaker, stored, currentEpisode, resolveState_canExecute]

theorem enterProvider_onTrial (shared : Shared) (task : Task) :
    OnTrial (enterProvider executor shared task).1 (enterProvider executor shared task).2 := by
  intro inLoop
  cases entered_enterProvider executor shared task with
  | beyond kept outside => exact absurd inLoop outside
  | refused circuits outcome asked outside => exact absurd inLoop outside
  | left circuits outcome leaves outside uncalled => exact absurd inLoop outside
  | calling circuits outcome known calls =>
      have handed := ticketOf_canExecute shared.circuits task.currentProvider shared.now
      rw [outcome] at handed
      rw [calls]
      exact handed

theorem candidatesFound_onTrial (shared : Shared) (task : Task) (circuitErr : Option Exc)
    (found : List RoutingCandidate) :
    OnTrial (candidatesFound executor shared task circuitErr found).1
      (candidatesFound executor shared task circuitErr found).2 := by
  simp only [candidatesFound]
  split
  · exact fun inLoop => absurd inLoop (raising_outside _ _)
  · exact fun inLoop => absurd inLoop (raiseLast_outside _)
  · exact enterProvider_onTrial executor _ _

/-- A task in its loop has a new ticket or goes on with the one it had. -/
theorem resume_ticket (shared : Shared) (task : Task) (event : Event) (after : Shared × Task)
    (resumed : resume executor shared task event = some after) :
    OnTrial after.1 after.2 ∨ (task.InLoop ∧ KeepsTicket task after.2) := by
  cases resumed_of_resume executor shared task event after resumed with
  | woken attemptIdx wakeAt control =>
      exact Or.inr ⟨by simp [Task.InLoop, control], callProvider_keepsTicket executor _ _ _⟩
  | responded attemptIdx response control => exact Or.inl fun inLoop => absurd inLoop not_false
  | failed attemptIdx exc draw control =>
      exact Or.inr ⟨by simp [Task.InLoop, control], attemptFailed_keepsTicket executor _ _ _ _ _⟩
  | escaped attemptIdx exc draw control =>
      exact Or.inl fun inLoop => absurd inLoop (raising_outside _ _)
  | candidates circuitErr found control => exact Or.inl (candidatesFound_onTrial executor _ _ _ _)
  | cancelled => exact Or.inl fun inLoop => absurd inLoop (raising_outside _ _)

/-- A HALF_OPEN breaker's calls under way are its trials. -/
structure TrialsOnly (system : System) : Prop where
  listed : system.Listed
  trials : ∀ request task, system.tasks request = some task → task.InLoop →
    (system.shared.circuits.getBreaker task.currentProvider).state = .HALF_OPEN →
      task.ticket = some (system.shared.circuits.getBreaker task.currentProvider).episode

/-- If no call outlives the cooldown, the calls under way are those of the current episode. -/
theorem ticket_of_quiet (system : System) (action : Action) (trialsOnly : TrialsOnly system)
    (quiet : QuietCooldown system action) (request : ℕ) (task : Task)
    (found : system.tasks request = some task) (inLoop : task.InLoop) (episode : ℕ)
    (current : system.episodeOf (key task.currentProvider) = some episode) :
    task.ticket = some episode := by
  rcases currentEpisode_cases _ _ episode current with ⟨halfOpen, rfl⟩ | ⟨cooled, -⟩
  · exact trialsOnly.trials request task found inLoop halfOpen
  · exact absurd cooled
      (quiet request (trialsOnly.listed request task found) task found inLoop)

theorem reported_not_halfOpen (shared : Shared) (task : Task) (event : Event)
    (after : Shared × Task) (resumed : resume executor shared task event = some after)
    (reports : (reportOf executor task event).isSome) :
    (after.1.circuits.getBreaker task.currentProvider).state ≠ .HALF_OPEN := by
  cases resumed_of_resume executor shared task event after resumed with
  | responded attemptIdx response control =>
      rw [getBreaker, attemptSucceeded_breakers, setBreaker_self]
      exact resolveState_recordSuccess _ _
  | failed attemptIdx exc draw control =>
      simp only [reportOf, control] at reports
      split_ifs at reports with counts
      · obtain ⟨last, counted⟩ := counts
        rw [attemptFailed_last executor shared task attemptIdx exc draw
          (isTransientError_of_isCircuitBreakerFailure exc counted) last,
          (failoverTrigger_leaves executor _ _ _).1, leave_circuits,
          CircuitBreakerRegistry.recordFailure, getBreaker, setBreaker_self]
        exact recordFailure_not_halfOpen _ exc _ counted
      · cases reports
  | escaped attemptIdx exc draw control other =>
      simp only [reportOf, control] at reports
      split_ifs at reports with counts
      · rw [isException_of_isTransientError exc
          (isTransientError_of_isCircuitBreakerFailure exc counts.2)] at other
        cases other
      · cases reports
  | woken attemptIdx wakeAt control => simp [reportOf, control] at reports
  | candidates circuitErr found control => simp [reportOf, control] at reports
  | cancelled => cases control : task.control <;> simp [reportOf, control] at reports

/-- A breaker that is HALF_OPEN after a step was in this episode before. -/
theorem episodeOf_before (system next : System) (action : Action)
    (stepped : step executor system action = some next) (breakerKey : String)
    (halfOpen : (next.shared.circuits.breakerAt breakerKey).state = .HALF_OPEN) :
    system.episodeOf breakerKey = some (next.shared.circuits.breakerAt breakerKey).episode := by
  have current : next.episodeOf breakerKey =
      some (next.shared.circuits.breakerAt breakerKey).episode :=
    currentEpisode_halfOpen _ _ halfOpen
  cases stepped_of_step executor system next action stepped with
  | spawn request arguments free =>
      exact (episode_of_asked _ _ (enterProvider_asks executor system.shared _)
        breakerKey).symm.trans current
  | tick seconds forward => exact currentEpisode_halfOpen _ _ halfOpen
  | event request event task after present resumed =>
      have unreported : ¬ ((reportOf executor task event).isSome ∧
          key task.currentProvider = breakerKey) := by
        rintro ⟨reports, rfl⟩
        exact reported_not_halfOpen executor system.shared task event after resumed reports halfOpen
      rw [← episodeOf_unreported executor system request task event after resumed breakerKey
        unreported]
      exact current

theorem trialsOnly_step (system next : System) (action : Action) (trialsOnly : TrialsOnly system)
    (quiet : QuietCooldown system action) (stepped : step executor system action = some next) :
    TrialsOnly next := by
  refine ⟨listed_step executor system next action trialsOnly.listed stepped, ?_⟩
  intro other task found inLoop halfOpen
  have before := episodeOf_before executor system next action stepped _ halfOpen
  -- a call that was under way has its ticket from before
  have kept : ∀ request running, system.tasks request = some running → running.InLoop →
      task.currentProvider = running.currentProvider ∧ task.ticket = running.ticket →
        task.ticket = some (next.shared.circuits.getBreaker task.currentProvider).episode := by
    rintro request running present runs ⟨provider, ticket⟩
    rw [ticket]
    exact ticket_of_quiet system action trialsOnly quiet request running present runs _
      (provider ▸ before)
  have fresh : OnTrial next.shared task →
      task.ticket = some (next.shared.circuits.getBreaker task.currentProvider).episode := by
    intro onTrial
    rw [onTrial inLoop]
    exact currentEpisode_halfOpen _ _ halfOpen
  cases stepped_of_step executor system next action stepped with
  | spawn request arguments free =>
      rcases put_cases system request _ other task found with ⟨-, rfl⟩ | ⟨-, present⟩
      · exact fresh (enterProvider_onTrial executor system.shared _)
      · exact kept other task present inLoop ⟨rfl, rfl⟩
  | tick seconds forward => exact kept other task found inLoop ⟨rfl, rfl⟩
  | event request event running after present resumed =>
      rcases put_cases system request after other task found with ⟨-, rfl⟩ | ⟨-, found⟩
      · rcases resume_ticket executor system.shared running event after resumed with
          onTrial | ⟨runs, keeps⟩
        · exact fresh onTrial
        · exact kept request running present runs (keeps inLoop)
      · exact kept other task found inLoop ⟨rfl, rfl⟩

theorem trialsOnly_start (now : ℚ) (failureThreshold halfOpenTrials : ℤ) (cooldownSeconds : ℚ) :
    TrialsOnly (start now failureThreshold halfOpenTrials cooldownSeconds) := by
  refine ⟨listed_start now failureThreshold halfOpenTrials cooldownSeconds, ?_⟩
  intro request task found
  cases found

theorem reportsOnTrial_of_quiet (system : System) (action : Action)
    (trialsOnly : TrialsOnly system) (quiet : QuietCooldown system action) :
    ReportsOnTrial executor system action := by
  cases action with
  | spawn request arguments => trivial
  | tick seconds => trivial
  | event request event =>
      intro task found reports episode current
      obtain ⟨operation, reports⟩ := Option.isSome_iff_exists.mp reports
      have inLoop : task.InLoop := by
        have ends := callEnds_of_report executor task event operation reports
        unfold CallEnds at ends
        split at ends
        · obtain ⟨attemptIdx, control⟩ := ends
          simp [Task.InLoop, control]
        · obtain ⟨attemptIdx, control⟩ := ends
          simp [Task.InLoop, control]
        · exact ends.elim
      exact ticket_of_quiet system _ trialsOnly quiet request task found inLoop episode current

/-- Only trials decide an episode exactly if only trials report in it, and
that is so if no call outlives the cooldown of its breaker. -/
theorem onlyTrialsDecide_iff (now : ℚ) (failureThreshold halfOpenTrials : ℤ)
    (cooldownSeconds : ℚ) (actions : List Action) :
    (StepsMeet (step executor) (OnlyTrialsDecide executor)
        (start now failureThreshold halfOpenTrials cooldownSeconds) actions ↔
      StepsMeet (step executor) (ReportsOnTrial executor)
        (start now failureThreshold halfOpenTrials cooldownSeconds) actions) ∧
      (StepsMeet (step executor) QuietCooldown
          (start now failureThreshold halfOpenTrials cooldownSeconds) actions →
        StepsMeet (step executor) (OnlyTrialsDecide executor)
          (start now failureThreshold halfOpenTrials cooldownSeconds) actions) := by
  constructor
  · constructor
    · exact fun met => met.imp _ fun system action next stepped =>
        (onlyTrialsDecide_step executor system next action stepped).mp
    · exact fun met => met.imp _ fun system action next stepped =>
        (onlyTrialsDecide_step executor system next action stepped).mpr
  · intro quiet before action initial reached next taken stepped
    have trialsOnly := holdsThroughout_of_steps (step executor) TrialsOnly QuietCooldown
      (fun system action next => trialsOnly_step executor system next action) _
      (trialsOnly_start now failureThreshold halfOpenTrials cooldownSeconds) actions quiet before
      ((List.prefix_append before [action]).trans initial) reached taken
    exact (onlyTrialsDecide_step executor reached next action stepped).mpr
      (reportsOnTrial_of_quiet executor reached action trialsOnly
        (quiet before action initial reached next taken stepped))

end Episodes

/-! ## A slow call -/

/-- Request 0 is slow.  Request 1 opens the breaker with a timeout, request 2
is the trial after the cooldown, and then request 0 is answered. -/
def lateSuccess : List Action :=
  [.spawn 0 helloArguments, .spawn 1 helloArguments,
    .event 1 (.failed .httpxTimeoutException 0), .tick 30, .spawn 2 helloArguments,
    .event 0 (.responded helloBack)]

/-- The late answer closes the circuit while the trial is still under way. -/
theorem lateSuccess_closes :
    ¬ StepsMeet (step oneAttempt) (OnlyTrialsDecide oneAttempt) (start 0 1 1 30) lateSuccess ∧
      ((run (step oneAttempt) (start 0 1 1 30) lateSuccess).map fun final =>
        ((final.shared.circuits.breakerAt "groq").state,
          (final.tasks 2).map Task.control)) = some (.CLOSED, some (.calling 0)) := by
  refine ⟨fun met => ?_, by decide +kernel⟩
  have reports := met.imp _ fun system action next stepped =>
    (onlyTrialsDecide_step oneAttempt system next action stepped).mp
  revert reports
  decide +kernel

/-- The trial itself closes it. -/
theorem trial_closes :
    StepsMeet (step oneAttempt) (OnlyTrialsDecide oneAttempt) (start 0 1 1 30)
      [.spawn 0 helloArguments, .event 0 (.failed .httpxTimeoutException 0), .tick 30,
        .spawn 1 helloArguments, .event 1 (.responded helloBack)] :=
  (onlyTrialsDecide_iff oneAttempt 0 1 1 30 _).2 (by decide +kernel)

end CortexGateway.Reliability
