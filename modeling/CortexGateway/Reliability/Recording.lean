import CortexGateway.Reliability.Stretches

/-! # What a failing provider tells its breaker

`record_failure` is called on the last retry only.  A deadline that ends the
attempt loop before it hides every failure of the request from the breaker;
without such a deadline, `failure_threshold` failing requests open it. -/
set_option autoImplicit false
namespace CortexGateway.Reliability
open CircuitBreakerRegistry ProviderCircuitBreaker Transition

/-- The request called the provider, and every call failed in a way the breaker counts. -/
def Departure.Failing (departure : Departure) : Prop :=
  departure.failures ≠ [] ∧ ∀ exc ∈ departure.failures, isCircuitBreakerFailure exc = true

instance : DecidablePred Departure.Failing := fun departure =>
  inferInstanceAs (Decidable (departure.failures ≠ [] ∧
    ∀ exc ∈ departure.failures, isCircuitBreakerFailure exc = true))

/-- A failing provider was reported to its breaker. -/
def AlwaysRecorded (system : System) : Prop :=
  ∀ departure ∈ system.shared.departures, departure.Failing → departure.recorded = true

instance : DecidablePred AlwaysRecorded := fun system =>
  inferInstanceAs (Decidable (∀ departure ∈ system.shared.departures,
    departure.Failing → departure.recorded = true))

/-- The requests that have left the provider of this breaker failing. -/
def Shared.failingDepartures (shared : Shared) (breakerKey : String) : ℕ :=
  shared.departures.countP fun d => key d.provider = breakerKey ∧ d.Failing

def Shared.successCount (shared : Shared) (breakerKey : String) : ℕ :=
  shared.successes.count breakerKey

section Recording
variable (executor : ReliabilityExecutor)

/-- The failed call is not the last attempt, all calls have failed in a way the
breaker counts, and a deadline cuts off the retry. -/
def Hides (now : ℚ) (task : Task) : Event → Prop
  | .failed exc draw =>
      match task.control with
      | .calling attemptIdx =>
          (attemptIdx : ℤ) ≠ executor.retryPolicy.maxRetries ∧
            (∀ failure ∈ exc :: task.failures, isCircuitBreakerFailure failure = true) ∧
            CutOff executor now task attemptIdx draw
      | _ => False
  | _ => False

def RetriesInTime (system : System) : Action → Prop
  | .event request event =>
      ∀ task ∈ system.tasks request, ¬ Hides executor system.shared.now task event
  | _ => True

instance (now : ℚ) (task : Task) : DecidablePred (Hides executor now task)
  | .failed exc draw =>
      match h : task.control with
      | .calling attemptIdx =>
          decidable_of_iff ((attemptIdx : ℤ) ≠ executor.retryPolicy.maxRetries ∧
            (∀ failure ∈ exc :: task.failures, isCircuitBreakerFailure failure = true) ∧
            CutOff executor now task attemptIdx draw) (by simp only [Hides, h])
      | .sleeping .. => isFalse (by simp [Hides, h])
      | .selecting _ => isFalse (by simp [Hides, h])
      | .returned _ => isFalse (by simp [Hides, h])
      | .raised _ => isFalse (by simp [Hides, h])
  | .cancelled => isFalse id
  | .woken => isFalse id
  | .responded _ => isFalse id
  | .candidates _ => isFalse id

instance (system : System) (action : Action) : Decidable (RetriesInTime executor system action) :=
  match action with
  | .event request event =>
      inferInstanceAs (Decidable (∀ task ∈ system.tasks request,
        ¬ Hides executor system.shared.now task event))
  | .spawn .. => isTrue trivial
  | .tick _ => isTrue trivial

/-! ## What a step does to the breakers and the records -/

/-- A step in which no call ends leaves the closed breakers alone; nobody
leaves a provider it has called. -/
structure Quiet (before after : Shared) : Prop where
  departures : ∃ arrivals, after.departures = arrivals ++ before.departures ∧
    ∀ departure ∈ arrivals, departure.failures = []
  successes : after.successes = before.successes
  closed : ∀ breakerKey, (before.circuits.breakerAt breakerKey).state = .CLOSED →
    after.circuits.breakerAt breakerKey = before.circuits.breakerAt breakerKey

/-- The ways a stretch of a task can end, with whether its event hides failures. -/
inductive Effect (before after : Shared) (hides : Prop) : Prop
  | quiet (visible : ¬ hides) (quiet : Quiet before after)
  | succeeded (visible : ¬ hides) (provider : String)
      (departures : after.departures = before.departures)
      (successes : after.successes = key provider :: before.successes)
      (others : ∀ breakerKey, breakerKey ≠ key provider →
        after.circuits.breakerAt breakerKey = before.circuits.breakerAt breakerKey)
  | unrecorded (departure : Departure) (hidden : hides ↔ departure.Failing)
      (silent : departure.recorded = false)
      (departures : after.departures = departure :: before.departures)
      (successes : after.successes = before.successes)
      (breakers : after.circuits.breakerAt = before.circuits.breakerAt)
  | recorded (visible : ¬ hides) (provider : String) (exc : Exc) (failures : List Exc)
      (departures : after.departures = ⟨provider, exc :: failures, true⟩ :: before.departures)
      (successes : after.successes = before.successes)
      (breakers : after.circuits = before.circuits.recordFailure provider exc before.now)

theorem quiet_refl (shared : Shared) : Quiet shared shared :=
  ⟨⟨[], rfl, by simp⟩, rfl, fun _ _ => rfl⟩

theorem Quiet.trans {first second third : Shared} (early : Quiet first second)
    (late : Quiet second third) : Quiet first third := by
  obtain ⟨earlier, earlierDepartures, earlierEmpty⟩ := early.departures
  obtain ⟨later, laterDepartures, laterEmpty⟩ := late.departures
  refine ⟨⟨later ++ earlier, ?_, ?_⟩, late.successes.trans early.successes, ?_⟩
  · rw [laterDepartures, earlierDepartures, List.append_assoc]
  · intro departure member
    rcases List.mem_append.mp member with new | old
    · exact laterEmpty departure new
    · exact earlierEmpty departure old
  · intro breakerKey closed
    have same := early.closed breakerKey closed
    rw [late.closed breakerKey (by rw [same]; exact closed), same]

theorem quiet_leave (shared : Shared) (task : Task) (recorded : Bool)
    (uncalled : task.failures = []) : Quiet shared (shared.leave task recorded) := by
  refine ⟨⟨[⟨task.currentProvider, task.failures, recorded⟩], rfl, ?_⟩, rfl, fun _ _ => rfl⟩
  intro departure member
  rw [List.mem_singleton.mp member]
  exact uncalled

theorem canExecute_closed (circuits : CircuitBreakerRegistry) (provider : String) (now : ℚ)
    (breakerKey : String) (closed : (circuits.breakerAt breakerKey).state = .CLOSED) :
    (circuits.canExecute provider now).2.breakerAt breakerKey = circuits.breakerAt breakerKey := by
  by_cases own : breakerKey = key provider
  · subst own
    simp only [CircuitBreakerRegistry.canExecute, setBreaker_self]
    have same := resolveState_closed (circuits.breakerAt (key provider)) now closed
    simp only [getBreaker, ProviderCircuitBreaker.canExecute, same, closed]
  · exact setBreaker_other _ _ _ _ own

theorem filterAvailable_closed (now : ℚ) (circuits : CircuitBreakerRegistry)
    (pool : List RoutingCandidate) (breakerKey : String)
    (closed : (circuits.breakerAt breakerKey).state = .CLOSED) :
    (filterAvailable now circuits pool).2.breakerAt breakerKey =
      circuits.breakerAt breakerKey := by
  induction pool generalizing circuits with
  | nil => rfl
  | cons c rest ih =>
      have first := canExecute_closed circuits c.provider now breakerKey closed
      simp only [filterAvailable]
      rw [ih _ (by rw [first]; exact closed), first]

theorem quiet_circuits (shared : Shared) (circuits : CircuitBreakerRegistry)
    (closed : ∀ breakerKey, (shared.circuits.breakerAt breakerKey).state = .CLOSED →
      circuits.breakerAt breakerKey = shared.circuits.breakerAt breakerKey) :
    Quiet shared { shared with circuits := circuits } :=
  ⟨⟨[], rfl, by simp⟩, rfl, closed⟩

/-- Entering a provider, a request leaves it at most before any call. -/
theorem enterProvider_quiet (shared : Shared) (task : Task) :
    Quiet shared (enterProvider executor shared task).1 :=
  enterProvider_rule executor (Quiet shared) shared task (quiet_refl shared)
    (quiet_circuits shared _ (canExecute_closed shared.circuits task.currentProvider shared.now))
    fun _ asked => asked.trans (quiet_leave _ _ _ rfl)

theorem candidatesFound_quiet (shared : Shared) (task : Task) (circuitErr : Option Exc)
    (found : List RoutingCandidate) :
    Quiet shared (candidatesFound executor shared task circuitErr found).1 := by
  have filtered := quiet_circuits shared
    (selectFallback executor.engine shared.circuits task.request task.attemptedProviders found
      shared.now).2
    (filterAvailable_closed shared.now shared.circuits (eligible task.attemptedProviders found))
  simp only [candidatesFound]
  split
  · exact filtered
  · exact filtered
  · exact filtered.trans (enterProvider_quiet executor _ _)

theorem attemptFailed_effect (shared : Shared) (task : Task) (attemptIdx : ℕ) (exc : Exc)
    (draw : ℚ) (registered : executor.engine.registry.isRegistered task.currentProvider = true)
    (control : task.control = .calling attemptIdx) :
    Effect shared (attemptFailed executor shared task attemptIdx exc draw).1
      (Hides executor shared.now task (.failed exc draw)) := by
  cases transient : isTransientError exc with
  | false =>
      have uncounted : ¬ isCircuitBreakerFailure exc = true := by
        intro counted
        rw [isTransientError_of_isCircuitBreakerFailure exc counted] at transient
        cases transient
      rw [attemptFailed_permanent executor shared task attemptIdx exc draw transient]
      refine .unrecorded ⟨task.currentProvider, exc :: task.failures, false⟩ ?_ rfl rfl rfl rfl
      simp only [Hides, control]
      constructor
      · rintro ⟨-, all, -⟩
        exact absurd (all exc List.mem_cons_self) uncounted
      · rintro ⟨-, all⟩
        exact absurd (all exc List.mem_cons_self) uncounted
  | true =>
      by_cases last : (attemptIdx : ℤ) = executor.retryPolicy.maxRetries
      · rw [attemptFailed_last executor shared task attemptIdx exc draw transient last,
          (failoverTrigger_leaves executor _ _ _).1]
        refine .recorded ?_ task.currentProvider exc task.failures (leave_departures _ _ _)
          (leave_successes _ _ _) (leave_circuits _ _ _)
        simp only [Hides, control]
        rintro ⟨more, -⟩
        exact more last
      · rw [attemptFailed_again executor shared task attemptIdx exc draw transient last]
        by_cases cutOff : CutOff executor shared.now task attemptIdx draw
        · rw [retryAttempt_cutOff executor shared (task.failing exc) attemptIdx draw cutOff]
          refine .unrecorded ⟨task.currentProvider, exc :: task.failures, false⟩ ?_ rfl rfl rfl rfl
          simp only [Hides, control]
          constructor
          · rintro ⟨-, all, -⟩
            exact ⟨by simp, all⟩
          · rintro ⟨-, all⟩
            exact ⟨last, all, cutOff⟩
        · obtain ⟨next, outcome, -⟩ := retryAttempt_inTime executor shared (task.failing exc)
            attemptIdx draw registered cutOff
          rw [outcome]
          refine .quiet ?_ (quiet_refl shared)
          simp only [Hides, control]
          rintro ⟨-, -, late⟩
          exact cutOff late

theorem attemptSucceeded_effect (shared : Shared) (task : Task)
    (response : ChatCompletionResponse) :
    Effect shared (attemptSucceeded shared task response).1
      (Hides executor shared.now task (.responded response)) := by
  refine .succeeded id task.currentProvider (by simp only [attemptSucceeded])
    (by simp only [attemptSucceeded]) ?_
  intro breakerKey other
  rw [attemptSucceeded_breakers, setBreaker_other _ _ _ _ other]

theorem resume_effect (shared : Shared) (task : Task) (event : Event) (after : Shared × Task)
    (registered : task.InLoop →
      executor.engine.registry.isRegistered task.currentProvider = true)
    (resumed : resume executor shared task event = some after) :
    Effect shared after.1 (Hides executor shared.now task event) := by
  cases resumed_of_resume executor shared task event after resumed with
  | woken attemptIdx wakeAt control =>
      rw [callProvider_registered executor shared task attemptIdx
        (registered (by simp [Task.InLoop, control]))]
      exact .quiet id (quiet_refl shared)
  | responded attemptIdx response control => exact attemptSucceeded_effect executor shared task _
  | failed attemptIdx exc draw control =>
      exact attemptFailed_effect executor shared task attemptIdx exc draw
        (registered (by simp [Task.InLoop, control])) control
  | escaped attemptIdx exc draw control other =>
      refine .quiet ?_ (quiet_refl shared)
      simp only [Hides, control]
      rintro ⟨-, all, -⟩
      have counted := all exc List.mem_cons_self
      rw [isException_of_isTransientError exc
        (isTransientError_of_isCircuitBreakerFailure exc counted)] at other
      cases other
  | candidates circuitErr found control =>
      exact .quiet id (candidatesFound_quiet executor shared task _ _)
  | cancelled => exact .quiet id (quiet_refl shared)

theorem step_effect (system next : System) (action : Action)
    (known : KnownProviders executor system) (stepped : step executor system action = some next) :
    Effect system.shared next.shared (¬ RetriesInTime executor system action) := by
  cases stepped_of_step executor system next action stepped with
  | spawn request arguments free =>
      exact .quiet (fun hides => hides trivial) (enterProvider_quiet executor _ _)
  | tick seconds forward =>
      exact .quiet (fun hides => hides trivial) ⟨⟨[], rfl, by simp⟩, rfl, fun _ _ => rfl⟩
  | event request event task after present resumed =>
      have effect := resume_effect executor system.shared task event after
        (known request task present) resumed
      have same : (¬ RetriesInTime executor system (.event request event)) =
          Hides executor system.shared.now task event := by
        simp [RetriesInTime, present]
      rw [same]
      exact effect

/-! ## Every failing request is recorded -/

theorem alwaysRecorded_step (system next : System) (action : Action)
    (known : KnownProviders executor system) (law : AlwaysRecorded system)
    (stepped : step executor system action = some next) :
    AlwaysRecorded next ↔ RetriesInTime executor system action := by
  have effect := step_effect executor system next action known stepped
  cases effect with
  | quiet visible quiet =>
      refine iff_of_true ?_ (not_not.mp visible)
      obtain ⟨arrivals, departures, uncalled⟩ := quiet.departures
      intro departure member failing
      rw [departures] at member
      rcases List.mem_append.mp member with new | old
      · exact absurd (uncalled departure new) failing.1
      · exact law departure old failing
  | succeeded visible provider departures successes others =>
      refine iff_of_true ?_ (not_not.mp visible)
      intro departure member
      rw [departures] at member
      exact law departure member
  | unrecorded departure hidden silent departures successes breakers =>
      constructor
      · intro recorded
        by_contra hides
        have failing := hidden.mp hides
        have contrary := recorded departure (by rw [departures]; exact List.mem_cons_self) failing
        rw [silent] at contrary
        cases contrary
      · intro inTime other member failing
        rw [departures] at member
        rcases List.mem_cons.mp member with rfl | old
        · exact absurd inTime (hidden.mpr failing)
        · exact law other old failing
  | recorded visible provider exc failures departures successes breakers =>
      refine iff_of_true ?_ (not_not.mp visible)
      intro departure member failing
      rw [departures] at member
      rcases List.mem_cons.mp member with rfl | old
      · rfl
      · exact law departure old failing

/-! ## Failing requests open the breaker -/

/-- What became of a breaker that was closed: it heard of a success, it opened,
or its count went up with the requests that left failing. -/
inductive Heard (before after : Shared) (breakerKey : String) : Prop
  | success (more : before.successCount breakerKey < after.successCount breakerKey)
  | opened (isOpen : (after.circuits.breakerAt breakerKey).state = .OPEN)
  | counted (closed : (after.circuits.breakerAt breakerKey).state = .CLOSED)
      (threshold : (after.circuits.breakerAt breakerKey).failureThreshold =
        (before.circuits.breakerAt breakerKey).failureThreshold)
      (tally : after.failingDepartures breakerKey +
          (before.circuits.breakerAt breakerKey).failureCount ≤
        before.failingDepartures breakerKey +
          (after.circuits.breakerAt breakerKey).failureCount)
      (room : (after.circuits.breakerAt breakerKey).failureCount =
          (before.circuits.breakerAt breakerKey).failureCount ∨
        ((after.circuits.breakerAt breakerKey).failureCount : ℤ) <
          (before.circuits.breakerAt breakerKey).failureThreshold)

theorem heard_same (before after : Shared) (breakerKey : String)
    (closed : (before.circuits.breakerAt breakerKey).state = .CLOSED)
    (same : after.circuits.breakerAt breakerKey = before.circuits.breakerAt breakerKey)
    (tally : after.failingDepartures breakerKey = before.failingDepartures breakerKey) :
    Heard before after breakerKey := by
  refine .counted ?_ ?_ ?_ ?_
  · rw [same, closed]
  · rw [same]
  · rw [same, tally]
  · exact Or.inl (by rw [same])

theorem failingDepartures_append (before after : Shared) (breakerKey : String)
    (arrivals : List Departure) (departures : after.departures = arrivals ++ before.departures)
    (others : ∀ departure ∈ arrivals, key departure.provider = breakerKey → ¬ departure.Failing) :
    after.failingDepartures breakerKey = before.failingDepartures breakerKey := by
  have none : arrivals.countP (fun d => key d.provider = breakerKey ∧ d.Failing) = 0 := by
    rw [List.countP_eq_zero]
    intro departure member
    simpa using others departure member
  simp only [Shared.failingDepartures]
  rw [departures, List.countP_append, none, zero_add]

theorem heard_of_recorded (before after : Shared) (breakerKey provider : String) (exc : Exc)
    (failures : List Exc) (closed : (before.circuits.breakerAt breakerKey).state = .CLOSED)
    (departures : after.departures = ⟨provider, exc :: failures, true⟩ :: before.departures)
    (breakers : after.circuits = before.circuits.recordFailure provider exc before.now) :
    Heard before after breakerKey := by
  by_cases own : breakerKey = key provider
  · subst own
    have stored : after.circuits.breakerAt (key provider) =
        (before.circuits.breakerAt (key provider)).recordFailure exc before.now := by
      rw [breakers]
      exact setBreaker_self _ _ _
    cases counts : isCircuitBreakerFailure exc with
    | false =>
        apply heard_same before after _ closed
        · rw [stored, recordFailure_uncounted _ exc before.now counts]
        · apply failingDepartures_append before after _ [_] departures
          intro departure member _ failing
          rw [List.mem_singleton.mp member] at failing
          have counted := failing.2 exc List.mem_cons_self
          rw [counts] at counted
          cases counted
    | true =>
        obtain ⟨count, state⟩ := recordFailure_closed (before.circuits.breakerAt (key provider)) exc
          before.now counts closed
        by_cases reaches : (before.circuits.breakerAt (key provider)).failureThreshold ≤
            ((before.circuits.breakerAt (key provider)).failureCount : ℤ) + 1
        · rw [if_pos reaches] at state
          exact .opened (by rw [stored, state])
        · rw [if_neg reaches] at state
          refine .counted (by rw [stored, state]) ?_ ?_ (Or.inr ?_)
          · rw [stored, (recordFailure_settings _ exc before.now).failureThreshold]
          · have atMost : after.failingDepartures (key provider) ≤
                before.failingDepartures (key provider) + 1 := by
              simp only [Shared.failingDepartures]
              rw [departures, List.countP_cons]
              split_ifs <;> omega
            rw [stored, count]
            omega
          · rw [stored, count]
            push_cast
            omega
  · apply heard_same before after _ closed
    · rw [breakers]
      exact setBreaker_other _ _ _ _ own
    · apply failingDepartures_append before after _ [_] departures
      intro departure member mine
      rw [List.mem_singleton.mp member] at mine
      exact absurd mine.symm own

theorem heard_of_effect (before after : Shared) (breakerKey : String)
    (closed : (before.circuits.breakerAt breakerKey).state = .CLOSED)
    (effect : Effect before after False) : Heard before after breakerKey := by
  cases effect with
  | quiet visible quiet =>
      obtain ⟨arrivals, departures, uncalled⟩ := quiet.departures
      apply heard_same before after _ closed (quiet.closed breakerKey closed)
      apply failingDepartures_append before after _ arrivals departures
      intro departure member _ failing
      exact failing.1 (uncalled departure member)
  | succeeded visible provider departures successes others =>
      by_cases own : breakerKey = key provider
      · refine .success ?_
        simp only [Shared.successCount]
        rw [successes, own, List.count_cons_self]
        omega
      · apply heard_same before after _ closed (others breakerKey own)
        exact failingDepartures_append before after _ [] departures (by simp)
  | unrecorded departure hidden silent departures successes breakers =>
      apply heard_same before after _ closed (by rw [breakers])
      apply failingDepartures_append before after _ [departure] departures
      intro other member _ failing
      rw [List.mem_singleton.mp member] at failing
      exact hidden.mpr failing
  | recorded visible provider exc failures departures successes breakers =>
      exact heard_of_recorded before after _ provider exc failures closed departures breakers

theorem successCount_of_effect (before after : Shared) (hides : Prop) (breakerKey : String)
    (effect : Effect before after hides) :
    before.successCount breakerKey ≤ after.successCount breakerKey := by
  simp only [Shared.successCount]
  cases effect with
  | quiet visible quiet => rw [quiet.successes]
  | succeeded visible provider departures successes others =>
      rw [successes]
      exact List.count_le_count_cons
  | unrecorded departure hidden silent departures successes breakers => rw [successes]
  | recorded visible provider exc failures departures successes breakers => rw [successes]

theorem knownProviders_run (system final : System) (actions : List Action)
    (known : KnownProviders executor system)
    (taken : run (step executor) system actions = some final) : KnownProviders executor final :=
  invariant_of_steps (step executor) (KnownProviders executor) (fun _ _ => True)
    (fun system action next known _ stepped =>
      knownProviders_step executor system next action known stepped)
    system known actions (fun _ _ _ _ _ _ _ => trivial) final taken

/-- The breaker opens somewhere in the run. -/
def Opens (system : System) (actions : List Action) (breakerKey : String) : Prop :=
  ∃ earlier, earlier <+: actions ∧ ∃ reached, run (step executor) system earlier = some reached ∧
    (reached.shared.circuits.breakerAt breakerKey).state = .OPEN

theorem opens_or_heard (system final : System) (actions : List Action) (breakerKey : String)
    (known : KnownProviders executor system)
    (closed : (system.shared.circuits.breakerAt breakerKey).state = .CLOSED)
    (inTime : StepsMeet (step executor) (RetriesInTime executor) system actions)
    (taken : run (step executor) system actions = some final) :
    Opens executor system actions breakerKey ∨
      system.shared.successCount breakerKey ≤ final.shared.successCount breakerKey ∧
        Heard system.shared final.shared breakerKey := by
  induction actions using List.reverseRecOn generalizing final with
  | nil =>
      cases taken
      exact Or.inr ⟨le_refl _, heard_same _ _ breakerKey closed rfl rfl⟩
  | append_singleton earlier action ih =>
      have initial : earlier <+: earlier ++ [action] := List.prefix_append earlier [action]
      obtain ⟨reached, first, last⟩ := run_snoc_some (step executor) system final earlier action taken
      rcases ih reached (inTime.of_prefix (step executor) initial) first with opens | ⟨mono, heard⟩
      · obtain ⟨before, sub, opened⟩ := opens
        exact Or.inl ⟨before, sub.trans initial, opened⟩
      have effect := step_effect executor reached final action
        (knownProviders_run executor system reached earlier known first) last
      have met := inTime earlier action (List.prefix_refl _) reached final first last
      simp only [met, not_true_eq_false] at effect
      have monoStep := successCount_of_effect _ _ _ breakerKey effect
      cases heard with
      | success more => exact Or.inr ⟨mono.trans monoStep, .success (by omega)⟩
      | opened isOpen => exact Or.inl ⟨earlier, initial, reached, first, isOpen⟩
      | counted stillClosed threshold tally room =>
          refine Or.inr ⟨mono.trans monoStep, ?_⟩
          cases heard_of_effect _ _ breakerKey stillClosed effect with
          | success more => exact .success (by omega)
          | opened isOpen => exact .opened isOpen
          | counted nowClosed thresholdNow tallyNow roomNow =>
              refine .counted nowClosed (thresholdNow.trans threshold) (by omega) ?_
              rw [threshold] at roomNow
              rcases roomNow with same | below
              · rw [same]
                exact room
              · exact Or.inr below

/-- With no success in between, as many requests as the breaker's threshold that
leave its provider failing open it. -/
def FailuresOpen (system : System) (actions : List Action) : Prop :=
  ∀ before after, before ++ after = actions → ∀ closedAt final,
    run (step executor) system before = some closedAt →
    run (step executor) closedAt after = some final → ∀ breakerKey,
    (closedAt.shared.circuits.breakerAt breakerKey).state = .CLOSED →
    final.shared.successCount breakerKey = closedAt.shared.successCount breakerKey →
    closedAt.shared.failingDepartures breakerKey < final.shared.failingDepartures breakerKey →
    (closedAt.shared.circuits.breakerAt breakerKey).failureThreshold ≤
      (final.shared.failingDepartures breakerKey : ℤ) -
        closedAt.shared.failingDepartures breakerKey →
    Opens executor closedAt after breakerKey

theorem failuresOpen_of_retriesInTime (system : System) (actions : List Action)
    (known : KnownProviders executor system)
    (inTime : StepsMeet (step executor) (RetriesInTime executor) system actions) :
    FailuresOpen executor system actions := by
  intro before after whole closedAt final first second breakerKey closed noSuccess more enough
  subst whole
  have knownAt := knownProviders_run executor system closedAt before known first
  have inTimeAt := inTime.of_append (step executor) first
  rcases opens_or_heard executor closedAt final after breakerKey knownAt closed inTimeAt second
    with opens | ⟨-, heard⟩
  · exact opens
  · cases heard with
    | success more => omega
    | opened isOpen => exact ⟨after, List.prefix_refl _, final, second, isOpen⟩
    | counted stillClosed threshold tally room =>
        -- a count below the threshold cannot have reached it
        omega

theorem alwaysRecorded_iff_retriesInTime (now : ℚ) (failureThreshold halfOpenTrials : ℤ)
    (cooldownSeconds : ℚ) (actions : List Action) :
    (HoldsThroughout (step executor) AlwaysRecorded
        (start now failureThreshold halfOpenTrials cooldownSeconds) actions ↔
      StepsMeet (step executor) (RetriesInTime executor)
        (start now failureThreshold halfOpenTrials cooldownSeconds) actions) ∧
    (StepsMeet (step executor) (RetriesInTime executor)
        (start now failureThreshold halfOpenTrials cooldownSeconds) actions →
      FailuresOpen executor (start now failureThreshold halfOpenTrials cooldownSeconds) actions) := by
  have known : KnownProviders executor
      (start now failureThreshold halfOpenTrials cooldownSeconds) := by
    intro request task found
    cases found
  constructor
  · apply holdsThroughout_iff_stepsMeet (step executor) AlwaysRecorded (KnownProviders executor)
      (fun _ _ => True) (RetriesInTime executor) _ _ known _ actions
      (fun _ _ _ _ _ _ _ => trivial)
    · intro system action next knownHere law _ stepped
      exact ⟨alwaysRecorded_step executor system next action knownHere law stepped,
        fun _ => knownProviders_step executor system next action knownHere stepped⟩
    · intro departure member
      cases member
  · exact failuresOpen_of_retriesInTime executor _ actions known

end Recording

/-- The default settings, with one provider. -/
def defaultExecutor : ReliabilityExecutor :=
  { engine := ⟨⟨["groq"]⟩, .auto⟩
    retryPolicy := ⟨2, 1/4, 2, true⟩
    totalRequestTimeoutSeconds := 120
    maxFailoverAttempts := 2 }

/-- A provider call ends in a timeout after so many seconds. -/
def timesOut (request : ℕ) (seconds : ℚ) : List Action :=
  [.tick seconds, .event request (.failed (.provider .providerTimeoutError "timed out") 0)]

/-- Two calls that hang for a minute use up the deadline before the third. -/
def hangs (request : ℕ) : List Action :=
  .spawn request helloArguments :: timesOut request 60 ++ [.tick (1/4), .event request .woken] ++
    timesOut request 60

/-- Five requests in a row find the provider hanging, and its breaker is still closed. -/
theorem hanging_provider_never_recorded :
    ¬ HoldsThroughout (step defaultExecutor) AlwaysRecorded (start 0 5 1 30) (hangs 0) ∧
      ((run (step defaultExecutor) (start 0 5 1 30)
          (hangs 0 ++ hangs 1 ++ hangs 2 ++ hangs 3 ++ hangs 4)).map fun final =>
        (final.shared.failingDepartures "groq", (final.shared.circuits.breakerAt "groq").state)) =
      some (5, .CLOSED) := by
  constructor <;> decide +kernel

/-- Three quick timeouts. -/
def failsFast (request : ℕ) : List Action :=
  .spawn request helloArguments :: timesOut request 1 ++ [.tick (1/4), .event request .woken] ++
    timesOut request 1 ++ [.tick (1/2), .event request .woken] ++ timesOut request 1

theorem failsFast_recorded :
    HoldsThroughout (step defaultExecutor) AlwaysRecorded (start 0 2 1 30)
        (failsFast 0 ++ failsFast 1) ∧
      FailuresOpen defaultExecutor (start 0 2 1 30) (failsFast 0 ++ failsFast 1) := by
  have inTime : StepsMeet (step defaultExecutor) (RetriesInTime defaultExecutor) (start 0 2 1 30)
      (failsFast 0 ++ failsFast 1) := by decide +kernel
  obtain ⟨recorded, opens⟩ := alwaysRecorded_iff_retriesInTime defaultExecutor 0 2 1 30
    (failsFast 0 ++ failsFast 1)
  exact ⟨recorded.mpr inTime, opens inTime⟩

end CortexGateway.Reliability
