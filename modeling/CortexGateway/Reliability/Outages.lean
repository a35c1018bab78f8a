import CortexGateway.Reliability.Invariant

/-! # What shuts a provider out

Of all that happens to the requests, a breaker is told the ends of calls to its
own provider and is asked otherwise.  So a provider that is refused has failed
`failure_threshold` times in a row itself, and an open circuit opens again one
cooldown after its last failure. -/
set_option autoImplicit false
namespace CortexGateway.Reliability
open CircuitBreakerRegistry ProviderCircuitBreaker Transition

/-! ## Reports in a row -/

/-- How many of the latest reports are counted failures. -/
def failuresInARow (reports : History) : ℕ :=
  (reports.takeWhile fun report => report.2.counted).length

/-- So many counted failures in a row, with no success between them. -/
def Earned (threshold : ℤ) (reports : History) : Prop :=
  ∃ later failures earlier, reports = later ++ failures ++ earlier ∧
    (failures.length : ℤ) = threshold ∧ ∀ report ∈ failures, report.2.counted = true

def lastFailure (reports : History) : Option ℚ :=
  (reports.find? fun report => report.2.counted).map Prod.fst

variable {reports : History}

theorem Earned.cons {threshold : ℤ} (earned : Earned threshold reports) (report : ℚ × Operation) :
    Earned threshold (report :: reports) := by
  obtain ⟨later, failures, earlier, rfl, enough, counted⟩ := earned
  exact ⟨report :: later, failures, earlier, rfl, enough, counted⟩

theorem earned_of_row {threshold : ℤ} (enough : (failuresInARow reports : ℤ) = threshold) :
    Earned threshold reports := by
  refine ⟨[], reports.takeWhile fun report => report.2.counted,
    reports.dropWhile fun report => report.2.counted, ?_, enough, ?_⟩
  · rw [List.nil_append, List.takeWhile_append_dropWhile]
  · intro report member
    exact List.mem_takeWhile_imp (p := fun report : ℚ × Operation => report.2.counted) member

theorem failuresInARow_success (now : ℚ) :
    failuresInARow ((now, .recordSuccess) :: reports) = 0 := rfl

theorem failuresInARow_failure {exc : Exc} (counted : isCircuitBreakerFailure exc = true)
    (now : ℚ) (reports : History) :
    failuresInARow ((now, .recordFailure exc) :: reports) = failuresInARow reports + 1 := by
  rw [failuresInARow, List.takeWhile_cons_of_pos (by exact counted), List.length_cons]
  rfl

theorem lastFailure_failure {exc : Exc} (counted : isCircuitBreakerFailure exc = true) (now : ℚ)
    (reports : History) :
    lastFailure ((now, .recordFailure exc) :: reports) = some now := by
  rw [lastFailure, List.find?_cons_of_pos (by exact counted)]
  rfl

/-! ## One breaker -/

/-- What a breaker of the registry knows once it is informed of these reports. -/
structure Informed (registry : CircuitBreakerRegistry) (breaker : ProviderCircuitBreaker)
    (reports : History) : Prop where
  settings : SameSettings breaker registry.newBreaker
  closed : breaker.state = .CLOSED → breaker.failureCount = failuresInARow reports ∧
    (failuresInARow reports : ℤ) < registry.failureThreshold
  earned : breaker.state ≠ .CLOSED → Earned registry.failureThreshold reports
  opened : breaker.state = .OPEN → breaker.lastFailureTime = lastFailure reports ∧
    (lastFailure reports).isSome = true

section Informed
variable {registry : CircuitBreakerRegistry} {breaker : ProviderCircuitBreaker} {now : ℚ}

theorem informed_new (counts : 1 ≤ registry.failureThreshold) :
    Informed registry registry.newBreaker [] where
  settings := ⟨rfl, rfl, rfl⟩
  closed _ := ⟨rfl, counts⟩
  earned open? := absurd rfl open?
  opened opened := by cases opened

theorem Informed.resolved (now : ℚ) (informed : Informed registry breaker reports) :
    Informed registry (breaker.resolveState now) reports := by
  rcases resolveState_cases breaker now with same | ⟨wasOpen, started⟩
  · rw [same]
    exact informed
  · have settings := (resolveState_settings breaker now).trans informed.settings
    rw [started] at settings ⊢
    refine ⟨settings, fun closed => (by cases closed), fun _ => informed.earned ?_,
      fun opened => (by cases opened)⟩
    rw [wasOpen]
    simp

theorem Informed.asked {after : ProviderCircuitBreaker} (trials : 1 ≤ registry.halfOpenTrials)
    (informed : Informed registry breaker reports) (asked : Asked now breaker after) :
    Informed registry after reports := by
  refine asked.keeps (Informed registry · reports) (fun breaker operation asks informed => ?_)
    informed
  cases operation with
  | canExecute =>
      have enough : 1 ≤ breaker.halfOpenTrials := informed.settings.halfOpenTrials ▸ trials
      rcases canExecute_cases breaker now enough with
        ⟨outcome, -, -⟩ | ⟨outcome, -⟩ | ⟨takes, outcome⟩
      · simpa [perform, outcome] using informed
      · simpa [perform, outcome] using informed
      · simp only [perform, outcome]
        obtain ⟨⟨threshold, cooldown, trials⟩, closed, earned, opened⟩ := informed.resolved now
        exact ⟨⟨threshold, cooldown, trials⟩, closed, earned, opened⟩
  | getState => exact informed.resolved now
  | recordSuccess => cases asks
  | recordFailure exc => cases asks
  | trip => cases asks
  | reset => cases asks

theorem Informed.success (counts : 1 ≤ registry.failureThreshold)
    (informed : Informed registry breaker reports) :
    Informed registry (breaker.recordSuccess now) ((now, .recordSuccess) :: reports) := by
  have settings := (recordSuccess_settings breaker now).trans informed.settings
  rcases recordSuccess_cases breaker now with ⟨closed, none⟩ | ⟨same, opened⟩
  · refine ⟨settings, fun _ => ⟨none, counts⟩, fun open? => absurd closed open?, fun opened => ?_⟩
    rw [closed] at opened
    cases opened
  · rw [same]
    refine ⟨informed.settings, fun closed => ?_, fun open? => (informed.earned open?).cons _,
      informed.opened⟩
    rw [opened] at closed
    cases closed

theorem Informed.failure {exc : Exc} (counted : isCircuitBreakerFailure exc = true)
    (informed : Informed registry breaker reports) :
    Informed registry (breaker.recordFailure exc now) ((now, .recordFailure exc) :: reports) := by
  have settings := (recordFailure_settings breaker exc now).trans informed.settings
  have stamped := recordFailure_lastFailureTime breaker exc now counted
  have row := failuresInARow_failure counted now reports
  have last := lastFailure_failure counted now reports
  refine ⟨settings, fun closed => ?_, fun open? => ?_, fun _ => ⟨stamped.trans last.symm, ?_⟩⟩
  · rcases recordFailure_cases breaker exc now counted with opened | ⟨wasClosed, -, count, room⟩
    · rw [opened] at closed
      cases closed
    · obtain ⟨before, -⟩ := informed.closed wasClosed
      rw [informed.settings.failureThreshold] at room
      rw [count, row, before]
      rw [before] at room
      exact ⟨rfl, by exact_mod_cast room⟩
  · by_cases wasClosed : breaker.state = .CLOSED
    · -- the failure that trips is the last of the threshold
      obtain ⟨before, room⟩ := informed.closed wasClosed
      obtain ⟨-, state⟩ := recordFailure_closed breaker exc now counted wasClosed
      split_ifs at state with trips
      · rw [before, informed.settings.failureThreshold] at trips
        apply earned_of_row
        rw [row]
        change registry.failureThreshold ≤ _ at trips
        push_cast
        omega
      · exact absurd state open?
    · exact (informed.earned wasClosed).cons _
  · rw [last]
    rfl

end Informed

/-! ## All requests -/

section Outages
variable (executor : ReliabilityExecutor) (breakerKey : String)

/-- What a step reports to the breaker, and when. -/
def reportAt (system : System) : Action → Option (ℚ × Operation)
  | .event request event => do
      let task ← system.tasks request
      guard (key task.currentProvider = breakerKey)
      let report ← reportOf executor task event
      return (system.shared.now, report)
  | _ => none

/-- What a run reports to the breaker, the latest first. -/
def reportsTo : System → List Action → History
  | _, [] => []
  | system, action :: rest =>
      match step executor system action with
      | none => []
      | some next => reportsTo next rest ++ (reportAt executor breakerKey system action).toList

theorem reportOf_cases (task : Task) (event : Event) (report : Operation)
    (reports : reportOf executor task event = some report) :
    report = .recordSuccess ∨
      ∃ exc, isCircuitBreakerFailure exc = true ∧ report = .recordFailure exc := by
  unfold reportOf at reports
  split at reports
  · cases reports
    exact .inl rfl
  · split_ifs at reports with counted
    cases reports
    exact .inr ⟨_, counted.2, rfl⟩
  · cases reports

variable {executor breakerKey}
variable {registry : CircuitBreakerRegistry}

theorem Informed.reported (executor : ReliabilityExecutor)
    (counts : 1 ≤ registry.failureThreshold) {shared : Shared} (task : Task) (event : Event)
    (informed : Informed registry (shared.circuits.breakerAt breakerKey) reports) :
    Informed registry ((shared.reported executor task event).circuits.breakerAt breakerKey)
      ((if key task.currentProvider = breakerKey then
          ((reportOf executor task event).map fun report => (shared.now, report)).toList
        else []) ++ reports) := by
  cases made : reportOf executor task event with
  | none =>
      rw [reported_none executor shared task event made]
      simpa using informed
  | some report =>
      rw [reported_some executor shared task event report made]
      by_cases own : key task.currentProvider = breakerKey
      · subst own
        rw [setBreaker_self, if_pos rfl]
        rcases reportOf_cases executor task event report made with rfl | ⟨exc, counted, rfl⟩
        · exact informed.success counts
        · exact informed.failure counted
      · rw [setBreaker_other _ _ _ _ (Ne.symm own), if_neg own]
        exact informed

theorem informed_step (counts : 1 ≤ registry.failureThreshold)
    (trials : 1 ≤ registry.halfOpenTrials)
    {system next : System} {action : Action} (stepped : step executor system action = some next)
    (informed : Informed registry (system.shared.circuits.breakerAt breakerKey) reports) :
    Informed registry (next.shared.circuits.breakerAt breakerKey)
      ((reportAt executor breakerKey system action).toList ++ reports) := by
  cases stepped_of_step executor system next action stepped with
  | spawn request arguments free =>
      have asked : OnlyAsked system.shared (execute executor system.shared arguments).1 :=
        enterProvider_asks executor system.shared _
      exact informed.asked trials (asked.breakers breakerKey)
  | tick seconds forward => exact informed
  | event request event task after present resumed =>
      have reported := informed.reported executor counts task event
      have asked := resume_asks executor system.shared task event after resumed
      have same : (reportAt executor breakerKey system (.event request event)).toList =
          if key task.currentProvider = breakerKey then
            ((reportOf executor task event).map fun report => (system.shared.now, report)).toList
          else [] := by
        simp only [reportAt, present]
        by_cases own : key task.currentProvider = breakerKey
        · cases made : reportOf executor task event <;> simp [own, made, guard]
        · simp [own, guard]
      rw [same]
      exact reported.asked trials (asked.breakers breakerKey)

theorem informed_run (counts : 1 ≤ registry.failureThreshold) (trials : 1 ≤ registry.halfOpenTrials)
    (actions : List Action) {system final : System} (earlier : History)
    (informed : Informed registry (system.shared.circuits.breakerAt breakerKey) earlier)
    (ran : run (step executor) system actions = some final) :
    Informed registry (final.shared.circuits.breakerAt breakerKey)
      (reportsTo executor breakerKey system actions ++ earlier) := by
  induction actions generalizing system earlier with
  | nil =>
      cases ran
      exact informed
  | cons action rest ih =>
      obtain ⟨next, stepped, ran⟩ := Option.bind_eq_some_iff.mp ran
      have later := ih _ (informed_step counts trials stepped informed) ran
      rw [reportsTo, stepped]
      simpa only [List.append_assoc] using later

/-- No provider is shut out but by itself, over every run of any requests.  One
that is refused has had `failure_threshold` counted failures in a row reported
of its own calls, whatever became of other providers.  It is not CLOSED as long
as its latest reports are so many failures.  And an OPEN circuit admits again
exactly from one cooldown after the last of its failures. -/
theorem outages_earned (executor : ReliabilityExecutor) (now : ℚ)
    (failureThreshold halfOpenTrials : ℤ) (cooldownSeconds : ℚ) (counts : 1 ≤ failureThreshold)
    (trials : 1 ≤ halfOpenTrials) (actions : List Action) (final : System)
    (ran : run (step executor) (start now failureThreshold halfOpenTrials cooldownSeconds) actions =
      some final) (provider : String) :
    let circuits := final.shared.circuits
    let reports := reportsTo executor (key provider)
      (start now failureThreshold halfOpenTrials cooldownSeconds) actions
    (∀ later, (circuits.canExecute provider later).1 = false → Earned failureThreshold reports) ∧
      (failureThreshold ≤ failuresInARow reports →
        (circuits.getBreaker provider).state ≠ .CLOSED) ∧
      ((circuits.getBreaker provider).state = .OPEN →
        ∃ failedAt, lastFailure reports = some failedAt ∧
          ∀ later, (circuits.canExecute provider later).1 = true ↔
            failedAt + cooldownSeconds ≤ later) := by
  intro circuits reports
  let registry : CircuitBreakerRegistry :=
    ⟨failureThreshold, cooldownSeconds, halfOpenTrials, fun _ => none⟩
  have informed : Informed registry (circuits.getBreaker provider) (reports ++ []) :=
    informed_run counts trials actions [] (informed_new counts) ran
  rw [List.append_nil] at informed
  refine ⟨fun later refused => informed.earned fun closed => ?_, fun row closed => ?_,
    fun opened => ?_⟩
  · have admitted : (circuits.canExecute provider later).1 = true := by
      simp [CircuitBreakerRegistry.canExecute, ProviderCircuitBreaker.canExecute,
        resolveState_closed _ later closed, closed]
    rw [admitted] at refused
    cases refused
  · exact absurd row (not_le.mpr (informed.closed closed).2)
  · obtain ⟨last, known⟩ := informed.opened opened
    obtain ⟨failedAt, failed⟩ := Option.isSome_iff_exists.mp known
    refine ⟨failedAt, failed, fun later => ?_⟩
    have due := open_canExecute (circuits.getBreaker provider) later
      (informed.settings.halfOpenTrials ▸ trials) opened failedAt (last.trans failed)
    rw [informed.settings.cooldownSeconds] at due
    exact due

end Outages

/-! ## A provider that times out -/

/-- One call times out; the threshold is one failure. -/
def outage : List Action :=
  [.spawn 0 helloArguments, .event 0 (.failed .httpxTimeoutException 0)]

theorem outage_over :
    ∃ final, run (step oneAttempt) (start 0 1 1 30) outage = some final ∧
      Earned 1 (reportsTo oneAttempt (key "groq") (start 0 1 1 30) outage) ∧
      ∃ failedAt, lastFailure (reportsTo oneAttempt (key "groq") (start 0 1 1 30) outage) =
          some failedAt ∧
        ∀ later, (final.shared.circuits.canExecute "groq" later).1 = true ↔
          failedAt + 30 ≤ later := by
  have shut : ((run (step oneAttempt) (start 0 1 1 30) outage).map fun final =>
      ((final.shared.circuits.canExecute "groq" 0).1,
        (final.shared.circuits.getBreaker "groq").state)) = some (false, .OPEN) := by
    decide +kernel
  obtain ⟨final, ran, seen⟩ := Option.map_eq_some_iff.mp shut
  have facts := outages_earned oneAttempt 0 1 1 30 le_rfl le_rfl outage final ran "groq"
  exact ⟨final, ran, facts.1 0 (congrArg Prod.fst seen), facts.2.2 (congrArg Prod.snd seen)⟩

end CortexGateway.Reliability
