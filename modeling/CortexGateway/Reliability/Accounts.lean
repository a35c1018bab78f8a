import CortexGateway.Reliability.Attempts

/-! # The accounts are exact

What the attempts of a request look like at each of its awaits, and how many
awaits there can be. -/
set_option autoImplicit false
namespace CortexGateway.Reliability
open CircuitBreakerRegistry Stats Blocks

@[simp] theorem providers_failed (accounts : Accounts) (task : Task) :
    (accounts.failed task).providers = task.currentProvider :: accounts.providers := rfl

@[simp] theorem providers_succeeded (accounts : Accounts) (task : Task)
    (response : ChatCompletionResponse) :
    (accounts.succeeded task response).providers = task.currentProvider :: accounts.providers := rfl

/-! ## The tracker -/

/-- The totals of the tracker have grown by the attempts that have ended. -/
def Told (tracker : ProviderStatsTracker) (accounts : Accounts) : Prop :=
  ∀ name, (accounts.tracker.statsAt name).totalRequests =
      (tracker.statsAt name).totalRequests + (accounts.attemptsAt name).length ∧
    (accounts.tracker.statsAt name).successfulRequests =
      (tracker.statsAt name).successfulRequests +
        (accounts.attemptsAt name).countP Attempt.isSuccess ∧
    (accounts.tracker.statsAt name).failedRequests =
      (tracker.statsAt name).failedRequests +
        (accounts.attemptsAt name).countP fun attempt => !attempt.isSuccess

theorem told_failed {tracker : ProviderStatsTracker} {accounts : Accounts}
    (told : Told tracker accounts) (task : Task) : Told tracker (accounts.failed task) := by
  intro name
  obtain ⟨total, successes, failures⟩ := told name
  by_cases own : ProviderStatsTracker.key task.currentProvider task.currentModel = name
  · subst own
    simp only [Accounts.failed, ProviderStatsTracker.statsAt_recordFailure, if_true,
      ModelStats.recordFailure, Accounts.attemptsAt, List.filter_cons_of_pos, decide_true,
      List.length_cons, List.countP_cons] at total successes failures ⊢
    exact ⟨by omega, by simpa using successes, by simp only [Bool.not_false, if_true]; omega⟩
  · simp only [Accounts.failed, ProviderStatsTracker.statsAt_recordFailure, if_neg (Ne.symm own),
      Accounts.attemptsAt, List.filter_cons, own, decide_false, Bool.false_eq_true, if_false]
    exact ⟨total, successes, failures⟩

theorem told_succeeded {tracker : ProviderStatsTracker} {accounts : Accounts}
    (told : Told tracker accounts) (task : Task) (response : ChatCompletionResponse) :
    Told tracker (accounts.succeeded task response) := by
  intro name
  obtain ⟨total, successes, failures⟩ := told name
  by_cases own : ProviderStatsTracker.key task.currentProvider task.currentModel = name
  · subst own
    simp only [Accounts.succeeded, ProviderStatsTracker.statsAt_recordSuccess, if_true,
      ModelStats.recordSuccess, Accounts.attemptsAt, List.filter_cons_of_pos, decide_true,
      List.length_cons, List.countP_cons] at total successes failures ⊢
    exact ⟨by omega, by omega, by simpa using failures⟩
  · simp only [Accounts.succeeded, ProviderStatsTracker.statsAt_recordSuccess,
      if_neg (Ne.symm own), Accounts.attemptsAt, List.filter_cons, own, decide_false,
      Bool.false_eq_true, if_false]
    exact ⟨total, successes, failures⟩

/-! ## The attempts -/

section Accounts
variable (R F : ℕ)

/-- The attempts on a provider stand in one block of at most `1 + R`, and there
are at most `1 + F` blocks. -/
structure Booked (tracker : ProviderStatsTracker) (accounts : Accounts) : Prop where
  grouped : Grouped accounts.providers
  few : ∀ provider, accounts.providers.count provider ≤ 1 + R
  spread : accounts.providers.toFinset.card ≤ 1 + F
  told : Told tracker accounts

/-- Before a provider is entered: it is none of those attempted. -/
structure Arriving (task : Task) (accounts : Accounts) : Prop where
  nodup : task.attemptedProviders.Nodup
  number : task.attemptedProviders.length = task.failoverAttempts
  fresh : lower task.currentProvider ∉ task.attemptedProviders
  known : ∀ provider ∈ accounts.providers, lower provider ∈ task.attemptedProviders
  spread : accounts.providers.toFinset.card ≤ task.failoverAttempts
  retries : task.retryCount + accounts.providers.toFinset.card = accounts.providers.length

/-- Once it is entered. -/
structure Visiting (task : Task) (accounts : Accounts) : Prop where
  nodup : task.attemptedProviders.Nodup
  number : task.attemptedProviders.length = task.failoverAttempts + 1
  within : task.failoverAttempts ≤ F
  known : ∀ provider ∈ accounts.providers, lower provider ∈ task.attemptedProviders

/-- Before the attempt with this index on the current provider. -/
structure Trying (task : Task) (accounts : Accounts) (attemptIdx : ℕ) : Prop extends
    Visiting F task accounts where
  fits : attemptIdx ≤ R
  tried : accounts.providers.count task.currentProvider = attemptIdx
  joins : accounts.providers.head? = some task.currentProvider ∨
    task.currentProvider ∉ accounts.providers
  entered : lower task.currentProvider ∈ task.attemptedProviders
  spread : (insert task.currentProvider accounts.providers.toFinset).card ≤
    task.failoverAttempts + 1
  retries : task.retryCount + (insert task.currentProvider accounts.providers.toFinset).card =
    accounts.providers.length + 1

/-- After the last attempt on a provider. -/
structure Done (task : Task) (accounts : Accounts) : Prop extends Visiting F task accounts where
  spread : accounts.providers.toFinset.card ≤ task.failoverAttempts + 1
  retries : task.retryCount + accounts.providers.toFinset.card = accounts.providers.length

/-- What the metadata of the answer says. -/
structure Answered (task : Task) (accounts : Accounts) (response : ChatCompletionResponse) :
    Prop where
  retries : response.metadata.retryCount + accounts.providers.toFinset.card =
    accounts.providers.length
  failovers : response.metadata.failoverAttempts + 1 = task.attemptedProviders.toFinset.card
  within : response.metadata.failoverAttempts ≤ F

def Standing (task : Task) (accounts : Accounts) : Prop :=
  match task.control with
  | .selecting _ => Done F task accounts
  | .sleeping attemptIdx _ => 0 < attemptIdx ∧ Trying R F task accounts attemptIdx
  | .calling attemptIdx => Trying R F task accounts attemptIdx
  | .returned response => Answered F task accounts response
  | .raised _ => True

/-- How many awaits may have ended before the one the task stands at. -/
def place (task : Task) : ℕ :=
  match task.control with
  | .selecting _ => task.failoverAttempts * (2 * R + 3) + (2 * R + 1)
  | .sleeping attemptIdx _ => task.failoverAttempts * (2 * R + 3) + (2 * attemptIdx - 1)
  | .calling attemptIdx => task.failoverAttempts * (2 * R + 3) + 2 * attemptIdx
  | .returned _ => (F + 1) * (2 * R + 3)
  | .raised _ => (F + 1) * (2 * R + 3)

/-- After so many awaits the accounts hold and the task stands where it should. -/
structure Sound (tracker : ProviderStatsTracker) (awaits : ℕ) (accounts : Accounts)
    (task : Task) : Prop where
  booked : Booked R F tracker accounts
  standing : Standing R F task accounts
  reached : awaits ≤ place R F task

variable {R F}
variable {tracker : ProviderStatsTracker} {accounts : Accounts} {task : Task}
variable {attemptIdx awaits : ℕ}

theorem Visiting.of_same {later : Task} (visiting : Visiting F task accounts)
    (attempted : later.attemptedProviders = task.attemptedProviders)
    (failovers : later.failoverAttempts = task.failoverAttempts) : Visiting F later accounts := by
  refine ⟨?_, ?_, ?_, ?_⟩
  · exact attempted ▸ visiting.nodup
  · rw [attempted, failovers]
    exact visiting.number
  · exact failovers ▸ visiting.within
  · exact attempted ▸ visiting.known

theorem Trying.of_same {later : Task} (trying : Trying R F task accounts attemptIdx)
    (provider : later.currentProvider = task.currentProvider)
    (attempted : later.attemptedProviders = task.attemptedProviders)
    (failovers : later.failoverAttempts = task.failoverAttempts)
    (retried : later.retryCount = task.retryCount) : Trying R F later accounts attemptIdx := by
  refine ⟨trying.toVisiting.of_same attempted failovers, trying.fits, ?_, ?_, ?_, ?_, ?_⟩
  · exact provider ▸ trying.tried
  · exact provider ▸ trying.joins
  · rw [provider, attempted]
    exact trying.entered
  · rw [provider, failovers]
    exact trying.spread
  · rw [provider, retried]
    exact trying.retries

theorem Done.of_same {later : Task} (done : Done F task accounts)
    (attempted : later.attemptedProviders = task.attemptedProviders)
    (failovers : later.failoverAttempts = task.failoverAttempts)
    (retried : later.retryCount = task.retryCount) : Done F later accounts := by
  refine ⟨done.toVisiting.of_same attempted failovers, ?_, ?_⟩
  · exact failovers ▸ done.spread
  · exact retried ▸ done.retries

theorem Booked.attempt {next : Accounts} (booked : Booked R F tracker accounts)
    (trying : Trying R F task accounts attemptIdx)
    (adds : next.providers = task.currentProvider :: accounts.providers)
    (told : Told tracker next) : Booked R F tracker next := by
  refine ⟨?_, fun provider => ?_, ?_, told⟩
  · rw [adds]
    exact ⟨trying.joins, booked.grouped⟩
  · rw [adds]
    by_cases own : task.currentProvider = provider
    · subst own
      rw [List.count_cons_self, trying.tried]
      have := trying.fits
      omega
    · rw [List.count_cons_of_ne own]
      exact booked.few provider
  · rw [adds, List.toFinset_cons]
    have within := trying.within
    have spread := trying.spread
    omega

theorem Trying.done {next : Accounts} (trying : Trying R F task accounts attemptIdx)
    (adds : next.providers = task.currentProvider :: accounts.providers) : Done F task next := by
  refine ⟨⟨trying.nodup, trying.number, trying.within, ?_⟩, ?_, ?_⟩
  · intro provider member
    rw [adds] at member
    rcases List.mem_cons.mp member with rfl | earlier
    · exact trying.entered
    · exact trying.known provider earlier
  · rw [adds, List.toFinset_cons]
    exact trying.spread
  · rw [adds, List.toFinset_cons]
    exact trying.retries

theorem Trying.again {next : Accounts} {later : Task}
    (trying : Trying R F task accounts attemptIdx) (fits : attemptIdx + 1 ≤ R)
    (adds : next.providers = task.currentProvider :: accounts.providers)
    (provider : later.currentProvider = task.currentProvider)
    (attempted : later.attemptedProviders = task.attemptedProviders)
    (failovers : later.failoverAttempts = task.failoverAttempts)
    (retried : later.retryCount = task.retryCount + 1) :
    Trying R F later next (attemptIdx + 1) := by
  have done := trying.done adds
  refine ⟨done.toVisiting.of_same attempted failovers, fits, ?_, ?_, ?_, ?_, ?_⟩
  · rw [provider, adds, List.count_cons_self, trying.tried]
  · rw [provider, adds]
    exact .inl rfl
  · rw [provider, attempted]
    exact trying.entered
  · rw [provider, failovers, adds, List.toFinset_cons, Finset.insert_idem]
    exact trying.spread
  · rw [provider, retried, adds, List.toFinset_cons, Finset.insert_idem, List.length_cons]
    have retries := trying.retries
    omega

theorem Arriving.visiting {later : Task} (arriving : Arriving task accounts)
    (within : task.failoverAttempts ≤ F)
    (attempted : later.attemptedProviders = lower task.currentProvider :: task.attemptedProviders)
    (failovers : later.failoverAttempts = task.failoverAttempts) : Visiting F later accounts := by
  refine ⟨?_, ?_, ?_, ?_⟩
  · rw [attempted]
    exact List.nodup_cons.mpr ⟨arriving.fresh, arriving.nodup⟩
  · rw [attempted, failovers, List.length_cons, arriving.number]
  · exact failovers ▸ within
  · intro other member
    rw [attempted]
    exact List.mem_cons_of_mem _ (arriving.known other member)

theorem Arriving.trying {later : Task} (arriving : Arriving task accounts)
    (within : task.failoverAttempts ≤ F) (provider : later.currentProvider = task.currentProvider)
    (attempted : later.attemptedProviders = lower task.currentProvider :: task.attemptedProviders)
    (failovers : later.failoverAttempts = task.failoverAttempts)
    (retried : later.retryCount = task.retryCount) : Trying R F later accounts 0 := by
  have untried : task.currentProvider ∉ accounts.providers := fun tried =>
    arriving.fresh (arriving.known _ tried)
  have card : (insert task.currentProvider accounts.providers.toFinset).card =
      accounts.providers.toFinset.card + 1 :=
    Finset.card_insert_of_notMem (by simpa using untried)
  refine ⟨arriving.visiting within attempted failovers, Nat.zero_le R, ?_, ?_, ?_, ?_, ?_⟩
  · rw [provider]
    exact List.count_eq_zero.mpr untried
  · rw [provider]
    exact .inr untried
  · rw [provider, attempted]
    exact List.mem_cons_self
  · rw [provider, failovers, card]
    exact Nat.succ_le_succ arriving.spread
  · rw [provider, retried, card]
    have retries := arriving.retries
    omega

/-- A provider whose circuit is open is left at once. -/
theorem Arriving.refused {later : Task} (arriving : Arriving task accounts)
    (within : task.failoverAttempts ≤ F)
    (attempted : later.attemptedProviders = lower task.currentProvider :: task.attemptedProviders)
    (failovers : later.failoverAttempts = task.failoverAttempts)
    (retried : later.retryCount = task.retryCount) : Done F later accounts := by
  refine ⟨arriving.visiting within attempted failovers, ?_, ?_⟩
  · rw [failovers]
    exact arriving.spread.trans (Nat.le_succ _)
  · rw [retried]
    exact arriving.retries

theorem place_le (failovers : ℕ) (within : failovers ≤ F) (offset : ℕ) (short : offset ≤ 2 * R + 3) :
    failovers * (2 * R + 3) + offset ≤ (F + 1) * (2 * R + 3) := by
  calc failovers * (2 * R + 3) + offset ≤ F * (2 * R + 3) + (2 * R + 3) :=
        Nat.add_le_add (Nat.mul_le_mul_right _ within) short
    _ = (F + 1) * (2 * R + 3) := by ring

theorem sound_raising (booked : Booked R F tracker accounts)
    (reached : awaits ≤ (F + 1) * (2 * R + 3)) (task : Task) (exc : Exc) :
    Sound R F tracker awaits accounts (task.raising exc) :=
  ⟨booked, trivial, reached⟩

theorem Sound.awaits_le (sound : Sound R F tracker awaits accounts task) :
    awaits ≤ (F + 1) * (2 * R + 3) := by
  obtain ⟨-, standing, reached⟩ := sound
  unfold Standing at standing
  unfold place at reached
  cases control : task.control with
  | selecting circuitErr =>
      rw [control] at standing reached
      exact reached.trans (place_le task.failoverAttempts standing.within (2 * R + 1) (by omega))
  | sleeping attemptIdx wakeAt =>
      rw [control] at standing reached
      obtain ⟨-, trying⟩ := standing
      have fits := trying.fits
      exact reached.trans
        (place_le task.failoverAttempts trying.within (2 * attemptIdx - 1) (by omega))
  | calling attemptIdx =>
      rw [control] at standing reached
      have fits := standing.fits
      exact reached.trans
        (place_le task.failoverAttempts standing.within (2 * attemptIdx) (by omega))
  | returned response =>
      rw [control] at reached
      exact reached
  | raised exc =>
      rw [control] at reached
      exact reached

variable (executor : ReliabilityExecutor)

theorem callProvider_sound (shared : Shared) (booked : Booked R F tracker accounts)
    (trying : Trying R F task accounts attemptIdx)
    (reached : awaits ≤ task.failoverAttempts * (2 * R + 3) + 2 * attemptIdx) :
    Sound R F tracker awaits (callRecords executor task accounts)
      (callProvider executor shared task attemptIdx).2 := by
  unfold callProvider callRecords
  cases executor.engine.registry.get task.currentProvider with
  | ok _ => exact ⟨booked, trying.of_same rfl rfl rfl rfl, reached⟩
  | error exc =>
      refine sound_raising (booked.attempt trying (providers_failed accounts task)
        (told_failed booked.told task)) (reached.trans ?_) _ exc
      have fits := trying.fits
      exact place_le task.failoverAttempts trying.within (2 * attemptIdx) (by omega)

theorem retryAttempt_sound (shared : Shared) (draw : ℚ) (booked : Booked R F tracker accounts)
    (trying : Trying R F { task with retryCount := task.retryCount + 1 } accounts (attemptIdx + 1))
    (reached : awaits ≤ task.failoverAttempts * (2 * R + 3) + (2 * attemptIdx + 1)) :
    Sound R F tracker awaits
      (retryRecords executor shared.now task (attemptIdx + 1) draw accounts)
      (retryAttempt executor shared task (attemptIdx + 1) draw).2 := by
  have fits := trying.fits
  have last : awaits ≤ (F + 1) * (2 * R + 3) :=
    reached.trans (place_le task.failoverAttempts trying.within (2 * attemptIdx + 1) (by omega))
  simp only [retryAttempt, retryRecords]
  split_ifs with late tooLong sleeps
  · exact sound_raising booked last task _
  · exact sound_raising booked last task _
  · exact ⟨booked, ⟨Nat.succ_pos _, trying.of_same rfl rfl rfl rfl⟩, reached⟩
  · refine callProvider_sound executor shared booked trying ?_
    change awaits ≤ task.failoverAttempts * (2 * R + 3) + 2 * (attemptIdx + 1)
    omega

theorem failoverTrigger_sound (shared : Shared) (recorded : Bool)
    (booked : Booked R F tracker accounts) (done : Done F task accounts)
    (reached : awaits ≤ task.failoverAttempts * (2 * R + 3) + (2 * R + 1)) :
    Sound R F tracker awaits accounts (failoverTrigger executor shared task recorded).2 := by
  have last : awaits ≤ (F + 1) * (2 * R + 3) :=
    reached.trans (place_le task.failoverAttempts done.within (2 * R + 1) (by omega))
  simp only [failoverTrigger]
  split_ifs
  · exact sound_raising booked last task _
  · exact sound_raising booked last task _
  · exact ⟨booked, done.of_same rfl rfl rfl, reached⟩

section Settings
variable (retries : executor.retryPolicy.maxRetries = R)

include retries

theorem attemptFailed_sound (shared : Shared) (exc : Exc) (draw : ℚ)
    (booked : Booked R F tracker accounts) (trying : Trying R F task accounts attemptIdx)
    (reached : awaits ≤ task.failoverAttempts * (2 * R + 3) + (2 * attemptIdx + 1)) :
    Sound R F tracker awaits
      (failureRecords executor shared.now task attemptIdx exc draw accounts)
      (attemptFailed executor shared task attemptIdx exc draw).2 := by
  have fits := trying.fits
  have last : awaits ≤ (F + 1) * (2 * R + 3) :=
    reached.trans (place_le task.failoverAttempts trying.within (2 * attemptIdx + 1) (by omega))
  have more : Booked R F tracker (accounts.failed task) :=
    booked.attempt trying (providers_failed accounts task) (told_failed booked.told task)
  cases transient : isTransientError exc with
  | false =>
      rw [attemptFailed_permanent executor shared task attemptIdx exc draw transient]
      simp only [failureRecords, transient, Bool.not_false, if_true]
      exact sound_raising more last (task.failing exc) exc
  | true =>
      by_cases final : (attemptIdx : ℤ) = executor.retryPolicy.maxRetries
      · rw [attemptFailed_last executor shared task attemptIdx exc draw transient final]
        simp only [failureRecords, transient, Bool.not_true, Bool.false_eq_true, if_false,
          if_pos final]
        have done := trying.done (providers_failed accounts task)
        have spent : attemptIdx = R := by omega
        refine failoverTrigger_sound executor _ true more (done.of_same rfl rfl rfl) ?_
        exact spent ▸ reached
      · rw [attemptFailed_again executor shared task attemptIdx exc draw transient final]
        simp only [failureRecords, transient, Bool.not_true, Bool.false_eq_true, if_false,
          if_neg final]
        have again : Trying R F
            { task.failing exc with retryCount := (task.failing exc).retryCount + 1 }
            (accounts.failed task) (attemptIdx + 1) :=
          trying.again (by omega) (providers_failed accounts task) rfl rfl rfl rfl
        exact retryAttempt_sound executor shared draw more again reached

end Settings

theorem attemptSucceeded_sound (shared : Shared) (response : ChatCompletionResponse)
    (booked : Booked R F tracker accounts) (trying : Trying R F task accounts attemptIdx)
    (reached : awaits ≤ (F + 1) * (2 * R + 3)) :
    Sound R F tracker awaits (accounts.succeeded task response)
      (attemptSucceeded shared task response).2 := by
  have done := trying.done (providers_succeeded accounts task response)
  refine ⟨booked.attempt trying (providers_succeeded accounts task response)
    (told_succeeded booked.told task response), ⟨done.retries, ?_, done.within⟩, reached⟩
  change task.failoverAttempts + 1 = task.attemptedProviders.toFinset.card
  rw [List.toFinset_card_of_nodup done.nodup, done.number]

section Settings
variable (retries : executor.retryPolicy.maxRetries = R)
variable (failovers : executor.maxFailoverAttempts = F)

include retries failovers

theorem enterProvider_sound (shared : Shared) (booked : Booked R F tracker accounts)
    (arriving : Arriving task accounts) (near : task.failoverAttempts ≤ F + 1)
    (reached : awaits ≤ task.failoverAttempts * (2 * R + 3)) :
    Sound R F tracker awaits (enterRecords executor shared task accounts)
      (enterProvider executor shared task).2 := by
  have last : awaits ≤ (F + 1) * (2 * R + 3) :=
    reached.trans (Nat.mul_le_mul_right _ near)
  unfold enterRecords
  by_cases beyond : executor.maxFailoverAttempts < (task.failoverAttempts : ℤ)
  · simp only [enterProvider, if_pos beyond]
    exact sound_raising booked last task _
  by_cases late : task.deadlineTimestamp ≤ shared.now
  · simp only [enterProvider, if_neg beyond, if_pos late]
    exact sound_raising booked last task _
  have within : task.failoverAttempts ≤ F := by omega
  rcases outcome : shared.circuits.canExecute task.currentProvider shared.now with
    ⟨allowed, circuits⟩
  cases allowed with
  | true =>
      have someRetries : 0 ≤ executor.retryPolicy.maxRetries := by omega
      rw [enterProvider_admitted executor shared task circuits beyond late someRetries outcome]
      simp only [if_neg beyond, if_neg late, Bool.not_true, Bool.false_eq_true, if_false,
        if_neg (not_lt.mpr someRetries)]
      have trying : Trying R F (task.ticketed circuits) accounts 0 :=
        arriving.trying within rfl rfl rfl rfl
      exact callProvider_sound executor _ booked trying reached
  | false =>
      simp only [enterProvider, if_neg beyond, if_neg late, outcome, Bool.false_eq_true, if_false,
        Bool.not_false, if_true]
      split_ifs with disabled
      · exact sound_raising booked last _ _
      · exact ⟨booked, arriving.refused within rfl rfl rfl, reached.trans (Nat.le_add_right _ _)⟩

theorem candidatesFound_sound (shared : Shared) (circuitErr : Option Exc)
    (found : List RoutingCandidate) (booked : Booked R F tracker accounts)
    (done : Done F task accounts)
    (reached : awaits ≤ task.failoverAttempts * (2 * R + 3) + (2 * R + 2)) :
    Sound R F tracker awaits (candidateRecords executor shared task found accounts)
      (candidatesFound executor shared task circuitErr found).2 := by
  have last : awaits ≤ (F + 1) * (2 * R + 3) :=
    reached.trans (place_le task.failoverAttempts done.within (2 * R + 2) (by omega))
  simp only [candidatesFound, candidateRecords]
  cases selected : (selectFallback executor.engine shared.circuits task.request
      task.attemptedProviders found shared.now).1 with
  | none =>
      cases circuitErr with
      | none => exact sound_raising booked last task _
      | some exc => exact sound_raising booked last task exc
  | some fallback =>
      obtain ⟨-, unattempted⟩ := selectFallback_not_attempted _ _ _ _ _ _ _ selected
      have fresh : lower fallback.provider ∉ task.attemptedProviders := fun attempted =>
        unattempted (List.mem_map.mpr ⟨_, attempted, lower_lower _⟩)
      have moved : Arriving { task with
          failoverTriggered := true
          failoverAttempts := task.failoverAttempts + 1
          currentProvider := fallback.provider
          currentModel := fallback.model } accounts :=
        ⟨done.nodup, done.number, fresh, done.known, done.spread, done.retries⟩
      have near : task.failoverAttempts + 1 ≤ F + 1 := Nat.succ_le_succ done.within
      have arrived : awaits ≤ (task.failoverAttempts + 1) * (2 * R + 3) := by
        rw [Nat.add_mul]
        omega
      cases circuitErr with
      | none => exact enterProvider_sound executor retries failovers _ booked moved near arrived
      | some exc => exact enterProvider_sound executor retries failovers _ booked moved near arrived

theorem turned_sound (shared : Shared) (after : Shared × Task) (next : Accounts)
    (sound : Sound R F tracker awaits accounts task)
    (turned : Turned executor shared task accounts after next) :
    Sound R F tracker (awaits + 1) next after.2 := by
  obtain ⟨booked, standing, reached⟩ := sound
  unfold Standing at standing
  unfold place at reached
  cases turned with
  | woken attemptIdx wakeAt control =>
      rw [control] at standing reached
      obtain ⟨later, trying⟩ := standing
      refine callProvider_sound executor shared booked trying ?_
      dsimp only at reached
      omega
  | responded attemptIdx response control =>
      rw [control] at standing reached
      have fits := standing.fits
      exact attemptSucceeded_sound shared response booked standing ((Nat.succ_le_succ reached).trans
        (place_le task.failoverAttempts standing.within (2 * attemptIdx + 1) (by omega)))
  | failed attemptIdx exc draw control =>
      rw [control] at standing reached
      exact attemptFailed_sound executor retries shared exc draw booked standing
        (Nat.succ_le_succ reached)
  | candidates circuitErr found control =>
      rw [control] at standing reached
      exact candidatesFound_sound executor retries failovers shared circuitErr found booked standing
        (Nat.succ_le_succ reached)

/-- The accounts hold at every await of a request. -/
theorem running_sound {arguments : Arguments}
    (running : Running executor arguments tracker awaits accounts task) :
    Sound R F tracker awaits accounts task := by
  induction running with
  | started shared =>
      have unattempted : Booked R F tracker ⟨[], tracker⟩ :=
        ⟨trivial, fun _ => Nat.zero_le _, Nat.zero_le _, fun _ => ⟨rfl, rfl, rfl⟩⟩
      refine enterProvider_sound executor retries failovers shared unattempted
        ⟨List.nodup_nil, rfl, List.not_mem_nil, ?_, Nat.zero_le _, rfl⟩ (Nat.zero_le _)
        (Nat.zero_le _)
      intro provider member
      cases member
  | @resumed awaits accounts task running shared event ends after outcome sound =>
      obtain ⟨_, resumed, turned⟩ := turned_of_ends executor shared task event accounts ends
      cases outcome.symm.trans resumed
      exact turned_sound executor retries failovers shared after _ sound turned

end Settings

end Accounts

end CortexGateway.Reliability
