import CortexGateway.Reliability.Failover

/-! # Selection and admission

`select_fallback` asks `can_execute` of every candidate, and each answer of a
HALF_OPEN breaker takes a trial slot.  The executor then asks once more for the
provider that was selected. -/
set_option autoImplicit false
namespace CortexGateway.Reliability
open CircuitBreakerRegistry ProviderCircuitBreaker

namespace ProviderCircuitBreaker
variable (breaker : ProviderCircuitBreaker) (now : ℚ)

/-! ## What can be seen of a breaker -/

/-- The trials taken in the current episode. -/
def usedTrials : ℕ :=
  if (breaker.resolveState now).state = .HALF_OPEN then
    (breaker.resolveState now).halfOpenTrialCount
  else 0

/-- The trials still to be taken in it. -/
def freeTrials : ℕ :=
  if (breaker.resolveState now).state = .HALF_OPEN then
    ((breaker.resolveState now).halfOpenTrials -
      ((breaker.resolveState now).halfOpenTrialCount : ℤ)).toNat
  else 0

def isClosed : Bool := (breaker.resolveState now).state = .CLOSED

@[simp] theorem resolveState_idem :
    (breaker.resolveState now).resolveState now = breaker.resolveState now := by
  rcases resolveState_cases breaker now with same | ⟨-, started⟩
  · rw [same, same]
  · rw [started]
    exact resolveState_halfOpen _ now rfl

@[simp] theorem usedTrials_resolveState :
    (breaker.resolveState now).usedTrials now = breaker.usedTrials now := by
  simp only [usedTrials, resolveState_idem]

@[simp] theorem freeTrials_resolveState :
    (breaker.resolveState now).freeTrials now = breaker.freeTrials now := by
  simp only [freeTrials, resolveState_idem]

@[simp] theorem isClosed_resolveState :
    (breaker.resolveState now).isClosed now = breaker.isClosed now := by
  simp only [isClosed, resolveState_idem]

theorem not_closed_of_freeTrials (free : breaker.freeTrials now ≠ 0) :
    breaker.isClosed now = false := by
  have halfOpen : (breaker.resolveState now).state = .HALF_OPEN := by
    by_contra other
    exact free (if_neg other)
  simp [isClosed, halfOpen]

theorem canExecute_resolved :
    (breaker.canExecute now = (true, breaker.resolveState now) ∧
        (breaker.resolveState now).state = .CLOSED) ∨
      (breaker.canExecute now = (false, breaker.resolveState now) ∧
        (breaker.resolveState now).state = .OPEN) ∨
      (breaker.canExecute now = (true, breaker.afterTrial now) ∧
        (breaker.resolveState now).state = .HALF_OPEN ∧
        ((breaker.resolveState now).halfOpenTrialCount : ℤ) <
          (breaker.resolveState now).halfOpenTrials) ∨
      (breaker.canExecute now = (false, breaker.resolveState now) ∧
        (breaker.resolveState now).state = .HALF_OPEN ∧
        (breaker.resolveState now).halfOpenTrials ≤
          ((breaker.resolveState now).halfOpenTrialCount : ℤ)) := by
  unfold canExecute afterTrial
  dsimp only
  generalize breaker.resolveState now = resolved
  cases shown : resolved.state with
  | CLOSED => exact Or.inl ⟨rfl, rfl⟩
  | OPEN => exact Or.inr (Or.inl ⟨rfl, rfl⟩)
  | HALF_OPEN =>
      by_cases room : (resolved.halfOpenTrialCount : ℤ) < resolved.halfOpenTrials
      · exact Or.inr (Or.inr (Or.inl ⟨by simp only [if_pos room], rfl, room⟩))
      · exact Or.inr (Or.inr (Or.inr ⟨by simp only [if_neg room], rfl, not_lt.mp room⟩))

theorem canExecute_allowed :
    (breaker.canExecute now).1 = (breaker.isClosed now || decide (0 < breaker.freeTrials now)) := by
  rcases canExecute_resolved breaker now with
    ⟨outcome, shown⟩ | ⟨outcome, shown⟩ | ⟨outcome, shown, room⟩ | ⟨outcome, shown, full⟩
  · simp [outcome, isClosed, shown]
  · simp [outcome, isClosed, freeTrials, shown]
  · rw [outcome]
    simpa [isClosed, freeTrials, shown] using room
  · rw [outcome]
    simpa [isClosed, freeTrials, shown] using full

/-- An answer takes one trial, if there is one, and changes nothing else that is seen. -/
theorem canExecute_observed :
    (breaker.canExecute now).2.usedTrials now =
        breaker.usedTrials now + min 1 (breaker.freeTrials now) ∧
      (breaker.canExecute now).2.freeTrials now = breaker.freeTrials now - 1 ∧
      (breaker.canExecute now).2.isClosed now = breaker.isClosed now := by
  rcases canExecute_resolved breaker now with
    ⟨outcome, shown⟩ | ⟨outcome, shown⟩ | ⟨outcome, shown, room⟩ | ⟨outcome, shown, full⟩
  · simp [outcome, usedTrials, freeTrials, isClosed, shown]
  · simp [outcome, usedTrials, freeTrials, isClosed, shown]
  · have again : (breaker.afterTrial now).resolveState now = breaker.afterTrial now :=
      resolveState_halfOpen _ now shown
    have still : (breaker.afterTrial now).state = .HALF_OPEN := shown
    simp only [outcome, usedTrials, freeTrials, isClosed, again, still, shown, if_true,
      afterTrial_halfOpenTrialCount, afterTrial_halfOpenTrials, resolveState_halfOpenTrials] at room ⊢
    push_cast
    exact ⟨by omega, by omega, trivial⟩
  · have none : breaker.freeTrials now = 0 := by
      simp only [freeTrials, shown, if_true]
      omega
    rw [outcome, usedTrials_resolveState, freeTrials_resolveState, isClosed_resolveState, none]
    simp

end ProviderCircuitBreaker

/-! ## What the filter takes -/

section Filter
variable (now : ℚ)

/-- The breaker of the provider admits it. -/
def admits (circuits : CircuitBreakerRegistry) (c : RoutingCandidate) : Bool :=
  (circuits.canExecute c.provider now).1

theorem admits_eq (circuits : CircuitBreakerRegistry) (c : RoutingCandidate) :
    admits now circuits c = ((circuits.breakerAt (key c.provider)).isClosed now ||
      decide (0 < (circuits.breakerAt (key c.provider)).freeTrials now)) :=
  canExecute_allowed (circuits.getBreaker c.provider) now

theorem breakerAt_canExecute (circuits : CircuitBreakerRegistry) (provider breakerKey : String) :
    (circuits.canExecute provider now).2.breakerAt breakerKey =
      if key provider = breakerKey then ((circuits.breakerAt breakerKey).canExecute now).2
      else circuits.breakerAt breakerKey := by
  split_ifs with own
  · subst own
    exact setBreaker_self _ _ _
  · exact setBreaker_other _ _ _ _ (Ne.symm own)

/-- The filter takes one trial for every candidate of a breaker, as long as it has any. -/
theorem filterAvailable_observed (circuits : CircuitBreakerRegistry) (pool : List RoutingCandidate)
    (breakerKey : String) :
    ((filterAvailable now circuits pool).2.breakerAt breakerKey).usedTrials now =
        (circuits.breakerAt breakerKey).usedTrials now +
          min (candidatesOf breakerKey pool) ((circuits.breakerAt breakerKey).freeTrials now) ∧
      ((filterAvailable now circuits pool).2.breakerAt breakerKey).freeTrials now =
        (circuits.breakerAt breakerKey).freeTrials now - candidatesOf breakerKey pool ∧
      ((filterAvailable now circuits pool).2.breakerAt breakerKey).isClosed now =
        (circuits.breakerAt breakerKey).isClosed now := by
  induction pool generalizing circuits with
  | nil => simp [filterAvailable, candidatesOf]
  | cons c rest ih =>
      obtain ⟨used, free, closed⟩ := ih (circuits.canExecute c.provider now).2
      simp only [filterAvailable]
      rw [used, free, closed, breakerAt_canExecute]
      split_ifs with own
      · obtain ⟨usedOne, freeOne, closedOne⟩ := canExecute_observed (circuits.breakerAt breakerKey) now
        have counted : candidatesOf breakerKey (c :: rest) = candidatesOf breakerKey rest + 1 := by
          simp [candidatesOf, own]
        rw [usedOne, freeOne, closedOne, counted]
        exact ⟨by omega, by omega, rfl⟩
      · have counted : candidatesOf breakerKey (c :: rest) = candidatesOf breakerKey rest := by
          simp [candidatesOf, own]
        rw [counted]
        exact ⟨rfl, rfl, rfl⟩

/-- The trial one candidate takes is not missed by a later one, if there is one for each. -/
theorem spares_later (circuits : CircuitBreakerRegistry) (c other : RoutingCandidate)
    (rest : List RoutingCandidate) (member : other ∈ rest)
    (enough : 0 < (circuits.breakerAt (key other.provider)).freeTrials now →
      candidatesOf (key other.provider) (c :: rest) ≤
        (circuits.breakerAt (key other.provider)).freeTrials now) :
    admits now (circuits.canExecute c.provider now).2 other = admits now circuits other ∧
      (0 < ((circuits.canExecute c.provider now).2.breakerAt (key other.provider)).freeTrials now →
        candidatesOf (key other.provider) rest ≤
          ((circuits.canExecute c.provider now).2.breakerAt (key other.provider)).freeTrials now) := by
  have present : 0 < candidatesOf (key other.provider) rest :=
    List.countP_pos_iff.mpr ⟨other, member, by simp⟩
  rw [admits_eq, admits_eq, breakerAt_canExecute]
  split_ifs with own
  · obtain ⟨-, freeOne, closedOne⟩ :=
      canExecute_observed (circuits.breakerAt (key other.provider)) now
    have counted : candidatesOf (key other.provider) (c :: rest) =
        candidatesOf (key other.provider) rest + 1 := by
      simp [candidatesOf, own]
    rw [counted] at enough
    rw [freeOne, closedOne]
    generalize (circuits.breakerAt (key other.provider)).freeTrials now = free at enough ⊢
    generalize candidatesOf (key other.provider) rest = others at present enough ⊢
    have same : (0 < free - 1) ↔ 0 < free := by omega
    exact ⟨by rw [decide_eq_decide.mpr same], by omega⟩
  · have counted : candidatesOf (key other.provider) (c :: rest) =
        candidatesOf (key other.provider) rest := by
      simp [candidatesOf, own]
    rw [counted] at enough
    exact ⟨rfl, enough⟩

/-- With enough trials for all of a provider's candidates the filter keeps just
those whose breaker admits. -/
theorem filterAvailable_eq (circuits : CircuitBreakerRegistry) (pool : List RoutingCandidate)
    (enough : ∀ c ∈ pool, 0 < (circuits.breakerAt (key c.provider)).freeTrials now →
      candidatesOf (key c.provider) pool ≤ (circuits.breakerAt (key c.provider)).freeTrials now) :
    (filterAvailable now circuits pool).1 = pool.filter (admits now circuits) := by
  induction pool generalizing circuits with
  | nil => rfl
  | cons c rest ih =>
      have later : ∀ other ∈ rest, _ := fun other member =>
        spares_later now circuits c other rest member
          (enough other (List.mem_cons_of_mem c member))
      have kept := ih (circuits.canExecute c.provider now).2 fun other member =>
        (later other member).2
      have same : rest.filter (admits now (circuits.canExecute c.provider now).2) =
          rest.filter (admits now circuits) :=
        List.filter_congr fun other member => (later other member).1
      simp only [filterAvailable, List.filter_cons]
      rw [kept, same]
      rfl

end Filter

/-! ## The selection -/

section Select
variable (engine : RoutingEngine) (circuits : CircuitBreakerRegistry)
variable (request : ChatCompletionRequest) (attemptedProviders : List String)
variable (candidates : List RoutingCandidate) (now : ℚ)

/-- The executor may call what is selected, and no other breaker has lost a trial. -/
structure AgreesWithAdmission : Prop where
  admitted : ∀ fallback, (selectFallback engine circuits request attemptedProviders candidates
      now).1 = some fallback →
    ((selectFallback engine circuits request attemptedProviders candidates now).2.canExecute
      fallback.provider now).1 = true
  untouched : ∀ breakerKey, (∀ fallback, (selectFallback engine circuits request
      attemptedProviders candidates now).1 = some fallback → key fallback.provider ≠ breakerKey) →
    ((selectFallback engine circuits request attemptedProviders candidates now).2.breakerAt
        breakerKey).usedTrials now = (circuits.breakerAt breakerKey).usedTrials now

/-- The free trials of the breaker of a candidate. -/
def trialsFor (c : RoutingCandidate) : ℕ := (circuits.getBreaker c.provider).freeTrials now

/-- No candidate is for a trial; or all that are belong to the provider ranked
first, which has more trials than candidates. -/
def SparesOthers : Prop :=
  (∀ c ∈ eligible attemptedProviders candidates, trialsFor circuits now c = 0) ∨
    ∃ best, rankFirst engine request
        ((eligible attemptedProviders candidates).filter (admits now circuits)) = some best ∧
      candidatesOf (key best.provider) (eligible attemptedProviders candidates) <
        trialsFor circuits now best ∧
      ∀ c ∈ eligible attemptedProviders candidates, trialsFor circuits now c ≠ 0 →
        key c.provider = key best.provider

/-- After the selection a breaker admits if it is closed, or has more trials
than candidates. -/
theorem admits_selected (fallback : RoutingCandidate) :
    ((selectFallback engine circuits request attemptedProviders candidates now).2.canExecute
        fallback.provider now).1 =
      ((circuits.getBreaker fallback.provider).isClosed now ||
        decide (candidatesOf (key fallback.provider) (eligible attemptedProviders candidates) <
          trialsFor circuits now fallback)) := by
  obtain ⟨-, free, closed⟩ := filterAvailable_observed now circuits
    (eligible attemptedProviders candidates) (key fallback.provider)
  have answers := admits_eq now
    (filterAvailable now circuits (eligible attemptedProviders candidates)).2 fallback
  rw [free, closed] at answers
  rw [selectFallback_eq]
  refine answers.trans ?_
  have same : (0 < (circuits.breakerAt (key fallback.provider)).freeTrials now -
      candidatesOf (key fallback.provider) (eligible attemptedProviders candidates)) ↔
      candidatesOf (key fallback.provider) (eligible attemptedProviders candidates) <
        trialsFor circuits now fallback := by
    exact Nat.sub_pos_iff_lt
  rw [decide_eq_decide.mpr same]
  rfl

theorem trial_taken (c : RoutingCandidate) (member : c ∈ eligible attemptedProviders candidates)
    (trial : trialsFor circuits now c ≠ 0) :
    ((selectFallback engine circuits request attemptedProviders candidates now).2.breakerAt
      (key c.provider)).usedTrials now ≠ (circuits.breakerAt (key c.provider)).usedTrials now := by
  obtain ⟨used, -, -⟩ := filterAvailable_observed now circuits
    (eligible attemptedProviders candidates) (key c.provider)
  have present : 0 < candidatesOf (key c.provider) (eligible attemptedProviders candidates) :=
    List.countP_pos_iff.mpr ⟨c, member, by simp⟩
  have free : 0 < (circuits.breakerAt (key c.provider)).freeTrials now := Nat.pos_of_ne_zero trial
  rw [selectFallback_eq, used]
  omega

theorem trials_kept (breakerKey : String)
    (none : ∀ c ∈ eligible attemptedProviders candidates, key c.provider = breakerKey →
      trialsFor circuits now c = 0) :
    ((selectFallback engine circuits request attemptedProviders candidates now).2.breakerAt
      breakerKey).usedTrials now = (circuits.breakerAt breakerKey).usedTrials now := by
  obtain ⟨used, -, -⟩ := filterAvailable_observed now circuits
    (eligible attemptedProviders candidates) breakerKey
  rw [selectFallback_eq, used]
  rcases Nat.eq_zero_or_pos (candidatesOf breakerKey (eligible attemptedProviders candidates)) with
    absent | present
  · rw [absent, Nat.zero_min, Nat.add_zero]
  · obtain ⟨c, member, own⟩ := List.countP_pos_iff.mp present
    have same : key c.provider = breakerKey := by simpa using own
    have free := none c member same
    simp only [trialsFor, getBreaker, same] at free
    rw [free, Nat.min_zero, Nat.add_zero]

/-- Where the trials suffice, the first of the candidates that are admitted is selected. -/
theorem selected_of_enough
    (enough : ∀ c ∈ eligible attemptedProviders candidates, trialsFor circuits now c ≠ 0 →
      candidatesOf (key c.provider) (eligible attemptedProviders candidates) ≤
        trialsFor circuits now c) :
    (selectFallback engine circuits request attemptedProviders candidates now).1 =
      rankFirst engine request
        ((eligible attemptedProviders candidates).filter (admits now circuits)) := by
  rw [selectFallback_eq, filterAvailable_eq]
  intro c member free
  exact enough c member (Nat.ne_of_gt free)

/-- More trials than candidates at the only provider with trials are enough for all. -/
theorem enough_of_spare (best : RoutingCandidate)
    (spare : candidatesOf (key best.provider) (eligible attemptedProviders candidates) <
      trialsFor circuits now best)
    (only : ∀ c ∈ eligible attemptedProviders candidates, trialsFor circuits now c ≠ 0 →
      key c.provider = key best.provider) :
    ∀ c ∈ eligible attemptedProviders candidates, trialsFor circuits now c ≠ 0 →
      candidatesOf (key c.provider) (eligible attemptedProviders candidates) ≤
        trialsFor circuits now c := by
  intro c member trial
  have keys := only c member trial
  simp only [trialsFor, getBreaker, keys] at spare ⊢
  exact spare.le

/-- Where selection agrees, a trial that is taken is one of the provider selected. -/
theorem selected_of_trial
    (agrees : AgreesWithAdmission engine circuits request attemptedProviders candidates now)
    (c : RoutingCandidate) (member : c ∈ eligible attemptedProviders candidates)
    (trial : trialsFor circuits now c ≠ 0) :
    ∃ fallback, (selectFallback engine circuits request attemptedProviders candidates now).1 =
      some fallback ∧ key fallback.provider = key c.provider := by
  by_contra others
  push Not at others
  exact trial_taken engine circuits request attemptedProviders candidates now c member trial
    (agrees.untouched (key c.provider) others)

theorem sparesOthers_of_agrees
    (agrees : AgreesWithAdmission engine circuits request attemptedProviders candidates now) :
    SparesOthers engine circuits request attemptedProviders candidates now := by
  by_cases none : ∀ c ∈ eligible attemptedProviders candidates, trialsFor circuits now c = 0
  · exact Or.inl none
  push Not at none
  obtain ⟨first, listed, trial⟩ := none
  have own := selected_of_trial engine circuits request attemptedProviders candidates now agrees
  obtain ⟨best, selected, same⟩ := own first listed trial
  have only : ∀ c ∈ eligible attemptedProviders candidates, trialsFor circuits now c ≠ 0 →
      key c.provider = key best.provider := by
    intro c member trial
    obtain ⟨fallback, also, sameKey⟩ := own c member trial
    rw [selected] at also
    cases also
    exact sameKey.symm
  have shared : trialsFor circuits now best = trialsFor circuits now first := by
    simp only [trialsFor, getBreaker, same]
  have spare : candidatesOf (key best.provider) (eligible attemptedProviders candidates) <
      trialsFor circuits now best := by
    have admitted := agrees.admitted best selected
    rw [admits_selected] at admitted
    have open? : (circuits.getBreaker best.provider).isClosed now = false :=
      not_closed_of_freeTrials _ now fun none => trial (shared.symm.trans none)
    simpa [open?] using admitted
  have ranked := selected_of_enough engine circuits request attemptedProviders candidates now
    (enough_of_spare circuits attemptedProviders candidates now best spare only)
  exact Or.inr ⟨best, ranked.symm.trans selected, spare, only⟩

/-- With no breaker on trial the candidates are observed without a change. -/
theorem agrees_of_noTrials
    (none : ∀ c ∈ eligible attemptedProviders candidates, trialsFor circuits now c = 0) :
    AgreesWithAdmission engine circuits request attemptedProviders candidates now := by
  have selects := selected_of_enough engine circuits request attemptedProviders candidates now
    fun c member trial => absurd (none c member) trial
  constructor
  · intro fallback selected
    rw [selects] at selected
    obtain ⟨member, admitted⟩ :=
      List.mem_filter.mp (rankFirst_mem engine request _ fallback selected)
    rw [admits_eq] at admitted
    have free : (circuits.breakerAt (key fallback.provider)).freeTrials now = 0 :=
      none fallback member
    rw [admits_selected]
    simpa [free, getBreaker] using Or.inl admitted
  · intro breakerKey _
    exact trials_kept engine circuits request attemptedProviders candidates now breakerKey
      fun c member _ => none c member

theorem agrees_of_spare (best : RoutingCandidate)
    (ranked : rankFirst engine request
      ((eligible attemptedProviders candidates).filter (admits now circuits)) = some best)
    (spare : candidatesOf (key best.provider) (eligible attemptedProviders candidates) <
      trialsFor circuits now best)
    (only : ∀ c ∈ eligible attemptedProviders candidates, trialsFor circuits now c ≠ 0 →
      key c.provider = key best.provider) :
    AgreesWithAdmission engine circuits request attemptedProviders candidates now := by
  have selects := selected_of_enough engine circuits request attemptedProviders candidates now
    (enough_of_spare circuits attemptedProviders candidates now best spare only)
  constructor
  · intro fallback selected
    rw [selects, ranked] at selected
    cases selected
    rw [admits_selected]
    simp [spare]
  · intro breakerKey others
    have other := others best (selects.trans ranked)
    apply trials_kept
    intro c member own
    by_contra trial
    exact other ((only c member trial).symm.trans own)

/-- Selection agrees with admission exactly if it spares every other provider. -/
theorem agreesWithAdmission_iff :
    AgreesWithAdmission engine circuits request attemptedProviders candidates now ↔
      SparesOthers engine circuits request attemptedProviders candidates now := by
  constructor
  · exact sparesOthers_of_agrees engine circuits request attemptedProviders candidates now
  · rintro (none | ⟨best, ranked, spare, only⟩)
    · exact agrees_of_noTrials engine circuits request attemptedProviders candidates now none
    · exact agrees_of_spare engine circuits request attemptedProviders candidates now best ranked
        spare only

end Select

/-! ## Two recovering providers -/

/-- A HALF_OPEN breaker with its one trial. -/
def recoveringBreaker : ProviderCircuitBreaker :=
  { failureThreshold := 5
    cooldownSeconds := 30
    halfOpenTrials := 1
    state := .HALF_OPEN
    failureCount := 5
    lastFailureTime := some 0
    halfOpenTrialCount := 0
    episode := 1 }

def recovering : CircuitBreakerRegistry :=
  ⟨5, 30, 1, fun breakerKey =>
    if breakerKey = "gemini" ∨ breakerKey = "groq" then some recoveringBreaker else none⟩

def slowModel : RoutingCandidate := ⟨"gemini", "flash", ["text"], 8192, 1/100, true, 500, none, 1, 0⟩

def fastModel : RoutingCandidate := ⟨"groq", "llama", ["text"], 8192, 1/100, true, 400, none, 1, 0⟩

/-- A failover of the greeting to one of the two. -/
def recoveringSelection : Option RoutingCandidate × CircuitBreakerRegistry :=
  selectFallback ⟨⟨["gemini", "groq"]⟩, .auto⟩ recovering hello ["ollama"] [slowModel, fastModel] 40

/-- The provider that is selected is then refused, and the other has lost its trial. -/
theorem selection_takes_trials :
    recoveringSelection.1 = some fastModel ∧
      (recoveringSelection.2.canExecute "groq" 40).1 = false ∧
      (recoveringSelection.2.breakerAt "gemini").usedTrials 40 = 1 ∧
      (recovering.breakerAt "gemini").usedTrials 40 = 0 ∧
      ¬ AgreesWithAdmission ⟨⟨["gemini", "groq"]⟩, .auto⟩ recovering hello ["ollama"]
        [slowModel, fastModel] 40 := by
  have selected : recoveringSelection.1 = some fastModel := by decide +kernel
  have refused : (recoveringSelection.2.canExecute "groq" 40).1 = false := by decide +kernel
  refine ⟨selected, refused, by decide +kernel, by decide +kernel, fun agrees => ?_⟩
  have admitted : (recoveringSelection.2.canExecute "groq" 40).1 = true :=
    agrees.admitted fastModel selected
  rw [refused] at admitted
  cases admitted

end CortexGateway.Reliability
