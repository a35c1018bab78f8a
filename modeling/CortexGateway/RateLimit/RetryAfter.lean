import CortexGateway.RateLimit.Overrides

/-! # How long a rejected request is told to wait

`check_all` names the longest life among the counters that refused a request.
When these are gone the windows that refused it are over.  The scopes that had
room have counted the request too, and are not asked. -/
set_option autoImplicit false
namespace CortexGateway.RateLimiting
open SlidingWindow Exits

/-! ## The three scopes -/

inductive Scope
  | key
  | team
  | org
  deriving DecidableEq

namespace Scope

def name : Scope → String
  | .key => "key"
  | .team => "team"
  | .org => "org"

def identifier (limits : RateLimits) : Scope → String
  | .key => limits.apiKeyId
  | .team => limits.teamId
  | .org => limits.orgId

def limit (limits : RateLimits) : Scope → ℤ
  | .key => limits.keyLimit
  | .team => limits.teamLimit
  | .org => limits.orgLimit

def window (limits : RateLimits) : Scope → ℤ
  | .key => limits.keyWindow
  | .team => limits.teamWindow
  | .org => limits.orgWindow

/-- When `check_all` checks this scope. -/
def time (ct : CheckTimes) : Scope → ℚ
  | .key => ct.keyAt
  | .team => ct.teamAt
  | .org => ct.orgAt

end Scope

theorem counterKey_ne {scope other : Scope} {first second : String}
    (differ : scope ≠ other ∨ first ≠ second) (start later : ℤ) :
    counterKey scope.name first start ≠ counterKey other.name second later := by
  by_cases same : scope = other
  · subst same
    intro keys
    exact differ.elim (fun ne => ne rfl) fun ne => ne (counterKey_identifier keys)
  · refine counterKey_scope first second start later fun a b => ?_
    cases scope <;> cases other <;> simp [Scope.name] at same ⊢

/-! ## The outcome -/

theorem outcomeOf_allowed_iff (keyResult teamResult orgResult : ScopeResult) :
    (outcomeOf keyResult teamResult orgResult).allowed = true ↔
      keyResult.allowed = true ∧ teamResult.allowed = true ∧ orgResult.allowed = true := by
  cases key : keyResult.allowed <;> cases team : teamResult.allowed <;>
    cases org : orgResult.allowed <;> simp [outcomeOf, key, team, org]

theorem firstBest_waits (first : ScopeResult) (rest : List ScopeResult) :
    (firstBest (fun a b => b.retryAfterSeconds < a.retryAfterSeconds) first
        rest).retryAfterSeconds =
      rest.foldl (fun longest result => max longest result.retryAfterSeconds)
        first.retryAfterSeconds := by
  unfold firstBest
  induction rest generalizing first with
  | nil => rfl
  | cons result rest ih =>
      rw [List.foldl_cons, List.foldl_cons, ih]
      refine congrArg (fun start => List.foldl _ start rest) ?_
      split_ifs with longer
      · exact (max_eq_right (of_decide_eq_true longer).le).symm
      · exact (max_eq_left (not_lt.mp (by simpa using longer))).symm

theorem longest_refused (results : List ScopeResult) (start : ℕ)
    (idle : ∀ result ∈ results, result.allowed = true → result.retryAfterSeconds = 0) :
    (results.filter (!·.allowed)).foldl (fun longest result => max longest result.retryAfterSeconds)
        start =
      results.foldl (fun longest result => max longest result.retryAfterSeconds) start := by
  induction results generalizing start with
  | nil => rfl
  | cons result results ih =>
      have later := fun start => ih start fun other member =>
        idle other (List.mem_cons_of_mem _ member)
      cases passes : result.allowed with
      | false =>
          rw [List.filter_cons_of_pos (by simp [passes]), List.foldl_cons, List.foldl_cons]
          exact later _
      | true =>
          have waits := idle result List.mem_cons_self passes
          rw [List.filter_cons_of_neg (by simp [passes]), List.foldl_cons, waits, Nat.max_zero]
          exact later start

theorem outcomeOf_waits (keyResult teamResult orgResult : ScopeResult)
    (idle : ∀ result ∈ [keyResult, teamResult, orgResult],
      result.allowed = true → result.retryAfterSeconds = 0)
    (rejected : (outcomeOf keyResult teamResult orgResult).allowed = false) :
    (outcomeOf keyResult teamResult orgResult).bindingResult.retryAfterSeconds =
      max keyResult.retryAfterSeconds
        (max teamResult.retryAfterSeconds orgResult.retryAfterSeconds) := by
  have longest := longest_refused [keyResult, teamResult, orgResult] 0 idle
  unfold outcomeOf at rejected ⊢
  cases refusing : [keyResult, teamResult, orgResult].filter (!·.allowed) with
  | nil =>
      simp only [refusing] at rejected
      cases rejected
  | cons first rest =>
      rw [refusing] at longest
      simp only [refusing]
      calc (firstBest (fun a b => b.retryAfterSeconds < a.retryAfterSeconds) first
            rest).retryAfterSeconds
          = rest.foldl (fun longest result => max longest result.retryAfterSeconds)
              first.retryAfterSeconds := firstBest_waits first rest
        _ = _ := by simpa [max_assoc] using longest

/-- One execution of the script: some request is checked in one scope. -/
structure Touch where
  scope : Scope
  identifier : String
  limit : ℤ
  time : ℚ

def Touch.check (limits : RateLimits) (touch : Touch) : EStateM Exc Counters ScopeResult :=
  checkScope (some luaScript) touch.scope.name touch.identifier touch.limit
    (touch.scope.window limits) touch.time

/-- What these executions leave, the latest first. -/
def countersAfter (limits : RateLimits) (counters : Counters) : List Touch → Counters
  | [] => counters
  | touch :: earlier =>
      exitState ((touch.check limits).run (countersAfter limits counters earlier))

/-- The executions of one `check_all`. -/
def touchesOf (limits : RateLimits) (ct : CheckTimes) : List Touch :=
  [⟨.org, limits.orgId, limits.orgLimit, ct.orgAt⟩,
    ⟨.team, limits.teamId, limits.teamLimit, ct.teamAt⟩,
    ⟨.key, limits.apiKeyId, limits.keyLimit, ct.keyAt⟩]

/-- The same checks so many seconds later. -/
def CheckTimes.later (ct : CheckTimes) (seconds : ℚ) : CheckTimes :=
  ⟨ct.keyAt + seconds, ct.teamAt + seconds, ct.orgAt + seconds⟩

section Retry
variable (limits : RateLimits)

/-- If the request is rejected, and its three counters are left alone, it is allowed
as many seconds later as it was told to wait. -/
def RetryAfterSuffices (history : List Touch) (ct : CheckTimes) : Prop :=
  ∀ outcome counters, (checkAll (some luaScript) ct limits).run
      (countersAfter limits (fun _ => none) history) = .ok outcome counters →
    outcome.allowed = false →
      ∀ between : List Touch,
        (∀ touch ∈ between, touch.identifier ≠ touch.scope.identifier limits) →
          ∃ again later, (checkAll (some luaScript)
              (ct.later outcome.bindingResult.retryAfterSeconds) limits).run
                (countersAfter limits counters between) = .ok again later ∧
            again.allowed = true

/-- The times at which the counter of a scope has been touched. -/
def timesOf (history : List Touch) (scope : Scope) : List ℚ :=
  (history.filter fun touch =>
    touch.scope = scope ∧ touch.identifier = scope.identifier limits).map Touch.time

/-! ## What Redis holds -/

/-- Every counter lives for two windows from the first request it counted. -/
def Dated (name identifier : String) (windowSeconds : ℤ) (counters : Counters)
    (times : List ℚ) : Prop :=
  ∀ k : ℤ, made (windowSeconds : ℚ) times k ≠ 0 → ∃ value,
    counters (windowKey name identifier windowSeconds k) =
      some ⟨value, some (firstIn (windowSeconds : ℚ) times k + windowSeconds * 2)⟩

section Dates
variable {name identifier : String} {limit windowSeconds : ℤ} {counters : Counters}
variable {times : List ℚ} {t : ℚ}

theorem Dated.update (dated : Dated name identifier windowSeconds counters times) (key : String)
    (written : Option Counter) (other : ∀ k, windowKey name identifier windowSeconds k ≠ key) :
    Dated name identifier windowSeconds (Function.update counters key written) times := by
  intro k some
  rw [Function.update_of_ne (other k)]
  exact dated k some

variable (limit) in
/-- INCR keeps the expiry, EXPIRE sets it for the first request. -/
theorem Dated.count (positive : 1 ≤ windowSeconds)
    (tracks : Tracks name identifier windowSeconds counters times)
    (dated : Dated name identifier windowSeconds counters times) (nonneg : 0 ≤ t) :
    Dated name identifier windowSeconds
      ((scriptCall name identifier limit windowSeconds t).count t counters) (t :: times) := by
  intro k some
  by_cases here : slot (windowSeconds : ℚ) t = k
  · subst here
    by_cases none : made (windowSeconds : ℚ) times (slot (windowSeconds : ℚ) t) = 0
    · rw [tracks.counted_first limit positive nonneg none, Function.update_self, firstIn_cons,
        if_pos ⟨rfl, none⟩]
      exact ⟨1, rfl⟩
    · have held := tracks (slot (windowSeconds : ℚ) t)
      rw [if_neg none] at held
      obtain ⟨expiresAt, late, holds⟩ := held
      obtain ⟨_, first⟩ := dated (slot (windowSeconds : ℚ) t) none
      rw [tracks.counted_again limit positive nonneg late none holds, Function.update_self,
        firstIn_cons, if_neg fun both => none both.2]
      rw [holds] at first
      cases first
      exact ⟨made (windowSeconds : ℚ) times (slot (windowSeconds : ℚ) t) + 1, rfl⟩
  · obtain ⟨written, counted⟩ :=
      count_eq_update (scriptCall name identifier limit windowSeconds t) t counters
    have currKey := (scriptCall_keys name identifier limit positive nonneg).1
    rw [made_cons, if_neg here] at some
    rw [counted, firstIn_cons, if_neg fun both => here both.1, currKey,
      Function.update_of_ne fun same => here (windowKey_injective positive same).symm]
    exact dated k some

/-- What is left of the life of the counter that counts a request at `t`. -/
def lifetime (windowSeconds : ℤ) (times : List ℚ) (t : ℚ) : ℕ :=
  ⌊firstIn (windowSeconds : ℚ) (t :: times) (slot (windowSeconds : ℚ) t) + windowSeconds * 2 - t +
    1 / 2⌋.toNat

theorem window_le_life (positive : 1 ≤ windowSeconds) (times : List ℚ) (t : ℚ) :
    windowSeconds ≤ ⌊firstIn (windowSeconds : ℚ) (t :: times) (slot (windowSeconds : ℚ) t) +
      windowSeconds * 2 - t + 1 / 2⌋ := by
  have window := windowSeconds_cast positive
  have counted : made (windowSeconds : ℚ) (t :: times) (slot (windowSeconds : ℚ) t) ≠ 0 := by
    rw [made_cons, if_pos rfl]
    exact Nat.succ_ne_zero _
  obtain ⟨begun, -⟩ := (slot_eq_iff window _ _).mp (slot_firstIn counted)
  obtain ⟨-, ends⟩ := (slot_eq_iff window t _).mp rfl
  rw [Int.le_floor]
  linarith

variable (limit) in
theorem ttl_count (positive : 1 ≤ windowSeconds)
    (tracks : Tracks name identifier windowSeconds counters times)
    (dated : Dated name identifier windowSeconds counters times) (nonneg : 0 ≤ t) :
    ((scriptCall name identifier limit windowSeconds t).count t counters).ttl t
        (scriptCall name identifier limit windowSeconds t).currKey =
      ⌊firstIn (windowSeconds : ℚ) (t :: times) (slot (windowSeconds : ℚ) t) + windowSeconds * 2 -
        t + 1 / 2⌋ := by
  have counted : made (windowSeconds : ℚ) (t :: times) (slot (windowSeconds : ℚ) t) ≠ 0 := by
    rw [made_cons, if_pos rfl]
    exact Nat.succ_ne_zero _
  obtain ⟨value, found⟩ := dated.count limit positive tracks nonneg _ counted
  have alive := (tracks.count limit positive nonneg).find (slot (windowSeconds : ℚ) t)
    (slot_alive positive t)
  rw [(scriptCall_keys name identifier limit positive nonneg).1, Counters.ttl, alive, found]

variable (limit) in
/-- A request is refused where the sliding counter refuses it, and is told the life
of the counter that counted it. -/
theorem checkScope_waits (positive : 1 ≤ windowSeconds)
    (tracks : Tracks name identifier windowSeconds counters times)
    (dated : Dated name identifier windowSeconds counters times) (nonneg : 0 ≤ t) :
    ∃ result, (checkScope (some luaScript) name identifier limit windowSeconds t).run counters =
        .ok result ((scriptCall name identifier limit windowSeconds t).count t counters) ∧
      result.allowed =
        decide (Admits (windowSeconds : ℚ) (msFraction windowSeconds) limit times t) ∧
      result.retryAfterSeconds =
        if Admits (windowSeconds : ℚ) (msFraction windowSeconds) limit times t then 0
        else lifetime windowSeconds times t := by
  have reads := tracks.reads limit positive nonneg
  have life := window_le_life positive times t
  have judged : ((scriptCall name identifier limit windowSeconds t).reply t
      ((scriptCall name identifier limit windowSeconds t).count t counters)).effectiveCount ≤ limit ↔
        Admits (windowSeconds : ℚ) (msFraction windowSeconds) limit times t := by
    simp only [ScriptCall.reply, reads.prevCount, reads.currCount, effectiveCount, Int.ceil_le]
    rw [Admits, effective, ← elapsedFraction_eq positive t nonneg]
    exact Iff.rfl
  have told : ((scriptCall name identifier limit windowSeconds t).reply t
      ((scriptCall name identifier limit windowSeconds t).count t counters)).ttlSeconds = _ :=
    (congrArg (fun ttl : ℤ => if ttl < 0 then windowSeconds else ttl)
      (ttl_count limit positive tracks dated nonneg)).trans (if_neg (by omega))
  refine ⟨resultOf name limit windowSeconds
    ((scriptCall name identifier limit windowSeconds t).reply t
      ((scriptCall name identifier limit windowSeconds t).count t counters)), ?_, ?_, ?_⟩
  · simp only [checkScope, if_neg (by omega : windowSeconds ≠ 0)]
    rfl
  · simp only [resultOf, judged]
  · simp only [resultOf, judged, told, if_pos (by omega : 0 < ⌊firstIn (windowSeconds : ℚ)
      (t :: times) (slot (windowSeconds : ℚ) t) + windowSeconds * 2 - t + 1 / 2⌋)]
    rfl

end Dates

/-! ## The three counters -/

/-- Redis holds the counters of the three scopes, touched at these times. -/
def CountersHold (counters : Counters) (times : Scope → List ℚ) : Prop :=
  ∀ scope : Scope,
    Tracks scope.name (scope.identifier limits) (scope.window limits) counters (times scope) ∧
      Dated scope.name (scope.identifier limits) (scope.window limits) counters (times scope)

/-- The scope has room for the request. -/
def Passes (times : Scope → List ℚ) (ct : CheckTimes) (scope : Scope) : Prop :=
  Admits (scope.window limits : ℚ) (msFraction (scope.window limits)) (scope.limit limits)
    (times scope) (scope.time ct)

instance (times : Scope → List ℚ) (ct : CheckTimes) (scope : Scope) :
    Decidable (Passes limits times ct scope) :=
  inferInstanceAs (Decidable (Admits _ _ _ _ _))

/-- What a scope asks a request to wait. -/
def scopeWait (times : Scope → List ℚ) (ct : CheckTimes) (scope : Scope) : ℕ :=
  if Passes limits times ct scope then 0
  else lifetime (scope.window limits) (times scope) (scope.time ct)

/-- The longest of the three. -/
def advertisedWait (times : Scope → List ℚ) (ct : CheckTimes) : ℕ :=
  max (scopeWait limits times ct .key)
    (max (scopeWait limits times ct .team) (scopeWait limits times ct .org))

variable {limits} {counters : Counters} {times : Scope → List ℚ}

theorem CountersHold.other (holds : CountersHold limits counters times) (scope : Scope)
    (identifier : String) (limit : ℤ) (t : ℚ) {own : Scope}
    (differ : own ≠ scope ∨ own.identifier limits ≠ identifier) :
    Tracks own.name (own.identifier limits) (own.window limits)
        ((scriptCall scope.name identifier limit (scope.window limits) t).count t counters)
        (times own) ∧
      Dated own.name (own.identifier limits) (own.window limits)
        ((scriptCall scope.name identifier limit (scope.window limits) t).count t counters)
        (times own) := by
  obtain ⟨written, counted⟩ :=
    count_eq_update (scriptCall scope.name identifier limit (scope.window limits) t) t counters
  have elsewhere : ∀ k, windowKey own.name (own.identifier limits) (own.window limits) k ≠
      (scriptCall scope.name identifier limit (scope.window limits) t).currKey :=
    fun _ => counterKey_ne differ _ _
  rw [counted]
  exact ⟨(holds own).1.update _ written elsewhere, (holds own).2.update _ written elsewhere⟩

section Positive
variable (positive : ∀ scope : Scope, 1 ≤ scope.window limits)

include positive

theorem CountersHold.count (holds : CountersHold limits counters times) (scope : Scope) (limit : ℤ)
    {t : ℚ} (nonneg : 0 ≤ t) :
    CountersHold limits
      ((scriptCall scope.name (scope.identifier limits) limit (scope.window limits) t).count t
        counters) (Function.update times scope (t :: times scope)) := by
  intro own
  by_cases same : own = scope
  · subst same
    rw [Function.update_self]
    exact ⟨(holds own).1.count limit (positive own) nonneg,
      (holds own).2.count limit (positive own) (holds own).1 nonneg⟩
  · rw [Function.update_of_ne same]
    exact holds.other scope _ limit t (.inl same)

theorem exitState_touch (touch : Touch) (counters : Counters) :
    exitState ((touch.check limits).run counters) =
      (scriptCall touch.scope.name touch.identifier touch.limit (touch.scope.window limits)
        touch.time).count touch.time counters := by
  have window := positive touch.scope
  simp only [Touch.check, checkScope, if_neg (by omega : touch.scope.window limits ≠ 0)]
  rfl

/-- `check_all` is three of them. -/
theorem exitState_checkAll (ct : CheckTimes) (counters : Counters) :
    exitState ((checkAll (some luaScript) ct limits).run counters) =
      countersAfter limits counters (touchesOf limits ct) := by
  have key : limits.keyWindow ≠ 0 := (Int.lt_of_lt_of_le Int.one_pos (positive .key)).ne'
  have team : limits.teamWindow ≠ 0 := (Int.lt_of_lt_of_le Int.one_pos (positive .team)).ne'
  have org : limits.orgWindow ≠ 0 := (Int.lt_of_lt_of_le Int.one_pos (positive .org)).ne'
  simp only [checkAll, touchesOf, countersAfter, Touch.check, checkScope, Scope.window, if_neg key,
    if_neg team, if_neg org]
  rfl

theorem countersHold_after (history : List Touch) (nonneg : ∀ touch ∈ history,
      touch.identifier = touch.scope.identifier limits → 0 ≤ touch.time)
    (holds : CountersHold limits counters times) :
    CountersHold limits (countersAfter limits counters history) fun scope =>
      timesOf limits history scope ++ times scope := by
  induction history with
  | nil => exact holds
  | cons touch earlier ih =>
      have before := ih fun other member => nonneg other (List.mem_cons_of_mem touch member)
      rw [countersAfter, exitState_touch positive]
      by_cases own : touch.identifier = touch.scope.identifier limits
      · rw [own]
        have after := before.count positive touch.scope touch.limit
          (nonneg touch List.mem_cons_self own)
        convert after using 1
        funext scope
        by_cases same : scope = touch.scope
        · subst same
          simp [timesOf, own]
        · simp [timesOf, same, Ne.symm same]
      · intro scope
        have untouched : timesOf limits (touch :: earlier) scope = timesOf limits earlier scope := by
          rw [timesOf, List.filter_cons_of_neg, timesOf]
          simp only [decide_eq_true_eq]
          rintro ⟨same, names⟩
          exact own (by rw [same, names])
        dsimp only
        rw [untouched]
        refine before.other touch.scope touch.identifier touch.limit touch.time ?_
        by_cases same : scope = touch.scope
        · exact .inr fun names => own (by rw [← same, names])
        · exact .inl same

theorem checkScope_of_holds (holds : CountersHold limits counters times) (scope : Scope)
    (ct : CheckTimes) (nonneg : 0 ≤ scope.time ct) :
    ∃ result after, (checkScope (some luaScript) scope.name (scope.identifier limits)
        (scope.limit limits) (scope.window limits) (scope.time ct)).run counters =
          .ok result after ∧
      CountersHold limits after (Function.update times scope (scope.time ct :: times scope)) ∧
      result.allowed = decide (Passes limits times ct scope) ∧
      result.retryAfterSeconds = scopeWait limits times ct scope := by
  obtain ⟨tracks, dated⟩ := holds scope
  obtain ⟨result, ran, allowed, waits⟩ :=
    checkScope_waits (scope.limit limits) (positive scope) tracks dated nonneg
  exact ⟨result, _, ran, holds.count positive scope _ nonneg, allowed, waits⟩

/-- What `check_all` decides and what wait it names. -/
theorem checkAll_of_holds (holds : CountersHold limits counters times) (ct : CheckTimes)
    (nonneg : ∀ scope : Scope, 0 ≤ scope.time ct) :
    ∃ outcome after, (checkAll (some luaScript) ct limits).run counters = .ok outcome after ∧
      CountersHold limits after (fun scope => scope.time ct :: times scope) ∧
      (outcome.allowed = true ↔ ∀ scope, Passes limits times ct scope) ∧
      (outcome.allowed = false →
        outcome.bindingResult.retryAfterSeconds = advertisedWait limits times ct) := by
  obtain ⟨keyResult, keyed, keyRan, keyHolds, keyAllowed, keyWaits⟩ :=
    checkScope_of_holds positive holds .key ct (nonneg .key)
  obtain ⟨teamResult, teamed, teamRan, teamHolds, teamAllowed, teamWaits⟩ :=
    checkScope_of_holds positive keyHolds .team ct (nonneg .team)
  obtain ⟨orgResult, orged, orgRan, orgHolds, orgAllowed, orgWaits⟩ :=
    checkScope_of_holds positive teamHolds .org ct (nonneg .org)
  have ran : (checkAll (some luaScript) ct limits).run counters =
      .ok (outcomeOf keyResult teamResult orgResult) orged := by
    have first : checkScope (some luaScript) "key" limits.apiKeyId limits.keyLimit limits.keyWindow
        ct.keyAt counters = .ok keyResult keyed := keyRan
    have second : checkScope (some luaScript) "team" limits.teamId limits.teamLimit
        limits.teamWindow ct.teamAt keyed = .ok teamResult teamed := teamRan
    have third : checkScope (some luaScript) "org" limits.orgId limits.orgLimit limits.orgWindow
        ct.orgAt teamed = .ok orgResult orged := orgRan
    simp only [checkAll, EStateM.run, bind, EStateM.bind, pure, EStateM.pure, first, second, third]
  refine ⟨_, _, ran, ?_, ?_, fun rejected => ?_⟩
  · convert orgHolds using 1
    funext scope
    cases scope <;> rfl
  · rw [outcomeOf_allowed_iff, keyAllowed, teamAllowed, orgAllowed]
    simp only [decide_eq_true_eq]
    constructor
    · rintro ⟨key, team, org⟩ scope
      cases scope
      · exact key
      · exact team
      · exact org
    · exact fun all => ⟨all .key, all .team, all .org⟩
  · rw [outcomeOf_waits keyResult teamResult orgResult ?_ rejected, keyWaits, teamWaits, orgWaits]
    · rfl
    · intro result member allowed
      simp only [List.mem_cons, List.not_mem_nil, or_false] at member
      rcases member with rfl | rfl | rfl
      · rw [keyAllowed, decide_eq_true_eq] at allowed
        rw [keyWaits, scopeWait, if_pos allowed]
      · rw [teamAllowed, decide_eq_true_eq] at allowed
        rw [teamWaits, scopeWait, if_pos allowed]
      · rw [orgAllowed, decide_eq_true_eq] at allowed
        rw [orgWaits, scopeWait, if_pos allowed]

/-! ## The retry -/

omit positive in
theorem clocked_scope {history : List Touch} {ct : CheckTimes}
    (clocked : Clocked (ct.orgAt :: ct.teamAt :: ct.keyAt :: history.map Touch.time))
    (scope : Scope) : Clocked (scope.time ct :: timesOf limits history scope) := by
  have earlier : List.Sublist (timesOf limits history scope) (history.map Touch.time) :=
    List.filter_sublist.map Touch.time
  have part : List.Sublist (scope.time ct :: timesOf limits history scope)
      (ct.orgAt :: ct.teamAt :: ct.keyAt :: history.map Touch.time) := by
    cases scope
    · exact ((earlier.cons_cons ct.keyAt).cons ct.teamAt).cons ct.orgAt
    · exact ((earlier.cons ct.keyAt).cons_cons ct.teamAt).cons ct.orgAt
    · exact ((earlier.cons ct.keyAt).cons ct.teamAt).cons_cons ct.orgAt
  exact ⟨clocked.ordered.sublist part, fun t member => clocked.nonneg t (part.subset member)⟩

omit positive in
/-- When the counter that refused a request is gone, two windows have begun. -/
theorem room_of_life {scope : Scope} {ct : CheckTimes} (window : 1 ≤ scope.window limits)
    {u : ℚ} (gone : firstIn (scope.window limits : ℚ) (scope.time ct :: times scope)
        (slot (scope.window limits : ℚ) (scope.time ct)) + scope.window limits * 2 ≤ u) :
    RoomAfter (scope.window limits : ℚ) (msFraction (scope.window limits)) (scope.limit limits)
      (times scope) (scope.time ct) u := by
  have length := windowSeconds_cast window
  have counted : made (scope.window limits : ℚ) (scope.time ct :: times scope)
      (slot (scope.window limits : ℚ) (scope.time ct)) ≠ 0 := by
    rw [made_cons, if_pos rfl]
    exact Nat.succ_ne_zero _
  obtain ⟨begun, -⟩ := (slot_eq_iff length _ _).mp (slot_firstIn counted)
  have beyond : slot (scope.window limits : ℚ) (scope.time ct) + 2 ≤
      slot (scope.window limits : ℚ) u := by
    rw [slot, slot, Int.le_floor, le_div_iff₀ length]
    push_cast
    rw [slot] at begun gone
    linarith
  exact ⟨fun same => absurd same (by omega), fun next => absurd next (by omega)⟩

omit positive in
theorem scopeWait_le (times : Scope → List ℚ) (ct : CheckTimes) (scope : Scope) :
    scopeWait limits times ct scope ≤ advertisedWait limits times ct := by
  unfold advertisedWait
  cases scope
  · exact le_max_left _ _
  · exact (le_max_left _ _).trans (le_max_right _ _)
  · exact (le_max_right _ _).trans (le_max_right _ _)

/-- A scope that refuses is no obstacle to the retry, unless its wait was rounded. -/
theorem room_of_refused {scope : Scope} {ct : CheckTimes}
    (refused : ¬Passes limits times ct scope) (whole : ∃ seconds : ℤ,
      firstIn (scope.window limits : ℚ) (scope.time ct :: times scope)
        (slot (scope.window limits : ℚ) (scope.time ct)) = scope.time ct + seconds) :
    RoomAfter (scope.window limits : ℚ) (msFraction (scope.window limits)) (scope.limit limits)
      (times scope) (scope.time ct) (scope.time ct + advertisedWait limits times ct) := by
  obtain ⟨seconds, first⟩ := whole
  refine room_of_life (positive scope) ?_
  have life := window_le_life (positive scope) (times scope) (scope.time ct)
  have atLeast := positive scope
  have exactly : (lifetime (scope.window limits) (times scope) (scope.time ct) : ℤ) =
      seconds + scope.window limits * 2 := by
    rw [lifetime, Int.toNat_of_nonneg (by omega), first, Int.floor_eq_iff]
    push_cast
    constructor <;> linarith
  have asked : scopeWait limits times ct scope =
      lifetime (scope.window limits) (times scope) (scope.time ct) := if_neg refused
  have waits : (lifetime (scope.window limits) (times scope) (scope.time ct) : ℚ) ≤
      advertisedWait limits times ct := by
    exact_mod_cast asked ▸ scopeWait_le times ct scope
  have exactly' : (lifetime (scope.window limits) (times scope) (scope.time ct) : ℚ) =
      seconds + scope.window limits * 2 := by exact_mod_cast exactly
  rw [first]
  linarith

section Room
variable (room : ∀ scope : Scope, 1 ≤ scope.limit limits)

include room

/-- The same request again, after others have touched other counters. -/
theorem retry_of_holds {ct : CheckTimes}
    (counted : CountersHold limits counters fun scope => scope.time ct :: times scope)
    (clocked : ∀ scope : Scope, Clocked (scope.time ct :: times scope)) (wait : ℕ)
    (between : List Touch)
    (apart : ∀ touch ∈ between, touch.identifier ≠ touch.scope.identifier limits) :
    ∃ again later, (checkAll (some luaScript) (ct.later wait) limits).run
        (countersAfter limits counters between) = .ok again later ∧
      (again.allowed = true ↔ ∀ scope : Scope, RoomAfter (scope.window limits : ℚ)
        (msFraction (scope.window limits)) (scope.limit limits) (times scope) (scope.time ct)
        (scope.time ct + wait)) := by
  have untouched : timesOf limits between = fun _ => [] := by
    funext scope
    rw [timesOf, List.map_eq_nil_iff, List.filter_eq_nil_iff]
    intro touch member own
    simp only [decide_eq_true_eq] at own
    exact apart touch member (by rw [own.1, own.2])
  have kept := countersHold_after positive between
    (fun touch member own => absurd own (apart touch member)) counted
  simp only [untouched, List.nil_append] at kept
  have after : ∀ scope : Scope, scope.time (ct.later wait) = scope.time ct + wait := by
    intro scope
    cases scope <;> rfl
  have nonneg : ∀ scope : Scope, 0 ≤ scope.time (ct.later wait) := fun scope => by
    rw [after]
    exact add_nonneg ((clocked scope).nonneg _ List.mem_cons_self) (Nat.cast_nonneg wait)
  obtain ⟨again, later, ran, -, allowed, -⟩ :=
    checkAll_of_holds positive kept (ct.later wait) nonneg
  refine ⟨again, later, ran, allowed.trans (forall_congr' fun scope => ?_)⟩
  rw [Passes, after]
  exact admits_next_iff (windowSeconds_cast (positive scope)) (room scope) (clocked scope)
    (le_add_of_nonneg_right (Nat.cast_nonneg wait))

end Room

end Positive

end Retry

/-! ## Two requests at once -/

/-- One request a key in ten seconds, two an organization in a hundred. -/
def onePerKey (orgWindow : ℤ) : RateLimits :=
  ⟨"key-1", "team-1", "org-1", 1, 10, 100, 10, 2, orgWindow⟩

end CortexGateway.RateLimiting
