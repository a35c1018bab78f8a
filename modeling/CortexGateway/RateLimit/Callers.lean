import CortexGateway.RateLimit.RetryAfter

/-! # Many callers at once

`check_all` awaits one script for each scope, and the scripts of other requests
run between them.  However they are interleaved, every check is decided by the
earlier checks of its own key, team or organization alone, a request is admitted
where all three of its checks are, and in no window are more requests of a key,
team or organization admitted than its limit. -/
set_option autoImplicit false
namespace CortexGateway.RateLimiting
open SlidingWindow Transition

/-- The script `check_all` awaits next, with the results it has, or its outcome. -/
inductive CheckControl
  | key
  | team (keyResult : ScopeResult)
  | org (keyResult teamResult : ScopeResult)
  | ended (outcome : Outcome)

namespace CheckControl

def scope : CheckControl → Option Scope
  | .key => some .key
  | .team _ => some .team
  | .org _ _ => some .org
  | .ended _ => none

/-- The await ends with the result of its scope. -/
def resume (result : ScopeResult) : CheckControl → CheckControl
  | .key => .team result
  | .team keyResult => .org keyResult result
  | .org keyResult teamResult => .ended (outcomeOf keyResult teamResult result)
  | .ended outcome => .ended outcome

/-- What has been decided, latest first. -/
def decisions : CheckControl → List (Scope × Bool)
  | .key => []
  | .team keyResult => [(.key, keyResult.allowed)]
  | .org keyResult teamResult => [(.team, teamResult.allowed), (.key, keyResult.allowed)]
  | .ended outcome =>
      [(.org, outcome.orgResult.allowed), (.team, outcome.teamResult.allowed),
        (.key, outcome.keyResult.allowed)]

/-- An outcome is that of its three results. -/
def Judged : CheckControl → Prop
  | .ended outcome =>
      outcome = outcomeOf outcome.keyResult outcome.teamResult outcome.orgResult
  | _ => True

end CheckControl

/-- A check that was made, and how it was decided. -/
structure ScopeCheck where
  request : ℕ
  scope : Scope
  identifier : String
  limit : ℤ
  time : ℚ
  allowed : Bool

/-- Redis, the shared clock, where each request stands and the checks, latest first. -/
structure Callers where
  counters : Counters
  now : ℚ
  controls : ℕ → CheckControl
  log : List ScopeCheck

def noCallers : Callers := ⟨fun _ => none, 0, fun _ => .key, []⟩

section Callers
variable (limits : ℕ → RateLimits) (windows : Scope → ℤ)

/-- The script that the request awaits runs at a time. -/
def checkNext (s : Callers) (a : ℕ × ℚ) : Option Callers := do
  let (request, now) := a
  let scope ← (s.controls request).scope
  guard (s.now ≤ now)
  let identifier := scope.identifier (limits request)
  let limit := scope.limit (limits request)
  match (checkScope (some luaScript) scope.name identifier limit (scope.window (limits request))
      now).run s.counters with
  | .ok result counters =>
      some
        { counters := counters
          now := now
          controls := Function.update s.controls request ((s.controls request).resume result)
          log := ⟨request, scope, identifier, limit, now, result.allowed⟩ :: s.log }
  | .error .. => none

/-- When the key, team or organization was checked. -/
def checkTimes (log : List ScopeCheck) (scope : Scope) (identifier : String) : List ℚ :=
  (log.filter fun check => check.scope = scope ∧ check.identifier = identifier).map ScopeCheck.time

/-- Every check is decided as the sliding counter of its own scope does. -/
def Decided : List ScopeCheck → Prop
  | [] => True
  | check :: earlier =>
      check.allowed = decide (Admits (windows check.scope : ℚ) (msFraction (windows check.scope))
        check.limit (checkTimes earlier check.scope check.identifier) check.time) ∧ Decided earlier

def Callers.outcome (s : Callers) (request : ℕ) : Option Outcome :=
  match s.controls request with
  | .ended outcome => some outcome
  | _ => none

/-- The admitted requests of a key, team or organization that it was checked for in
the window. -/
def Callers.admitted (s : Callers) (scope : Scope) (identifier : String) (k : ℤ) :
    List ScopeCheck :=
  s.log.filter fun check => check.scope = scope ∧ check.identifier = identifier ∧
    slot (windows scope : ℚ) check.time = k ∧
      (s.outcome check.request).any (·.allowed) = true

/-! ## The invariant -/

structure Counted (s : Callers) : Prop where
  tracks : ∀ scope identifier, Tracks scope.name identifier (windows scope) s.counters
    (checkTimes s.log scope identifier)
  nonneg : 0 ≤ s.now
  times : ∀ check ∈ s.log, 0 ≤ check.time
  decided : Decided windows s.log
  decisions : ∀ request, (s.controls request).decisions =
    (s.log.filter (·.request = request)).map fun check => (check.scope, check.allowed)
  judged : ∀ request, (s.controls request).Judged
  limited : ∀ check ∈ s.log, check.identifier = check.scope.identifier (limits check.request) ∧
    check.limit = check.scope.limit (limits check.request)

theorem counted_start : Counted limits windows noCallers where
  tracks := fun scope identifier k => by
    rw [if_pos (by rfl)]
    rfl
  nonneg := le_rfl
  times := fun _ member => by cases member
  decided := trivial
  decisions := fun _ => rfl
  judged := fun _ => trivial
  limited := fun _ member => by cases member

theorem outcomeOf_results (keyResult teamResult orgResult : ScopeResult) :
    (outcomeOf keyResult teamResult orgResult).keyResult = keyResult ∧
      (outcomeOf keyResult teamResult orgResult).teamResult = teamResult ∧
        (outcomeOf keyResult teamResult orgResult).orgResult = orgResult := by
  unfold outcomeOf
  dsimp only
  split <;> exact ⟨rfl, rfl, rfl⟩

theorem decisions_resume {control : CheckControl} {scope : Scope}
    (awaits : control.scope = some scope) (result : ScopeResult) :
    (control.resume result).decisions = (scope, result.allowed) :: control.decisions := by
  cases control with
  | key =>
      cases awaits
      rfl
  | team keyResult =>
      cases awaits
      rfl
  | org keyResult teamResult =>
      cases awaits
      simp only [CheckControl.resume, CheckControl.decisions, outcomeOf_results]
  | ended outcome => cases awaits

theorem judged_resume {control : CheckControl} (judged : control.Judged) (result : ScopeResult) :
    (control.resume result).Judged := by
  cases control with
  | key => trivial
  | team keyResult => trivial
  | org keyResult teamResult =>
      simp only [CheckControl.resume, CheckControl.Judged, outcomeOf_results]
  | ended outcome => exact judged

variable {limits windows} {s next : Callers} {request : ℕ} {now : ℚ}

/-- What a step does: the script of the awaited scope runs on the counters. -/
theorem checkNext_eq (stepped : checkNext limits s (request, now) = some next) :
    ∃ scope result, (s.controls request).scope = some scope ∧ s.now ≤ now ∧
      (checkScope (some luaScript) scope.name (scope.identifier (limits request))
          (scope.limit (limits request)) (scope.window (limits request)) now).run s.counters =
        .ok result next.counters ∧
      next = ⟨next.counters, now,
        Function.update s.controls request ((s.controls request).resume result),
        ⟨request, scope, scope.identifier (limits request), scope.limit (limits request), now,
          result.allowed⟩ :: s.log⟩ := by
  obtain ⟨scope, awaits, stepped⟩ := Option.bind_eq_some_iff.mp stepped
  obtain ⟨_, later, stepped⟩ := Option.bind_eq_some_iff.mp stepped
  have onTime : s.now ≤ now := by
    by_contra early
    simp [guard, early] at later
  dsimp only at stepped
  split at stepped
  · rename_i result counters ran
    cases stepped
    exact ⟨scope, result, awaits, onTime, ran, rfl⟩
  · cases stepped

section Positive
variable (positive : ∀ scope, 1 ≤ windows scope)
variable (uniform : ∀ request (scope : Scope), scope.window (limits request) = windows scope)

include positive uniform

theorem counted_checkNext (counted : Counted limits windows s)
    (stepped : checkNext limits s (request, now) = some next) : Counted limits windows next := by
  obtain ⟨scope, result, awaits, later, ran, after⟩ := checkNext_eq stepped
  rw [uniform request scope] at ran
  have nonneg := counted.nonneg.trans later
  have tracks := counted.tracks scope (scope.identifier (limits request))
  obtain ⟨answered, ranToo, count, allowed⟩ :=
    run_checkScope (scope.limit (limits request)) tracks (positive scope) nonneg
  rw [ran] at ranToo
  injection ranToo with sameResult counters
  subst sameResult
  rw [after, counters]
  refine ⟨fun own identifier => ?_, nonneg, ?_, ⟨?_, counted.decided⟩, fun other => ?_,
    fun other => ?_, ?_⟩
  · by_cases same : own = scope ∧ identifier = scope.identifier (limits request)
    · obtain ⟨rfl, rfl⟩ := same
      have touched := tracks.count (own.limit (limits request)) (positive own) nonneg
      simpa [checkTimes] using touched
    · have differ : own ≠ scope ∨ identifier ≠ scope.identifier (limits request) := by
        by_cases sameScope : own = scope
        · exact .inr fun sameId => same ⟨sameScope, sameId⟩
        · exact .inl sameScope
      have untouched : checkTimes (⟨request, scope, scope.identifier (limits request),
          scope.limit (limits request), now, result.allowed⟩ :: s.log) own identifier =
            checkTimes s.log own identifier := by
        rw [checkTimes, List.filter_cons_of_neg, checkTimes]
        simp only [decide_eq_true_eq]
        rintro ⟨sameScope, sameId⟩
        exact same ⟨sameScope.symm, sameId.symm⟩
      obtain ⟨written, counts⟩ := count_eq_update (scriptCall scope.name
        (scope.identifier (limits request)) (scope.limit (limits request)) (windows scope) now) now
          s.counters
      dsimp only
      rw [untouched, counts]
      exact (counted.tracks own identifier).update _ written fun _ => counterKey_ne differ _ _
  · intro check member
    rcases List.mem_cons.mp member with rfl | earlier
    · exact nonneg
    · exact counted.times check earlier
  · rw [allowed, count]
    simp only [Int.ceil_le]
    rfl
  · dsimp only
    by_cases own : other = request
    · subst own
      rw [Function.update_self, decisions_resume awaits, counted.decisions, List.filter_cons_of_pos
        (by simp)]
      rfl
    · rw [Function.update_of_ne own, counted.decisions, List.filter_cons_of_neg]
      simpa using Ne.symm own
  · dsimp only
    by_cases own : other = request
    · subst own
      rw [Function.update_self]
      exact judged_resume (counted.judged other) result
    · rw [Function.update_of_ne own]
      exact counted.judged other
  · intro check member
    rcases List.mem_cons.mp member with rfl | earlier
    · exact ⟨rfl, rfl⟩
    · exact counted.limited check earlier

theorem counted_run (actions : List (ℕ × ℚ)) (counted : Counted limits windows s)
    (ran : run (checkNext limits) s actions = some next) : Counted limits windows next := by
  induction actions generalizing s with
  | nil =>
      cases ran
      exact counted
  | cons a rest ih =>
      obtain ⟨reached, stepped, ran⟩ := Option.bind_eq_some_iff.mp ran
      exact ih (counted_checkNext positive uniform counted stepped) ran

end Positive

/-! ## The limits -/

/-- The checks of a key, team or organization that were passed in the window. -/
def passedIn (windows : Scope → ℤ) (log : List ScopeCheck) (scope : Scope) (identifier : String)
    (k : ℤ) : List ScopeCheck :=
  log.filter fun check => check.scope = scope ∧ check.identifier = identifier ∧
    slot (windows scope : ℚ) check.time = k ∧ check.allowed = true

theorem passedIn_le_made (log : List ScopeCheck) (scope : Scope) (identifier : String) (k : ℤ) :
    (passedIn windows log scope identifier k).length ≤
      made (windows scope : ℚ) (checkTimes log scope identifier) k := by
  rw [made, checkTimes, List.countP_map, List.countP_filter, passedIn, ← List.countP_eq_length_filter]
  refine List.countP_mono_left fun check _ passed => ?_
  simp only [decide_eq_true_eq] at passed
  simp [passed.1, passed.2.1, passed.2.2.1]

/-- A check is passed only while the window has room. -/
theorem passedIn_le_limit (positive : ∀ scope, 1 ≤ windows scope) {scope : Scope}
    {identifier : String} {limit : ℤ} (nonneg : 0 ≤ limit) (k : ℤ) {log : List ScopeCheck}
    (decided : Decided windows log) (times : ∀ check ∈ log, 0 ≤ check.time)
    (limited : ∀ check ∈ log, check.scope = scope → check.identifier = identifier →
      check.limit = limit) :
    ((passedIn windows log scope identifier k).length : ℤ) ≤ limit := by
  induction log with
  | nil => simpa [passedIn] using nonneg
  | cons check earlier ih =>
      have before := ih decided.2 (fun other member => times other (List.mem_cons_of_mem check member))
        fun other member => limited other (List.mem_cons_of_mem check member)
      by_cases passes : check.scope = scope ∧ check.identifier = identifier ∧
          slot (windows scope : ℚ) check.time = k ∧ check.allowed = true
      · obtain ⟨rfl, rfl, here, allowed⟩ := passes
        have admits := of_decide_eq_true (decided.1.symm.trans allowed)
        rw [limited check List.mem_cons_self rfl rfl] at admits
        have room := made_lt_of_admits (msFraction_measures (positive check.scope))
          (times check List.mem_cons_self) admits
        rw [here] at room
        have within : (passedIn windows earlier check.scope check.identifier k).length ≤
            made (windows check.scope : ℚ) (checkTimes earlier check.scope check.identifier) k :=
          passedIn_le_made earlier _ _ k
        rw [passedIn, List.filter_cons_of_pos (by simp [here, allowed]), List.length_cons]
        push_cast
        exact (add_le_add_left (Int.ofNat_le.mpr within) 1).trans room
      · rw [passedIn, List.filter_cons_of_neg (by simpa using passes)]
        exact before

/-- A request is admitted where the three checks it has made were passed. -/
theorem outcome_allowed_iff (counted : Counted limits windows s) {outcome : Outcome}
    (ended : s.controls request = .ended outcome) :
    outcome.allowed = true ↔
      ∀ check ∈ s.log, check.request = request → check.allowed = true := by
  have made := counted.decisions request
  have judged := counted.judged request
  rw [ended] at made judged
  rw [judged, outcomeOf_allowed_iff]
  constructor
  · rintro ⟨key, team, org⟩ check member own
    have listed : (check.scope, check.allowed) ∈
        (CheckControl.ended outcome).decisions := by
      rw [made]
      exact List.mem_map.mpr ⟨check, List.mem_filter.mpr ⟨member, by simpa using own⟩, rfl⟩
    simp only [CheckControl.decisions, key, team, org, List.mem_cons, Prod.mk.injEq,
      List.not_mem_nil, or_false] at listed
    rcases listed with ⟨-, allowed⟩ | ⟨-, allowed⟩ | ⟨-, allowed⟩ <;> exact allowed
  · intro all
    have passed : ∀ decision ∈ (CheckControl.ended outcome).decisions, decision.2 = true := by
      intro decision listed
      rw [made] at listed
      obtain ⟨check, kept, rfl⟩ := List.mem_map.mp listed
      obtain ⟨member, own⟩ := List.mem_filter.mp kept
      exact all check member (by simpa using own)
    simp only [CheckControl.decisions, List.mem_cons, List.not_mem_nil, or_false] at passed
    exact ⟨passed _ (.inr (.inr rfl)), passed _ (.inr (.inl rfl)), passed _ (.inl rfl)⟩

/-- In any interleaving of the checks of any requests: every check is decided by the
earlier ones of its own key, team or organization; a request is admitted where
its three checks are passed; and no window admits more requests of a key, team or
organization than its limit. -/
theorem callers_limited (positive : ∀ scope, 1 ≤ windows scope)
    (uniform : ∀ request (scope : Scope), scope.window (limits request) = windows scope)
    (actions : List (ℕ × ℚ)) (ran : run (checkNext limits) noCallers actions = some s) :
    Decided windows s.log ∧
      (∀ request outcome, s.outcome request = some outcome → (outcome.allowed = true ↔
        ∀ check ∈ s.log, check.request = request → check.allowed = true)) ∧
      ∀ (scope : Scope) identifier (limit k : ℤ), 0 ≤ limit →
        (∀ request, scope.identifier (limits request) = identifier →
          scope.limit (limits request) = limit) →
        ((s.admitted windows scope identifier k).length : ℤ) ≤ limit := by
  have counted := counted_run positive uniform actions (counted_start limits windows) ran
  have admitted_iff : ∀ request outcome, s.outcome request = some outcome →
      (outcome.allowed = true ↔
        ∀ check ∈ s.log, check.request = request → check.allowed = true) := by
    intro request outcome found
    refine outcome_allowed_iff counted ?_
    unfold Callers.outcome at found
    split at found
    · rename_i ended
      rw [ended, Option.some.inj found]
    · cases found
  refine ⟨counted.decided, admitted_iff, fun scope identifier limit k nonneg constant => ?_⟩
  have passed : (s.admitted windows scope identifier k).length ≤
      (passedIn windows s.log scope identifier k).length := by
    rw [Callers.admitted, passedIn, ← List.countP_eq_length_filter, ← List.countP_eq_length_filter]
    refine List.countP_mono_left fun check member admitted => ?_
    simp only [decide_eq_true_eq] at admitted ⊢
    obtain ⟨own, names, here, allowed⟩ := admitted
    obtain ⟨outcome, found, allowed⟩ := (Option.any_eq_true _ _).mp allowed
    exact ⟨own, names, here, (admitted_iff check.request outcome found).mp allowed check member rfl⟩
  refine (Int.ofNat_le.mpr passed).trans ?_
  refine passedIn_le_limit positive nonneg k counted.decided counted.times ?_
  rintro check member rfl rfl
  obtain ⟨identifier, limit⟩ := counted.limited check member
  rw [limit]
  exact constant check.request identifier.symm

/-- Undisturbed, a request ends as `check_all` does. -/
theorem checkAll_alone {t u v : ℚ} (fresh : s.controls request = .key)
    (ran : run (checkNext limits) s [(request, t), (request, u), (request, v)] = some next) :
    ∃ outcome, (checkAll (some luaScript) ⟨t, u, v⟩ (limits request)).run s.counters =
      .ok outcome next.counters ∧ next.outcome request = some outcome := by
  obtain ⟨first, stepped, ran⟩ := Option.bind_eq_some_iff.mp ran
  obtain ⟨second, steppedToo, ran⟩ := Option.bind_eq_some_iff.mp ran
  obtain ⟨third, steppedLast, ran⟩ := Option.bind_eq_some_iff.mp ran
  cases ran
  obtain ⟨scope, keyResult, awaits, -, keyRan, keyed⟩ := checkNext_eq stepped
  rw [fresh] at awaits
  cases awaits
  have afterKey : first.controls request = .team keyResult := by
    rw [keyed]
    dsimp only
    rw [Function.update_self, fresh]
    rfl
  obtain ⟨scope, teamResult, awaits, -, teamRan, teamed⟩ := checkNext_eq steppedToo
  rw [afterKey] at awaits
  cases awaits
  have afterTeam : second.controls request = .org keyResult teamResult := by
    rw [teamed]
    dsimp only
    rw [Function.update_self, afterKey]
    rfl
  obtain ⟨scope, orgResult, awaits, -, orgRan, orged⟩ := checkNext_eq steppedLast
  rw [afterTeam] at awaits
  cases awaits
  refine ⟨outcomeOf keyResult teamResult orgResult, ?_, ?_⟩
  · have keyed : checkScope (some luaScript) "key" (limits request).apiKeyId
        (limits request).keyLimit (limits request).keyWindow t s.counters =
          .ok keyResult first.counters := keyRan
    have teamed : checkScope (some luaScript) "team" (limits request).teamId
        (limits request).teamLimit (limits request).teamWindow u first.counters =
          .ok teamResult second.counters := teamRan
    have orged : checkScope (some luaScript) "org" (limits request).orgId
        (limits request).orgLimit (limits request).orgWindow v second.counters =
          .ok orgResult next.counters := orgRan
    simp only [checkAll, EStateM.run, bind, EStateM.bind, pure, EStateM.pure, keyed, teamed, orged]
  · rw [Callers.outcome, orged]
    dsimp only
    rw [Function.update_self, afterTeam]
    rfl

end Callers

/-! ## Two requests of one key -/

/-- Their checks alternate. -/
def alternating : List (ℕ × ℚ) := [(0, 0), (1, 0), (0, 1), (1, 1), (0, 2), (1, 2)]

def onePerKeyWindows (scope : Scope) : ℤ := scope.window (onePerKey 10)

theorem alternating_limited : ∃ s,
    run (checkNext fun _ => onePerKey 10) noCallers alternating = some s ∧
      Decided onePerKeyWindows s.log ∧
      (∀ request outcome, s.outcome request = some outcome → (outcome.allowed = true ↔
        ∀ check ∈ s.log, check.request = request → check.allowed = true)) ∧
      ∀ (scope : Scope) identifier (limit k : ℤ), 0 ≤ limit →
        (∀ _ : ℕ, scope.identifier (onePerKey 10) = identifier →
          scope.limit (onePerKey 10) = limit) →
        ((s.admitted onePerKeyWindows scope identifier k).length : ℤ) ≤ limit := by
  have runs : (run (checkNext fun _ => onePerKey 10) noCallers alternating).isSome = true := by
    decide +kernel
  obtain ⟨s, ran⟩ := Option.isSome_iff_exists.mp runs
  exact ⟨s, ran, callers_limited (fun scope => by cases scope <;> decide) (fun _ _ => rfl)
    alternating ran⟩

/-- The first is admitted, the second refused by its key. -/
example : (run (checkNext fun _ => onePerKey 10) noCallers alternating).map (fun s =>
    [s.outcome 0, s.outcome 1].map fun outcome => outcome.map fun outcome =>
      (outcome.allowed, outcome.bindingResult.scope)) =
        some [some (true, "key"), some (false, "key")] := by
  decide +kernel

end CortexGateway.RateLimiting
