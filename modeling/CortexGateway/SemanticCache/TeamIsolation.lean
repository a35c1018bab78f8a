import CortexGateway.SemanticCache.Concurrent
import CortexGateway.SemanticCache.Hits

/-! # Teams do not meet in the cache

The keys of a team begin with its id and a colon, so an id without a colon is
read off its keys.  What a team sees of Redis is its flag, its index and its
entries; no step of another team writes any of them. -/
set_option autoImplicit false
namespace CortexGateway.SemanticCache
open Isolation

def ColonFree (teamId : String) : Prop := ':' ∉ teamId.toList

instance (teamId : String) : Decidable (ColonFree teamId) :=
  inferInstanceAs (Decidable (¬ _))

/-! ## Keys -/

section Keys
variable {κ : Type} (cache : Cache κ) {first second : String}

def Cache.keyStart : String := "semantic_cache:" ++ cache.version ++ ":team:"

/-- What all keys of a team are. -/
def Cache.teamKey (teamId rest : String) : String := cache.keyStart ++ (teamId ++ (":" ++ rest))

theorem indexKey_eq (teamId : String) :
    cache.indexKey teamId = cache.teamKey teamId "index" := by
  change cache.keyStart ++ teamId ++ (":" ++ "index") = _
  exact String.append_assoc

theorem disabledKey_eq (teamId : String) :
    cache.disabledKey teamId = cache.teamKey teamId "disabled" := by
  change cache.keyStart ++ teamId ++ (":" ++ "disabled") = _
  exact String.append_assoc

theorem entryKey_eq (teamId entryId : String) :
    cache.entryKey teamId entryId = cache.teamKey teamId ("entry:" ++ entryId) := by
  change cache.keyStart ++ teamId ++ (":" ++ "entry:") ++ entryId = _
  simp only [Cache.teamKey, String.append_assoc]

theorem teamKey_inj (firstFree : ColonFree first) (secondFree : ColonFree second) {a b : String}
    (same : cache.teamKey first a = cache.teamKey second b) : first = second ∧ a = b := by
  unfold Cache.teamKey at same
  rw [String.append_right_inj] at same
  have lists : first.toList ++ ':' :: a.toList = second.toList ++ ':' :: b.toList := by
    simpa [String.toList_append] using congrArg String.toList same
  have upToColon : ∀ {id : String} (rest : List Char), ColonFree id →
      (id.toList ++ ':' :: rest).takeWhile (· ≠ ':') = id.toList := by
    intro id rest free
    have plain : ∀ c ∈ id.toList, decide (c ≠ ':') = true := by
      intro c member
      exact decide_eq_true fun colon => free (colon ▸ member)
    rw [List.takeWhile_append_of_pos plain, List.takeWhile_cons_of_neg (by simp), List.append_nil]
  have ids : first.toList = second.toList := by
    rw [← upToColon a.toList firstFree, lists, upToColon b.toList secondFree]
  rw [ids] at lists
  exact ⟨String.toList_inj.mp ids,
    String.toList_inj.mp (List.cons.inj (List.append_cancel_left lists)).2⟩

variable (firstFree : ColonFree first) (secondFree : ColonFree second)

include firstFree secondFree

/-- A flag, an index and an entry never share a key, so that Redis can be taken
apart by kind. -/
theorem kinds_apart (entryId : String) :
    cache.indexKey first ≠ cache.disabledKey second ∧
      cache.indexKey first ≠ cache.entryKey second entryId ∧
        cache.disabledKey first ≠ cache.entryKey second entryId := by
  have starts : ∀ {rest : String}, rest = "entry:" ++ entryId → rest.toList.head? = some 'e' := by
    rintro _ rfl
    rw [String.toList_append]
    rfl
  refine ⟨fun same => ?_, fun same => ?_, fun same => ?_⟩
  · rw [indexKey_eq, disabledKey_eq] at same
    exact absurd (teamKey_inj cache firstFree secondFree same).2 (by decide)
  · rw [indexKey_eq, entryKey_eq] at same
    exact absurd (starts (teamKey_inj cache firstFree secondFree same).2) (by decide)
  · rw [disabledKey_eq, entryKey_eq] at same
    exact absurd (starts (teamKey_inj cache firstFree secondFree same).2) (by decide)

variable (others : first ≠ second)

include others

theorem teamKey_ne (a b : String) : cache.teamKey first a ≠ cache.teamKey second b :=
  fun same => others (teamKey_inj cache firstFree secondFree same).1

theorem indexKey_ne : cache.indexKey first ≠ cache.indexKey second := by
  rw [indexKey_eq, indexKey_eq]
  exact teamKey_ne cache firstFree secondFree others _ _

theorem disabledKey_ne : cache.disabledKey first ≠ cache.disabledKey second := by
  rw [disabledKey_eq, disabledKey_eq]
  exact teamKey_ne cache firstFree secondFree others _ _

theorem entryKey_ne (entryId otherId : String) :
    cache.entryKey first entryId ≠ cache.entryKey second otherId := by
  rw [entryKey_eq, entryKey_eq]
  exact teamKey_ne cache firstFree secondFree others _ _

end Keys

/-! ## What a team sees -/

/-- The flag, the index and the entries of a team. -/
structure TeamData (κ : Type) where
  disabled : Bool
  index : List String
  entries : String → Option (EntryHash κ × ℚ)

section View
variable {κ : Type} [DecidableEq κ] (cache : Cache κ) (teamId : String)

omit [DecidableEq κ] in
def Cache.teamData (redis : Redis κ) : TeamData κ :=
  { disabled := redis.keys (cache.disabledKey teamId)
    index := redis.lists (cache.indexKey teamId)
    entries := fun entryId => redis.hashes (cache.entryKey teamId entryId) }

omit [DecidableEq κ] in
def Cache.teamView (s : CacheSystem κ) : TeamData κ × (ℕ → Option (CacheTask κ)) :=
  (cache.teamData teamId s.redis, s.tasks teamId)

variable {cache teamId}

/-! ## The team's own steps -/

section Own
variable {redis other : Redis κ}

omit [DecidableEq κ] in
theorem teamData_eq_iff : cache.teamData teamId redis = cache.teamData teamId other ↔
    redis.keys (cache.disabledKey teamId) = other.keys (cache.disabledKey teamId) ∧
      redis.lists (cache.indexKey teamId) = other.lists (cache.indexKey teamId) ∧
        ∀ entryId, redis.hashes (cache.entryKey teamId entryId) =
          other.hashes (cache.entryKey teamId entryId) := by
  simp only [Cache.teamData, TeamData.mk.injEq, funext_iff]

variable (agree : cache.teamData teamId redis = cache.teamData teamId other)

include agree

theorem resumeLookup_agree (now : ℚ) (request : ChatCompletionRequest)
    (control : LookupControl κ) :
    cache.resumeLookup redis now teamId request control =
      cache.resumeLookup other now teamId request control := by
  obtain ⟨flag, index, entries⟩ := teamData_eq_iff.mp agree
  cases control with
  | checking => simp only [Cache.resumeLookup, flag]
  | embedding => rfl
  | listing queryEmbedding => simp only [Cache.resumeLookup, index]
  | scanning queryEmbedding entryIds scan =>
      cases entryIds with
      | nil => rfl
      | cons entryId rest =>
          simp only [Cache.resumeLookup, Cache.scanEntry, Redis.reads, entries]
  | ended selected => rfl

omit [DecidableEq κ] in
theorem write_agree (now : ℚ) (entryId : String) (entry : EntryHash κ) :
    cache.teamData teamId (cache.write redis now teamId entryId entry) =
      cache.teamData teamId (cache.write other now teamId entryId entry) := by
  obtain ⟨flag, index, entries⟩ := teamData_eq_iff.mp agree
  refine teamData_eq_iff.mpr ⟨flag, ?_, fun id => ?_⟩
  · simp only [Cache.write, Function.update_self, index]
  · simp only [Cache.write, Function.update_apply, entries]

theorem resumeTask_agree (now : ℚ) (task : CacheTask κ) :
    (cache.resumeTask redis now teamId task).2 = (cache.resumeTask other now teamId task).2 ∧
      cache.teamData teamId (cache.resumeTask redis now teamId task).1 =
        cache.teamData teamId (cache.resumeTask other now teamId task).1 := by
  obtain ⟨flag, index, entries⟩ := teamData_eq_iff.mp agree
  cases task with
  | lookup request control =>
      simp only [Cache.resumeTask, resumeLookup_agree agree]
      exact ⟨trivial, agree⟩
  | store request response entryId control =>
      cases control with
      | checking =>
          simp only [Cache.resumeTask, Cache.resumeStore, flag]
          exact ⟨trivial, agree⟩
      | embedding => exact ⟨rfl, agree⟩
      | writing entry => exact ⟨rfl, write_agree agree now entryId entry⟩
      | ended outcome => exact ⟨rfl, agree⟩

omit [DecidableEq κ] in
theorem disable_agree :
    cache.teamData teamId (cache.disableForTeam redis teamId) =
      cache.teamData teamId (cache.disableForTeam other teamId) := by
  obtain ⟨flag, index, entries⟩ := teamData_eq_iff.mp agree
  exact teamData_eq_iff.mpr
    ⟨by simp only [Cache.disableForTeam, Function.update_self], index, entries⟩

omit [DecidableEq κ] in
theorem enable_agree :
    cache.teamData teamId (cache.enableForTeam redis teamId) =
      cache.teamData teamId (cache.enableForTeam other teamId) := by
  obtain ⟨flag, index, entries⟩ := teamData_eq_iff.mp agree
  exact teamData_eq_iff.mpr
    ⟨by simp only [Cache.enableForTeam, Function.update_self], index, entries⟩

omit [DecidableEq κ] in
theorem removeExpired_agree (now : ℚ) (entryId : String) :
    cache.teamData teamId (redis.removeExpired now (cache.entryKey teamId entryId)) =
      cache.teamData teamId (other.removeExpired now (cache.entryKey teamId entryId)) := by
  obtain ⟨flag, index, entries⟩ := teamData_eq_iff.mp agree
  refine teamData_eq_iff.mpr ⟨flag, index, fun id => ?_⟩
  simp only [Redis.removeExpired, Function.update_apply, entries]

end Own

omit [DecidableEq κ] in
theorem teamView_put (s : CacheSystem κ) (redis : Redis κ) (id : ℕ) (task : CacheTask κ) :
    cache.teamView teamId (s.put redis teamId id task) =
      (cache.teamData teamId redis, Function.update (s.tasks teamId) id (some task)) := by
  simp only [Cache.teamView, CacheSystem.put, Function.update_self]

theorem own_step (s t : CacheSystem κ) (a : TeamOperation) (own : a.teamId = teamId)
    (agree : cache.teamView teamId s = cache.teamView teamId t) :
    (cache.step s a).1 = (cache.step t a).1 ∧
      cache.teamView teamId (cache.step s a).2 = cache.teamView teamId (cache.step t a).2 := by
  obtain ⟨team, now, operation⟩ := a
  subst own
  obtain ⟨data, tasks⟩ := Prod.mk.inj agree
  cases operation with
  | lookup id request =>
      simp only [Cache.step, tasks]
      cases t.tasks team id with
      | some task => exact ⟨rfl, agree⟩
      | none => exact ⟨rfl, by simp only [teamView_put, data, tasks]⟩
  | store id request response entryId =>
      simp only [Cache.step, tasks]
      cases t.tasks team id with
      | some task => exact ⟨rfl, agree⟩
      | none => exact ⟨rfl, by simp only [teamView_put, data, tasks]⟩
  | resume id =>
      simp only [Cache.step, tasks]
      cases t.tasks team id with
      | none => exact ⟨rfl, agree⟩
      | some task =>
          obtain ⟨resumed, left⟩ := resumeTask_agree data now task
          simp only [teamView_put, resumed, left, tasks, and_self]
  | disable => exact ⟨rfl, Prod.ext (disable_agree data) tasks⟩
  | enable => exact ⟨rfl, Prod.ext (enable_agree data) tasks⟩
  | expire entryId => exact ⟨rfl, Prod.ext (removeExpired_agree data now entryId) tasks⟩

/-! ## The steps of others -/

section Foreign
variable {other : String} (others : teamId ≠ other) (free : ColonFree teamId)
variable (otherFree : ColonFree other) (redis : Redis κ)

include others free otherFree

omit [DecidableEq κ] in
theorem write_foreign (now : ℚ) (entryId : String) (entry : EntryHash κ) :
    cache.teamData teamId (cache.write redis now other entryId entry) =
      cache.teamData teamId redis := by
  refine teamData_eq_iff.mpr ⟨rfl, ?_, fun id => ?_⟩
  · exact Function.update_of_ne (indexKey_ne cache free otherFree others) _ _
  · exact Function.update_of_ne (entryKey_ne cache free otherFree others id entryId) _ _

theorem resumeTask_foreign (now : ℚ) (task : CacheTask κ) :
    cache.teamData teamId (cache.resumeTask redis now other task).1 =
      cache.teamData teamId redis := by
  cases task with
  | lookup request control => rfl
  | store request response entryId control =>
      cases control with
      | checking => rfl
      | embedding => rfl
      | writing entry => exact write_foreign others free otherFree redis now entryId entry
      | ended outcome => rfl

omit [DecidableEq κ] free otherFree in
theorem put_foreign (s : CacheSystem κ) (id : ℕ) (task : CacheTask κ) :
    cache.teamView teamId (s.put redis other id task) =
      (cache.teamData teamId redis, s.tasks teamId) := by
  simp only [Cache.teamView, CacheSystem.put, Function.update_of_ne others]

theorem foreign_step (s : CacheSystem κ) (now : ℚ) (operation : Operation) :
    cache.teamView teamId (cache.step s ⟨other, now, operation⟩).2 = cache.teamView teamId s := by
  cases operation with
  | lookup id request =>
      simp only [Cache.step]
      cases s.tasks other id with
      | some task => rfl
      | none => exact put_foreign others s.redis s id _
  | store id request response entryId =>
      simp only [Cache.step]
      cases s.tasks other id with
      | some task => rfl
      | none => exact put_foreign others s.redis s id _
  | resume id =>
      simp only [Cache.step]
      cases s.tasks other id with
      | none => rfl
      | some task =>
          rw [put_foreign others, resumeTask_foreign others free otherFree s.redis now task]
          rfl
  | disable =>
      refine Prod.ext (teamData_eq_iff.mpr ⟨?_, rfl, fun _ => rfl⟩) rfl
      exact Function.update_of_ne (disabledKey_ne cache free otherFree others) _ _
  | enable =>
      refine Prod.ext (teamData_eq_iff.mpr ⟨?_, rfl, fun _ => rfl⟩) rfl
      exact Function.update_of_ne (disabledKey_ne cache free otherFree others) _ _
  | expire entryId =>
      refine Prod.ext (teamData_eq_iff.mpr ⟨rfl, rfl, fun id => ?_⟩) rfl
      exact Function.update_of_ne (entryKey_ne cache free otherFree others id entryId) _ _

end Foreign

theorem step_separates (free : ColonFree teamId) :
    Separates cache.step TeamOperation.teamId teamId (fun a => ColonFree a.teamId)
      (cache.teamView teamId) where
  foreign s a otherFree others := foreign_step (Ne.symm others) free otherFree s a.now a.operation
  own s t a own agree := own_step s t a own agree

/-! ## Every lookup -/

variable (cache teamId) in
/-- What the steps of a team answer in a run: what its lookups select, as they end. -/
def Cache.selections (s : CacheSystem κ) (operations : List TeamOperation) :
    List (Option (Except Exc (Option (EntryHash κ)))) :=
  ownAnswers cache.step TeamOperation.teamId teamId s operations

/-- In two runs with the same steps of a team its lookups select the same, whatever
other teams do between them. -/
theorem selections_isolated (free : ColonFree teamId) (first second : List TeamOperation)
    (teams : ∀ a ∈ first ++ second, ColonFree a.teamId)
    (same : first.filter (·.teamId = teamId) = second.filter (·.teamId = teamId))
    (s t : CacheSystem κ) (agree : cache.teamView teamId s = cache.teamView teamId t) :
    cache.selections teamId s first = cache.selections teamId t second :=
  (step_separates free).indistinguishable first second
    (fun a member => teams a (List.mem_append_left second member))
    (fun a member => teams a (List.mem_append_right first member)) same s t agree

end View

/-! ## Two teams -/

def emptySystem : CacheSystem CacheConfig := ⟨emptyRedis, fun _ _ => none⟩

/-- The greeting is stored and looked up again, each in steps. -/
def quietRun : List TeamOperation :=
  [.store 0 hello helloBack "entry-1", .resume 0, .resume 0, .resume 0, .lookup 1 hello,
    .resume 1, .resume 1, .resume 1, .resume 1].map fun operation => ⟨"team-1", 0, operation⟩

/-- Another team stores under the same UUID, is disabled, and loses its entry. -/
def busyRun : List TeamOperation :=
  ⟨"team-2", 0, .store 0 hello helloBack "entry-1"⟩ :: quietRun.take 2 ++
    [.resume 0, .resume 0, .disable, .resume 0].map (fun operation => ⟨"team-2", 0, operation⟩) ++
      (quietRun.drop 2).take 5 ++ [⟨"team-2", 9000, .expire "entry-1"⟩] ++ quietRun.drop 7

theorem greeting_found_in_both :
    oneCache.selections "team-1" emptySystem busyRun =
        oneCache.selections "team-1" emptySystem quietRun ∧
      ((oneCache.selections "team-1" emptySystem quietRun).filterMap id).map (fun selected =>
        match selected with
        | .ok (some _) => true
        | _ => false) = [true] :=
  ⟨selections_isolated (by decide) busyRun quietRun (by decide +kernel) rfl emptySystem emptySystem
    rfl, by decide +kernel⟩

end CortexGateway.SemanticCache
