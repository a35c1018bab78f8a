import CortexGateway.SemanticCache.TeamIsolation

/-! # The index of a team

Each store of a team puts its entry in front of the index and trims the index to
`max_entries_per_team` with LTRIM.  The end of the range is inclusive, and 0
entries make it -1, the last of the list. -/
set_option autoImplicit false
namespace CortexGateway.SemanticCache

section Index
variable {κ : Type} [DecidableEq κ] (cache : Cache κ) (teamId : String)

omit [DecidableEq κ] in
/-- The entry a step stores for the team, by the pipeline of a store. -/
def CacheSystem.storedBy (s : CacheSystem κ) (a : TeamOperation) : Option String :=
  if a.teamId = teamId then
    match a.operation with
    | .resume id =>
        match s.tasks a.teamId id with
        | some (.store _ _ entryId (.writing _)) => some entryId
        | _ => none
    | _ => none
  else none

/-- The entries the team stores in a run, newest first. -/
def Cache.storedIds : CacheSystem κ → List TeamOperation → List String
  | _, [] => []
  | s, a :: rest =>
      Cache.storedIds (cache.step s a).2 rest ++ (s.storedBy teamId a).toList

/-- What the trims leave of the entries stored. -/
def keptOf (maxEntries : ℕ) (stored : List String) : List String :=
  if maxEntries = 0 then stored else stored.take maxEntries

omit [DecidableEq κ] in
theorem ltrim_keptOf (maxEntries : ℕ) (entryId : String) (stored : List String) :
    ltrim (entryId :: keptOf maxEntries stored) (maxEntries - 1) =
      keptOf maxEntries (entryId :: stored) := by
  cases maxEntries with
  | zero =>
      -- LTRIM 0 -1 keeps the whole list
      simp only [ltrim, keptOf, if_true, List.length_cons]
      apply List.take_of_length_le
      simp
  | succ n =>
      have stop : (((n + 1 : ℕ) : ℤ) - 1) = n := by simp
      have count : ((n : ℤ) + 1).toNat = n + 1 := by omega
      rw [stop]
      unfold ltrim keptOf
      rw [if_neg (by omega), if_neg (by omega), if_neg (by omega), count]
      simp only [List.take_succ_cons, List.take_take]
      rw [Nat.min_eq_left (by omega)]

omit [DecidableEq κ] in
theorem indexKey_inj {first second : String} :
    cache.indexKey first = cache.indexKey second ↔ first = second := by
  constructor
  · intro same
    unfold Cache.indexKey at same
    rwa [String.append_left_inj, String.append_right_inj] at same
  · intro same
    rw [same]

omit [DecidableEq κ] in
theorem write_index (redis : Redis κ) (now : ℚ) (other entryId : String) (entry : EntryHash κ) :
    (cache.write redis now other entryId entry).lists (cache.indexKey teamId) =
      if other = teamId then
        ltrim (entryId :: redis.lists (cache.indexKey teamId)) (cache.maxEntries - 1)
      else redis.lists (cache.indexKey teamId) := by
  unfold Cache.write
  by_cases own : other = teamId
  · subst own
    rw [if_pos rfl]
    exact Function.update_self _ _ _
  · rw [if_neg own]
    exact Function.update_of_ne (fun same => own ((indexKey_inj cache).mp same).symm) _ _

/-- A step changes the index of a team only by storing an entry for it. -/
theorem step_index (s : CacheSystem κ) (a : TeamOperation) :
    (cache.step s a).2.redis.lists (cache.indexKey teamId) =
      match s.storedBy teamId a with
      | some entryId =>
          ltrim (entryId :: s.redis.lists (cache.indexKey teamId)) (cache.maxEntries - 1)
      | none => s.redis.lists (cache.indexKey teamId) := by
  obtain ⟨team, now, operation⟩ := a
  cases operation with
  | lookup id request =>
      unfold CacheSystem.storedBy Cache.step
      dsimp only
      cases s.tasks team id <;> simp [CacheSystem.put]
  | store id request response entryId =>
      unfold CacheSystem.storedBy Cache.step
      dsimp only
      cases s.tasks team id <;> simp [CacheSystem.put]
  | resume id =>
      unfold CacheSystem.storedBy Cache.step
      dsimp only
      cases task : s.tasks team id with
      | none => simp
      | some held =>
          cases held with
          | lookup request control => simp [CacheSystem.put, Cache.resumeTask]
          | store request response entryId control =>
              cases control with
              | writing entry =>
                  dsimp only [CacheSystem.put, Cache.resumeTask, Cache.resumeStore]
                  rw [write_index]
                  split_ifs <;> rfl
              | checking => simp [CacheSystem.put, Cache.resumeTask, Cache.resumeStore]
              | embedding => simp [CacheSystem.put, Cache.resumeTask, Cache.resumeStore]
              | ended outcome => simp [CacheSystem.put, Cache.resumeTask, Cache.resumeStore]
  | disable => simp [CacheSystem.storedBy, Cache.step, Cache.disableForTeam]
  | enable => simp [CacheSystem.storedBy, Cache.step, Cache.enableForTeam]
  | expire entryId => simp [CacheSystem.storedBy, Cache.step, Redis.removeExpired]

theorem index_of_run (s : CacheSystem κ) (actions : List TeamOperation) (before : List String)
    (starts : s.redis.lists (cache.indexKey teamId) = keptOf cache.maxEntries before) :
    (Isolation.run cache.step s actions).2.redis.lists (cache.indexKey teamId) =
      keptOf cache.maxEntries (cache.storedIds teamId s actions ++ before) := by
  induction actions generalizing s before with
  | nil => exact starts
  | cons a rest ih =>
      have stepped := step_index cache teamId s a
      simp only [Isolation.run, Cache.storedIds]
      cases stored : s.storedBy teamId a with
      | none =>
          rw [stored] at stepped
          rw [ih _ before (stepped.trans starts)]
          simp
      | some entryId =>
          rw [stored] at stepped
          dsimp only at stepped
          rw [starts, ltrim_keptOf] at stepped
          rw [ih _ _ stepped]
          simp

/-- The index holds the newest of the entries stored, newest first, and no more than
it may. -/
structure KeepsNewest (maxEntries : ℕ) (index stored : List String) : Prop where
  bounded : index.length ≤ maxEntries
  newest : index = stored.take maxEntries

/-- After any run, with any tasks of other teams, the index holds the newest entries
exactly if it may hold one, or nothing was stored. -/
theorem keepsNewest_iff (s : CacheSystem κ) (actions : List TeamOperation)
    (empty : s.redis.lists (cache.indexKey teamId) = []) :
    KeepsNewest cache.maxEntries
        ((Isolation.run cache.step s actions).2.redis.lists (cache.indexKey teamId))
        (cache.storedIds teamId s actions) ↔
      1 ≤ cache.maxEntries ∨ cache.storedIds teamId s actions = [] := by
  have starts : s.redis.lists (cache.indexKey teamId) = keptOf cache.maxEntries [] := by
    rw [empty]
    unfold keptOf
    split_ifs <;> simp
  rw [index_of_run cache teamId s actions [] starts, List.append_nil]
  unfold keptOf
  constructor
  · intro keeps
    by_contra neither
    rw [not_or, not_le, Nat.lt_one_iff] at neither
    have same := keeps.newest
    rw [if_pos neither.1, neither.1, List.take_zero] at same
    exact neither.2 same
  · rintro (some | none)
    · rw [if_neg (by omega)]
      exact ⟨List.length_take_le _ _, rfl⟩
    · rw [none]
      split_ifs <;> exact ⟨by simp, by simp⟩

end Index

/-! ## An index for nothing -/

def noEntries : Cache CacheConfig := { oneCache with maxEntries := 0 }

/-- The entry stays in an index that may hold none. -/
theorem noEntries_keeps_entry :
    ¬ KeepsNewest noEntries.maxEntries
      ((Isolation.run noEntries.step emptySystem quietRun).2.redis.lists
        (noEntries.indexKey "team-1"))
      (noEntries.storedIds "team-1" emptySystem quietRun) := by
  intro keeps
  have index : (Isolation.run noEntries.step emptySystem quietRun).2.redis.lists
      (noEntries.indexKey "team-1") = ["entry-1"] := by decide +kernel
  have bounded := keeps.bounded
  rw [index] at bounded
  cases bounded

/-- With room for entries the index holds the newest ones, whatever other teams do. -/
theorem busyRun_keepsNewest :
    KeepsNewest 500
      ((Isolation.run oneCache.step emptySystem busyRun).2.redis.lists (oneCache.indexKey "team-1"))
      (oneCache.storedIds "team-1" emptySystem busyRun) :=
  (keepsNewest_iff oneCache "team-1" emptySystem busyRun rfl).mpr (.inl (by decide))

end CortexGateway.SemanticCache
