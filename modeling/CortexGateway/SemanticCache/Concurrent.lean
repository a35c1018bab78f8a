import CortexGateway.Lib.Isolation
import CortexGateway.SemanticCache.Cache

/-! # The cache under many tasks

`lookup` and `store` are cut at their awaits: each EXISTS, LRANGE and HGETALL,
the embedding, and the pipeline of `store` is one step, and any steps of other
tasks may come before the next.  One Redis serves the tasks of all teams. -/
set_option autoImplicit false
namespace CortexGateway.SemanticCache

/-- The await a lookup stands at, or what it has selected. -/
inductive LookupControl (κ : Type)
  | checking
  | embedding
  | listing (queryEmbedding : List ℚ)
  | scanning (queryEmbedding : List ℚ) (entryIds : List String) (scan : Scan κ)
  | ended (selected : Except Exc (Option (EntryHash κ)))

/-- The await a store stands at, or its end. -/
inductive StoreControl (κ : Type)
  | checking
  | embedding
  | writing (entry : EntryHash κ)
  | ended (outcome : Except Exc Unit)

section Steps
variable {κ : Type} [DecidableEq κ] (cache : Cache κ) (redis : Redis κ) (now : ℚ) (teamId : String)
variable (request : ChatCompletionRequest)

/-- What is asked before the first await. -/
def Cache.serves : Bool := cache.enabled && isEligible request && teamId ≠ ""

/-! ## Lookup -/

def Cache.startLookup : LookupControl κ :=
  if cache.serves teamId request then .checking else .ended (.ok none)

/-- Turns of the loop: the next entry is read, or the best one is taken. -/
def Cache.scanOn (queryEmbedding : List ℚ) (entryIds : List String) (scan : Scan κ) :
    LookupControl κ :=
  match entryIds with
  | [] => .ended (.ok
      (if scan.bestSimilarity < cache.threshold then none else scan.bestEntryData))
  | _ :: _ => .scanning queryEmbedding entryIds scan

/-- The await of a lookup ends, with the reply of Redis as it is now. -/
def Cache.resumeLookup : LookupControl κ → LookupControl κ
  | .checking => if redis.keys (cache.disabledKey teamId) then .ended (.ok none) else .embedding
  | .embedding =>
      match cache.getEmbedding (extractEmbeddingText request) with
      | .error exc => .ended (if exc = embeddingError then .ok none else .error exc)
      | .ok queryEmbedding => .listing queryEmbedding
  | .listing queryEmbedding =>
      cache.scanOn queryEmbedding (redis.lists (cache.indexKey teamId)) ⟨-1, none⟩
  | .scanning queryEmbedding entryIds scan =>
      match entryIds with
      | [] => cache.scanOn queryEmbedding [] scan
      | entryId :: rest =>
          match cache.scanEntry (redis.reads now) teamId queryEmbedding
            (buildConfigHash cache.digest request) scan entryId with
          | .error exc => .ended (.error exc)
          | .ok scan => cache.scanOn queryEmbedding rest scan
  | .ended selected => .ended selected

/-! ## Store -/

omit [DecidableEq κ] in
def Cache.startStore : StoreControl κ :=
  if cache.serves teamId request then .checking else .ended (.ok ())

omit [DecidableEq κ] in
/-- The await of a store ends. -/
def Cache.resumeStore (response : ChatCompletionResponse) (entryId : String) :
    StoreControl κ → Redis κ × StoreControl κ
  | .checking =>
      (redis, if redis.keys (cache.disabledKey teamId) then .ended (.ok ()) else .embedding)
  | .embedding =>
      (redis, match cache.getEmbedding (extractEmbeddingText request) with
        | .error exc => .ended (if exc = embeddingError then .ok () else .error exc)
        | .ok embedding => .writing (cache.entryOf request response embedding))
  | .writing entry => (cache.write redis now teamId entryId entry, .ended (.ok ()))
  | .ended outcome => (redis, .ended outcome)

/-! ## The flag and the expiry -/

omit [DecidableEq κ] in
def Cache.disableForTeam : Redis κ :=
  { redis with keys := Function.update redis.keys (cache.disabledKey teamId) true }

omit [DecidableEq κ] in
def Cache.enableForTeam : Redis κ :=
  { redis with keys := Function.update redis.keys (cache.disabledKey teamId) false }

omit [DecidableEq κ] in
/-- Redis removes a hash whose time has come. -/
def Redis.removeExpired (key : String) : Redis κ :=
  { redis with
    hashes := Function.update redis.hashes key
      ((redis.hashes key).filter fun held => now < held.2) }

end Steps

/-! ## Tasks -/

inductive CacheTask (κ : Type)
  | lookup (request : ChatCompletionRequest) (control : LookupControl κ)
  | store (request : ChatCompletionRequest) (response : ChatCompletionResponse) (entryId : String)
      (control : StoreControl κ)

/-- A task that begins, a task whose await ends, and the rest, which is one command
each.  A store is given the UUID its entry will have. -/
inductive Operation
  | lookup (task : ℕ) (request : ChatCompletionRequest)
  | store (task : ℕ) (request : ChatCompletionRequest) (response : ChatCompletionResponse)
      (entryId : String)
  | resume (task : ℕ)
  | disable
  | enable
  | expire (entryId : String)

/-- An operation of a team, at a time. -/
structure TeamOperation where
  teamId : String
  now : ℚ
  operation : Operation

/-- One Redis, and the tasks of every team. -/
structure CacheSystem (κ : Type) where
  redis : Redis κ
  tasks : String → ℕ → Option (CacheTask κ)

/-- What a lookup selected, once it has ended. -/
def CacheTask.selected {κ : Type} : CacheTask κ → Option (Except Exc (Option (EntryHash κ)))
  | .lookup _ (.ended selected) => some selected
  | _ => none

section System
variable {κ : Type} [DecidableEq κ] (cache : Cache κ)

omit [DecidableEq κ] in
def CacheSystem.put (s : CacheSystem κ) (redis : Redis κ) (teamId : String) (id : ℕ)
    (task : CacheTask κ) : CacheSystem κ :=
  { redis := redis
    tasks := Function.update s.tasks teamId (Function.update (s.tasks teamId) id (some task)) }

/-- The await of a task ends. -/
def Cache.resumeTask (redis : Redis κ) (now : ℚ) (teamId : String) :
    CacheTask κ → Redis κ × CacheTask κ
  | .lookup request control =>
      (redis, .lookup request (cache.resumeLookup redis now teamId request control))
  | .store request response entryId control =>
      let after := cache.resumeStore redis now teamId request response entryId control
      (after.1, .store request response entryId after.2)

/-- A step answers what the lookup it ends has selected. -/
def Cache.step (s : CacheSystem κ) (a : TeamOperation) :
    Option (Except Exc (Option (EntryHash κ))) × CacheSystem κ :=
  match a.operation with
  | .lookup id request =>
      match s.tasks a.teamId id with
      | some _ => (none, s)
      | none =>
          let task := .lookup request (cache.startLookup a.teamId request)
          (task.selected, s.put s.redis a.teamId id task)
  | .store id request response entryId =>
      match s.tasks a.teamId id with
      | some _ => (none, s)
      | none =>
          (none, s.put s.redis a.teamId id
            (.store request response entryId (cache.startStore a.teamId request)))
  | .resume id =>
      match s.tasks a.teamId id with
      | none => (none, s)
      | some task =>
          let after := cache.resumeTask s.redis a.now a.teamId task
          (after.2.selected, s.put after.1 a.teamId id after.2)
  | .disable => (none, { s with redis := cache.disableForTeam s.redis a.teamId })
  | .enable => (none, { s with redis := cache.enableForTeam s.redis a.teamId })
  | .expire entryId =>
      (none, { s with redis := s.redis.removeExpired a.now (cache.entryKey a.teamId entryId) })

end System

/-! ## A task on its own -/

section Alone
variable {κ : Type} [DecidableEq κ] (cache : Cache κ) (redis : Redis κ) (now : ℚ) (teamId : String)
variable (request : ChatCompletionRequest)

theorem ended_alone (n : ℕ) (selected : Except Exc (Option (EntryHash κ))) :
    (cache.resumeLookup redis now teamId request)^[n] (.ended selected) = .ended selected :=
  Function.iterate_fixed rfl n

theorem scanOn_alone (queryEmbedding : List ℚ) (entryIds : List String) (scan : Scan κ) :
    (cache.resumeLookup redis now teamId request)^[entryIds.length]
        (cache.scanOn queryEmbedding entryIds scan) =
      .ended (do
        let scan ← entryIds.foldlM (cache.scanEntry (redis.reads now) teamId queryEmbedding
          (buildConfigHash cache.digest request)) scan
        return if scan.bestSimilarity < cache.threshold then none else scan.bestEntryData) := by
  induction entryIds generalizing scan with
  | nil => rfl
  | cons entryId rest ih =>
      rw [List.length_cons, Function.iterate_succ_apply, List.foldlM_cons]
      simp only [Cache.scanOn, Cache.resumeLookup]
      cases read : cache.scanEntry (redis.reads now) teamId queryEmbedding
          (buildConfigHash cache.digest request) scan entryId with
      | error exc => exact ended_alone cache redis now teamId request rest.length (.error exc)
      | ok next => exact ih next

/-- Undisturbed, a lookup selects what `select` does. -/
theorem lookup_alone (serves : cache.serves teamId request = true) :
    ∃ n, (cache.resumeLookup redis now teamId request)^[n] (cache.startLookup teamId request) =
      .ended (if redis.keys (cache.disabledKey teamId) then .ok none
        else cache.select (redis.reads now) teamId request) := by
  rw [Cache.startLookup, if_pos serves]
  by_cases disabled : redis.keys (cache.disabledKey teamId) = true
  · refine ⟨1, ?_⟩
    simp [Cache.resumeLookup, disabled]
  · rw [if_neg disabled]
    cases embedded : cache.getEmbedding (extractEmbeddingText request) with
    | error exc =>
        refine ⟨2, ?_⟩
        simp only [Function.iterate_succ_apply, Function.iterate_zero_apply, Cache.resumeLookup,
          if_neg disabled, embedded, Cache.select]
        split_ifs <;> rfl
    | ok queryEmbedding =>
        refine ⟨(redis.lists (cache.indexKey teamId)).length + 3, ?_⟩
        have first : cache.resumeLookup redis now teamId request .checking = .embedding := by
          simp only [Cache.resumeLookup, if_neg disabled]
        have second : cache.resumeLookup redis now teamId request .embedding =
            .listing queryEmbedding := by
          simp only [Cache.resumeLookup, embedded]
        rw [Function.iterate_add_apply]
        simp only [Function.iterate_succ_apply, Function.iterate_zero_apply, first, second]
        simp only [Cache.resumeLookup, scanOn_alone, Cache.select, embedded]
        rfl

/-- What is built from the selection is built without an await. -/
theorem lookup_eq (context : Attributes) (fresh : Fresh)
    (team : context "team_id" = .ok teamId) :
    cache.lookup (some (redis.reads now)) request context fresh =
      (do
        let selected ←
          if cache.serves teamId request && !redis.keys (cache.disabledKey teamId) then
            cache.select (redis.reads now) teamId request
          else .ok none
        match selected with
        | none => return none
        | some raw => fallbackOn ((reconstruct raw context fresh).map some) none) := by
  have open_ : cache.isTeamDisabled (redis.reads now) teamId =
      .ok (redis.keys (cache.disabledKey teamId)) := rfl
  unfold Cache.lookup Cache.serves
  cases enabled : cache.enabled
  · rfl
  cases eligible : isEligible request
  · rfl
  by_cases named : teamId = ""
  · simp [team, named, bind, Except.bind]
  cases disabled : redis.keys (cache.disabledKey teamId)
  · cases selected : cache.select (redis.reads now) teamId request with
    | error exc => simp [team, named, open_, disabled, selected, bind, Except.bind]
    | ok found =>
        cases found <;> simp [team, named, open_, disabled, selected, bind, Except.bind]
  · simp [team, named, open_, disabled, bind, Except.bind]

omit [DecidableEq κ] in
/-- Undisturbed, a store leaves what `store` leaves. -/
theorem store_alone (context : Attributes) (response : ChatCompletionResponse) (entryId : String)
    (team : context "team_id" = .ok teamId) :
    ∃ n, (fun s : Redis κ × StoreControl κ =>
        cache.resumeStore s.1 now teamId request response entryId s.2)^[n]
          (redis, cache.startStore teamId request) =
      match cache.store redis now request context response entryId with
      | .ok after => (after, .ended (.ok ()))
      | .error exc => (redis, .ended (.error exc)) := by
  unfold Cache.store Cache.startStore Cache.serves
  cases enabled : cache.enabled
  · exact ⟨0, by simp [pure, Except.pure]⟩
  cases eligible : isEligible request
  · exact ⟨0, by simp [pure, Except.pure]⟩
  by_cases named : teamId = ""
  · exact ⟨0, by simp [team, named, bind, Except.bind, pure, Except.pure]⟩
  cases disabled : redis.keys (cache.disabledKey teamId)
  · cases embedded : cache.getEmbedding (extractEmbeddingText request) with
    | error exc =>
        refine ⟨2, ?_⟩
        by_cases caught : exc = embeddingError <;>
          simp [Cache.resumeStore, team, named, disabled, embedded, caught, bind, Except.bind, pure,
            Except.pure, throw, throwThe, MonadExceptOf.throw]
    | ok embedding =>
        refine ⟨3, ?_⟩
        simp [Cache.resumeStore, team, named, disabled, embedded, bind, Except.bind, pure,
          Except.pure]
  · refine ⟨1, ?_⟩
    simp [Cache.resumeStore, team, named, disabled, bind, Except.bind, pure, Except.pure]

end Alone

end CortexGateway.SemanticCache
