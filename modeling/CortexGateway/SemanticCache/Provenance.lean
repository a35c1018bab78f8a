import CortexGateway.SemanticCache.TeamIsolation

/-! # Where a cached answer comes from

However the tasks of all teams are interleaved, what a lookup selects was written
by a store of the same team, for a request with the same config and a text close
enough, and less than the time to live before it was read. -/
set_option autoImplicit false
namespace CortexGateway.SemanticCache
open Isolation

section Provenance
variable {κ : Type} [DecidableEq κ] (cache : Cache κ)

/-! ## What has happened -/

/-- The run has begun a store of the answer for the team. -/
def Begun (past : List TeamOperation) (teamId : String) (request : ChatCompletionRequest)
    (response : ChatCompletionResponse) : Prop :=
  ∃ now id entryId, ⟨teamId, now, .store id request response entryId⟩ ∈ past

/-- An await of the team has ended at this time. -/
def ResumedAt (past : List TeamOperation) (teamId : String) (now : ℚ) : Prop :=
  ∃ id, ⟨teamId, now, .resume id⟩ ∈ past

omit [DecidableEq κ] in
/-- The entry is what a store of the team makes of the answer. -/
structure MadeFrom (past : List TeamOperation) (teamId : String) (stored : ChatCompletionRequest)
    (response : ChatCompletionResponse) (embedding : List ℚ) (raw : EntryHash κ) : Prop where
  begun : Begun past teamId stored response
  serves : cache.serves teamId stored = true
  embedded : cache.getEmbedding (extractEmbeddingText stored) = .ok embedding
  made : raw = cache.entryOf stored response embedding

/-- The lookup has embedded its text. -/
structure Searches (teamId : String) (request : ChatCompletionRequest)
    (queryEmbedding : List ℚ) : Prop where
  serves : cache.serves teamId request = true
  embedded : cache.getEmbedding (extractEmbeddingText request) = .ok queryEmbedding

/-- The stored request is close enough to the one that is looked up. -/
structure Matches (request stored : ChatCompletionRequest) (queryEmbedding embedding : List ℚ) :
    Prop where
  config : buildConfigHash cache.digest stored = buildConfigHash cache.digest request
  similar : ∃ sim, cosineSimilarity cache.sqrt queryEmbedding (.array (embedding.map .float)) =
    .ok sim ∧ cache.threshold ≤ sim

/-- Written at one time and read at another, before it expires. -/
def ReadInTime (past : List TeamOperation) (teamId : String) : Prop :=
  ∃ writtenAt readAt, ResumedAt past teamId writtenAt ∧ ResumedAt past teamId readAt ∧
    readAt < writtenAt + cache.ttlSeconds

/-- Where an entry that a lookup takes has come from. -/
structure Origin (past : List TeamOperation) (teamId : String) (request : ChatCompletionRequest)
    (queryEmbedding : List ℚ) (raw : EntryHash κ) : Prop where
  source : ∃ stored response embedding, MadeFrom cache past teamId stored response embedding raw ∧
    Matches cache request stored queryEmbedding embedding
  inTime : ReadInTime cache past teamId

/-! ## The invariant -/

def LookupControl.Traced (past : List TeamOperation) (teamId : String)
    (request : ChatCompletionRequest) : LookupControl κ → Prop
  | .checking => cache.serves teamId request = true
  | .embedding => cache.serves teamId request = true
  | .listing queryEmbedding => Searches cache teamId request queryEmbedding
  | .scanning queryEmbedding _ scan => Searches cache teamId request queryEmbedding ∧
      ∀ raw ∈ scan.bestEntryData, Origin cache past teamId request queryEmbedding raw
  | .ended selected => ∀ raw, selected = .ok (some raw) →
      ∃ queryEmbedding, Searches cache teamId request queryEmbedding ∧
        Origin cache past teamId request queryEmbedding raw

def StoreControl.Traced (past : List TeamOperation) (teamId : String)
    (request : ChatCompletionRequest) (response : ChatCompletionResponse) :
    StoreControl κ → Prop
  | .checking => cache.serves teamId request = true
  | .embedding => cache.serves teamId request = true
  | .writing entry => ∃ embedding, MadeFrom cache past teamId request response embedding entry
  | .ended _ => True

def CacheTask.Traced (past : List TeamOperation) (teamId : String) : CacheTask κ → Prop
  | .lookup request control => control.Traced cache past teamId request
  | .store request response _ control => Begun past teamId request response ∧
      control.Traced cache past teamId request response

/-- Every entry of the team was written by one of its stores, and expires after it. -/
def EntriesTraced (past : List TeamOperation) (redis : Redis κ) (teamId : String) : Prop :=
  ∀ entryId raw expiresAt, redis.hashes (cache.entryKey teamId entryId) = some (raw, expiresAt) →
    (∃ stored response embedding, MadeFrom cache past teamId stored response embedding raw) ∧
      ∃ writtenAt, ResumedAt past teamId writtenAt ∧ expiresAt = writtenAt + cache.ttlSeconds

structure CacheSystem.Traced (past : List TeamOperation) (s : CacheSystem κ) : Prop where
  entries : ∀ teamId, ColonFree teamId → EntriesTraced cache past s.redis teamId
  tasks : ∀ teamId id task, s.tasks teamId id = some task →
    ColonFree teamId ∧ task.Traced cache past teamId

/-! ## What has happened stays so -/

variable {cache} {past : List TeamOperation} {teamId : String} {request : ChatCompletionRequest}

section Later
variable {response : ChatCompletionResponse} {later : List TeamOperation}
variable (longer : past ⊆ later)

include longer

theorem Begun.mono (begun : Begun past teamId request response) :
    Begun later teamId request response := by
  obtain ⟨now, id, entryId, member⟩ := begun
  exact ⟨now, id, entryId, longer member⟩

theorem ResumedAt.mono {now : ℚ} (resumed : ResumedAt past teamId now) :
    ResumedAt later teamId now := by
  obtain ⟨id, member⟩ := resumed
  exact ⟨id, longer member⟩

omit [DecidableEq κ] in
theorem MadeFrom.mono {embedding : List ℚ} {raw : EntryHash κ}
    (made : MadeFrom cache past teamId request response embedding raw) :
    MadeFrom cache later teamId request response embedding raw :=
  { made with begun := made.begun.mono longer }

omit [DecidableEq κ] in
theorem Origin.mono {queryEmbedding : List ℚ} {raw : EntryHash κ}
    (origin : Origin cache past teamId request queryEmbedding raw) :
    Origin cache later teamId request queryEmbedding raw := by
  obtain ⟨stored, response, embedding, made, fits⟩ := origin.source
  obtain ⟨writtenAt, readAt, written, read, before⟩ := origin.inTime
  exact ⟨⟨stored, response, embedding, made.mono longer, fits⟩,
    ⟨writtenAt, readAt, written.mono longer, read.mono longer, before⟩⟩

omit [DecidableEq κ] in
theorem LookupControl.Traced.mono {control : LookupControl κ}
    (traced : control.Traced cache past teamId request) :
    control.Traced cache later teamId request := by
  cases control with
  | checking => exact traced
  | embedding => exact traced
  | listing queryEmbedding => exact traced
  | scanning queryEmbedding entryIds scan =>
      exact ⟨traced.1, fun raw held => (traced.2 raw held).mono longer⟩
  | ended selected =>
      intro raw chosen
      obtain ⟨queryEmbedding, searches, origin⟩ := traced raw chosen
      exact ⟨queryEmbedding, searches, origin.mono longer⟩

omit [DecidableEq κ] in
theorem StoreControl.Traced.mono {control : StoreControl κ}
    (traced : control.Traced cache past teamId request response) :
    control.Traced cache later teamId request response := by
  cases control with
  | checking => exact traced
  | embedding => exact traced
  | writing entry =>
      obtain ⟨embedding, made⟩ := traced
      exact ⟨embedding, made.mono longer⟩
  | ended outcome => trivial

omit [DecidableEq κ] in
theorem CacheTask.Traced.mono {task : CacheTask κ} (traced : task.Traced cache past teamId) :
    task.Traced cache later teamId := by
  cases task with
  | lookup request control => exact LookupControl.Traced.mono longer traced
  | store request response entryId control =>
      exact ⟨traced.1.mono longer, traced.2.mono longer⟩

omit [DecidableEq κ] in
theorem EntriesTraced.mono {redis : Redis κ} (traced : EntriesTraced cache past redis teamId) :
    EntriesTraced cache later redis teamId := by
  intro entryId raw expiresAt held
  obtain ⟨⟨stored, response, embedding, made⟩, writtenAt, written, expires⟩ :=
    traced entryId raw expiresAt held
  exact ⟨⟨stored, response, embedding, made.mono longer⟩, writtenAt, written.mono longer, expires⟩

omit [DecidableEq κ] in
theorem CacheSystem.Traced.mono {s : CacheSystem κ} (traced : s.Traced cache past) :
    s.Traced cache later where
  entries teamId free := (traced.entries teamId free).mono longer
  tasks teamId id task held :=
    ⟨(traced.tasks teamId id task held).1, (traced.tasks teamId id task held).2.mono longer⟩

end Later

/-! ## A lookup -/

section Lookup
variable {queryEmbedding : List ℚ} {redis : Redis κ} {now : ℚ}

omit [DecidableEq κ] in
theorem startLookup_traced : (cache.startLookup teamId request).Traced cache past teamId request := by
  rw [Cache.startLookup]
  split_ifs with serves
  · exact serves
  · intro raw chosen
    cases chosen

omit [DecidableEq κ] in
theorem scanOn_traced (searches : Searches cache teamId request queryEmbedding)
    (entryIds : List String) (scan : Scan κ)
    (held : ∀ raw ∈ scan.bestEntryData, Origin cache past teamId request queryEmbedding raw) :
    (cache.scanOn queryEmbedding entryIds scan).Traced cache past teamId request := by
  cases entryIds with
  | nil =>
      intro raw chosen
      split_ifs at chosen
      · cases chosen
      · exact ⟨queryEmbedding, searches, held raw (Except.ok.inj chosen)⟩
  | cons entryId rest => exact ⟨searches, held⟩

omit [DecidableEq κ] in
theorem storedEmbedding_made {stored : ChatCompletionRequest} {response : ChatCompletionResponse}
    {embedding : List ℚ} {raw : EntryHash κ}
    (made : MadeFrom cache past teamId stored response embedding raw) :
    storedEmbedding raw = some (.array (embedding.map .float)) := by
  rw [made.made]
  rfl

/-- The best entry is the one before, or the one that is considered now. -/
theorem consider_origin {scan next : Scan κ} {raw : EntryHash κ}
    (considered : cache.consider queryEmbedding (buildConfigHash cache.digest request) scan raw =
      .ok next)
    (source : ∃ stored response embedding,
      MadeFrom cache past teamId stored response embedding raw)
    (inTime : ReadInTime cache past teamId)
    (held : ∀ best ∈ scan.bestEntryData, Origin cache past teamId request queryEmbedding best) :
    ∀ best ∈ next.bestEntryData, Origin cache past teamId request queryEmbedding best := by
  by_cases configured : raw.configHash = some (buildConfigHash cache.digest request)
  · obtain ⟨stored, response, embedding, made⟩ := source
    obtain ⟨sim, computed⟩ := cosineSimilarity_stored cache queryEmbedding embedding
    rw [consider_eq cache queryEmbedding _ scan raw _ sim configured (storedEmbedding_made made)
      computed] at considered
    have config : buildConfigHash cache.digest stored = buildConfigHash cache.digest request := by
      rw [made.made] at configured
      exact Option.some.inj configured
    split_ifs at considered with better reaches
    · cases considered
      intro best chosen
      cases Option.mem_some_iff.mp chosen
      exact ⟨⟨stored, response, embedding, made, config, sim, computed, reaches⟩, inTime⟩
    · cases considered
      exact held
    · cases considered
      exact held
  · rw [Cache.consider, if_pos configured] at considered
    cases considered
    exact held

theorem scanEntry_origin {scan next : Scan κ} {entryId : String}
    (scanned : cache.scanEntry (redis.reads now) teamId queryEmbedding
      (buildConfigHash cache.digest request) scan entryId = .ok next)
    (entries : EntriesTraced cache past redis teamId) (resumed : ResumedAt past teamId now)
    (held : ∀ best ∈ scan.bestEntryData, Origin cache past teamId request queryEmbedding best) :
    ∀ best ∈ next.bestEntryData, Origin cache past teamId request queryEmbedding best := by
  cases found : redis.hashes (cache.entryKey teamId entryId) with
  | none =>
      simp only [Cache.scanEntry, Redis.reads, found, fallbackOn, bind, Except.bind] at scanned
      cases scanned
      exact held
  | some entry =>
      obtain ⟨raw, expiresAt⟩ := entry
      obtain ⟨source, writtenAt, written, expires⟩ := entries entryId raw expiresAt found
      by_cases alive : now < expiresAt
      · simp only [Cache.scanEntry, Redis.reads, found, if_pos alive, fallbackOn, bind,
          Except.bind] at scanned
        exact consider_origin scanned source
          ⟨writtenAt, now, written, resumed, expires ▸ alive⟩ held
      · simp only [Cache.scanEntry, Redis.reads, found, if_neg alive, fallbackOn, bind,
          Except.bind] at scanned
        cases scanned
        exact held

theorem resumeLookup_traced (entries : EntriesTraced cache past redis teamId)
    (resumed : ResumedAt past teamId now) {control : LookupControl κ}
    (traced : control.Traced cache past teamId request) :
    (cache.resumeLookup redis now teamId request control).Traced cache past teamId request := by
  cases control with
  | checking =>
      rw [Cache.resumeLookup]
      split_ifs
      · intro raw chosen
        cases chosen
      · exact traced
  | embedding =>
      rw [Cache.resumeLookup]
      cases embedded : cache.getEmbedding (extractEmbeddingText request) with
      | error exc =>
          intro raw chosen
          split_ifs at chosen
          cases chosen
      | ok queryEmbedding => exact ⟨traced, embedded⟩
  | listing queryEmbedding =>
      exact scanOn_traced traced _ _ fun raw held => absurd held (Option.not_mem_none raw)
  | scanning queryEmbedding entryIds scan =>
      obtain ⟨searches, held⟩ := traced
      cases entryIds with
      | nil => exact scanOn_traced searches [] scan held
      | cons entryId rest =>
          simp only [Cache.resumeLookup]
          split
          · intro raw chosen
            cases chosen
          · rename_i next scanned
            exact scanOn_traced searches rest next
              (scanEntry_origin scanned entries resumed held)
  | ended selected => exact traced

end Lookup

/-! ## A store -/

section Store
variable {redis : Redis κ} {now : ℚ} {response : ChatCompletionResponse} {entryId : String}

omit [DecidableEq κ] in
theorem startStore_traced :
    (cache.startStore teamId request).Traced cache past teamId request response := by
  rw [Cache.startStore]
  split_ifs with serves
  · exact serves
  · trivial

omit [DecidableEq κ] in
theorem resumeStore_traced {control : StoreControl κ} (begun : Begun past teamId request response)
    (traced : control.Traced cache past teamId request response) :
    (cache.resumeStore redis now teamId request response entryId control).2.Traced cache past
      teamId request response := by
  cases control with
  | checking =>
      rw [Cache.resumeStore]
      split_ifs
      · trivial
      · exact traced
  | embedding =>
      rw [Cache.resumeStore]
      cases embedded : cache.getEmbedding (extractEmbeddingText request) with
      | error exc => trivial
      | ok embedding => exact ⟨embedding, begun, traced, embedded, rfl⟩
  | writing entry => trivial
  | ended outcome => trivial

omit [DecidableEq κ] in
/-- A write leaves the entries of other teams, and what it writes was made from
the answer of its store. -/
theorem write_traced {entry : EntryHash κ} {writer : String} (free : ColonFree teamId)
    (writerFree : ColonFree writer) (resumed : ResumedAt past writer now)
    (source : ∃ embedding, MadeFrom cache past writer request response embedding entry)
    (entries : EntriesTraced cache past redis teamId) :
    EntriesTraced cache past (cache.write redis now writer entryId entry) teamId := by
  intro id raw expiresAt held
  by_cases same : cache.entryKey teamId id = cache.entryKey writer entryId
  · have own : teamId = writer := by
      rw [entryKey_eq, entryKey_eq] at same
      exact (teamKey_inj cache free writerFree same).1
    subst own
    simp only [Cache.write, same, Function.update_self] at held
    cases held
    obtain ⟨embedding, made⟩ := source
    exact ⟨⟨request, response, embedding, made⟩, now, resumed, rfl⟩
  · simp only [Cache.write, Function.update_of_ne same] at held
    exact entries id raw expiresAt held

omit [DecidableEq κ] in
theorem removeExpired_traced (key : String) (entries : EntriesTraced cache past redis teamId) :
    EntriesTraced cache past (redis.removeExpired now key) teamId := by
  intro id raw expiresAt held
  by_cases same : cache.entryKey teamId id = key
  · simp only [Redis.removeExpired, same, Function.update_self] at held
    rw [← same] at held
    exact entries id raw expiresAt (Option.filter_eq_some_iff.mp held).1
  · simp only [Redis.removeExpired, Function.update_of_ne same] at held
    exact entries id raw expiresAt held

end Store

/-! ## A run -/

section Run
variable {s : CacheSystem κ}

omit [DecidableEq κ] in
theorem put_traced {redis : Redis κ} {task : CacheTask κ} (id : ℕ) (free : ColonFree teamId)
    (traced : s.Traced cache past)
    (entries : ∀ other, ColonFree other → EntriesTraced cache past redis other)
    (own : task.Traced cache past teamId) : (s.put redis teamId id task).Traced cache past where
  entries := entries
  tasks other otherId held standing := by
    by_cases same : other = teamId
    · subst same
      simp only [CacheSystem.put, Function.update_self] at standing
      by_cases sameId : otherId = id
      · subst sameId
        rw [Function.update_self] at standing
        cases standing
        exact ⟨free, own⟩
      · rw [Function.update_of_ne sameId] at standing
        exact traced.tasks other otherId held standing
    · simp only [CacheSystem.put, Function.update_of_ne same] at standing
      exact traced.tasks other otherId held standing

theorem resumeTask_traced {id : ℕ} {now : ℚ} {task : CacheTask κ} (free : ColonFree teamId)
    (traced : s.Traced cache past) (resumed : ResumedAt past teamId now)
    (own : task.Traced cache past teamId) :
    let after := cache.resumeTask s.redis now teamId task
    (s.put after.1 teamId id after.2).Traced cache past := by
  cases task with
  | lookup request control =>
      exact put_traced id free traced traced.entries
        (resumeLookup_traced (traced.entries teamId free) resumed own)
  | store request response entryId control =>
      obtain ⟨begun, stands⟩ := own
      refine put_traced id free traced (fun other otherFree => ?_)
        ⟨begun, resumeStore_traced begun stands⟩
      cases control with
      | checking => exact traced.entries other otherFree
      | embedding => exact traced.entries other otherFree
      | writing entry =>
          exact write_traced otherFree free resumed stands (traced.entries other otherFree)
      | ended outcome => exact traced.entries other otherFree

theorem step_traced (a : TeamOperation) (free : ColonFree a.teamId) (traced : s.Traced cache past) :
    (cache.step s a).2.Traced cache (past ++ [a]) := by
  have happened : a ∈ past ++ [a] := List.mem_append_right past List.mem_cons_self
  replace traced := traced.mono (List.subset_append_left past [a])
  obtain ⟨teamId, now, operation⟩ := a
  cases operation with
  | lookup id request =>
      simp only [Cache.step]
      cases s.tasks teamId id with
      | some task => exact traced
      | none => exact put_traced id free traced traced.entries startLookup_traced
  | store id request response entryId =>
      simp only [Cache.step]
      cases s.tasks teamId id with
      | some task => exact traced
      | none =>
          exact put_traced id free traced traced.entries
            ⟨⟨now, id, entryId, happened⟩, startStore_traced⟩
  | resume id =>
      simp only [Cache.step]
      cases standing : s.tasks teamId id with
      | none => exact traced
      | some task =>
          exact resumeTask_traced free traced ⟨id, happened⟩
            (traced.tasks teamId id task standing).2
  | disable => exact ⟨traced.entries, traced.tasks⟩
  | enable => exact ⟨traced.entries, traced.tasks⟩
  | expire entryId =>
      exact ⟨fun other otherFree => removeExpired_traced _ (traced.entries other otherFree),
        traced.tasks⟩

theorem run_traced (operations : List TeamOperation)
    (teams : ∀ a ∈ operations, ColonFree a.teamId) (traced : s.Traced cache past) :
    (run cache.step s operations).2.Traced cache (past ++ operations) := by
  induction operations generalizing s past with
  | nil =>
      rw [List.append_nil]
      exact traced
  | cons a rest ih =>
      have stepped := ih (fun b member => teams b (List.mem_cons_of_mem a member))
        (step_traced a (teams a List.mem_cons_self) traced)
      rwa [List.append_assoc] at stepped

/-- Nothing is cached, and no task has begun. -/
structure CacheSystem.Fresh (s : CacheSystem κ) : Prop where
  hashes : ∀ key, s.redis.hashes key = none
  tasks : ∀ teamId id, s.tasks teamId id = none

omit [DecidableEq κ] in
theorem CacheSystem.Fresh.traced (fresh : s.Fresh) : s.Traced cache [] where
  entries teamId free entryId raw expiresAt held := by
    rw [fresh.hashes] at held
    cases held
  tasks teamId id task held := by
    rw [fresh.tasks] at held
    cases held

end Run

/-! ## A team that has opted out -/

/-- The task has come to its end. -/
def CacheTask.Ended : CacheTask κ → Prop
  | .lookup _ control => ∃ selected, control = .ended selected
  | .store _ _ _ control => ∃ outcome, control = .ended outcome

/-- The task has done nothing, or has ended without doing anything. -/
def CacheTask.Silent : CacheTask κ → Prop
  | .lookup _ control => control = .checking ∨ control = .ended (.ok none)
  | .store _ _ _ control => control = .checking ∨ control = .ended (.ok ())

/-- The team is disabled, and since the start nothing was written, nothing that
was removed is back, and no task has found anything. -/
structure OptedOut (start view : TeamData κ × (ℕ → Option (CacheTask κ))) : Prop where
  disabled : view.1.disabled = true
  index : view.1.index = start.1.index
  entries : ∀ entryId held, view.1.entries entryId = some held →
    start.1.entries entryId = some held
  tasks : ∀ id task, view.2 id = some task →
    task.Silent ∨ start.2 id = some task ∧ task.Ended

section Opted
variable {start : TeamData κ × (ℕ → Option (CacheTask κ))} {s : CacheSystem κ}

omit [DecidableEq κ] in
theorem optedOut_put {id : ℕ} {task : CacheTask κ}
    (opted : OptedOut start (cache.teamView teamId s))
    (stands : task.Silent ∨ start.2 id = some task ∧ task.Ended) :
    OptedOut start (cache.teamView teamId (s.put s.redis teamId id task)) := by
  rw [teamView_put]
  refine ⟨opted.disabled, opted.index, opted.entries, fun other held standing => ?_⟩
  by_cases same : other = id
  · subst same
    simp only [Function.update_self] at standing
    cases standing
    exact stands
  · simp only [Function.update_of_ne same] at standing
    exact opted.tasks other held standing

omit [DecidableEq κ] in
theorem startLookup_silent :
    (CacheTask.lookup request (cache.startLookup teamId request)).Silent := by
  unfold Cache.startLookup
  split_ifs
  · exact Or.inl rfl
  · exact Or.inr rfl

omit [DecidableEq κ] in
theorem startStore_silent (response : ChatCompletionResponse) (entryId : String) :
    (CacheTask.store request response entryId
      (cache.startStore teamId request) : CacheTask κ).Silent := by
  unfold Cache.startStore
  split_ifs
  · exact Or.inl rfl
  · exact Or.inr rfl

variable (cache) in
/-- The first await finds the flag, and what has ended stays. -/
theorem resumeTask_silent {redis : Redis κ} (now : ℚ) {task : CacheTask κ}
    (disabled : redis.keys (cache.disabledKey teamId) = true) (silent : task.Silent) :
    (cache.resumeTask redis now teamId task).1 = redis ∧
      (cache.resumeTask redis now teamId task).2.Silent := by
  cases task with
  | lookup request control =>
      refine ⟨rfl, ?_⟩
      rcases silent with rfl | rfl
      · refine Or.inr ?_
        simp only [Cache.resumeLookup, if_pos disabled]
      · exact Or.inr rfl
  | store request response entryId control =>
      rcases silent with rfl | rfl
      · refine ⟨rfl, Or.inr ?_⟩
        simp only [Cache.resumeStore, if_pos disabled]
      · exact ⟨rfl, Or.inr rfl⟩

theorem resumeTask_ended {redis : Redis κ} {now : ℚ} {task : CacheTask κ} (ended : task.Ended) :
    cache.resumeTask redis now teamId task = (redis, task) := by
  cases task with
  | lookup request control =>
      obtain ⟨selected, rfl⟩ := ended
      rfl
  | store request response entryId control =>
      obtain ⟨outcome, rfl⟩ := ended
      rfl

theorem optedOut_step (a : TeamOperation) (own : a.teamId = teamId)
    (stays : a.operation ≠ .enable) (opted : OptedOut start (cache.teamView teamId s)) :
    OptedOut start (cache.teamView teamId (cache.step s a).2) := by
  obtain ⟨team, now, operation⟩ := a
  subst own
  cases operation with
  | lookup id request =>
      simp only [Cache.step]
      cases s.tasks team id with
      | some task => exact opted
      | none => exact optedOut_put opted (Or.inl startLookup_silent)
  | store id request response entryId =>
      simp only [Cache.step]
      cases s.tasks team id with
      | some task => exact opted
      | none => exact optedOut_put opted (Or.inl (startStore_silent response entryId))
  | resume id =>
      simp only [Cache.step]
      cases standing : s.tasks team id with
      | none => exact opted
      | some task =>
          rcases opted.tasks id task standing with silent | ⟨kept, ended⟩
          · obtain ⟨left, still⟩ := resumeTask_silent cache now opted.disabled silent
            simp only [left]
            exact optedOut_put opted (Or.inl still)
          · simp only [resumeTask_ended ended]
            exact optedOut_put opted (Or.inr ⟨kept, ended⟩)
  | disable =>
      refine ⟨?_, opted.index, opted.entries, opted.tasks⟩
      exact Function.update_self _ _ _
  | enable => exact absurd rfl stays
  | expire entryId =>
      refine ⟨opted.disabled, opted.index, fun id held standing => ?_, opted.tasks⟩
      refine opted.entries id held ?_
      by_cases same : cache.entryKey team id = cache.entryKey team entryId
      · simp only [Cache.step, Cache.teamData, Cache.teamView, Redis.removeExpired, same,
          Function.update_self] at standing ⊢
        exact (Option.filter_eq_some_iff.mp standing).1
      · simpa only [Cache.step, Cache.teamData, Cache.teamView, Redis.removeExpired,
          Function.update_of_ne same] using standing

theorem optedOut_run (free : ColonFree teamId) (operations : List TeamOperation)
    (teams : ∀ a ∈ operations, ColonFree a.teamId)
    (stays : ∀ a ∈ operations, a.teamId = teamId → a.operation ≠ .enable)
    (opted : OptedOut start (cache.teamView teamId s)) :
    OptedOut start (cache.teamView teamId (run cache.step s operations).2) := by
  induction operations generalizing s with
  | nil => exact opted
  | cons a rest ih =>
      refine ih (fun b member => teams b (List.mem_cons_of_mem a member))
        (fun b member => stays b (List.mem_cons_of_mem a member)) ?_
      by_cases own : a.teamId = teamId
      · exact optedOut_step a own (stays a List.mem_cons_self own) opted
      · have left : cache.teamView teamId (cache.step s a).2 = cache.teamView teamId s :=
          foreign_step (Ne.symm own) free (teams a List.mem_cons_self) s a.now a.operation
        exact left.symm ▸ opted

end Opted
end Provenance

/-- The greeting is kept, but not found while the team is disabled. -/
def greetingKept : CacheSystem CacheConfig :=
  { emptySystem with
    redis := oneCache.write emptyRedis 0 "team-1" "entry-1" (oneCache.entryOf hello helloBack [1]) }

end CortexGateway.SemanticCache
