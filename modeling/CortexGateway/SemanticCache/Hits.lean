import CortexGateway.Lib.Exits
import CortexGateway.SemanticCache.Cache

/-! # What a lookup finds

Every step of the hit path works on what `store` has written.  What is missing
is the attribute `request_id` of the context: `RequestContext` has none, and
the `AttributeError` is turned into a miss. -/
set_option autoImplicit false
namespace CortexGateway.SemanticCache
open Exits

/-! ## Round trips -/

theorem deserializeChoice_serialize (choice : ChatCompletionChoice) :
    deserializeChoice (serializeChoice choice) = .ok choice := by
  obtain ⟨index, role, content, finishReason, rfl⟩ := choice
  cases finishReason <;> rfl

theorem deserializeChoices_serialize (choices : List ChatCompletionChoice) :
    (choices.map serializeChoice).mapM deserializeChoice = .ok choices := by
  induction choices with
  | nil => rfl
  | cons choice choices ih =>
      rw [List.map_cons, List.mapM_cons, deserializeChoice_serialize, ih]
      rfl

theorem deserializeUsage_serialize (usage : UsageMetadata) :
    deserializeUsage (.object
        [("prompt_tokens", .ofOption .int usage.promptTokens),
          ("completion_tokens", .ofOption .int usage.completionTokens),
          ("total_tokens", .ofOption .int usage.totalTokens)]) = .ok usage := by
  obtain ⟨promptTokens, completionTokens, totalTokens⟩ := usage
  cases promptTokens <;> cases completionTokens <;> cases totalTokens <;> rfl

/-- The stored provider, model, choices and usage counts. -/
structure SameAnswer (found response : ChatCompletionResponse) : Prop where
  provider : found.provider = response.provider
  model : found.model = response.model
  choices : found.choices = response.choices
  usage : found.usage = response.usage

theorem deserializeResponse_serialize {κ : Type} (raw : EntryHash κ)
    (response : ChatCompletionResponse)
    (dumped : raw.responseJson = some (.dumps (serializeResponse response))) (requestId : String)
    (fresh : Fresh) :
    deserializeResponse raw requestId fresh = .ok (cachedResponse response.provider response.model
      response.choices response.usage requestId fresh) := by
  have choices := deserializeChoices_serialize response.choices
  have usage := deserializeUsage_serialize response.usage
  simp only [deserializeResponse, dumped, field, JsonText.loads, serializeResponse, bind,
    Except.bind, Json.getItem, List.lookup, Json.iter, String.reduceBEq, usageOf, choices,
    Option.getD_some, usage, Json.asStr]
  rfl

/-! ## The scan -/

section Scan
variable {κ : Type} [DecidableEq κ] (cache : Cache κ)
variable (redis : RedisReads κ) (teamId : String) (queryEmbedding : List ℚ) (configHash : κ)

/-- Written by `store` for some request. -/
def Stored (raw : EntryHash κ) : Prop :=
  ∃ request response embedding, raw = cache.entryOf request response embedding

/-- A similarity above the start that reaches the threshold came with an entry,
and that entry was stored. -/
structure Scan.Sound (scan : Scan κ) : Prop where
  kept : -1 < scan.bestSimilarity → cache.threshold ≤ scan.bestSimilarity →
    scan.bestEntryData.isSome = true
  stored : ∀ raw ∈ scan.bestEntryData, Stored cache raw

omit [DecidableEq κ] in
theorem cosineSimilarity_stored (embedding : List ℚ) :
    ∃ sim, cosineSimilarity cache.sqrt queryEmbedding (.array (embedding.map .float)) = .ok sim := by
  by_cases length : queryEmbedding.length = embedding.length
  · exact ⟨_, cosineSimilarity_dumped cache.sqrt queryEmbedding embedding length⟩
  · refine ⟨0, ?_⟩
    have items : (Json.array (embedding.map .float)).iter = .ok (embedding.map Json.float) := rfl
    simp [cosineSimilarity, items, length, bind, Except.bind, pure, Except.pure]

theorem consider_eq (scan : Scan κ) (raw : EntryHash κ) (stored : Json) (sim : ℚ)
    (configured : raw.configHash = some configHash) (loaded : storedEmbedding raw = some stored)
    (computed : cosineSimilarity cache.sqrt queryEmbedding stored = .ok sim) :
    cache.consider queryEmbedding configHash scan raw = .ok
      (if scan.bestSimilarity < sim then
        ⟨sim, if cache.threshold ≤ sim then some raw else scan.bestEntryData⟩
      else scan) := by
  simp only [Cache.consider, configured, ne_eq, not_true_eq_false, if_false, loaded, computed, bind,
    Except.bind, pure, Except.pure]
  split <;> rfl

/-- An entry that was stored is considered without an error; the best
similarity does not fall. -/
theorem consider_stored (scan : Scan κ) (raw : EntryHash κ) (sound : scan.Sound cache)
    (stored : Stored cache raw) :
    ∃ next, cache.consider queryEmbedding configHash scan raw = .ok next ∧ next.Sound cache ∧
      scan.bestSimilarity ≤ next.bestSimilarity := by
  by_cases configured : raw.configHash = some configHash
  · obtain ⟨request, response, embedding, written⟩ := stored
    have loaded : storedEmbedding raw = some (.array (embedding.map .float)) := by
      rw [written]
      rfl
    obtain ⟨sim, computed⟩ := cosineSimilarity_stored cache queryEmbedding embedding
    rw [consider_eq cache queryEmbedding configHash scan raw _ sim configured loaded computed]
    by_cases better : scan.bestSimilarity < sim
    · rw [if_pos better]
      refine ⟨_, rfl, ⟨fun _ reaches => ?_, fun other held => ?_⟩, better.le⟩
      · simp only at reaches ⊢
        rw [if_pos reaches]
        rfl
      · simp only at held
        split_ifs at held
        · cases held
          exact ⟨request, response, embedding, written⟩
        · exact sound.stored other held
    · rw [if_neg better]
      exact ⟨scan, rfl, sound, le_refl _⟩
  · exact ⟨scan, by simp [Cache.consider, configured], sound, le_refl _⟩

theorem consider_similar (scan next : Scan κ) (raw : EntryHash κ) (stored : Json)
    (configured : raw.configHash = some configHash) (loaded : storedEmbedding raw = some stored)
    (similar : cosineSimilarity cache.sqrt queryEmbedding stored = .ok 1)
    (considered : cache.consider queryEmbedding configHash scan raw = .ok next) :
    1 ≤ next.bestSimilarity := by
  rw [consider_eq cache queryEmbedding configHash scan raw stored 1 configured loaded similar]
    at considered
  by_cases better : scan.bestSimilarity < 1
  · rw [if_pos better] at considered
    cases considered
    exact le_refl _
  · rw [if_neg better] at considered
    cases considered
    exact not_lt.mp better

/-- What the index lists is gone or was stored. -/
def AllStored (entryIds : List String) : Prop :=
  ∀ entryId ∈ entryIds, ∃ found, redis.hgetall (cache.entryKey teamId entryId) = .ok found ∧
    ∀ raw ∈ found, Stored cache raw

theorem scanEntry_stored (scan : Scan κ) (sound : scan.Sound cache) (entryId : String)
    (found : Option (EntryHash κ))
    (replied : redis.hgetall (cache.entryKey teamId entryId) = .ok found)
    (stored : ∀ raw ∈ found, Stored cache raw) :
    ∃ next, cache.scanEntry redis teamId queryEmbedding configHash scan entryId = .ok next ∧
      next.Sound cache ∧ scan.bestSimilarity ≤ next.bestSimilarity := by
  cases found with
  | none => exact ⟨scan, by simp [Cache.scanEntry, replied, fallbackOn, bind, Except.bind, pure,
      Except.pure], sound, le_refl _⟩
  | some raw =>
      obtain ⟨next, considered, holds, rises⟩ :=
        consider_stored cache queryEmbedding configHash scan raw sound (stored raw rfl)
      exact ⟨next, by simpa [Cache.scanEntry, replied, fallbackOn, bind, Except.bind] using
        considered, holds, rises⟩

theorem scan_stored (entryIds : List String) (scan : Scan κ) (sound : scan.Sound cache)
    (stored : AllStored cache redis teamId entryIds) :
    ∃ next, entryIds.foldlM (cache.scanEntry redis teamId queryEmbedding configHash) scan =
        .ok next ∧ next.Sound cache ∧ scan.bestSimilarity ≤ next.bestSimilarity := by
  induction entryIds generalizing scan with
  | nil => exact ⟨scan, rfl, sound, le_refl _⟩
  | cons entryId entryIds ih =>
      obtain ⟨found, replied, written⟩ := stored entryId List.mem_cons_self
      obtain ⟨next, scanned, holds, rises⟩ := scanEntry_stored cache redis teamId queryEmbedding
        configHash scan sound entryId found replied written
      obtain ⟨last, ran, ends, further⟩ := ih next holds fun other member =>
        stored other (List.mem_cons_of_mem _ member)
      refine ⟨last, ?_, ends, rises.trans further⟩
      rw [List.foldlM_cons, scanned]
      exact ran

/-- Once an entry of similarity 1 is met, the best similarity stays there. -/
theorem scan_finds (entryIds : List String) (scan : Scan κ) (sound : scan.Sound cache)
    (stored : AllStored cache redis teamId entryIds) (entryId : String)
    (indexed : entryId ∈ entryIds) (raw : EntryHash κ)
    (replied : redis.hgetall (cache.entryKey teamId entryId) = .ok (some raw)) (loaded : Json)
    (configured : raw.configHash = some configHash) (loads : storedEmbedding raw = some loaded)
    (similar : cosineSimilarity cache.sqrt queryEmbedding loaded = .ok 1) :
    ∃ next, entryIds.foldlM (cache.scanEntry redis teamId queryEmbedding configHash) scan =
        .ok next ∧ next.Sound cache ∧ 1 ≤ next.bestSimilarity := by
  induction entryIds generalizing scan with
  | nil => cases indexed
  | cons first entryIds ih =>
      obtain ⟨found, headReplied, written⟩ := stored first List.mem_cons_self
      obtain ⟨next, scanned, holds, -⟩ := scanEntry_stored cache redis teamId queryEmbedding
        configHash scan sound first found headReplied written
      have later : AllStored cache redis teamId entryIds := fun other member =>
        stored other (List.mem_cons_of_mem _ member)
      rcases List.mem_cons.mp indexed with rfl | indexed
      · have considered : cache.consider queryEmbedding configHash scan raw = .ok next := by
          simpa [Cache.scanEntry, replied, fallbackOn, bind, Except.bind] using scanned
        have reaches := consider_similar cache queryEmbedding configHash scan next raw loaded
          configured loads similar considered
        obtain ⟨last, ran, ends, further⟩ := scan_stored cache redis teamId queryEmbedding configHash
          entryIds next holds later
        exact ⟨last, by rw [List.foldlM_cons, scanned]; exact ran, ends, reaches.trans further⟩
      · obtain ⟨last, ran, ends, reaches⟩ := ih next holds later indexed
        exact ⟨last, by rw [List.foldlM_cons, scanned]; exact ran, ends, reaches⟩

omit [DecidableEq κ] in
theorem sound_start : Scan.Sound cache (⟨-1, none⟩ : Scan κ) where
  kept := fun above => absurd above (lt_irrefl _)
  stored := fun _ held => by cases held

theorem bestEntry_finds (entryIds : List String) (stored : AllStored cache redis teamId entryIds)
    (entryId : String) (indexed : entryId ∈ entryIds) (raw : EntryHash κ)
    (replied : redis.hgetall (cache.entryKey teamId entryId) = .ok (some raw)) (loaded : Json)
    (configured : raw.configHash = some configHash) (loads : storedEmbedding raw = some loaded)
    (similar : cosineSimilarity cache.sqrt queryEmbedding loaded = .ok 1)
    (reachable : cache.threshold ≤ 1) :
    ∃ best, cache.bestEntry redis teamId queryEmbedding configHash entryIds = .ok (some best) ∧
      Stored cache best := by
  obtain ⟨last, ran, sound, reaches⟩ := scan_finds cache redis teamId queryEmbedding configHash
    entryIds ⟨-1, none⟩ (sound_start cache) stored entryId indexed raw replied loaded configured
    loads similar
  have above : cache.threshold ≤ last.bestSimilarity := reachable.trans reaches
  obtain ⟨best, held⟩ := Option.isSome_iff_exists.mp (sound.kept (by linarith) above)
  refine ⟨best, ?_, sound.stored best held⟩
  simp [Cache.bestEntry, ran, bind, Except.bind, pure, Except.pure, not_lt.mpr above, held]

end Scan

/-! ## The lookup -/

section Lookup
variable {κ : Type} [DecidableEq κ] (cache : Cache κ) (redis : Redis κ) (now : ℚ)
variable (request : ChatCompletionRequest) (response : ChatCompletionResponse) (fresh : Fresh)

/-- The entry is in the index and has not expired, and the team is not disabled. -/
structure Retained (teamId entryId : String) (entry : EntryHash κ) : Prop where
  indexed : entryId ∈ redis.lists (cache.indexKey teamId)
  alive : ∃ expiresAt, redis.hashes (cache.entryKey teamId entryId) = some (entry, expiresAt) ∧
    now < expiresAt
  notDisabled : redis.keys (cache.disabledKey teamId) = false

/-- The lookup returns a response, and the stored answer where it selects the
entry of that answer. -/
def FoundAgain (context : Attributes) (entry : EntryHash κ) : Prop :=
  ∃ found, cache.lookup (some (redis.reads now)) request context fresh = .ok (some found) ∧
    ∀ teamId, context "team_id" = .ok teamId →
      cache.select (redis.reads now) teamId request = .ok (some entry) → SameAnswer found response

omit [DecidableEq κ] in
theorem reconstruct_dumped (raw : EntryHash κ) (context : Attributes) (requestId : String)
    (identified : context "request_id" = .ok requestId)
    (dumped : raw.responseJson = some (.dumps (serializeResponse response))) :
    ∃ found, reconstruct raw context fresh = .ok found ∧ SameAnswer found response := by
  have answered := deserializeResponse_serialize raw response dumped
    (if requestId = "" then fresh.requestId else requestId) fresh
  refine ⟨cachedResponse response.provider response.model response.choices response.usage
    (if requestId = "" then fresh.requestId else requestId) fresh, ?_, ⟨rfl, rfl, rfl, rfl⟩⟩
  simp only [reconstruct, identified, bind, Except.bind]
  exact answered

theorem lookup_selected (context : Attributes) (teamId : String) (best : EntryHash κ)
    (enabled : cache.enabled = true) (eligible : isEligible request = true)
    (team : context "team_id" = .ok teamId) (named : teamId ≠ "")
    (notDisabled : redis.keys (cache.disabledKey teamId) = false)
    (selected : cache.select (redis.reads now) teamId request = .ok (some best)) :
    cache.lookup (some (redis.reads now)) request context fresh =
      fallbackOn ((reconstruct best context fresh).map some) none := by
  have open_ : cache.isTeamDisabled (redis.reads now) teamId = .ok false := by
    simp [Cache.isTeamDisabled, Redis.reads, fallbackOn, notDisabled]
  simp only [Cache.lookup, enabled, eligible, team, named, open_, selected, Bool.not_true,
    Bool.false_eq_true, if_false, bind, Except.bind]

/-- With a request id on the context a retained entry is found again. -/
theorem foundAgain_of_requestId (context : Attributes) (teamId requestId entryId : String)
    (queryEmbedding : List ℚ) (enabled : cache.enabled = true) (eligible : isEligible request = true)
    (team : context "team_id" = .ok teamId) (named : teamId ≠ "")
    (identified : context "request_id" = .ok requestId)
    (embedded : cache.getEmbedding (extractEmbeddingText request) = .ok queryEmbedding)
    (similar : cosine cache.sqrt queryEmbedding queryEmbedding = 1)
    (reachable : cache.threshold ≤ 1)
    (retained : Retained cache redis now teamId entryId
      (cache.entryOf request response queryEmbedding))
    (stored : AllStored cache (redis.reads now) teamId (redis.lists (cache.indexKey teamId))) :
    FoundAgain cache redis now request response fresh context
      (cache.entryOf request response queryEmbedding) := by
  obtain ⟨expiresAt, held, before⟩ := retained.alive
  obtain ⟨best, chosen, bestRequest, bestResponse, bestEmbedding, written⟩ :=
    bestEntry_finds cache (redis.reads now) teamId queryEmbedding
      (buildConfigHash cache.digest request) _ stored entryId retained.indexed
      (cache.entryOf request response queryEmbedding) (by simp [Redis.reads, held, before])
      (.array (queryEmbedding.map .float)) rfl rfl
      (by rw [cosineSimilarity_dumped cache.sqrt _ _ rfl, similar]) reachable
  have selected : cache.select (redis.reads now) teamId request = .ok (some best) := by
    simp only [Cache.select, embedded]
    exact chosen
  obtain ⟨found, answered, -⟩ := reconstruct_dumped bestResponse fresh best context requestId
    identified (by rw [written]; rfl)
  refine ⟨found, ?_, ?_⟩
  · rw [lookup_selected cache redis now request fresh context teamId best enabled eligible team named
      retained.notDisabled selected, answered]
    rfl
  · intro sameTeam sameContext own
    rw [team] at sameContext
    cases sameContext
    rw [selected] at own
    obtain ⟨again, reanswered, same⟩ := reconstruct_dumped response fresh best context requestId
      identified (by rw [Option.some_inj.mp (Except.ok.inj own)]; rfl)
    rw [answered] at reanswered
    cases reanswered
    exact same

theorem reconstructed_of_lookup (reads : Option (RedisReads κ)) (context : Attributes)
    (found : ChatCompletionResponse)
    (returned : cache.lookup reads request context fresh = .ok (some found)) :
    ∃ best : EntryHash κ, reconstruct best context fresh = .ok found := by
  unfold Cache.lookup at returned
  split_ifs at returned
  · cases returned
  · cases returned
  obtain ⟨teamId, -, returned⟩ := bind_eq_ok_iff.mp returned
  split_ifs at returned
  · cases returned
  split at returned
  · cases returned
  obtain ⟨disabled, -, returned⟩ := bind_eq_ok_iff.mp returned
  split_ifs at returned
  · cases returned
  obtain ⟨selected, -, returned⟩ := bind_eq_ok_iff.mp returned
  split at returned
  · cases returned
  · rename_i best
    refine ⟨best, ?_⟩
    cases outcome : reconstruct best context fresh with
    | ok response =>
        rw [outcome] at returned
        cases returned
        rfl
    | error exc =>
        rw [outcome] at returned
        simp only [fallbackOn, Except.map] at returned
        split_ifs at returned
        cases returned

/-- `RequestContext` has no request id: whatever Redis holds, nothing is found. -/
theorem lookup_misses (reads : Option (RedisReads κ)) (context : RequestContext)
    (found : ChatCompletionResponse) :
    cache.lookup reads request context.attributes fresh ≠ .ok (some found) := by
  intro returned
  obtain ⟨best, reconstructed⟩ := reconstructed_of_lookup cache request fresh reads
    context.attributes found returned
  cases reconstructed

/-- No answer is ever found again by a context that `authenticate` built. -/
theorem never_foundAgain (context : RequestContext) (entry : EntryHash κ) :
    ¬ FoundAgain cache redis now request response fresh context.attributes entry := by
  rintro ⟨found, returned, -⟩
  exact lookup_misses cache request fresh _ context found returned

end Lookup

/-! ## A stored answer -/

/-- One dimension is enough for one text. -/
def oneCache : Cache CacheConfig :=
  { enabled := true
    version := "v1"
    ttlSeconds := 3600
    threshold := 92 / 100
    maxEntries := 500
    embed := some fun _ => .ok [1]
    sqrt := Rat.sqrt
    digest := id }

def emptyRedis : Redis CacheConfig := ⟨fun _ => false, fun _ => [], fun _ => none⟩

def oneContext : RequestContext := ⟨"org-1", "team-1", "key-1", "member"⟩

/-- The greeting is stored and looked up a second later: the entry is selected
but not returned. -/
theorem greeting_not_found :
    ∃ redis, oneCache.store emptyRedis 0 hello oneContext.attributes helloBack "entry-1" = .ok redis ∧
      Retained oneCache redis 1 "team-1" "entry-1" (oneCache.entryOf hello helloBack [1]) ∧
      oneCache.select (redis.reads 1) "team-1" hello =
        .ok (some (oneCache.entryOf hello helloBack [1])) ∧
      ¬ FoundAgain oneCache redis 1 hello helloBack ⟨"req-2", "ctx_2", 1⟩ oneContext.attributes
        (oneCache.entryOf hello helloBack [1]) := by
  have stored : oneCache.store emptyRedis 0 hello oneContext.attributes helloBack "entry-1" = .ok
      (oneCache.write emptyRedis 0 "team-1" "entry-1" (oneCache.entryOf hello helloBack [1])) := by
    rfl
  have selfSimilar : cosine oneCache.sqrt [1] [1] = 1 := by decide +kernel
  have listed : (oneCache.write emptyRedis 0 "team-1" "entry-1"
      (oneCache.entryOf hello helloBack [1])).lists (oneCache.indexKey "team-1") = ["entry-1"] := by
    simp [Cache.write, oneCache, emptyRedis, ltrim]
  have alive : (oneCache.write emptyRedis 0 "team-1" "entry-1"
      (oneCache.entryOf hello helloBack [1])).hashes (oneCache.entryKey "team-1" "entry-1") =
        some (oneCache.entryOf hello helloBack [1], 3600) := by
    simp [Cache.write, oneCache]
  refine ⟨_, stored, ⟨by rw [listed]; simp, ⟨3600, alive, by norm_num⟩, rfl⟩, ?_, ?_⟩
  · have similar : cosineSimilarity oneCache.sqrt [1] (.array ([1].map Json.float)) = .ok 1 := by
      rw [cosineSimilarity_dumped oneCache.sqrt [1] [1] rfl, selfSimilar]
    have considered := consider_eq oneCache [1] (cacheConfig hello) ⟨-1, none⟩
      (oneCache.entryOf hello helloBack [1]) _ 1 rfl rfl similar
    rw [if_pos (by norm_num), if_pos (by norm_num [oneCache])] at considered
    have scanned : oneCache.scanEntry (Redis.reads (oneCache.write emptyRedis 0 "team-1" "entry-1"
        (oneCache.entryOf hello helloBack [1])) 1) "team-1" [1] (cacheConfig hello) ⟨-1, none⟩
          "entry-1" = .ok ⟨1, some (oneCache.entryOf hello helloBack [1])⟩ := by
      simp only [Cache.scanEntry, Redis.reads, alive]
      rw [if_pos (by norm_num)]
      exact considered
    have best : oneCache.bestEntry (Redis.reads (oneCache.write emptyRedis 0 "team-1" "entry-1"
        (oneCache.entryOf hello helloBack [1])) 1) "team-1" [1] (cacheConfig hello) ["entry-1"] =
          .ok (some (oneCache.entryOf hello helloBack [1])) := by
      unfold Cache.bestEntry
      rw [List.foldlM_cons, scanned]
      change Except.ok (if (1 : ℚ) < oneCache.threshold then none else _) = _
      rw [if_neg (by norm_num [oneCache])]
    rw [← listed] at best
    exact best
  · exact never_foundAgain oneCache _ 1 hello helloBack _ oneContext _

end CortexGateway.SemanticCache
