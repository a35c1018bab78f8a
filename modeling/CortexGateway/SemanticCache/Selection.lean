import CortexGateway.Lib.RunningBest
import CortexGateway.SemanticCache.Hits

/-! # Which entry is selected

The scan of `lookup` keeps the best similarity and, apart from it, the entry to
be returned.  Over the live entries of the request's configuration whose embedding
can be read it finds the first of maximal similarity.  An embedding that is JSON
but no vector ends the scan with an error instead. -/
set_option autoImplicit false
namespace CortexGateway.SemanticCache
open RunningBest

/-! ## Embeddings that can be compared -/

/-- A sequence of another length than the query, or of numbers only. -/
def Comparable (queryEmbedding : List ℚ) (stored : Json) : Prop :=
  ∃ items, stored.iter = .ok items ∧
    (queryEmbedding.length ≠ items.length ∨ ∃ b, items.mapM Json.number = .ok b)

section Similarity
variable (sqrt : ℚ → ℚ) (queryEmbedding : List ℚ) (stored : Json)

theorem cosineSimilarity_ok_iff :
    (∃ sim, cosineSimilarity sqrt queryEmbedding stored = .ok sim) ↔
      Comparable queryEmbedding stored := by
  unfold cosineSimilarity Comparable
  cases iterated : stored.iter with
  | error exc => simp [bind, Except.bind]
  | ok items =>
      by_cases lengths : queryEmbedding.length = items.length
      · cases numbers : items.mapM Json.number <;>
          simp [bind, Except.bind, pure, Except.pure, lengths, numbers]
      · simp [bind, Except.bind, pure, Except.pure, lengths]

end Similarity

section Scan
variable {κ : Type} [DecidableEq κ] (cache : Cache κ) (redis : Redis κ) (now : ℚ) (teamId : String)
variable (queryEmbedding : List ℚ) (configHash : κ)

/-- The entry as `hgetall` finds it. -/
def Cache.liveEntry (entryId : String) : Option (EntryHash κ) :=
  match redis.hashes (cache.entryKey teamId entryId) with
  | some (hash, expiresAt) => if now < expiresAt then some hash else none
  | none => none

/-- The embedding of an entry of the configuration, where it can be read. -/
def embeddingFor (raw : EntryHash κ) : Option Json :=
  if raw.configHash = some configHash then storedEmbedding raw else none

/-- The similarity of an entry, where it can be compared. -/
def Cache.similarityTo (raw : EntryHash κ) : Option ℚ :=
  (embeddingFor configHash raw).bind fun stored =>
    (cosineSimilarity cache.sqrt queryEmbedding stored).toOption

/-- The live entries that are compared with the query, in index order. -/
def Cache.readable (entryIds : List String) : List (ℚ × EntryHash κ) :=
  entryIds.filterMap fun entryId => (cache.liveEntry redis now teamId entryId).bind fun raw =>
    (cache.similarityTo queryEmbedding configHash raw).map fun sim => (sim, raw)

/-- No live entry of the configuration has an embedding that is JSON and cannot be
compared. -/
def Cache.AllComparable (entryIds : List String) : Prop :=
  ∀ entryId ∈ entryIds, ∀ raw, cache.liveEntry redis now teamId entryId = some raw →
    ∀ stored, embeddingFor configHash raw = some stored → Comparable queryEmbedding stored

/-- The state of the scan as the best score and what came with it. -/
def Scan.best (scan : Scan κ) : ℚ × Option (EntryHash κ) :=
  (scan.bestSimilarity, scan.bestEntryData)

variable (scan : Scan κ)

theorem consider_comparable (raw : EntryHash κ)
    (comparable : ∀ stored, embeddingFor configHash raw = some stored →
      Comparable queryEmbedding stored) :
    ∃ next, cache.consider queryEmbedding configHash scan raw = .ok next ∧
      next.best = ((cache.similarityTo queryEmbedding configHash raw).map
        fun sim => (sim, raw)).toList.foldl (keep cache.threshold) scan.best := by
  cases readable : embeddingFor configHash raw with
  | none =>
      -- another configuration, or an embedding that cannot be read
      have skipped : cache.consider queryEmbedding configHash scan raw = .ok scan := by
        unfold embeddingFor at readable
        unfold Cache.consider
        split_ifs at readable with configured
        · simp [configured, readable]
        · simp [configured]
      refine ⟨scan, skipped, ?_⟩
      simp [Cache.similarityTo, readable]
  | some stored =>
      obtain ⟨sim, computed⟩ := (cosineSimilarity_ok_iff cache.sqrt queryEmbedding stored).mpr
        (comparable stored readable)
      have similarity : cache.similarityTo queryEmbedding configHash raw = some sim := by
        simp [Cache.similarityTo, readable, computed, Except.toOption]
      unfold embeddingFor at readable
      split_ifs at readable with configured
      rw [consider_eq cache queryEmbedding configHash scan raw stored sim configured readable computed,
        similarity]
      refine ⟨_, rfl, ?_⟩
      simp only [Option.map_some, Option.toList_some, List.foldl_cons, List.foldl_nil, keep, Scan.best]
      split_ifs <;> rfl

theorem consider_incomparable (raw : EntryHash κ) (stored : Json)
    (loaded : embeddingFor configHash raw = some stored)
    (incomparable : ¬ Comparable queryEmbedding stored) :
    ∃ exc, cache.consider queryEmbedding configHash scan raw = .error exc := by
  unfold embeddingFor at loaded
  split_ifs at loaded with configured
  unfold Cache.consider
  simp only [configured, ne_eq, not_true_eq_false, if_false, loaded]
  cases computed : cosineSimilarity cache.sqrt queryEmbedding stored with
  | ok sim =>
      exact absurd ((cosineSimilarity_ok_iff cache.sqrt queryEmbedding stored).mp ⟨sim, computed⟩)
        incomparable
  | error exc => exact ⟨exc, rfl⟩

theorem scanEntry_live (entryId : String) :
    cache.scanEntry (redis.reads now) teamId queryEmbedding configHash scan entryId =
      match cache.liveEntry redis now teamId entryId with
      | none => .ok scan
      | some raw => cache.consider queryEmbedding configHash scan raw := by
  unfold Cache.liveEntry
  cases held : redis.hashes (cache.entryKey teamId entryId) with
  | none => simp [Cache.scanEntry, Redis.reads, fallbackOn, held, bind, Except.bind, pure, Except.pure]
  | some entry =>
      simp only [Cache.scanEntry, Redis.reads, fallbackOn, held, bind, Except.bind]
      split_ifs <;> rfl

theorem readable_cons (entryId : String) (rest : List String) :
    cache.readable redis now teamId queryEmbedding configHash (entryId :: rest) =
      ((cache.liveEntry redis now teamId entryId).bind fun raw =>
        (cache.similarityTo queryEmbedding configHash raw).map fun sim => (sim, raw)).toList ++
      cache.readable redis now teamId queryEmbedding configHash rest := by
  unfold Cache.readable
  rw [List.filterMap_cons]
  cases (cache.liveEntry redis now teamId entryId).bind fun raw =>
    (cache.similarityTo queryEmbedding configHash raw).map fun sim => (sim, raw) <;> rfl

/-- With comparable embeddings the scan is the loop over the readable entries. -/
theorem scan_comparable (entryIds : List String)
    (comparable : cache.AllComparable redis now teamId queryEmbedding configHash entryIds) :
    ∃ last, entryIds.foldlM (cache.scanEntry (redis.reads now) teamId queryEmbedding configHash)
        scan = .ok last ∧
      last.best = (cache.readable redis now teamId queryEmbedding configHash entryIds).foldl
        (keep cache.threshold) scan.best := by
  induction entryIds generalizing scan with
  | nil => exact ⟨scan, rfl, rfl⟩
  | cons entryId rest ih =>
      have later : cache.AllComparable redis now teamId queryEmbedding configHash rest :=
        fun other member => comparable other (List.mem_cons_of_mem entryId member)
      rw [List.foldlM_cons, scanEntry_live, readable_cons, List.foldl_append]
      have own := comparable entryId List.mem_cons_self
      cases live : cache.liveEntry redis now teamId entryId with
      | none => exact ih scan later
      | some raw =>
          obtain ⟨next, considered, kept⟩ := consider_comparable cache queryEmbedding configHash scan
            raw (own raw live)
          obtain ⟨last, ran, best⟩ := ih next later
          refine ⟨last, ?_, ?_⟩
          · dsimp only
            rw [considered]
            exact ran
          · rw [best, kept]
            rfl

theorem scan_incomparable (entryIds : List String)
    (incomparable : ¬ cache.AllComparable redis now teamId queryEmbedding configHash entryIds) :
    ∃ exc, entryIds.foldlM (cache.scanEntry (redis.reads now) teamId queryEmbedding configHash)
      scan = .error exc := by
  induction entryIds generalizing scan with
  | nil => exact absurd (fun _ member => absurd member List.not_mem_nil) incomparable
  | cons entryId rest ih =>
      rw [List.foldlM_cons, scanEntry_live]
      cases live : cache.liveEntry redis now teamId entryId with
      | none =>
          refine ih scan fun later => incomparable fun other member => ?_
          rcases List.mem_cons.mp member with rfl | inRest
          · intro raw found
            rw [live] at found
            cases found
          · exact later other inRest
      | some raw =>
          by_cases own : ∀ stored, embeddingFor configHash raw = some stored →
              Comparable queryEmbedding stored
          · obtain ⟨next, considered, -⟩ := consider_comparable cache queryEmbedding configHash scan
              raw own
            obtain ⟨exc, raised⟩ := ih next fun later => incomparable fun other member => by
              rcases List.mem_cons.mp member with rfl | inRest
              · intro found alive
                rw [live] at alive
                cases alive
                exact own
              · exact later other inRest
            refine ⟨exc, ?_⟩
            dsimp only
            rw [considered]
            exact raised
          · push Not at own
            obtain ⟨stored, loaded, broken⟩ := own
            obtain ⟨exc, raised⟩ := consider_incomparable cache queryEmbedding configHash scan raw
              stored loaded broken
            refine ⟨exc, ?_⟩
            dsimp only
            rw [raised]
            rfl

end Scan

/-! ## The selection -/

section Select
variable {κ : Type} [DecidableEq κ] (cache : Cache κ) (redis : Redis κ) (now : ℚ) (teamId : String)
variable (request : ChatCompletionRequest) (queryEmbedding : List ℚ)

/-- What the index of the team offers for the request. -/
def Cache.offered : List (ℚ × EntryHash κ) :=
  cache.readable redis now teamId queryEmbedding (buildConfigHash cache.digest request)
    (redis.lists (cache.indexKey teamId))

/-- An entry is selected exactly if some offer reaches the threshold, and it is the
first of maximal similarity. -/
structure SelectsFirstBest : Prop where
  selects_iff : (∃ raw, cache.select (redis.reads now) teamId request = .ok (some raw)) ↔
    ∃ offer ∈ cache.offered redis now teamId request queryEmbedding, cache.threshold ≤ offer.1
  first : ∀ raw, cache.select (redis.reads now) teamId request = .ok (some raw) →
    ∃ sim, FirstBest (cache.offered redis now teamId request queryEmbedding) (sim, raw)

variable (embedded : cache.getEmbedding (extractEmbeddingText request) = .ok queryEmbedding)

include embedded

theorem select_eq :
    cache.select (redis.reads now) teamId request =
      cache.bestEntry (redis.reads now) teamId queryEmbedding (buildConfigHash cache.digest request)
        (redis.lists (cache.indexKey teamId)) := by
  simp only [Cache.select, embedded]
  rfl

theorem select_incomparable
    (incomparable : ¬ cache.AllComparable redis now teamId queryEmbedding
      (buildConfigHash cache.digest request) (redis.lists (cache.indexKey teamId))) :
    ∃ exc, cache.select (redis.reads now) teamId request = .error exc := by
  obtain ⟨exc, raised⟩ := scan_incomparable cache redis now teamId queryEmbedding
    (buildConfigHash cache.digest request) ⟨-1, none⟩ _ incomparable
  refine ⟨exc, ?_⟩
  rw [select_eq cache redis now teamId request queryEmbedding embedded]
  unfold Cache.bestEntry
  rw [raised]
  rfl

theorem selectsFirstBest_of_comparable (threshold : -1 < cache.threshold)
    (comparable : cache.AllComparable redis now teamId queryEmbedding
      (buildConfigHash cache.digest request) (redis.lists (cache.indexKey teamId))) :
    SelectsFirstBest cache redis now teamId request queryEmbedding := by
  obtain ⟨last, ran, best⟩ := scan_comparable cache redis now teamId queryEmbedding
    (buildConfigHash cache.digest request) ⟨-1, none⟩ _ comparable
  have tracks := tracks_foldl threshold
    (cache.offered redis now teamId request queryEmbedding)
  have selects : cache.select (redis.reads now) teamId request =
      .ok (if last.bestSimilarity < cache.threshold then none else last.bestEntryData) := by
    rw [select_eq cache redis now teamId request queryEmbedding embedded]
    unfold Cache.bestEntry
    rw [ran]
    rfl
  change last.best = (cache.offered redis now teamId request queryEmbedding).foldl
    (keep cache.threshold) (-1, none) at best
  rw [← best] at tracks
  obtain ⟨some_iff, first⟩ := tracks.held_iff
  constructor
  · simp only [selects, Except.ok.injEq]
    exact some_iff
  · intro raw selected
    rw [selects] at selected
    exact ⟨_, first raw (Except.ok.inj selected)⟩

end Select

/-! ## An embedding that is null -/

def greetingEntry : EntryHash CacheConfig := oneCache.entryOf hello helloBack [1]

/-- Two entries of one configuration, the newer one with a null embedding. -/
def nullAndGreeting : Redis CacheConfig :=
  { keys := fun _ => false
    lists := fun _ => ["entry-2", "entry-1"]
    hashes := fun key =>
      if key = oneCache.entryKey "team-1" "entry-2" then
        some ({ greetingEntry with embedding := some (.dumps .null) }, 10)
      else if key = oneCache.entryKey "team-1" "entry-1" then some (greetingEntry, 10)
      else none }

theorem greetingEntry_offered :
    (1, greetingEntry) ∈ oneCache.readable nullAndGreeting 1 "team-1" [1] (cacheConfig hello)
      ["entry-2", "entry-1"] := by
  have similar : oneCache.similarityTo [1] (cacheConfig hello) greetingEntry = some 1 := by
    have computed := cosineSimilarity_dumped oneCache.sqrt [1] [1] rfl
    have one : cosine oneCache.sqrt [1] [1] = 1 := by decide +kernel
    rw [one] at computed
    have readable : embeddingFor (cacheConfig hello) greetingEntry =
        some (.array ([1].map Json.float)) := by
      have configured : greetingEntry.configHash = some (cacheConfig hello) := rfl
      unfold embeddingFor
      rw [if_pos configured]
      rfl
    unfold Cache.similarityTo
    rw [readable, Option.bind_some, computed]
    rfl
  have live : oneCache.liveEntry nullAndGreeting 1 "team-1" "entry-1" = some greetingEntry := by
    rfl
  unfold Cache.readable
  refine List.mem_filterMap.mpr ⟨"entry-1", by simp, ?_⟩
  rw [live, Option.bind_some, similar]
  rfl

end CortexGateway.SemanticCache
