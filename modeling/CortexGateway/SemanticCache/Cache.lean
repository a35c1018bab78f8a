import CortexGateway.Auth.Schemas
import CortexGateway.SemanticCache.Similarity

/-! # The semantic cache

`app/semantic_cache/cache.py`.  A lookup meets Redis as the replies to its
reads, each of which can fail.  Lists, hashes and plain keys of Redis are kept
apart; hashes carry the second they expire at. -/
set_option autoImplicit false
namespace CortexGateway

def embeddingError : Exc := .otherException "EmbeddingError"

namespace SemanticCache

/-- A Redis hash of an entry; a field that is not there is `none`. -/
structure EntryHash (κ : Type) where
  embedding : Option JsonText
  responseJson : Option JsonText
  provider : Option String
  model : Option String
  configHash : Option κ

/-- `raw[key]`. -/
def field {α : Type} (key : String) : Option α → Except Exc α
  | some value => .ok value
  | none => .error (.keyError key)

/-- What Redis replies to the reads of a lookup; `hgetall` of no hash is empty. -/
structure RedisReads (κ : Type) where
  existsKey : String → Except Exc Bool
  lrange : String → Except Exc (List String)
  hgetall : String → Except Exc (Option (EntryHash κ))

structure Redis (κ : Type) where
  keys : String → Bool
  lists : String → List String
  hashes : String → Option (EntryHash κ × ℚ)

/-- The replies of a Redis that is up, at a given time. -/
def Redis.reads {κ : Type} (redis : Redis κ) (now : ℚ) : RedisReads κ :=
  { existsKey := fun key => .ok (redis.keys key)
    lrange := fun key => .ok (redis.lists key)
    hgetall := fun key => .ok
      (match redis.hashes key with
      | some (hash, expiresAt) => if now < expiresAt then some hash else none
      | none => none) }

/-- What a `SemanticCache` is made of, with `math.sqrt` and the digest. -/
structure Cache (κ : Type) where
  enabled : Bool
  version : String
  ttlSeconds : ℕ
  threshold : ℚ
  maxEntries : ℕ
  embed : Option (String → Except Exc (List ℚ))
  sqrt : ℚ → ℚ
  digest : CacheConfig → κ

section Keys
variable {κ : Type} (cache : Cache κ) (teamId : String)

def Cache.indexKey : String :=
  "semantic_cache:" ++ cache.version ++ ":team:" ++ teamId ++ ":index"

def Cache.entryKey (entryId : String) : String :=
  "semantic_cache:" ++ cache.version ++ ":team:" ++ teamId ++ ":entry:" ++ entryId

def Cache.disabledKey : String :=
  "semantic_cache:" ++ cache.version ++ ":team:" ++ teamId ++ ":disabled"

end Keys

/-- Not streamed, and with a user message. -/
def isEligible (request : ChatCompletionRequest) : Bool :=
  !request.stream.getD false && request.messages.any (·.role = .user)

def Cache.getEmbedding {κ : Type} (cache : Cache κ) (text : String) : Except Exc (List ℚ) :=
  match cache.embed with
  | some embed => embed text
  | none => .error embeddingError

/-- `except Exception: return fallback`. -/
def fallbackOn {α : Type} (result : Except Exc α) (fallback : α) : Except Exc α :=
  match result with
  | .ok value => .ok value
  | .error exc => if exc.isException then .ok fallback else .error exc

/-- `_is_team_disabled`. -/
def Cache.isTeamDisabled {κ : Type} (cache : Cache κ) (redis : RedisReads κ) (teamId : String) :
    Except Exc Bool :=
  fallbackOn (redis.existsKey (cache.disabledKey teamId)) false

/-! ## Responses as JSON -/

def serializeChoice (choice : ChatCompletionChoice) : Json :=
  .object
    [("index", .int choice.index),
      ("message", .object [("role", .str "assistant"), ("content", .str choice.content)]),
      ("finish_reason", .ofOption .str choice.finishReason)]

def serializeResponse (response : ChatCompletionResponse) : Json :=
  .object
    [("provider", .str response.provider),
      ("model", .str response.model),
      ("choices", .array (response.choices.map serializeChoice)),
      ("usage", .object
        [("prompt_tokens", .ofOption .int response.usage.promptTokens),
          ("completion_tokens", .ofOption .int response.usage.completionTokens),
          ("total_tokens", .ofOption .int response.usage.totalTokens)])]

def deserializeChoice (choice : Json) : Except Exc ChatCompletionChoice := do
  let index ← (← choice.getItem "index").asInt
  let message ← choice.getItem "message"
  let role ← (← message.getItem "role").asStr
  if role ≠ "assistant" then throw Json.validationError
  let content ← (← message.getItem "content").asStr
  let finishReason ← (← choice.get "finish_reason").asOptional Json.asStr
  return ⟨index, .assistant, content, finishReason, rfl⟩

def deserializeUsage (usage : Json) : Except Exc UsageMetadata := do
  let promptTokens ← (← usage.get "prompt_tokens").asOptional Json.asInt
  let completionTokens ← (← usage.get "completion_tokens").asOptional Json.asInt
  let totalTokens ← (← usage.get "total_tokens").asOptional Json.asInt
  return ⟨promptTokens, completionTokens, totalTokens⟩

/-- `data.get("usage", {})`. -/
def usageOf (data : Json) : Except Exc Json :=
  match data with
  | .object fields => .ok ((fields.lookup "usage").getD (.object []))
  | _ => .error (.attributeError "get")

/-- What a response takes from outside: `uuid.uuid4()` and `time.time()`. -/
structure Fresh where
  requestId : String
  id : String
  created : ℤ
  deriving DecidableEq

/-- The response a hit is answered with. -/
def cachedResponse (provider model : String) (choices : List ChatCompletionChoice)
    (usage : UsageMetadata) (requestId : String) (fresh : Fresh) : ChatCompletionResponse :=
  { id := fresh.id
    created := fresh.created
    provider := provider
    model := model
    choices := choices
    usage := usage
    metadata :=
      { requestId := requestId
        latencyMs := 0
        routingMode := none
        selectedProvider := some provider
        selectedModel := some model
        cacheHit := true
        estimatedCost := some 0
        actualCost := some 0 } }

def deserializeResponse {κ : Type} (raw : EntryHash κ) (requestId : String) (fresh : Fresh) :
    Except Exc ChatCompletionResponse := do
  let data ← (← field "response_json" raw.responseJson).loads
  let choices ← (← (← data.getItem "choices").iter).mapM deserializeChoice
  let usage ← deserializeUsage (← usageOf data)
  let provider ← (← data.getItem "provider").asStr
  let model ← (← data.getItem "model").asStr
  return cachedResponse provider model choices usage requestId fresh

/-! ## Lookup -/

/-- The best similarity so far, and the entry that is to be returned. -/
structure Scan (κ : Type) where
  bestSimilarity : ℚ
  bestEntryData : Option (EntryHash κ)

section Lookup
variable {κ : Type} [DecidableEq κ] (cache : Cache κ)
variable (redis : RedisReads κ) (teamId : String) (queryEmbedding : List ℚ) (configHash : κ)

/-- `json.loads(raw["embedding"])`; only a `KeyError` and a `JSONDecodeError` are caught. -/
def storedEmbedding (raw : EntryHash κ) : Option Json :=
  match raw.embedding.map JsonText.loads with
  | some (.ok stored) => some stored
  | _ => none

/-- One turn of the loop for an entry that was read. -/
def Cache.consider (scan : Scan κ) (raw : EntryHash κ) : Except Exc (Scan κ) :=
  if raw.configHash ≠ some configHash then .ok scan
  else
    match storedEmbedding raw with
    | none => .ok scan
    | some stored => do
        let sim ← cosineSimilarity cache.sqrt queryEmbedding stored
        if scan.bestSimilarity < sim then
          return ⟨sim, if cache.threshold ≤ sim then some raw else scan.bestEntryData⟩
        else return scan

/-- One turn of the loop; an entry that is gone or cannot be read is skipped. -/
def Cache.scanEntry (scan : Scan κ) (entryId : String) : Except Exc (Scan κ) := do
  match ← fallbackOn (redis.hgetall (cache.entryKey teamId entryId)) none with
  | none => return scan
  | some raw => cache.consider queryEmbedding configHash scan raw

/-- The entry of the index that is to be returned. -/
def Cache.bestEntry (entryIds : List String) : Except Exc (Option (EntryHash κ)) := do
  let scan ← entryIds.foldlM (cache.scanEntry redis teamId queryEmbedding configHash) ⟨-1, none⟩
  return if scan.bestSimilarity < cache.threshold then none else scan.bestEntryData

/-- The index and the embedding give an entry, unless one of them cannot be had. -/
def Cache.select (request : ChatCompletionRequest) : Except Exc (Option (EntryHash κ)) := do
  match cache.getEmbedding (extractEmbeddingText request) with
  | .error exc => if exc = embeddingError then return none else throw exc
  | .ok queryEmbedding =>
      match ← fallbackOn ((redis.lrange (cache.indexKey teamId)).map some) none with
      | none => return none
      | some entryIds =>
          cache.bestEntry redis teamId queryEmbedding (buildConfigHash cache.digest request) entryIds

/-- `_deserialize_response` inside its `try`, where the request id is read too. -/
def reconstruct (raw : EntryHash κ) (context : Attributes) (fresh : Fresh) :
    Except Exc ChatCompletionResponse := do
  let requestId ← context "request_id"
  deserializeResponse raw (if requestId = "" then fresh.requestId else requestId) fresh

def Cache.lookup (redis : Option (RedisReads κ)) (request : ChatCompletionRequest)
    (context : Attributes) (fresh : Fresh) : Except Exc (Option ChatCompletionResponse) := do
  if !cache.enabled then return none
  else if !isEligible request then return none
  else
    let teamId ← context "team_id"
    if teamId = "" then return none
    else
      match redis with
      | none => return none
      | some redis =>
          if ← cache.isTeamDisabled redis teamId then return none
          else
            match ← cache.select redis teamId request with
            | none => return none
            | some raw => fallbackOn ((reconstruct raw context fresh).map some) none

end Lookup

/-! ## Store -/

section Store
variable {κ : Type} (cache : Cache κ) (redis : Redis κ) (now : ℚ)

/-- The mapping of `hset`. -/
def Cache.entryOf (request : ChatCompletionRequest) (response : ChatCompletionResponse)
    (embedding : List ℚ) : EntryHash κ :=
  { embedding := some (.dumps (.array (embedding.map .float)))
    responseJson := some (.dumps (serializeResponse response))
    provider := some response.provider
    model := some response.model
    configHash := some (buildConfigHash cache.digest request) }

/-- `LTRIM key 0 stop`; a negative `stop` counts from the end. -/
def ltrim (entries : List String) (stop : ℤ) : List String :=
  entries.take (if stop < 0 then entries.length + stop + 1 else stop + 1).toNat

/-- The pipeline: `hset`, `expire`, `lpush` and `ltrim`. -/
def Cache.write (teamId entryId : String) (entry : EntryHash κ) : Redis κ :=
  { redis with
    hashes := Function.update redis.hashes (cache.entryKey teamId entryId)
      (some (entry, now + cache.ttlSeconds))
    lists := Function.update redis.lists (cache.indexKey teamId)
      (ltrim (entryId :: redis.lists (cache.indexKey teamId)) (cache.maxEntries - 1)) }

/-- `store` on a Redis that is up, with the UUID of the entry. -/
def Cache.store (request : ChatCompletionRequest) (context : Attributes)
    (response : ChatCompletionResponse) (entryId : String) : Except Exc (Redis κ) := do
  if !cache.enabled then return redis
  else if !isEligible request then return redis
  else
    let teamId ← context "team_id"
    if teamId = "" || redis.keys (cache.disabledKey teamId) then return redis
    else
      match cache.getEmbedding (extractEmbeddingText request) with
      | .error exc => if exc = embeddingError then return redis else throw exc
      | .ok embedding =>
          return cache.write redis now teamId entryId
            (cache.entryOf request response embedding)

end Store

end SemanticCache

end CortexGateway
