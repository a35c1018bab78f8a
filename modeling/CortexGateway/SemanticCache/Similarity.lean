import CortexGateway.Core.Json
import CortexGateway.Providers.Payloads

/-! # Cache keys and similarity

`app/semantic_cache/similarity.py`.  Floats are exact rationals and `math.sqrt`
is a parameter; so is the digest, the truncated SHA-256 of the dumped config. -/
set_option autoImplicit false
namespace CortexGateway.SemanticCache

section Cosine
variable (sqrt : ℚ → ℚ)

def norm (a : List ℚ) : ℚ := sqrt (a.map fun x => x * x).sum

/-- `cosine_similarity` of two lists of floats of one length. -/
def cosine (a b : List ℚ) : ℚ :=
  let dot := (List.zipWith (· * ·) a b).sum
  if norm sqrt a = 0 ∨ norm sqrt b = 0 then 0
  else max (-1) (min 1 (dot / (norm sqrt a * norm sqrt b)))

/-- `cosine_similarity` with what was loaded from an entry: only its length is
looked at when the lengths differ. -/
def cosineSimilarity (a : List ℚ) (b : Json) : Except Exc ℚ := do
  let items ← b.iter
  if a.length ≠ items.length then return 0
  let b ← items.mapM Json.number
  return cosine sqrt a b

theorem number_float (a : List ℚ) : (a.map Json.float).mapM Json.number = .ok a := by
  induction a with
  | nil => rfl
  | cons x a ih =>
      rw [List.map_cons, List.mapM_cons, ih]
      rfl

theorem cosineSimilarity_dumped (a b : List ℚ) (length : a.length = b.length) :
    cosineSimilarity sqrt a (.array (b.map .float)) = .ok (cosine sqrt a b) := by
  have items : (Json.array (b.map .float)).iter = .ok (b.map Json.float) := rfl
  simp only [cosineSimilarity, items, List.length_map, length, ne_eq, not_true_eq_false, if_false,
    bind, Except.bind, number_float]
  rfl

end Cosine

/-! ## The key of a request -/

/-- The last user message, else everything that is not from the system. -/
def extractEmbeddingText (request : ChatCompletionRequest) : String :=
  match (userContents request.messages).getLast? with
  | some last => last
  | none => strip (" ".intercalate
      ((request.messages.filter (·.role ≠ .system)).map ChatMessage.content))

/-- The dictionary that is dumped and digested. -/
structure CacheConfig where
  systemPrompt : Option String
  temperature : Option ℚ
  maxTokens : Option ℤ
  topP : Option ℚ
  stop : Option (List String)
  requiredCapabilities : Option (List String)
  deriving DecidableEq

/-- `sorted(values) if values else None`. -/
def sortedOrNone (values : Option (List String)) : Option (List String) :=
  match values.getD [] with
  | [] => none
  | value :: values => some ((value :: values).insertionSort (· ≤ ·))

def systemPrompt (messages : List ChatMessage) : Option String :=
  (messages.find? (·.role = .system)).map ChatMessage.content

def cacheConfig (request : ChatCompletionRequest) : CacheConfig :=
  { systemPrompt := systemPrompt request.messages
    temperature := request.temperature
    maxTokens := request.maxTokens
    topP := request.topP
    stop := sortedOrNone request.stop
    requiredCapabilities := sortedOrNone request.requiredCapabilities }

def buildConfigHash {κ : Type} (digest : CacheConfig → κ) (request : ChatCompletionRequest) : κ :=
  digest (cacheConfig request)

/-- Sorting keeps what a list holds and forgets its order. -/
theorem perm_of_sortedOrNone (first second : Option (List String))
    (same : sortedOrNone first = sortedOrNone second) : (first.getD []).Perm (second.getD []) := by
  unfold sortedOrNone at same
  split at same
  · rename_i empty
    split at same
    · rename_i alsoEmpty
      rw [empty, alsoEmpty]
    · cases same
  · rename_i value values held
    split at same
    · cases same
    · rename_i other others alsoHeld
      rw [held, alsoHeld]
      have sorted := Option.some_inj.mp same
      calc (value :: values).Perm ((value :: values).insertionSort (· ≤ ·)) :=
            (List.perm_insertionSort _ _).symm
        _ = (other :: others).insertionSort (· ≤ ·) := sorted
        _ |>.Perm (other :: others) := List.perm_insertionSort _ _

end CortexGateway.SemanticCache
