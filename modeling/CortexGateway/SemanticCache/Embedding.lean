import CortexGateway.Providers.Ollama
import CortexGateway.SemanticCache.Cache

/-! # The embedding client

`app/semantic_cache/embedding.py`.  What httpx makes of a POST and what `float`
makes of a text are parameters. -/
set_option autoImplicit false
namespace CortexGateway.SemanticCache
open Exits

structure OllamaEmbeddingClient where
  baseUrl : String
  model : String
  post : String → Json → Except Exc HttpResponse
  parseFloat : String → Option ℚ

namespace OllamaEmbeddingClient

/-- `float(x)` -/
def toFloat (client : OllamaEmbeddingClient) : Json → Except Exc ℚ
  | .str text =>
      match client.parseFloat text with
      | some value => .ok value
      | none => .error (.valueError "could not convert string to float")
  | .null | .array _ | .object _ =>
      .error (.typeError "float() argument must be a string or a real number")
  | value => value.number

/-- The items of a list that is not empty. -/
def listed : Json → Option (Json × List Json)
  | .array (first :: rest) => some (first, rest)
  | _ => none

/-- `[float(x) for x in values]` -/
def floats (client : OllamaEmbeddingClient) (values : Json) : Except Exc (List ℚ) := do
  (← values.iter).mapM client.toFloat

/-- The body of the last `try`: the newer format, then the older one. -/
def vector (client : OllamaEmbeddingClient) (response : HttpResponse) : Except Exc (List ℚ) := do
  let data ← response.parsed
  match listed (← data.get "embeddings") with
  | some (first, _) =>
      if first.truthy then client.floats first
      else older data
  | none => older data
where
  older (data : Json) : Except Exc (List ℚ) := do
    let embedding ← data.get "embedding"
    match listed embedding with
    | some _ => client.floats embedding
    | none => throw embeddingError

def embedEndpoint (client : OllamaEmbeddingClient) : String :=
  stripSlashes client.baseUrl ++ "/api/embed"

def payload (client : OllamaEmbeddingClient) (text : String) : Json :=
  .object [("model", .str client.model), ("input", .str text)]

/-- `except Exception as exc: raise EmbeddingError(...) from exc` -/
def wrapped {α : Type} (result : Except Exc α) : Except Exc α :=
  result.mapError fun exc => if exc.isException then embeddingError else exc

def embed (client : OllamaEmbeddingClient) (text : String) : Except Exc (List ℚ) :=
  if strip text = "" then .error embeddingError
  else do
    let response ← wrapped (client.post client.embedEndpoint (client.payload text))
    if response.status ≠ 200 then .error embeddingError else wrapped (client.vector response)

/-! ## What it raises -/

def Ordinary (exc : Exc) : Prop := exc.isException = true

theorem raises_toFloat (client : OllamaEmbeddingClient) (value : Json) :
    Raises Ordinary (client.toFloat value) := by
  cases value with
  | str text =>
      unfold toFloat
      dsimp only
      split
      · exact raises_ok _
      · exact raises_error _ rfl
  | null => exact raises_error _ rfl
  | array items => exact raises_error _ rfl
  | object fields => exact raises_error _ rfl
  | _ => exact raises_ok _

theorem raises_floats (client : OllamaEmbeddingClient) (values : Json) :
    Raises Ordinary (client.floats values) := by
  have iterated : Raises Ordinary values.iter := by
    cases values with
    | array items => exact raises_ok _
    | str text => exact raises_ok _
    | object fields => exact raises_ok _
    | _ => exact raises_error _ rfl
  exact raises_bind iterated fun items _ => raises_mapM client.raises_toFloat items

theorem raises_older (client : OllamaEmbeddingClient) (data : Json) :
    Raises Ordinary (vector.older client data) := by
  refine raises_bind (data.raises_get _ rfl) fun embedding _ => ?_
  split
  · exact client.raises_floats embedding
  · exact raises_error _ rfl

theorem raises_vector (client : OllamaEmbeddingClient) (response : HttpResponse) :
    Raises Ordinary (client.vector response) := by
  have parsed : Raises Ordinary response.parsed := response.raises_parsed rfl
  refine raises_bind parsed fun data _ => ?_
  refine raises_bind (data.raises_get _ rfl) fun embeddings _ => ?_
  split
  · exact raises_ite _ (client.raises_floats _) (client.raises_older data)
  · exact client.raises_older data

theorem wrapped_error {α : Type} {result : Except Exc α} {exc : Exc}
    (raised : wrapped result = .error exc) :
    exc = embeddingError ∨ result = .error exc ∧ exc.isException = false := by
  cases result with
  | ok value => cases raised
  | error own =>
      cases raised
      cases ordinary : own.isException with
      | true => exact .inl (if_pos ordinary)
      | false =>
          refine .inr ⟨?_, ?_⟩
          · simp [ordinary]
          · simp [ordinary]

/-- Every `Exception` is an `EmbeddingError`; the POST can still be cancelled. -/
theorem embed_error (client : OllamaEmbeddingClient) (text : String) {exc : Exc}
    (raised : client.embed text = .error exc) :
    exc = embeddingError ∨
      client.post client.embedEndpoint (client.payload text) = .error exc ∧
        exc.isException = false := by
  unfold embed at raised
  split_ifs at raised with blank
  · exact .inl (Except.error.inj raised).symm
  · cases posted : wrapped (client.post client.embedEndpoint (client.payload text)) with
    | error own =>
        rw [posted] at raised
        cases raised
        exact wrapped_error posted
    | ok response =>
        rw [posted] at raised
        change (if response.status ≠ 200 then Except.error embeddingError
          else wrapped (client.vector response)) = .error exc at raised
        split_ifs at raised with status
        · exact .inl (Except.error.inj raised).symm
        · rcases wrapped_error raised with ours | ⟨held, cancelled⟩
          · exact .inl ours
          · have ordinary : exc.isException = true := client.raises_vector response exc held
            rw [ordinary] at cancelled
            cases cancelled

/-! ## What it returns -/

theorem length_of_mapM {α β : Type} (convert : α → Except Exc β) {elements : List α}
    {values : List β} (converted : elements.mapM convert = .ok values) :
    values.length = elements.length := by
  induction elements generalizing values with
  | nil =>
      cases converted
      rfl
  | cons a rest ih =>
      rw [List.mapM_cons] at converted
      obtain ⟨value, -, converted⟩ := bind_eq_ok_iff.mp converted
      obtain ⟨later, onward, converted⟩ := bind_eq_ok_iff.mp converted
      cases converted
      rw [List.length_cons, List.length_cons, ih onward]

theorem floats_ne_nil (client : OllamaEmbeddingClient) {values : Json} {vector : List ℚ}
    (truthy : values.truthy = true) (converted : client.floats values = .ok vector) :
    vector ≠ [] := by
  obtain ⟨items, iterated, converted⟩ := bind_eq_ok_iff.mp converted
  have filled : items ≠ [] := by
    cases values with
    | array elements =>
        cases iterated
        simpa [Json.truthy] using truthy
    | str text =>
        cases iterated
        simpa [Json.truthy] using truthy
    | object fields =>
        cases iterated
        simpa [Json.truthy] using truthy
    | _ => cases iterated
  intro empty
  have lengths := length_of_mapM _ converted
  rw [empty] at lengths
  exact filled (List.length_eq_zero_iff.mp lengths.symm)

theorem listed_truthy {value : Json} {first : Json} {rest : List Json}
    (list : listed value = some (first, rest)) : value = .array (first :: rest) := by
  cases value with
  | array items =>
      cases items with
      | nil => cases list
      | cons own more =>
          cases list
          rfl
  | _ => cases list

theorem older_ne_nil (client : OllamaEmbeddingClient) {data : Json} {found : List ℚ}
    (returned : vector.older client data = .ok found) : found ≠ [] := by
  obtain ⟨embedding, -, returned⟩ := bind_eq_ok_iff.mp returned
  split at returned
  · rename_i first list
    refine client.floats_ne_nil ?_ returned
    rw [listed_truthy list]
    rfl
  · cases returned

theorem vector_ne_nil (client : OllamaEmbeddingClient) {response : HttpResponse} {found : List ℚ}
    (returned : client.vector response = .ok found) : found ≠ [] := by
  obtain ⟨data, -, returned⟩ := bind_eq_ok_iff.mp returned
  obtain ⟨embeddings, -, returned⟩ := bind_eq_ok_iff.mp returned
  split at returned
  · split_ifs at returned with truthy
    · exact client.floats_ne_nil truthy returned
    · exact client.older_ne_nil returned
  · exact client.older_ne_nil returned

/-! ## A server that embeds -/

/-- What the server is asked for: the model and the text. -/
def read (body : Json) : Option (String × String) := do
  return (← (← body.item "model").string?, ← (← body.item "input").string?)

/-- The two formats of an answer. -/
def answer (newer : Bool) (found : List ℚ) : Json :=
  if newer then .object [("embeddings", .array [.array (found.map .float)])]
  else .object [("embedding", .array (found.map .float))]

theorem mapM_floats (client : OllamaEmbeddingClient) (found : List ℚ) :
    (found.map Json.float).mapM client.toFloat = .ok found := by
  induction found with
  | nil => rfl
  | cons x rest ih =>
      rw [List.map_cons, List.mapM_cons, ih]
      rfl

theorem vector_answer (client : OllamaEmbeddingClient) (newer : Bool) (text : String)
    {found : List ℚ} (filled : found ≠ []) :
    client.vector ⟨200, text, some (answer newer found)⟩ = .ok found := by
  obtain ⟨x, rest, rfl⟩ := List.exists_cons_of_ne_nil filled
  have converted := client.mapM_floats (x :: rest)
  cases newer with
  | true => exact converted
  | false => exact converted

/-- Whatever the server does, no `Exception` but an `EmbeddingError` is raised, and what
is returned is not empty; and a server that reads what is posted gets the model and
the text, and its vector is returned, in either format. -/
theorem embed_over_wire (client : OllamaEmbeddingClient) (text : String) :
    (∀ exc, client.embed text = .error exc → exc = embeddingError ∨
      client.post client.embedEndpoint (client.payload text) = .error exc ∧
        exc.isException = false) ∧
    (∀ found, client.embed text = .ok found → found ≠ [] ∧ strip text ≠ "") ∧
    ∀ serve : String → String → List ℚ, (∀ body model input, read body = some (model, input) →
        serve model input ≠ [] ∧ ∃ newer text, client.post client.embedEndpoint body =
          .ok ⟨200, text, some (answer newer (serve model input))⟩) →
      strip text ≠ "" → client.embed text = .ok (serve client.model text) := by
  refine ⟨fun exc => client.embed_error text, fun found returned => ?_, fun serve serves nonblank => ?_⟩
  · unfold embed at returned
    split_ifs at returned with blank
    refine ⟨?_, blank⟩
    obtain ⟨response, -, returned⟩ := bind_eq_ok_iff.mp returned
    split_ifs at returned with status
    cases held : client.vector response with
    | ok own =>
        rw [held] at returned
        cases returned
        exact client.vector_ne_nil held
    | error exc =>
        rw [held] at returned
        cases returned
  · obtain ⟨filled, newer, body, posted⟩ := serves (client.payload text) client.model text rfl
    unfold embed
    rw [if_neg nonblank, posted]
    change wrapped (client.vector _) = _
    rw [client.vector_answer newer body filled]
    rfl

end OllamaEmbeddingClient
end CortexGateway.SemanticCache
