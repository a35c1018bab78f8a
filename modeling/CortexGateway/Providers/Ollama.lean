import CortexGateway.Lib.Exits
import CortexGateway.Providers.Errors
import CortexGateway.Reliability.CircuitBreaker

/-! # The Ollama adapter

`chat` of `ollama_provider.py` and `embed` of `semantic_cache/embedding.py`, from
the values they are given to the JSON that is posted, and from what comes back to
what they return.  What httpx makes of a POST is a parameter. -/
set_option autoImplicit false
namespace CortexGateway
open Exits

/-! ## Python operations on JSON values -/

namespace Json

/-- `value.get(key, default)`. -/
def getOr (value : Json) (key : String) (default : Json) : Except Exc Json :=
  match value with
  | .object fields => .ok ((fields.lookup key).getD default)
  | _ => .error (.attributeError "get")

/-- `bool(value)`. -/
def truthy : Json → Bool
  | .null => false
  | .bool value => value
  | .int value => value ≠ 0
  | .float value => value ≠ 0
  | .str value => value ≠ ""
  | .array items => !items.isEmpty
  | .object fields => !fields.isEmpty

/-- An `int`; `True` and `False` are integers. -/
def integer? : Json → Option ℤ
  | .int value => some value
  | .bool value => some (if value then 1 else 0)
  | _ => none

/-- `first + second`. -/
def add (first second : Json) : Except Exc Json :=
  match first, second with
  | .str text, .str more => .ok (.str (text ++ more))
  | .array items, .array more => .ok (.array (items ++ more))
  | _, _ =>
      match first.integer?, second.integer? with
      | some value, some other => .ok (.int (value + other))
      | _, _ =>
          match first.number, second.number with
          | .ok value, .ok other => .ok (.float (value + other))
          | _, _ => .error (.typeError "unsupported operand type(s) for +")

def isNull : Json → Bool
  | .null => true
  | _ => false

end Json

/-- A status, the text of the body, and what `response.json()` makes of it. -/
structure HttpResponse where
  status : ℕ
  text : String
  json : Option Json

/-- `response.json()`. -/
def HttpResponse.parsed (response : HttpResponse) : Except Exc Json :=
  match response.json with
  | some value => .ok value
  | none => .error jsonDecodeError

/-- `url.rstrip("/")`. -/
def stripSlashes (url : String) : String :=
  String.ofList (url.toList.reverse.dropWhile (· = '/')).reverse

/-! ## The request -/

def Role.value : Role → String
  | .system => "system"
  | .user => "user"
  | .assistant => "assistant"

namespace ChatPayload

def messageJson (message : SentMessage) : Json :=
  .object [("role", .str message.role.value), ("content", .str message.content)]

def field (name : String) (value : Option Json) : List (String × Json) :=
  (value.map fun value => (name, value)).toList

def options (sampling : Sampling) : List (String × Json) :=
  field "temperature" (sampling.temperature.map .float) ++
    field "top_p" (sampling.topP.map .float) ++
    field "num_predict" (sampling.maxTokens.map .int) ++
    field "stop" (sampling.stop.map fun stop => .array (stop.map .str))

/-- The body that is posted to `/api/chat`. -/
def toJson (payload : ChatPayload) : Json :=
  let options := options payload.sampling
  .object ([("model", .str payload.model),
    ("messages", .array (payload.messages.map messageJson)), ("stream", .bool false)] ++
      if options = [] then [] else [("options", .object options)])

end ChatPayload

/-! ## The answer -/

structure OllamaClient where
  baseUrl : String
  post : String → Json → Except Exc HttpResponse
  str : Json → String

/-- What an answer takes from outside: the times and the identifiers. -/
structure Stamp where
  requestId : String
  latencyMs : ℚ
  id : String
  created : ℤ

namespace OllamaClient

/-- The `except` clauses around the POST of `chat`. -/
def chatError (exc : Exc) : Exc :=
  match exc with
  | .httpxTimeoutException => .provider .providerTimeoutError "Ollama request timed out."
  | .httpxConnectError | .httpxNetworkError => .provider .providerUnavailableError
      "Could not connect to Ollama service. Ensure Ollama is running."
  | exc => if exc.isException then
      .provider .providerError "Unexpected error communicating with Ollama." else exc

/-- `data.get("done_reason") or ("stop" if data.get("done") else None)` -/
def finishReason (data : Json) : Except Exc Json := do
  let doneReason ← data.get "done_reason"
  if doneReason.truthy then return doneReason
  return if (← data.get "done").truthy then .str "stop" else .null

def totalTokens (promptTokens completionTokens : Json) : Except Exc Json :=
  if promptTokens.isNull ∨ completionTokens.isNull then .ok .null
  else promptTokens.add completionTokens

def usage (data : Json) : Except Exc UsageMetadata := do
  let promptTokens ← data.get "prompt_eval_count"
  let completionTokens ← data.get "eval_count"
  let total ← totalTokens promptTokens completionTokens
  return ⟨← promptTokens.asOptional Json.asInt, ← completionTokens.asOptional Json.asInt,
    ← total.asOptional Json.asInt⟩

/-- What `chat` makes of the parsed body. -/
def decode (requestedModel : String) (stamp : Stamp) (data : Json) :
    Except Exc ChatCompletionResponse := do
  let message ← data.getOr "message" (.object [])
  let content ← message.getOr "content" (.str "")
  let finish ← finishReason data
  let usage ← usage data
  let choice : ChatCompletionChoice :=
    ⟨0, .assistant, ← content.asStr, ← finish.asOptional Json.asStr, rfl⟩
  let model ← (← data.getOr "model" (.str requestedModel)).asStr
  return {
    id := stamp.id
    created := stamp.created
    provider := "ollama"
    model := model
    choices := [choice]
    usage := usage
    metadata := { requestId := stamp.requestId, latencyMs := roundTo stamp.latencyMs 2 } }

def chatEndpoint (client : OllamaClient) : String := stripSlashes client.baseUrl ++ "/api/chat"

/-- `OllamaProvider.chat` -/
def chat (client : OllamaClient) (request : ChatCompletionRequest) (stamp : Stamp) :
    Except Exc ChatCompletionResponse :=
  match client.post client.chatEndpoint (OllamaProvider.payload request).toJson with
  | .error exc => .error (chatError exc)
  | .ok response =>
      if response.status ≠ 200 then
        .error (OllamaProvider.handleHttpError client.str response.status response.text
          response.json request.model)
      else response.parsed >>= decode request.model stamp

end OllamaClient

/-! ## A server that reads what is posted -/

def Role.ofValue : String → Option Role
  | "system" => some .system
  | "user" => some .user
  | "assistant" => some .assistant
  | _ => none

namespace Json

def item (name : String) : Json → Option Json
  | .object fields => fields.lookup name
  | _ => none

def string? : Json → Option String
  | .str value => some value
  | _ => none

def list? : Json → Option (List Json)
  | .array items => some items
  | _ => none

def rational? (value : Json) : Option ℚ := value.number.toOption

end Json

namespace ChatPayload

def readMessage (value : Json) : Option SentMessage := do
  let role ← (← value.item "role").string?.bind Role.ofValue
  return ⟨role, ← (← value.item "content").string?⟩

/-- An option that is not there is left to the model. -/
def readOptions (value : Json) : Sampling :=
  { temperature := (value.item "temperature").bind Json.rational?
    maxTokens := (value.item "num_predict").bind Json.integer?
    topP := (value.item "top_p").bind Json.rational?
    stop := (value.item "stop").bind fun stop => stop.list?.bind (·.mapM Json.string?) }

/-- What the server is asked for. -/
def read (value : Json) : Option ChatPayload := do
  let model ← (← value.item "model").string?
  let messages ← (← (← value.item "messages").list?).mapM readMessage
  return ⟨model, messages, readOptions ((value.item "options").getD (.object []))⟩

end ChatPayload

/-- What the server answers. -/
structure OllamaAnswer where
  model : String
  content : String
  doneReason : Option String
  done : Bool
  promptEvalCount : Option ℤ
  evalCount : Option ℤ

namespace OllamaAnswer
variable (answer : OllamaAnswer)

def toJson : Json :=
  .object ([("model", .str answer.model),
    ("message", .object [("role", .str "assistant"), ("content", .str answer.content)]),
    ("done", .bool answer.done)] ++
    ChatPayload.field "done_reason" (answer.doneReason.map .str) ++
    ChatPayload.field "prompt_eval_count" (answer.promptEvalCount.map .int) ++
    ChatPayload.field "eval_count" (answer.evalCount.map .int))

def finish : Option String :=
  if answer.doneReason.getD "" = "" then (if answer.done then some "stop" else none)
  else answer.doneReason

/-- The answer under the gateway's words. -/
def response (stamp : Stamp) : ChatCompletionResponse :=
  { id := stamp.id
    created := stamp.created
    provider := "ollama"
    model := answer.model
    choices := [⟨0, .assistant, answer.content, answer.finish, rfl⟩]
    usage :=
      { promptTokens := answer.promptEvalCount
        completionTokens := answer.evalCount
        totalTokens := do return (← answer.promptEvalCount) + (← answer.evalCount) }
    metadata := { requestId := stamp.requestId, latencyMs := roundTo stamp.latencyMs 2 } }

end OllamaAnswer

/-! ## Both ways over the wire -/

theorem Role.ofValue_value (role : Role) : Role.ofValue role.value = some role := by
  cases role <;> rfl

theorem ChatPayload.readMessage_json (message : SentMessage) :
    readMessage (messageJson message) = some message := by
  obtain ⟨role, content⟩ := message
  cases role <;> rfl

theorem mapM_map_some {α β : Type} (write : α → β) (read : β → Option α)
    (inverse : ∀ a, read (write a) = some a) (elements : List α) :
    (elements.map write).mapM read = some elements := by
  induction elements with
  | nil => rfl
  | cons a rest ih => simp [inverse, ih]

theorem ChatPayload.readOptions_json (sampling : Sampling) :
    readOptions (.object (options sampling)) = sampling := by
  obtain ⟨temperature, maxTokens, topP, stop⟩ := sampling
  have texts : ∀ stop : List String, (stop.map Json.str).mapM Json.string? = some stop :=
    mapM_map_some Json.str Json.string? fun _ => rfl
  cases temperature <;> cases maxTokens <;> cases topP <;> cases stop <;>
    simp [readOptions, options, field, Json.item, Json.rational?, Json.number, Json.integer?,
      Json.list?, Except.toOption, List.lookup, texts]

theorem ChatPayload.read_json (payload : ChatPayload) : read payload.toJson = some payload := by
  obtain ⟨model, messages, sampling⟩ := payload
  have texts := mapM_map_some messageJson readMessage readMessage_json messages
  by_cases none : options sampling = []
  · have unset : readOptions (.object []) = sampling := by
      rw [← none]
      exact readOptions_json sampling
    simp [read, toJson, none, Json.item, Json.string?, Json.list?, List.lookup, texts, unset]
  · simp [read, toJson, none, Json.item, Json.string?, Json.list?, List.lookup, texts,
      readOptions_json]

namespace OllamaAnswer
variable (answer : OllamaAnswer)

theorem usage_json : OllamaClient.usage answer.toJson =
    .ok ⟨answer.promptEvalCount, answer.evalCount,
      do return (← answer.promptEvalCount) + (← answer.evalCount)⟩ := by
  obtain ⟨model, content, doneReason, done, promptEvalCount, evalCount⟩ := answer
  cases doneReason <;> cases promptEvalCount <;> cases evalCount <;> rfl

theorem get_done : answer.toJson.get "done_reason" = .ok (.ofOption .str answer.doneReason) ∧
    answer.toJson.get "done" = .ok (.bool answer.done) := by
  obtain ⟨model, content, doneReason, done, promptEvalCount, evalCount⟩ := answer
  cases doneReason <;> cases promptEvalCount <;> cases evalCount <;> exact ⟨rfl, rfl⟩

theorem finishReason_json :
    OllamaClient.finishReason answer.toJson = .ok (.ofOption .str answer.finish) := by
  obtain ⟨reason, done⟩ := answer.get_done
  rw [OllamaClient.finishReason, reason, OllamaAnswer.finish]
  simp only [bind, Except.bind, done, pure, Except.pure]
  cases told : answer.doneReason with
  | none => cases answer.done <;> rfl
  | some text =>
      by_cases empty : text = ""
      · subst empty
        cases answer.done <;> rfl
      · simp [Json.ofOption, Json.truthy, empty]

/-- What the server has answered is what `chat` returns. -/
theorem decode_json (requestedModel : String) (stamp : Stamp) :
    OllamaClient.decode requestedModel stamp answer.toJson = .ok (answer.response stamp) := by
  have message : answer.toJson.getOr "message" (.object []) =
      .ok (.object [("role", .str "assistant"), ("content", .str answer.content)]) := rfl
  have model : answer.toJson.getOr "model" (.str requestedModel) = .ok (.str answer.model) := rfl
  rw [OllamaClient.decode, message, model, answer.finishReason_json, answer.usage_json]
  have content : (Json.object [("role", .str "assistant"), ("content", .str answer.content)]).getOr
      "content" (.str "") = .ok (.str answer.content) := rfl
  simp only [bind, Except.bind, content, Json.asStr, pure, Except.pure]
  cases finish : answer.finish with
  | none => simp [Json.ofOption, Json.asOptional, response, finish]
  | some text => simp [Json.ofOption, Json.asOptional, Json.asStr, Except.map, response, finish]

end OllamaAnswer

/-! ## What is accepted -/

namespace Json

theorem getOr_eq_ok {value item default : Json} {key : String}
    (found : value.getOr key default = .ok item) :
    ∃ fields, value = .object fields ∧ item = (fields.lookup key).getD default := by
  cases value with
  | object fields =>
      cases found
      exact ⟨fields, rfl, rfl⟩
  | _ => cases found

theorem asStr_eq_ok {value : Json} {text : String} (accepted : value.asStr = .ok text) :
    value = .str text := by
  cases value with
  | str own =>
      cases accepted
      rfl
  | _ => cases accepted

end Json

/-- The value is in the object under its name, or it is not there and is the default. -/
def FieldOr (fields : List (String × Json)) (name : String) (value default : Json) : Prop :=
  fields.lookup name = some value ∨ fields.lookup name = none ∧ value = default

theorem fieldOr_getD (fields : List (String × Json)) (name : String) (default : Json) :
    FieldOr fields name ((fields.lookup name).getD default) default := by
  cases held : fields.lookup name with
  | none => exact .inr ⟨held, rfl⟩
  | some value => exact .inl held

/-- What an accepted body holds of the answer: an object with the content of the
message and the model as texts, where they are not left out; integer counts are
kept and added. -/
structure Accepted (requestedModel : String) (stamp : Stamp) (body : Json)
    (response : ChatCompletionResponse) : Prop where
  holds : ∃ fields message content finish, body = .object fields ∧
    FieldOr fields "message" (.object message) (.object []) ∧
    FieldOr message "content" (.str content) (.str "") ∧
    FieldOr fields "model" (.str response.model) (.str requestedModel) ∧
    response.choices = [⟨0, .assistant, content, finish, rfl⟩] ∧
    ∀ promptTokens completionTokens,
      fields.lookup "prompt_eval_count" = some (.int promptTokens) →
      fields.lookup "eval_count" = some (.int completionTokens) →
        response.usage = ⟨some promptTokens, some completionTokens,
          some (promptTokens + completionTokens)⟩
  provider : response.provider = "ollama"
  metadata : response.metadata =
    { requestId := stamp.requestId, latencyMs := roundTo stamp.latencyMs 2 }

theorem OllamaClient.usage_counts (fields : List (String × Json)) {promptTokens completionTokens : ℤ}
    (prompt : fields.lookup "prompt_eval_count" = some (.int promptTokens))
    (completion : fields.lookup "eval_count" = some (.int completionTokens)) :
    usage (.object fields) = .ok ⟨some promptTokens, some completionTokens,
      some (promptTokens + completionTokens)⟩ := by
  have got : (Json.object fields).get "prompt_eval_count" = .ok (.int promptTokens) := by
    rw [Json.get, prompt]
    rfl
  have gotToo : (Json.object fields).get "eval_count" = .ok (.int completionTokens) := by
    rw [Json.get, completion]
    rfl
  rw [usage, got]
  simp only [bind, Except.bind, gotToo]
  rfl

theorem OllamaClient.decode_accepted {requestedModel : String} {stamp : Stamp} {body : Json}
    {response : ChatCompletionResponse}
    (decoded : decode requestedModel stamp body = .ok response) :
    Accepted requestedModel stamp body response := by
  obtain ⟨message, gotMessage, decoded⟩ := bind_eq_ok_iff.mp decoded
  obtain ⟨content, gotContent, decoded⟩ := bind_eq_ok_iff.mp decoded
  obtain ⟨finish, -, decoded⟩ := bind_eq_ok_iff.mp decoded
  obtain ⟨counts, counted, decoded⟩ := bind_eq_ok_iff.mp decoded
  obtain ⟨text, isText, decoded⟩ := bind_eq_ok_iff.mp decoded
  obtain ⟨finishReason, -, decoded⟩ := bind_eq_ok_iff.mp decoded
  obtain ⟨modelled, gotModel, decoded⟩ := bind_eq_ok_iff.mp decoded
  obtain ⟨model, isModel, decoded⟩ := bind_eq_ok_iff.mp decoded
  cases decoded
  obtain ⟨fields, rfl, message_eq⟩ := Json.getOr_eq_ok gotMessage
  obtain ⟨inner, rfl, content_eq⟩ := Json.getOr_eq_ok gotContent
  obtain ⟨same, own, model_eq⟩ := Json.getOr_eq_ok gotModel
  cases own
  have content_text := Json.asStr_eq_ok isText
  have model_text := Json.asStr_eq_ok isModel
  refine ⟨⟨fields, inner, text, finishReason, rfl, ?_, ?_, ?_, rfl, ?_⟩, rfl, rfl⟩
  · rw [message_eq]
    exact fieldOr_getD fields "message" (.object [])
  · rw [← content_text, content_eq]
    exact fieldOr_getD inner "content" (.str "")
  · rw [← model_text, model_eq]
    exact fieldOr_getD fields "model" (.str requestedModel)
  · intro promptTokens completionTokens prompt completion
    rw [usage_counts fields prompt completion] at counted
    cases counted
    rfl

/-! ## What is refused -/

/-- Neither retried nor counted by the circuit breaker. -/
def Final (exc : Exc) : Prop :=
  Reliability.isTransientError exc = false ∧ Reliability.isCircuitBreakerFailure exc = false

namespace Json
variable (value : Json)

theorem raises_getOr (key : String) (default : Json) : Raises Final (value.getOr key default) := by
  cases value with
  | object fields => exact raises_ok _
  | _ => exact raises_error _ ⟨rfl, rfl⟩

theorem raises_get {law : Exc → Prop} (key : String) (missing : law (.attributeError "get")) :
    Raises law (value.get key) := by
  cases value with
  | object fields => exact raises_ok _
  | _ => exact raises_error _ missing

theorem raises_asStr : Raises Final value.asStr := by
  cases value with
  | str text => exact raises_ok _
  | _ => exact raises_error _ ⟨rfl, rfl⟩

theorem raises_asInt : Raises Final value.asInt := by
  have refused : Raises Final (.error validationError : Except Exc ℤ) :=
    raises_error _ ⟨rfl, rfl⟩
  cases value with
  | float number => exact raises_ite _ (raises_ok _) refused
  | str text =>
      unfold asInt
      dsimp only
      split
      · exact raises_ok _
      · exact refused
  | int number => exact raises_ok _
  | bool flag => exact raises_ok _
  | _ => exact refused

theorem raises_asOptional {α : Type} {accept : Json → Except Exc α}
    (accepts : ∀ value, Raises Final (accept value)) : Raises Final (value.asOptional accept) := by
  cases value with
  | null => exact raises_ok _
  | _ => exact raises_map some (accepts _)

theorem raises_add (first second : Json) : Raises Final (first.add second) := by
  unfold add
  split
  · exact raises_ok _
  · exact raises_ok _
  · split
    · exact raises_ok _
    · split
      · exact raises_ok _
      · exact raises_error _ ⟨rfl, rfl⟩

end Json

theorem HttpResponse.raises_parsed {law : Exc → Prop} (response : HttpResponse)
    (malformed : law jsonDecodeError) : Raises law response.parsed := by
  unfold parsed
  split
  · exact raises_ok _
  · exact raises_error _ malformed

namespace OllamaClient

theorem raises_usage (data : Json) : Raises Final (usage data) := by
  unfold usage
  refine raises_bind (data.raises_get _ ⟨rfl, rfl⟩) fun promptTokens _ => ?_
  refine raises_bind (data.raises_get _ ⟨rfl, rfl⟩) fun completionTokens _ => ?_
  refine raises_bind (raises_ite _ (raises_ok _) (Json.raises_add _ _)) fun total _ => ?_
  refine raises_bind (promptTokens.raises_asOptional Json.raises_asInt) fun _ _ => ?_
  refine raises_bind (completionTokens.raises_asOptional Json.raises_asInt) fun _ _ => ?_
  exact raises_bind (total.raises_asOptional Json.raises_asInt) fun _ _ => raises_ok _

theorem raises_finishReason (data : Json) : Raises Final (finishReason data) := by
  unfold finishReason
  refine raises_bind (data.raises_get _ ⟨rfl, rfl⟩) fun doneReason _ => ?_
  refine raises_ite _ (raises_ok _) ?_
  exact raises_bind (data.raises_get _ ⟨rfl, rfl⟩) fun _ _ => raises_ok _

theorem raises_decode (requestedModel : String) (stamp : Stamp) (data : Json) :
    Raises Final (decode requestedModel stamp data) := by
  unfold decode
  refine raises_bind (data.raises_getOr _ _) fun message _ => ?_
  refine raises_bind (message.raises_getOr _ _) fun content _ => ?_
  refine raises_bind (raises_finishReason data) fun finish _ => ?_
  refine raises_bind (raises_usage data) fun usage _ => ?_
  refine raises_bind content.raises_asStr fun _ _ => ?_
  refine raises_bind (finish.raises_asOptional Json.raises_asStr) fun _ _ => ?_
  refine raises_bind (data.raises_getOr _ _) fun modelled _ => ?_
  exact raises_bind modelled.raises_asStr fun _ _ => raises_ok _

/-- A POST that fails is retried and counted. -/
theorem chatError_counts (exc : Exc) (ordinary : exc.isException = true) :
    Reliability.isTransientError (chatError exc) = true ∧
      Reliability.isCircuitBreakerFailure (chatError exc) = true := by
  cases exc with
  | cancelledError => cases ordinary
  | otherBaseException name => cases ordinary
  | _ => exact ⟨rfl, rfl⟩

/-- Over the wire, any server that reads what is posted gets the model, the messages
and the sampling parameters of the request, and what it answers is returned under
the gateway's words.  Whatever comes back, what is accepted is in the body; a body of
status 200 that is refused is neither retried nor counted by the circuit breaker, as
a POST that fails is. -/
theorem chat_over_wire (client : OllamaClient) (request : ChatCompletionRequest)
    (stamp : Stamp) :
    (∀ serve : ChatPayload → OllamaAnswer,
      (∀ body payload, ChatPayload.read body = some payload → ∃ text,
        client.post client.chatEndpoint body =
          .ok ⟨200, text, some (serve payload).toJson⟩) →
        client.chat request stamp =
          .ok ((serve (OllamaProvider.payload request)).response stamp)) ∧
    (∀ response, client.chat request stamp = .ok response → ∃ text body,
      client.post client.chatEndpoint (OllamaProvider.payload request).toJson =
          .ok ⟨200, text, some body⟩ ∧
        Accepted request.model stamp body response) ∧
    ∀ exc, client.chat request stamp = .error exc →
      match client.post client.chatEndpoint (OllamaProvider.payload request).toJson with
      | .ok answer => answer.status = 200 → Final exc
      | .error failure => failure.isException = true →
          Reliability.isTransientError exc = true ∧
            Reliability.isCircuitBreakerFailure exc = true := by
  refine ⟨fun serve serves => ?_, fun response returned => ?_, fun exc raised => ?_⟩
  · obtain ⟨text, posted⟩ := serves _ _ (ChatPayload.read_json (OllamaProvider.payload request))
    rw [chat, posted]
    exact (serve (OllamaProvider.payload request)).decode_json request.model stamp
  · rw [chat] at returned
    split at returned
    · cases returned
    · rename_i answer posted
      split_ifs at returned with status
      obtain ⟨body, parsed, decoded⟩ := bind_eq_ok_iff.mp returned
      obtain ⟨code, text, json⟩ := answer
      cases json with
      | none => cases parsed
      | some value =>
          cases parsed
          cases not_not.mp status
          exact ⟨text, body, posted, decode_accepted decoded⟩
  · rw [chat] at raised
    split at raised
    · rename_i failure posted
      cases raised
      rw [posted]
      exact chatError_counts failure
    · rename_i answer posted
      rw [posted]
      intro status
      rw [if_neg (not_not.mpr status)] at raised
      have parsed : Raises Final answer.parsed := answer.raises_parsed ⟨rfl, rfl⟩
      exact raises_bind parsed (fun body _ => raises_decode request.model stamp body) exc raised

end OllamaClient

end CortexGateway
