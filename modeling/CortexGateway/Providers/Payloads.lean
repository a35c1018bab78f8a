import CortexGateway.Core.Exceptions
import CortexGateway.Schemas.Chat

/-! # What the adapters send

The translation at the head of `chat` in `groq_provider.py`,
`ollama_provider.py` and `gemini_provider.py`. -/
set_option autoImplicit false
namespace CortexGateway

/-- The sampling parameters that are sent, each only when it is set. -/
structure Sampling where
  temperature : Option ℚ
  maxTokens : Option ℤ
  topP : Option ℚ
  stop : Option (List String)
  deriving DecidableEq

/-- An empty list of stop sequences is not sent. -/
def sampling (request : ChatCompletionRequest) : Sampling :=
  { temperature := request.temperature
    maxTokens := request.maxTokens
    topP := request.topP
    stop := if request.stop.getD [] = [] then none else request.stop }

structure SentMessage where
  role : Role
  content : String
  deriving DecidableEq

def ChatMessage.sent (message : ChatMessage) : SentMessage := ⟨message.role, message.content⟩

structure ChatPayload where
  model : String
  messages : List SentMessage
  sampling : Sampling
  deriving DecidableEq

/-- Groq and Ollama are sent every message as it is. -/
def chatPayload (request : ChatCompletionRequest) : ChatPayload :=
  ⟨request.model, request.messages.map ChatMessage.sent, sampling request⟩

namespace GroqProvider

def payload (request : ChatCompletionRequest) : ChatPayload := chatPayload request

end GroqProvider

namespace OllamaProvider

/-- `max_tokens` is sent as `num_predict`. -/
def payload (request : ChatCompletionRequest) : ChatPayload := chatPayload request

end OllamaProvider

structure GeminiPayload where
  modelName : String
  systemInstruction : Option String
  history : List SentMessage
  lastUserContent : String
  generationConfig : Sampling
  deriving DecidableEq

namespace GeminiProvider

def refusal : Exc :=
  .provider .providerError "At least one user message is required for Gemini."

/-- What the loop over the messages has gathered. -/
structure Gathered where
  systemInstruction : Option String
  history : List SentMessage
  lastUserContent : Option String

def gather (gathered : Gathered) (message : ChatMessage) : Gathered :=
  match message.role with
  | .system => { gathered with systemInstruction := some message.content }
  | .user =>
      { gathered with
        lastUserContent := some message.content
        history := gathered.history ++ [message.sent] }
  | .assistant => { gathered with history := gathered.history ++ [message.sent] }

/-- The chat is started with all but the last message of the history. -/
def payload (request : ChatCompletionRequest) : Except Exc GeminiPayload :=
  let gathered := request.messages.foldl gather ⟨none, [], none⟩
  match gathered.lastUserContent with
  | none => .error refusal
  | some lastUserContent => .ok
      { modelName := request.model
        systemInstruction := gathered.systemInstruction
        history := gathered.history.dropLast
        lastUserContent := lastUserContent
        generationConfig := sampling request }

end GeminiProvider

/-! ## What the loop of the Gemini adapter gathers -/

def systemContents (messages : List ChatMessage) : List String :=
  (messages.filter (·.role = .system)).map ChatMessage.content

def userContents (messages : List ChatMessage) : List String :=
  (messages.filter (·.role = .user)).map ChatMessage.content

/-- The user and assistant messages in order. -/
def conversation (messages : List ChatMessage) : List SentMessage :=
  (messages.filter (·.role ≠ .system)).map ChatMessage.sent

namespace GeminiProvider

theorem foldl_gather (messages : List ChatMessage) (start : Gathered) :
    messages.foldl gather start =
      { systemInstruction := (systemContents messages).getLast?.or start.systemInstruction
        history := start.history ++ conversation messages
        lastUserContent := (userContents messages).getLast?.or start.lastUserContent } := by
  induction messages using List.reverseRecOn with
  | nil => simp [systemContents, conversation, userContents]
  | append_singleton messages message ih =>
      rw [List.foldl_append, ih]
      cases role : message.role <;>
        simp [gather, role, systemContents, conversation, userContents, List.filter_append]

/-- The last system message, the conversation without its last message, and the
last user message. -/
theorem payload_eq (request : ChatCompletionRequest) :
    payload request =
      match (userContents request.messages).getLast? with
      | none => .error refusal
      | some lastUserContent => .ok
          { modelName := request.model
            systemInstruction := (systemContents request.messages).getLast?
            history := (conversation request.messages).dropLast
            lastUserContent := lastUserContent
            generationConfig := sampling request } := by
  simp only [payload, foldl_gather, Option.or_none, List.nil_append]

end GeminiProvider

end CortexGateway
