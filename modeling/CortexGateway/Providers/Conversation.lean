import CortexGateway.Providers.Payloads
import Mathlib.Data.List.Infix

/-! # The conversation Gemini is sent

`gemini_provider.py` starts a chat with a history and sends one message to it.
Here the two together are compared with the messages of the request. -/
set_option autoImplicit false
namespace CortexGateway

/-- Gemini knows the assistant as `model`; a system message is no content. -/
def geminiRole : Role → String
  | .system => "system"
  | .user => "user"
  | .assistant => "model"

/-- `{"role": ..., "parts": [...]}` -/
structure GeminiContent where
  role : String
  parts : List String
  deriving DecidableEq

def SentMessage.geminiContent (message : SentMessage) : GeminiContent :=
  ⟨geminiRole message.role, [message.content]⟩

/-- What the model reads: the history of the chat, then the message that is sent
to it, which speaks as the user. -/
def GeminiPayload.contents (payload : GeminiPayload) : List GeminiContent :=
  payload.history.map SentMessage.geminiContent ++ [⟨"user", [payload.lastUserContent]⟩]

namespace GeminiProvider

/-- The contents are the messages that are not system messages, and the text of
every system message is part of the instruction. -/
structure KeepsConversation (messages : List ChatMessage) (payload : GeminiPayload) : Prop where
  contents : payload.contents = (conversation messages).map SentMessage.geminiContent
  instructed : ∀ text ∈ systemContents messages,
    ∃ instruction ∈ payload.systemInstruction, text.toList <:+: instruction.toList

/-- The last message that is not a system message is the user's. -/
def EndsWithUser (messages : List ChatMessage) : Prop :=
  ∃ message ∈ (messages.filter (·.role ≠ .system)).getLast?, message.role = .user

/-- The last system message repeats the text of every other one. -/
def LastInstructionRepeatsAll (messages : List ChatMessage) : Prop :=
  ∀ instruction ∈ (systemContents messages).getLast?,
    ∀ text ∈ systemContents messages, text.toList <:+: instruction.toList

theorem userContents_eq (messages : List ChatMessage) :
    userContents messages =
      ((messages.filter (·.role ≠ .system)).filter (·.role = .user)).map ChatMessage.content := by
  rw [userContents, List.filter_filter]
  refine congrArg _ (List.filter_congr fun message _ => ?_)
  cases message.role <;> simp

theorem lastUserContent_of_endsWith {messages : List ChatMessage} {last : ChatMessage}
    (ends : (messages.filter (·.role ≠ .system)).getLast? = some last)
    (user : last.role = .user) :
    (userContents messages).getLast? = some last.content := by
  obtain ⟨start, split⟩ := List.getLast?_eq_some_iff.mp ends
  rw [userContents_eq, split]
  simp [user]

theorem conversation_ne_nil {messages : List ChatMessage}
    (asked : userContents messages ≠ []) : messages.filter (·.role ≠ .system) ≠ [] := by
  intro silent
  exact asked (by rw [userContents_eq, silent]; rfl)

/-- The message that is sent to the chat ends the contents, so it has to be the
last message of the conversation. -/
theorem contents_iff {messages : List ChatMessage} {payload : GeminiPayload}
    (asked : userContents messages ≠ [])
    (history : payload.history = (conversation messages).dropLast)
    (lastUser : (userContents messages).getLast? = some payload.lastUserContent) :
    payload.contents = (conversation messages).map SentMessage.geminiContent ↔
      EndsWithUser messages := by
  obtain ⟨last, ends⟩ := Option.isSome_iff_exists.mp
    (List.getLast?_isSome.mpr (conversation_ne_nil asked))
  obtain ⟨start, split⟩ := List.getLast?_eq_some_iff.mp ends
  have sent : conversation messages = start.map ChatMessage.sent ++ [last.sent] := by
    rw [conversation, split, List.map_append, List.map_singleton]
  have endsWith : EndsWithUser messages ↔ last.role = .user := by
    simp only [EndsWithUser, ends, Option.mem_some_iff, exists_eq_left']
  rw [GeminiPayload.contents, history, sent, endsWith, List.dropLast_concat, List.map_append,
    List.append_cancel_left_eq]
  constructor
  · intro same
    have role : geminiRole last.role = "user" := by
      simpa [SentMessage.geminiContent, ChatMessage.sent] using
        (congrArg GeminiContent.role (List.singleton_injective same)).symm
    cases given : last.role <;> simp [given, geminiRole] at role ⊢
  · intro user
    have content : payload.lastUserContent = last.content :=
      Option.some.inj (lastUser.symm.trans (lastUserContent_of_endsWith ends user))
    simp [SentMessage.geminiContent, ChatMessage.sent, user, geminiRole, content]

theorem instructed_iff {messages : List ChatMessage} {payload : GeminiPayload}
    (instruction : payload.systemInstruction = (systemContents messages).getLast?) :
    (∀ text ∈ systemContents messages,
        ∃ instruction ∈ payload.systemInstruction, text.toList <:+: instruction.toList) ↔
      LastInstructionRepeatsAll messages := by
  rw [instruction, LastInstructionRepeatsAll]
  cases given : (systemContents messages).getLast? with
  | none => simp [List.getLast?_eq_none_iff.mp given]
  | some last => simp

/-- The adapter keeps the conversation exactly where the user speaks last and the
last system message repeats all others. -/
theorem conversationKept_iff (request : ChatCompletionRequest)
    (asked : userContents request.messages ≠ []) :
    (∃ sent, payload request = .ok sent ∧ KeepsConversation request.messages sent) ↔
      EndsWithUser request.messages ∧ LastInstructionRepeatsAll request.messages := by
  obtain ⟨lastUser, last⟩ := Option.isSome_iff_exists.mp (List.getLast?_isSome.mpr asked)
  have answered := payload_eq request
  simp only [last] at answered
  rw [answered]
  constructor
  · rintro ⟨sent, same, kept⟩
    cases Except.ok.inj same
    exact ⟨(contents_iff asked rfl last).mp kept.contents, (instructed_iff rfl).mp kept.instructed⟩
  · rintro ⟨ends, repeats⟩
    exact ⟨_, rfl, (contents_iff asked rfl last).mpr ends, (instructed_iff rfl).mpr repeats⟩

/-- A request that ends with the assistant's words, as one does that asks the
model to go on. -/
def goOn : ChatCompletionRequest :=
  { hello with
    messages := hello.messages ++ [⟨.assistant, "Once upon", by decide +kernel⟩]
    messagesNotEmpty := by simp }

/-- The assistant's words are dropped and the user's are sent twice. -/
theorem goOn_repeats_user :
    userContents goOn.messages ≠ [] ∧
      (payload goOn).toOption.map GeminiPayload.contents =
        some [⟨"user", ["hello"]⟩, ⟨"user", ["hello"]⟩] ∧
      ¬∃ sent, payload goOn = .ok sent ∧ KeepsConversation goOn.messages sent := by
  refine ⟨by decide, by decide, ?_⟩
  rintro ⟨sent, same, kept⟩
  cases Except.ok.inj same
  exact absurd kept.contents (by decide)

theorem hello_kept : ∃ sent, payload hello = .ok sent ∧ KeepsConversation hello.messages sent :=
  (conversationKept_iff hello (by decide)).mpr
    ⟨⟨⟨.user, "hello", by decide +kernel⟩, by rfl, rfl⟩, by
      intro instruction given
      simp [systemContents, hello] at given⟩

end GeminiProvider

end CortexGateway
