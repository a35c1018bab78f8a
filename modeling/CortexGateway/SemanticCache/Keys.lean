import CortexGateway.SemanticCache.Cache

/-! # What requests with one cache key share

The embedding text is the last user message, and the config holds the first
system message and the sorted stop sequences.  Two requests with the same key
share exactly this of what the adapters send. -/
set_option autoImplicit false
namespace CortexGateway.SemanticCache

section Keys
variable {κ : Type} (digest : CacheConfig → κ) (first second : ChatCompletionRequest)

/-- Equal embedding text and equal config hash: similarity 1. -/
structure SameKey : Prop where
  text : extractEmbeddingText first = extractEmbeddingText second
  hash : buildConfigHash digest first = buildConfigHash digest second

/-- The adapters send the same messages and parameters. -/
structure SameQuestion : Prop where
  messages : (chatPayload first).messages = (chatPayload second).messages
  sampling : (chatPayload first).sampling = (chatPayload second).sampling
  gemini : ∀ one two, GeminiProvider.payload first = .ok one →
    GeminiProvider.payload second = .ok two →
      one.systemInstruction = two.systemInstruction ∧ one.history = two.history ∧
        one.lastUserContent = two.lastUserContent ∧ one.generationConfig = two.generationConfig

/-- At most one message is from the system. -/
def OneSystemPrompt (request : ChatCompletionRequest) : Prop :=
  (systemContents request.messages).length ≤ 1

/-- What the adapters send alike: the last user message, the first system
message (the system prompt, where there is only one), the sampling numbers, and
the stop sequences up to their order. -/
structure SharedQuestion : Prop where
  lastUser : ((chatPayload first).messages.filter (·.role = .user)).getLast? =
    ((chatPayload second).messages.filter (·.role = .user)).getLast?
  firstSystem : (chatPayload first).messages.find? (·.role = .system) =
    (chatPayload second).messages.find? (·.role = .system)
  temperature : (chatPayload first).sampling.temperature = (chatPayload second).sampling.temperature
  maxTokens : (chatPayload first).sampling.maxTokens = (chatPayload second).sampling.maxTokens
  topP : (chatPayload first).sampling.topP = (chatPayload second).sampling.topP
  stop : ((chatPayload first).sampling.stop.getD []).Perm
    ((chatPayload second).sampling.stop.getD [])
  gemini : ∀ one two, GeminiProvider.payload first = .ok one →
    GeminiProvider.payload second = .ok two →
      one.lastUserContent = two.lastUserContent ∧
        (OneSystemPrompt first → OneSystemPrompt second →
          one.systemInstruction = two.systemInstruction)

theorem userContents_ne_nil (request : ChatCompletionRequest) (eligible : isEligible request = true) :
    userContents request.messages ≠ [] := by
  simp only [isEligible, Bool.and_eq_true, List.any_eq_true, decide_eq_true_eq] at eligible
  obtain ⟨-, message, member, user⟩ := eligible
  intro empty
  have held : message ∈ request.messages.filter (·.role = .user) :=
    List.mem_filter.mpr ⟨member, by simpa using user⟩
  rw [List.map_eq_nil_iff.mp empty] at held
  cases held

theorem lastUser_of_sameText (eligible : isEligible first = true)
    (alsoEligible : isEligible second = true)
    (same : extractEmbeddingText first = extractEmbeddingText second) :
    (userContents first.messages).getLast? = (userContents second.messages).getLast? := by
  rw [List.getLast?_eq_some_getLast (userContents_ne_nil first eligible),
    List.getLast?_eq_some_getLast (userContents_ne_nil second alsoEligible)]
  simpa only [extractEmbeddingText,
    List.getLast?_eq_some_getLast (userContents_ne_nil first eligible),
    List.getLast?_eq_some_getLast (userContents_ne_nil second alsoEligible), Option.some.injEq]
    using same

/-- The sent messages of one role are that role and the contents. -/
theorem sent_filter (messages : List ChatMessage) (role : Role) :
    (messages.map ChatMessage.sent).filter (·.role = role) =
      ((messages.filter (·.role = role)).map ChatMessage.content).map (SentMessage.mk role) := by
  induction messages with
  | nil => rfl
  | cons message messages ih =>
      by_cases own : message.role = role
      · simp [ChatMessage.sent, own] at ih ⊢
        exact ih
      · simp [ChatMessage.sent, own] at ih ⊢
        exact ih

theorem find_sent (messages : List ChatMessage) :
    (messages.map ChatMessage.sent).find? (·.role = .system) =
      (systemPrompt messages).map (SentMessage.mk .system) := by
  rw [← List.head?_filter, sent_filter, systemPrompt, ← List.head?_filter]
  simp [List.head?_map]

theorem last_eq_first (request : ChatCompletionRequest) (single : OneSystemPrompt request) :
    (systemContents request.messages).getLast? = systemPrompt request.messages := by
  have first : systemPrompt request.messages = (systemContents request.messages).head? := by
    rw [systemPrompt, ← List.head?_filter, systemContents, List.head?_map]
  rw [first]
  unfold OneSystemPrompt at single
  cases contents : systemContents request.messages with
  | nil => rfl
  | cons one rest =>
      cases rest with
      | nil => rfl
      | cons two rest =>
          rw [contents] at single
          simp at single

theorem sampling_stop (request : ChatCompletionRequest) :
    (sampling request).stop.getD [] = request.stop.getD [] := by
  simp only [sampling]
  split_ifs with none
  · rw [none]
    rfl
  · rfl

end Keys

/-! ## One key for different questions -/

def talk (messages : List ChatMessage) (messagesNotEmpty : messages ≠ []) (stop : List String) :
    ChatCompletionRequest :=
  { hello with messages := messages, messagesNotEmpty := messagesNotEmpty, stop := some stop }

def spoken (role : Role) (content : String) (contentNotEmpty : strip content ≠ "") : ChatMessage :=
  ⟨role, content, contentNotEmpty⟩

def yes : ChatMessage := spoken .user "yes" (by decide +kernel)

/-- The same last turn of two conversations. -/
def deleteFiles : ChatCompletionRequest :=
  talk [spoken .user "Delete all files?" (by decide +kernel), spoken .assistant "Sure?"
    (by decide +kernel), yes] (by simp) []

def sendMail : ChatCompletionRequest :=
  talk [spoken .user "Send the mail?" (by decide +kernel), spoken .assistant "Now?"
    (by decide +kernel), yes] (by simp) []

/-- The same first of two system messages. -/
def inFrench : ChatCompletionRequest :=
  talk [spoken .system "Be brief." (by decide +kernel), spoken .system "Answer in French."
    (by decide +kernel), yes] (by simp) []

def inGerman : ChatCompletionRequest :=
  talk [spoken .system "Be brief." (by decide +kernel), spoken .system "Answer in German."
    (by decide +kernel), yes] (by simp) []

end CortexGateway.SemanticCache
