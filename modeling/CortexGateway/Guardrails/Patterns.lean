import CortexGateway.Guardrails.Runner
import CortexGateway.Lib.Regex

/-! # The patterns of the guardrails

`_PATTERNS` of `app/guardrails/pii.py` and `_INJECTION_PHRASES` of
`app/guardrails/injection.py`.  Which characters beyond ASCII are word characters
or digits, and which letters differ in case only, is a parameter. -/
set_option autoImplicit false
namespace CortexGateway
open Regex

/-- What `re` takes from the Unicode tables, and what it does on ASCII. -/
structure UnicodeTables where
  word : Char → Bool
  digit : Char → Bool
  sameLetter : Char → Char → Bool
  wordAscii : ∀ c : Char, c.toNat < 128 → word c = (c.isAlphanum || c = '_')
  digitAscii : ∀ c : Char, c.toNat < 128 → digit c = c.isDigit
  sameLetterAscii : ∀ c d : Char, c.toNat < 128 → d.toNat < 128 →
    sameLetter c d = decide (c.toLower = d.toLower)

/-- The characters of a class that are listed. -/
def oneOf (listed : String) (c : Char) : Bool := listed.toList.contains c

def chr (c : Char) : Regex Char := .char fun d => d = c

/-- `[\s…]?` -/
def separator (listed : String) : Regex Char := opt (.char fun c => isBlank c || oneOf listed c)

namespace UnicodeTables
variable (unicode : UnicodeTables)

def digits (count : ℕ) : Regex Char := times count (.char unicode.digit)

/-! ## PII -/

def emailAddress : Regex Char :=
  sequence
    [.notBehind unicode.word,
      plus (.char fun c => c.isAlphanum || oneOf "._%+-" c),
      chr '@',
      plus (.char fun c => c.isAlphanum || oneOf ".-" c),
      chr '.',
      times 2 (.char Char.isAlpha), .star (.char Char.isAlpha),
      .notAhead unicode.word]

def phoneNumber : Regex Char :=
  sequence
    [.notBehind unicode.digit,
      opt (sequence [opt (chr '+'), chr '1', separator ".-"]),
      .alt (sequence [chr '(', unicode.digits 3, chr ')']) (unicode.digits 3),
      separator ".-",
      unicode.digits 3,
      separator ".-",
      unicode.digits 4,
      .notAhead unicode.digit]

def ssn : Regex Char :=
  sequence
    [.notBehind unicode.digit,
      .boundary unicode.word,
      unicode.digits 3, chr '-', unicode.digits 2, chr '-', unicode.digits 4,
      .boundary unicode.word,
      .notAhead unicode.digit]

def creditCard : Regex Char :=
  sequence
    [.notBehind unicode.digit,
      unicode.digits 4,
      separator "-",
      unicode.digits 4,
      separator "-",
      unicode.digits 4,
      separator "-",
      unicode.digits 1, upTo 6 (.char unicode.digit),
      .notAhead unicode.digit]

/-- `_PATTERNS` -/
def piiPatterns : List (String × Regex Char) :=
  [("EMAIL_ADDRESS", unicode.emailAddress), ("PHONE_NUMBER", unicode.phoneNumber),
    ("SSN", unicode.ssn), ("CREDIT_CARD", unicode.creditCard)]

/-! ## Injection -/

/-- A word, in any case. -/
def literal (text : String) : Regex Char :=
  sequence (text.toList.map fun c => .char (unicode.sameLetter c))

/-- `\s+` -/
def gap : Regex Char := plus (.char isBlank)

/-- `(word\s+)?` -/
def optional (text : String) : Regex Char := opt (sequence [unicode.literal text, gap])

/-- Words with gaps between them. -/
def spaced : List String → Regex Char
  | [] => .empty
  | [last] => unicode.literal last
  | text :: rest => sequence [unicode.literal text, gap, spaced rest]

/-- `_INJECTION_PHRASES` -/
def injectionPhrases : List (Regex Char) :=
  [sequence [unicode.literal "ignore", gap, unicode.optional "all",
      unicode.spaced ["previous", "instructions"]],
    sequence [unicode.literal "disregard", gap, unicode.optional "all",
      unicode.spaced ["previous", "instructions"]],
    unicode.spaced ["disregard", "the", "system", "prompt"],
    sequence [unicode.literal "forget", gap, unicode.optional "your",
      unicode.spaced ["previous", "instructions"]],
    unicode.spaced ["forget", "your", "instructions"],
    unicode.spaced ["override", "the", "system", "instructions"],
    unicode.spaced ["override", "your", "instructions"],
    sequence [unicode.spaced ["do", "not", "follow"], gap, unicode.optional "the",
      unicode.spaced ["previous", "instructions"]],
    unicode.spaced ["reveal", "the", "system", "prompt"],
    unicode.spaced ["reveal", "your", "instructions"],
    unicode.spaced ["repeat", "your", "system", "prompt"],
    unicode.spaced ["ignore", "your", "previous", "instructions"]]

/-- The compiled patterns. -/
def patterns : GuardrailPatterns :=
  { piiPatterns := unicode.piiPatterns.map fun pattern =>
      (pattern.1, fun prompt => pattern.2.search prompt.toList)
    injectionPhrases := unicode.injectionPhrases.map fun phrase =>
      fun prompt => phrase.search prompt.toList }

/-! ## A blank is overlooked -/

@[simp] theorem word_blank : unicode.word ' ' = false := by
  rw [unicode.wordAscii ' ' (by decide)]
  decide

@[simp] theorem digit_blank : unicode.digit ' ' = false := by
  rw [unicode.digitAscii ' ' (by decide)]
  decide

theorem literal_overlooks (text : String) (c : Char) : (unicode.literal text).Overlooks c := by
  rw [literal, overlooks_sequence]
  intro part member
  obtain ⟨letter, -, rfl⟩ := List.mem_map.mp member
  trivial

theorem spaced_overlooks (texts : List String) (c : Char) : (unicode.spaced texts).Overlooks c := by
  induction texts with
  | nil => trivial
  | cons text rest ih =>
      cases rest with
      | nil => exact unicode.literal_overlooks text c
      | cons next rest => simp [spaced, gap, Overlooks, unicode.literal_overlooks, ih]

theorem digits_overlooks (count : ℕ) (c : Char) : (unicode.digits count).Overlooks c :=
  overlooks_times count _ c trivial

/-- No lookaround of the patterns tells a blank from an end of the text. -/
theorem piiPatterns_overlook_blank : ∀ pattern ∈ unicode.piiPatterns, pattern.2.Overlooks ' ' := by
  intro pattern member
  have upToDigits := overlooks_upTo 6 (.char unicode.digit) ' ' trivial
  have letters := overlooks_times 2 (.char Char.isAlpha) ' ' trivial
  simp only [piiPatterns, List.mem_cons, List.not_mem_nil, or_false] at member
  rcases member with rfl | rfl | rfl | rfl
  · simp [emailAddress, chr, Overlooks, letters]
  · simp [phoneNumber, chr, separator, Overlooks, unicode.digits_overlooks]
  · simp [ssn, chr, Overlooks, unicode.digits_overlooks]
  · simp [creditCard, separator, Overlooks, unicode.digits_overlooks, upToDigits]

theorem injectionPhrases_overlook_blank : ∀ phrase ∈ unicode.injectionPhrases,
    phrase.Overlooks ' ' := by
  intro phrase member
  simp only [injectionPhrases, List.mem_cons, List.not_mem_nil, or_false] at member
  rcases member with rfl | rfl | rfl | rfl | rfl | rfl | rfl | rfl | rfl | rfl | rfl | rfl <;>
    simp [optional, gap, Overlooks, unicode.literal_overlooks, unicode.spaced_overlooks]

end UnicodeTables

/-! ## Messages around a request -/

namespace GuardrailRunner

/-- A prompt around another one, set apart by blanks. -/
def Surrounds (prompt inner : String) : Prop :=
  ∃ before after : List Char, prompt.toList = before ++ inner.toList ++ after ∧
    (∀ c ∈ before.getLast?, c = ' ') ∧ ∀ c ∈ after.head?, c = ' '

theorem surrounds_left (contents others : List String) (filled : others ≠ []) :
    Surrounds (" ".intercalate (contents ++ others)) (" ".intercalate others) := by
  by_cases none : contents = []
  · exact ⟨[], [], by simp [none], by simp, by simp⟩
  · refine ⟨(" ".intercalate contents).toList ++ [' '], [], ?_, by simp, by simp⟩
    rw [String.intercalate_append_of_ne_nil none filled]
    simp

theorem surrounds_right (contents others : List String) (filled : contents ≠ []) :
    Surrounds (" ".intercalate (contents ++ others)) (" ".intercalate contents) := by
  by_cases none : others = []
  · exact ⟨[], [], by simp [none], by simp, by simp⟩
  · refine ⟨[], ' ' :: (" ".intercalate others).toList, ?_, by simp, by simp⟩
    rw [String.intercalate_append_of_ne_nil filled none]
    simp

theorem Surrounds.trans {prompt middle inner : String} (outer : Surrounds prompt middle)
    (around : Surrounds middle inner) : Surrounds prompt inner := by
  obtain ⟨before, after, split, last, first⟩ := outer
  obtain ⟨before', after', split', last', first'⟩ := around
  refine ⟨before ++ before', after' ++ after, by rw [split, split']; simp, fun c near => ?_,
    fun c near => ?_⟩
  · rw [List.getLast?_append, Option.mem_def, Option.or_eq_some_iff] at near
    rcases near with own | ⟨-, outside⟩
    · exact last' c own
    · exact last c outside
  · rw [List.head?_append, Option.mem_def, Option.or_eq_some_iff] at near
    rcases near with own | ⟨-, outside⟩
    · exact first' c own
    · exact first c outside

theorem Surrounds.longer {prompt inner : String} (around : Surrounds prompt inner) :
    inner.length ≤ prompt.length := by
  obtain ⟨before, after, split, -, -⟩ := around
  have lengths := congrArg List.length split
  simp only [List.length_append, String.length_toList] at lengths
  omega

theorem Surrounds.search {prompt inner : String} (around : Surrounds prompt inner)
    {r : Regex Char} (overlooks : r.Overlooks ' ') (found : r.search inner.toList = true) :
    r.search prompt.toList = true := by
  obtain ⟨before, after, split, last, first⟩ := around
  rw [split]
  exact search_context (fun c near => last c near ▸ overlooks) (fun c near => first c near ▸ overlooks)
    found

/-! ## What blocks -/

section Blocks
variable (patterns : GuardrailPatterns)

theorem pii_blocks_iff (mode : DetectionMode) (prompt : String) :
    (∃ result ∈ PiiGuardrail.check patterns mode prompt, result.action = .block) ↔
      mode = .block ∧ ∃ pattern ∈ patterns.piiPatterns, pattern.2 prompt = true := by
  unfold PiiGuardrail.check
  rw [← List.find?_isSome]
  cases mode <;> cases patterns.piiPatterns.find? fun pattern => pattern.2 prompt <;>
    simp [DetectionMode.action, Option.bind]

theorem injection_blocks_iff (mode : DetectionMode) (prompt : String) :
    (∃ result ∈ InjectionGuardrail.check patterns mode prompt, result.action = .block) ↔
      mode = .block ∧ ∃ phrase ∈ patterns.injectionPhrases, phrase prompt = true := by
  unfold InjectionGuardrail.check
  rw [← List.find?_isSome]
  cases mode <;> cases patterns.injectionPhrases.find? fun phrase => phrase prompt <;>
    simp [DetectionMode.action, Option.bind]

theorem size_blocks_iff (maxChars : Option ℤ) (prompt : String) :
    (PromptSizeGuardrail.check maxChars prompt).isSome = true ↔
      ∃ limit ∈ maxChars, limit < prompt.length := by
  unfold PromptSizeGuardrail.check
  cases maxChars with
  | none => simp
  | some limit => by_cases exceeded : limit < prompt.length <;> simp [exceeded]

/-- A request is blocked by its size, or by a detector that blocks and finds something. -/
theorem blocked_iff (request : ChatCompletionRequest) (policy : GuardrailsPolicy) :
    (run patterns request policy).isBlocked = true ↔
      (∃ limit ∈ policy.maxPromptLength, limit < (buildPrompt request).length) ∨
      (policy.piiDetection = .block ∧
        ∃ pattern ∈ patterns.piiPatterns, pattern.2 (buildPrompt request) = true) ∨
      policy.injectionDetection = .block ∧
        ∃ phrase ∈ patterns.injectionPhrases, phrase (buildPrompt request) = true := by
  rw [← pii_blocks_iff, ← injection_blocks_iff, ← size_blocks_iff]
  unfold run
  dsimp only
  cases tooLarge : PromptSizeGuardrail.check policy.maxPromptLength (buildPrompt request) with
  | some size => simp [GuardrailRunResult.isBlocked]
  | none =>
      rw [GuardrailRunResult.isBlocked, decide_eq_true_eq, aggregate_blocks_iff]
      simp only [List.mem_append, Option.mem_toList, Option.mem_def, or_and_right, exists_or,
        Option.isSome_none, Bool.false_eq_true, false_or]

end Blocks

section Context
variable (unicode : UnicodeTables)

theorem patterns_search_around {prompt inner : String} (around : Surrounds prompt inner) :
    ((∃ pattern ∈ unicode.patterns.piiPatterns, pattern.2 inner = true) →
        ∃ pattern ∈ unicode.patterns.piiPatterns, pattern.2 prompt = true) ∧
      ((∃ phrase ∈ unicode.patterns.injectionPhrases, phrase inner = true) →
        ∃ phrase ∈ unicode.patterns.injectionPhrases, phrase prompt = true) := by
  constructor
  · rintro ⟨pattern, member, found⟩
    obtain ⟨named, listed, rfl⟩ := List.mem_map.mp member
    exact ⟨_, member, around.search (unicode.piiPatterns_overlook_blank named listed) found⟩
  · rintro ⟨phrase, member, found⟩
    obtain ⟨r, listed, rfl⟩ := List.mem_map.mp member
    exact ⟨_, member, around.search (unicode.injectionPhrases_overlook_blank r listed) found⟩

theorem blocked_around (request wider : ChatCompletionRequest) (policy : GuardrailsPolicy)
    (around : Surrounds (buildPrompt wider) (buildPrompt request))
    (blocked : (run unicode.patterns request policy).isBlocked = true) :
    (run unicode.patterns wider policy).isBlocked = true := by
  rw [blocked_iff] at blocked ⊢
  obtain ⟨pii, injection⟩ := patterns_search_around unicode around
  rcases blocked with ⟨limit, limited, exceeded⟩ | ⟨mode, found⟩ | ⟨mode, found⟩
  · have longer : ((buildPrompt request).length : ℤ) ≤ (buildPrompt wider).length := by
      exact_mod_cast around.longer
    exact Or.inl ⟨limit, limited, exceeded.trans_le longer⟩
  · exact Or.inr (Or.inl ⟨mode, pii found⟩)
  · exact Or.inr (Or.inr ⟨mode, injection found⟩)

/-- A request that is blocked stays blocked with other messages around its own. -/
theorem blocked_with_context (policy : GuardrailsPolicy) (request wider : ChatCompletionRequest)
    (before after : List ChatMessage)
    (context : wider.messages = before ++ request.messages ++ after)
    (blocked : (run unicode.patterns request policy).isBlocked = true) :
    (run unicode.patterns wider policy).isBlocked = true := by
  have filled : request.messages.map ChatMessage.content ≠ [] := by
    simpa using request.messagesNotEmpty
  refine blocked_around unicode request wider policy ?_ blocked
  unfold buildPrompt
  rw [context, List.map_append, List.map_append]
  exact (surrounds_right _ _ (by simp [filled])).trans (surrounds_left _ _ filled)

end Context

/-! ## An address between greetings -/

/-- ASCII letters and digits only. -/
def asciiTables : UnicodeTables :=
  { word := fun c => c.isAlphanum || c = '_'
    digit := Char.isDigit
    sameLetter := fun c d => c.toLower = d.toLower
    wordAscii := fun _ _ => rfl
    digitAscii := fun _ _ => rfl
    sameLetterAscii := fun _ _ _ _ => rfl }

def ask (contents : List { content : String // strip content ≠ "" })
    (filled : contents ≠ []) : ChatCompletionRequest :=
  { hello with
    messages := contents.map fun content => ⟨.user, content.val, content.property⟩
    messagesNotEmpty := by simpa using filled }

def address : { content : String // strip content ≠ "" } := ⟨"a@b.io", by decide +kernel⟩

def greeting : { content : String // strip content ≠ "" } := ⟨"hi", by decide +kernel⟩

theorem address_blocked_between_greetings :
    (run asciiTables.patterns (ask [greeting, address, greeting] (by simp))
      ⟨none, .block, .off⟩).isBlocked = true :=
  blocked_with_context asciiTables ⟨none, .block, .off⟩ (ask [address] (by simp)) _
    [⟨.user, greeting.val, greeting.property⟩] [⟨.user, greeting.val, greeting.property⟩] rfl
    (by decide +kernel)

end GuardrailRunner

end CortexGateway
