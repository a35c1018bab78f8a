import CortexGateway.Lib.Validation
import CortexGateway.ModelRegistry.Models

/-! # What the registry accepts

The validators of `app/model_registry/schemas.py`.  What they accept makes a
well formed row: a known provider, a stripped name, known capabilities each
listed once, a window and a latency above zero.  The defaults, which are not
checked, are such values too. -/
set_option autoImplicit false
namespace CortexGateway.ModelRegistry
open Validation ModelRegistryService

/-- Sorted, as the messages show it. -/
def knownCapabilities : List String :=
  ["code", "complex_reasoning", "function_calling", "json", "text", "tools", "vision"]

/-! ## Fields -/

def lengthBetween (low high : ℕ) (text : String) : Except String String :=
  if text.length < low then
    .error ("String should have at least " ++ toString low ++
      if low = 1 then " character" else " characters")
  else if high < text.length then
    .error ("String should have at most " ++ toString high ++ " characters")
  else .ok text

def atLeastZero (value : ℚ) : Except String NNRat :=
  if nonneg : 0 ≤ value then .ok ⟨value, nonneg⟩
  else .error "Input should be greater than or equal to 0"

def aboveZero {α : Type} [Zero α] [LT α] [DecidableLT α] (value : α) :
    Except String {value : α // 0 < value} :=
  if positive : 0 < value then .ok ⟨value, positive⟩ else .error "Input should be greater than 0"

def validateProvider (v : String) : Except String {name : String // name ∈ knownProviders} :=
  let normalized := lower (strip v)
  if known : normalized ∈ knownProviders then .ok ⟨normalized, known⟩
  else .error ("Unknown provider " ++ reprStr v ++ ". Supported: " ++ reprStrs knownProviders)

def validateModelName (v : String) : Except String {name : String // Trimmed name} :=
  if empty : strip v = "" then .error "model_name must not be empty or whitespace."
  else .ok ⟨strip v, trimmed_strip empty⟩

/-- De-duplicated, the first occurrences in their order. -/
def deduplicated (v : List String) : List String :=
  v.foldl (fun result cap => if cap ∈ result then result else result ++ [cap]) []

structure ListedOnce (capabilities : List String) : Prop where
  nonempty : capabilities ≠ []
  known : ∀ cap ∈ capabilities, cap ∈ knownCapabilities
  once : capabilities.Nodup

theorem mem_deduplicated {v : List String} {cap : String} : cap ∈ deduplicated v ↔ cap ∈ v := by
  unfold deduplicated
  induction v using List.reverseRecOn with
  | nil => rfl
  | append_singleton v last ih =>
      rw [List.foldl_append, List.foldl_cons, List.foldl_nil]
      split_ifs with listed
      · rw [ih, List.mem_append, List.mem_singleton]
        exact ⟨Or.inl, fun either => either.elim id fun same => same ▸ ih.mp (same ▸ listed)⟩
      · rw [List.mem_append, List.mem_append, ih]

theorem nodup_deduplicated (v : List String) : (deduplicated v).Nodup := by
  unfold deduplicated
  induction v using List.reverseRecOn with
  | nil => exact List.nodup_nil
  | append_singleton v last ih =>
      rw [List.foldl_append, List.foldl_cons, List.foldl_nil]
      split_ifs with listed
      · exact ih
      · exact List.nodup_append.mpr ⟨ih, List.nodup_singleton last,
          fun cap member other single same => listed (by simp_all)⟩

def unknownCapabilities (v : List String) : List String :=
  (v.filter fun cap => cap ∉ knownCapabilities).dedup.insertionSort (· ≤ ·)

theorem mem_unknownCapabilities {v : List String} {cap : String} :
    cap ∈ unknownCapabilities v ↔ cap ∈ v ∧ cap ∉ knownCapabilities := by
  rw [unknownCapabilities, List.mem_insertionSort, List.mem_dedup, List.mem_filter,
    decide_eq_true_eq]

theorem listedOnce_deduplicated {v : List String} (nonempty : v ≠ [])
    (known : unknownCapabilities v = []) : ListedOnce (deduplicated v) where
  nonempty empty := by
    obtain ⟨cap, member⟩ := List.exists_mem_of_ne_nil v nonempty
    have listed := mem_deduplicated.mpr member
    rw [empty] at listed
    cases listed
  known cap member := by
    by_contra foreign
    have unknown := mem_unknownCapabilities.mpr ⟨mem_deduplicated.mp member, foreign⟩
    rw [known] at unknown
    cases unknown
  once := nodup_deduplicated v

def validateCapabilities (v : List String) :
    Except String {capabilities : List String // ListedOnce capabilities} :=
  if empty : v = [] then .error "capabilities must contain at least one entry."
  else if known : unknownCapabilities v = [] then
    .ok ⟨deduplicated v, listedOnce_deduplicated empty known⟩
  else
    .error ("Unknown capability tokens: " ++ reprStrs (unknownCapabilities v) ++ ". Allowed: " ++
      reprStrs knownCapabilities)

/-! ## Bodies -/

/-- What the schemas guarantee of a row. -/
structure ModelRegistryEntry.WellFormed (entry : ModelRegistryEntry) : Prop where
  name : Trimmed entry.modelName
  capabilities : ListedOnce entry.capabilities
  window : 0 < entry.contextWindow
  latency : 0 < entry.baselineLatencyMs

structure ValidCreate where
  data : ModelRegistryCreate
  wellFormed : ∀ id, (newEntry data id).WellFormed

structure ValidUpdate where
  data : ModelRegistryUpdate
  capabilities : ∀ value, data.capabilities = some (some value) → ListedOnce value
  window : ∀ value, data.contextWindow = some (some value) → 0 < value
  latency : ∀ value, data.baselineLatencyMs = some (some value) → 0 < value

section Bodies
variable (coercions : Coercions)

def displayName : Value → Validated (Option String) :=
  nullable (checked (scalar coercions.toStr) (lengthBetween 0 255))

def cost : Value → Validated NNRat := checked (scalar coercions.toFloat) atLeastZero

def capabilityTokens : Value → Validated {capabilities : List String // ListedOnce capabilities} :=
  checked (listOf coercions (scalar coercions.toStr)) (valueError validateCapabilities)

def windowSize : Value → Validated {window : ℤ // 0 < window} :=
  checked (scalar coercions.toInt) aboveZero

def latency : Value → Validated {latency : ℚ // 0 < latency} :=
  checked (scalar coercions.toFloat) aboveZero

theorem listedOnce_text : ListedOnce ["text"] := ⟨by simp, by decide, by simp⟩
theorem default_window : (0 : ℤ) < 8192 := by decide
theorem default_latency : (0 : ℚ) < 500 := by decide

def createFields : List String :=
  ["provider", "model_name", "display_name", "input_cost_per_1k", "output_cost_per_1k",
    "capabilities", "context_window", "baseline_latency_ms", "enabled"]

/-- The body of a POST from its checked fields. -/
def newCreate (provider : {name : String // name ∈ knownProviders})
    (modelName : {name : String // Trimmed name}) (displayName : Option String)
    (inputCostPer1k outputCostPer1k : NNRat)
    (capabilities : {capabilities : List String // ListedOnce capabilities})
    (contextWindow : {window : ℤ // 0 < window}) (baselineLatencyMs : {latency : ℚ // 0 < latency})
    (enabled : Bool) : ValidCreate where
  data :=
    { provider := provider.val
      modelName := modelName.val
      displayName := displayName
      inputCostPer1k := inputCostPer1k
      outputCostPer1k := outputCostPer1k
      capabilities := capabilities.val
      contextWindow := contextWindow.val
      baselineLatencyMs := baselineLatencyMs.val
      enabled := enabled
      providerKnown := provider.property }
  wellFormed _ := ⟨modelName.property, capabilities.property, contextWindow.property,
    baselineLatencyMs.property⟩

/-- `ModelRegistryCreate.model_validate`. -/
def validateCreate : Value → Validated ValidCreate :=
  model "ModelRegistryCreate" createFields fun items =>
    (Validated.build newCreate)
      |>.field (required items "provider" (checked
        (checked (scalar coercions.toStr) (lengthBetween 1 100)) (valueError validateProvider)))
      |>.field (required items "model_name" (checked
        (checked (scalar coercions.toStr) (lengthBetween 1 255)) (valueError validateModelName)))
      |>.field (defaulted items "display_name" none (displayName coercions))
      |>.field (defaulted items "input_cost_per_1k" 0 (cost coercions))
      |>.field (defaulted items "output_cost_per_1k" 0 (cost coercions))
      |>.field (defaulted items "capabilities" ⟨["text"], listedOnce_text⟩
        (capabilityTokens coercions))
      |>.field (defaulted items "context_window" ⟨8192, default_window⟩ (windowSize coercions))
      |>.field (defaulted items "baseline_latency_ms" ⟨500, default_latency⟩ (latency coercions))
      |>.field (defaulted items "enabled" true (scalar coercions.toBool))

def updateFields : List String :=
  ["display_name", "input_cost_per_1k", "output_cost_per_1k", "capabilities", "context_window",
    "baseline_latency_ms", "enabled"]

theorem given_property {α : Type} {p : α → Prop} {given : Option (Option {value : α // p value})}
    (value : α) (same : given.map (Option.map Subtype.val) = some (some value)) : p value := by
  obtain ⟨inner, rfl, held⟩ := Option.map_eq_some_iff.mp same
  obtain ⟨checked, rfl, rfl⟩ := Option.map_eq_some_iff.mp held
  exact checked.property

/-- The body of a PATCH from its checked fields. -/
def newUpdate (displayName : Option (Option String))
    (inputCostPer1k outputCostPer1k : Option (Option NNRat))
    (capabilities : Option (Option {capabilities : List String // ListedOnce capabilities}))
    (contextWindow : Option (Option {window : ℤ // 0 < window}))
    (baselineLatencyMs : Option (Option {latency : ℚ // 0 < latency}))
    (enabled : Option (Option Bool)) : ValidUpdate where
  data :=
    { displayName := displayName
      inputCostPer1k := inputCostPer1k
      outputCostPer1k := outputCostPer1k
      capabilities := capabilities.map (Option.map Subtype.val)
      contextWindow := contextWindow.map (Option.map Subtype.val)
      baselineLatencyMs := baselineLatencyMs.map (Option.map Subtype.val)
      enabled := enabled }
  capabilities := given_property
  window := given_property
  latency := given_property

/-- `ModelRegistryUpdate.model_validate`. -/
def validateUpdate : Value → Validated ValidUpdate :=
  model "ModelRegistryUpdate" updateFields fun items =>
    (Validated.build newUpdate)
      |>.field (given items "display_name" (displayName coercions))
      |>.field (given items "input_cost_per_1k" (nullable (cost coercions)))
      |>.field (given items "output_cost_per_1k" (nullable (cost coercions)))
      |>.field (given items "capabilities" (nullable (capabilityTokens coercions)))
      |>.field (given items "context_window" (nullable (windowSize coercions)))
      |>.field (given items "baseline_latency_ms" (nullable (latency coercions)))
      |>.field (given items "enabled" (nullable (scalar coercions.toBool)))

end Bodies

end CortexGateway.ModelRegistry
