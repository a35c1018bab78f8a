import CortexGateway.Budget.Cost
import CortexGateway.ModelRegistry.Models

/-! # Loading the catalog

`load_from_db` and `provider_model_names` of `app/routing/metadata.py`.  The
dictionary is the list of its items in insertion order; `get` looks a key up in
it. -/
set_option autoImplicit false
namespace CortexGateway
open Budgeting ModelRegistry

/-- `_catalog`, the items in insertion order. -/
abbrev CatalogDict := List (String × ModelMetadata)

/-- `dict[key] = value`: a key keeps its place. -/
def CatalogDict.setItem (catalog : CatalogDict) (key : String) (value : ModelMetadata) :
    CatalogDict :=
  if catalog.any (·.1 = key) then
    catalog.map fun item => if item.1 = key then (key, value) else item
  else catalog ++ [(key, value)]

def ModelRegistry.ModelRegistryEntry.catalogKey (entry : ModelRegistryEntry) : String :=
  entry.provider ++ ":" ++ entry.modelName

def ModelRegistry.ModelRegistryEntry.metadata (entry : ModelRegistryEntry) : ModelMetadata :=
  { provider := entry.provider
    model := entry.modelName
    costPer1kTokens := entry.costPer1kTokens
    inputCostPer1k := entry.inputCostPer1k
    outputCostPer1k := entry.outputCostPer1k
    capabilities := entry.capabilities
    contextWindow := entry.contextWindow
    baselineLatencyMs := entry.baselineLatencyMs
    costNonneg := entry.costPer1kTokens.coe_nonneg
    inputCostNonneg := entry.inputCostPer1k.coe_nonneg
    outputCostNonneg := entry.outputCostPer1k.coe_nonneg }

/-- The dictionary `load_from_db` swaps in. -/
def newCatalog (entries : List ModelRegistryEntry) : CatalogDict :=
  entries.foldl (fun catalog entry => catalog.setItem entry.catalogKey entry.metadata) []

/-- What `get` sees of the dictionary. -/
def CatalogDict.toCatalog (catalog : CatalogDict) (ollamaDefaultCost : ℚ)
    (nonneg : 0 ≤ ollamaDefaultCost) : ModelMetadataCatalog :=
  ⟨fun key => catalog.lookup key, ollamaDefaultCost, nonneg⟩

def CatalogDict.providerModelNames (catalog : CatalogDict) (provider : String) : List String :=
  (catalog.filter fun item => startsWith item.1 (lower provider ++ ":")).map (·.2.model)

/-! ## What is loaded -/

theorem mem_setItem {catalog : CatalogDict} {key : String} {value : ModelMetadata}
    {item : String × ModelMetadata} (member : item ∈ catalog.setItem key value) :
    item ∈ catalog ∨ item = (key, value) := by
  unfold CatalogDict.setItem at member
  split_ifs at member
  · obtain ⟨other, listed, replaced⟩ := List.mem_map.mp member
    split_ifs at replaced
    · exact .inr replaced.symm
    · exact .inl (replaced ▸ listed)
  · simpa using member

theorem mem_newCatalog {entries : List ModelRegistryEntry} {item : String × ModelMetadata}
    (member : item ∈ newCatalog entries) :
    ∃ entry ∈ entries, item = (entry.catalogKey, entry.metadata) := by
  induction entries using List.reverseRecOn with
  | nil => cases member
  | append_singleton earlier last ih =>
      unfold newCatalog at member
      rw [List.foldl_append] at member
      rcases mem_setItem member with before | same
      · obtain ⟨entry, listed, found⟩ := ih before
        exact ⟨entry, List.mem_append_left _ listed, found⟩
      · exact ⟨last, by simp, same⟩

theorem takeWhile_colon {text : List Char} (rest : List Char) (plain : ':' ∉ text) :
    (text ++ ':' :: rest).takeWhile (· ≠ ':') = text := by
  rw [List.takeWhile_append_of_pos]
  · simp
  · intro c member
    simpa using fun same : c = ':' => plain (same ▸ member)

/-- A key is cut in one way at its first colon. -/
theorem startsWith_provider {provider other modelName : String} (plain : ':' ∉ provider.toList)
    (plainToo : ':' ∉ other.toList)
    (begins : startsWith (provider ++ ":" ++ modelName) (other ++ ":") = true) :
    provider = other := by
  obtain ⟨rest, cut⟩ := of_decide_eq_true begins
  simp only [String.toList_append, List.append_assoc] at cut
  have first := takeWhile_colon modelName.toList plain
  have second := takeWhile_colon rest plainToo
  apply String.toList_injective
  rw [← first, ← second]
  exact congrArg (List.takeWhile (· ≠ ':')) cut.symm

theorem knownProviders_plain :
    ∀ provider ∈ knownProviders, ':' ∉ provider.toList ∧ lower provider = provider := by
  decide

theorem mem_providerModelNames {entries : List ModelRegistryEntry} {provider modelName : String}
    (known : provider ∈ knownProviders)
    (member : modelName ∈ (newCatalog entries).providerModelNames provider) :
    ∃ entry ∈ entries, entry.provider = provider ∧ entry.modelName = modelName := by
  obtain ⟨item, listed, rfl⟩ := List.mem_map.mp member
  obtain ⟨inCatalog, begins⟩ := List.mem_filter.mp listed
  obtain ⟨entry, loaded, rfl⟩ := mem_newCatalog inCatalog
  obtain ⟨plain, lowered⟩ := knownProviders_plain provider known
  rw [lowered] at begins
  exact ⟨entry, loaded,
    startsWith_provider (knownProviders_plain entry.provider entry.providerKnown).1 plain begins,
    rfl⟩

end CortexGateway
