import CortexGateway.Routing.Metadata
import CortexGateway.Budget.Cover

/-! # The price the router reads and the prices the budget reads

`get` of `app/routing/metadata.py` answers with a catalogued entry, with the entry
of the untagged model or with a default.  The router reads the blended price of
the answer, the cost calculator its input and output prices. -/
set_option autoImplicit false
namespace CortexGateway.Prices
open Budgeting ModelRegistry

/-- The catalog `load_from_db` leaves. -/
def loaded (rows : List ModelRegistryEntry) (ollamaDefaultCost : NNRat) : CostCalculator :=
  ⟨(newCatalog (ModelRegistryService.getAllForCatalog rows)).toCatalog ollamaDefaultCost
    ollamaDefaultCost.coe_nonneg⟩

/-- The blended price is the mean of the other two, and a model the router prices
above zero has an estimate above zero before it is rounded. -/
structure PricedAlike (calculator : CostCalculator) (provider model : String) : Prop where
  blended : (calculator.catalog.get provider model).costPer1kTokens =
    ((calculator.catalog.get provider model).inputCostPer1k +
      (calculator.catalog.get provider model).outputCostPer1k) / 2
  budgeted : 0 < (calculator.catalog.get provider model).costPer1kTokens →
    ∀ request, 0 < calculator.estimateCostBy id provider model request

def exactKey (provider model : String) : String := lower provider ++ ":" ++ strip model

def bareKey (provider model : String) : String :=
  lower provider ++ ":" ++ strip (beforeColon model)

/-- An enabled row has the key of the model or of the model without its tag. -/
def Catalogued (rows : List ModelRegistryEntry) (provider model : String) : Prop :=
  ∃ row ∈ rows, row.enabled = true ∧
    (row.catalogKey = exactKey provider model ∨ row.catalogKey = bareKey provider model)

/-! ## The keys of the dictionary -/

theorem mem_keys_setItem (catalog : CatalogDict) (key other : String) (value : ModelMetadata) :
    other ∈ (catalog.setItem key value).map Prod.fst ↔
      other ∈ catalog.map Prod.fst ∨ other = key := by
  unfold CatalogDict.setItem
  split_ifs with listed
  · have kept : (catalog.map fun item => if item.1 = key then (key, value) else item).map Prod.fst =
        catalog.map Prod.fst := by
      rw [List.map_map]
      refine List.map_congr_left fun item _ => ?_
      by_cases same : item.1 = key <;> simp [same]
    obtain ⟨item, member, same⟩ := List.any_eq_true.mp listed
    have present : key ∈ catalog.map Prod.fst :=
      List.mem_map.mpr ⟨item, member, of_decide_eq_true same⟩
    rw [kept]
    exact ⟨Or.inl, fun either => either.elim id fun same => same ▸ present⟩
  · simp

theorem mem_keys_newCatalog (entries : List ModelRegistryEntry) (key : String) :
    key ∈ (newCatalog entries).map Prod.fst ↔ ∃ entry ∈ entries, entry.catalogKey = key := by
  induction entries using List.reverseRecOn with
  | nil => simp [newCatalog]
  | append_singleton earlier last ih =>
      unfold newCatalog at ih ⊢
      rw [List.foldl_append, List.foldl_cons, List.foldl_nil, mem_keys_setItem, ih]
      simp [or_and_right, exists_or, eq_comm]

variable (rows : List ModelRegistryEntry) (ollamaDefaultCost : NNRat)

theorem loaded_found {key : String} {metadata : ModelMetadata}
    (found : (loaded rows ollamaDefaultCost).catalog.catalog key = some metadata) :
    ∃ row ∈ rows, row.enabled = true ∧ row.catalogKey = key ∧ row.metadata = metadata := by
  obtain ⟨before, after, split, -⟩ := List.lookup_eq_some_iff.mp found
  have member : (key, metadata) ∈ newCatalog (ModelRegistryService.getAllForCatalog rows) := by
    rw [split]
    simp
  obtain ⟨row, listed, same⟩ := mem_newCatalog member
  obtain ⟨inTable, enabled⟩ := ModelRegistryService.mem_getAllForCatalog.mp listed
  obtain ⟨sameKey, sameMetadata⟩ := Prod.mk.inj same
  exact ⟨row, inTable, enabled, sameKey.symm, sameMetadata.symm⟩

theorem loaded_missing {key : String}
    (missing : (loaded rows ollamaDefaultCost).catalog.catalog key = none) :
    ∀ row ∈ rows, row.enabled = true → row.catalogKey ≠ key := by
  intro row member enabled same
  have present := (mem_keys_newCatalog (ModelRegistryService.getAllForCatalog rows) key).mpr
    ⟨row, ModelRegistryService.mem_getAllForCatalog.mpr ⟨member, enabled⟩, same⟩
  obtain ⟨item, listed, sameKey⟩ := List.mem_map.mp present
  exact absurd sameKey.symm (by simpa using List.lookup_eq_none_iff.mp missing item listed)

/-! ## The three answers of get -/

theorem get_catalogued {provider model : String} (catalogued : Catalogued rows provider model) :
    ∃ row : ModelRegistryEntry,
      let metadata := (loaded rows ollamaDefaultCost).catalog.get provider model
      metadata.costPer1kTokens = row.costPer1kTokens ∧
        metadata.inputCostPer1k = row.inputCostPer1k ∧
        metadata.outputCostPer1k = row.outputCostPer1k := by
  simp only [ModelMetadataCatalog.get]
  split
  · next entry found =>
      obtain ⟨row, -, -, -, rfl⟩ := loaded_found rows ollamaDefaultCost found
      exact ⟨row, rfl, rfl, rfl⟩
  · next missing =>
      split
      · next entry found =>
          obtain ⟨row, -, -, -, rfl⟩ := loaded_found rows ollamaDefaultCost found
          exact ⟨row, rfl, rfl, rfl⟩
      · next bareMissing =>
          obtain ⟨row, member, enabled, exact | bare⟩ := catalogued
          · exact absurd exact (loaded_missing rows ollamaDefaultCost missing row member enabled)
          · exact absurd bare (loaded_missing rows ollamaDefaultCost bareMissing row member enabled)

theorem get_uncatalogued {provider model : String}
    (uncatalogued : ¬Catalogued rows provider model) :
    let metadata := (loaded rows ollamaDefaultCost).catalog.get provider model
    metadata.costPer1kTokens =
        (if lower provider = "ollama" then (ollamaDefaultCost : ℚ) else 5/10000) ∧
      metadata.inputCostPer1k = 0 ∧ metadata.outputCostPer1k = 0 := by
  simp only [ModelMetadataCatalog.get]
  split
  · next entry found =>
      obtain ⟨row, member, enabled, key, -⟩ := loaded_found rows ollamaDefaultCost found
      exact absurd ⟨row, member, enabled, .inl key⟩ uncatalogued
  · split
    · next entry found =>
        obtain ⟨row, member, enabled, key, -⟩ := loaded_found rows ollamaDefaultCost found
        exact absurd ⟨row, member, enabled, .inr key⟩ uncatalogued
    · simp only [decide_eq_true_eq, and_true]
      rfl

theorem estimateCostBy_pos {calculator : CostCalculator} {provider model : String}
    (priced : 0 < (calculator.catalog.get provider model).inputCostPer1k +
      (calculator.catalog.get provider model).outputCostPer1k)
    (request : ChatCompletionRequest) : 0 < calculator.estimateCostBy id provider model request := by
  have input : (1 : ℚ) ≤ CostCalculator.estimatedInputTokens request := by
    exact_mod_cast le_max_left 1 _
  have output : (1 : ℚ) ≤ CostCalculator.estimatedOutputTokens request := by
    exact_mod_cast CostCalculator.estimatedOutputTokens_pos request
  have inputSide := mul_le_mul_of_nonneg_right input
    (calculator.catalog.get provider model).inputCostNonneg
  have outputSide := mul_le_mul_of_nonneg_right output
    (calculator.catalog.get provider model).outputCostNonneg
  simp only [CostCalculator.estimateCostBy, id_eq]
  linarith

end CortexGateway.Prices
