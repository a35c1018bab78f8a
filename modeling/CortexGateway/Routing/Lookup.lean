import CortexGateway.ModelRegistry.Submissions
import CortexGateway.Routing.Prices

/-! # Loading and looking up are inverse

The catalog is keyed by provider and model name joined at a colon, the registry
by the pair.  No provider has a colon, so a key is cut in one way, and the names
of the registry are stripped where they are written, so the stripped name of a
lookup meets them.  After any requests to the registry a lookup finds the row
that was registered, else that of the untagged name, else the default. -/
set_option autoImplicit false
namespace CortexGateway.Prices
open Budgeting ModelRegistry ModelRegistryService Validation

/-- An enabled row of the provider has the name. -/
def Named (rows : List ModelRegistryEntry) (provider name : String) : Prop :=
  ∃ row ∈ rows, row.enabled = true ∧ row.provider = lower provider ∧ row.modelName = name

def defaultCost (ollamaDefaultCost : NNRat) (provider : String) : ℚ :=
  if lower provider = "ollama" then ollamaDefaultCost else 5/10000

theorem defaultCost_nonneg (ollamaDefaultCost : NNRat) (provider : String) :
    0 ≤ defaultCost ollamaDefaultCost provider := by
  unfold defaultCost
  split_ifs
  · exact ollamaDefaultCost.coe_nonneg
  · norm_num

/-- What is answered for a model of which nothing is registered. -/
def providerDefault (ollamaDefaultCost : NNRat) (provider model : String) : ModelMetadata :=
  { provider := lower provider
    model := model
    costPer1kTokens := defaultCost ollamaDefaultCost provider
    inputCostPer1k := 0
    outputCostPer1k := 0
    capabilities :=
      ["text", "code", "json"] ++
        if textContains (lower model) "vision" || textContains (lower model) "llava" then
          ["vision"]
        else []
    contextWindow := 8192
    baselineLatencyMs := if lower provider = "ollama" then 300 else 500
    costNonneg := defaultCost_nonneg ollamaDefaultCost provider
    inputCostNonneg := free_nonneg
    outputCostNonneg := free_nonneg }

/-- The loaded catalog gives back what is registered.  A provider has no colon;
the default prices Ollama models as configured. -/
structure GivesBack (rows : List ModelRegistryEntry) (ollamaDefaultCost : NNRat) : Prop where
  registered : ∀ row ∈ rows, row.enabled = true → ∀ provider model,
    lower provider = row.provider → strip model = row.modelName →
      (loaded rows ollamaDefaultCost).catalog.get provider model = row.metadata
  untagged : ∀ provider model, ':' ∉ provider.toList → ¬Named rows provider (strip model) →
    ∀ row ∈ rows, row.enabled = true → row.provider = lower provider →
      row.modelName = strip (beforeColon model) →
        (loaded rows ollamaDefaultCost).catalog.get provider model =
          { row.metadata with provider := provider, model := model }
  unregistered : ∀ provider model, ':' ∉ provider.toList → ¬Named rows provider (strip model) →
    ¬Named rows provider (strip (beforeColon model)) →
      (loaded rows ollamaDefaultCost).catalog.get provider model =
        providerDefault ollamaDefaultCost provider model
  names : ∀ provider, ':' ∉ provider.toList →
    ((newCatalog (getAllForCatalog rows)).providerModelNames provider).Nodup ∧
      ∀ name, name ∈ (newCatalog (getAllForCatalog rows)).providerModelNames provider ↔
        Named rows provider name

/-! ## Keys -/

theorem colon_of_toLower {c : Char} (same : c.toLower = ':') : c = ':' := by
  rcases toLower_cases c with ⟨low, high, shifted⟩ | kept
  · have code : c.toLower.toNat = 58 := congrArg Char.toNat same
    omega
  · exact kept.symm.trans same

theorem plain_lower {provider : String} (plain : ':' ∉ provider.toList) :
    ':' ∉ (lower provider).toList := by
  rw [lower, String.toList_ofList]
  intro member
  obtain ⟨c, listed, same⟩ := List.mem_map.mp member
  exact plain (colon_of_toLower same ▸ listed)

theorem startsWith_append (start rest : String) : startsWith (start ++ rest) start = true := by
  unfold startsWith
  rw [String.toList_append]
  exact decide_eq_true (List.prefix_append _ _)

theorem key_injective {provider other name otherName : String} (plain : ':' ∉ provider.toList)
    (plainToo : ':' ∉ other.toList)
    (same : provider ++ ":" ++ name = other ++ ":" ++ otherName) :
    provider = other ∧ name = otherName := by
  have begins : startsWith (provider ++ ":" ++ name) (other ++ ":") = true := by
    rw [same]
    exact startsWith_append (other ++ ":") otherName
  have sameProvider := startsWith_provider plain plainToo begins
  subst sameProvider
  exact ⟨rfl, String.append_right_inj _ |>.mp same⟩

theorem catalogKey_iff {row : ModelRegistryEntry} {provider name : String}
    (plain : ':' ∉ provider.toList) :
    row.catalogKey = provider ++ ":" ++ name ↔ row.provider = provider ∧ row.modelName = name := by
  refine ⟨key_injective (knownProviders_plain row.provider row.providerKnown).1 plain, ?_⟩
  rintro ⟨rfl, rfl⟩
  rfl

/-! ## The dictionary -/

/-- Entries with different keys are each an item, in their order. -/
theorem newCatalog_of_nodup {entries : List ModelRegistryEntry}
    (distinct : (entries.map ModelRegistryEntry.catalogKey).Nodup) :
    newCatalog entries = entries.map fun entry => (entry.catalogKey, entry.metadata) := by
  induction entries using List.reverseRecOn with
  | nil => rfl
  | append_singleton earlier last ih =>
      rw [List.map_append, List.map_singleton] at distinct
      obtain ⟨distinctBefore, -, apart⟩ := List.nodup_append.mp distinct
      have before := ih distinctBefore
      unfold newCatalog at before ⊢
      rw [List.foldl_append, List.foldl_cons, List.foldl_nil, before, CatalogDict.setItem, if_neg]
      · simp
      · intro listed
        obtain ⟨item, member, same⟩ := List.any_eq_true.mp listed
        obtain ⟨entry, inEarlier, rfl⟩ := List.mem_map.mp member
        exact apart _ (List.mem_map_of_mem inEarlier) _ (List.mem_singleton_self _)
          (of_decide_eq_true same)

section Registered
variable {rows : List ModelRegistryEntry}

theorem distinct_keys (registered : Registered rows) :
    ((getAllForCatalog rows).map ModelRegistryEntry.catalogKey).Nodup := by
  rw [((getAllForCatalog_perm rows).map _).nodup_iff]
  have enabled : ((rows.filter ModelRegistryEntry.enabled).map
      fun row => (row.provider, row.modelName)).Nodup :=
    registered.models.sublist (List.filter_sublist.map _)
  refine (List.nodup_map_iff_inj_on (List.Nodup.of_map _ enabled)).mpr
    fun row member other memberToo same => ?_
  obtain ⟨sameProvider, sameName⟩ := (catalogKey_iff
    (knownProviders_plain other.provider other.providerKnown).1).mp same
  exact List.inj_on_of_nodup_map enabled member memberToo (Prod.ext sameProvider sameName)

theorem startsWith_catalogKey {provider : String} (plain : ':' ∉ provider.toList)
    (row : ModelRegistryEntry) :
    startsWith row.catalogKey (provider ++ ":") = decide (row.provider = provider) := by
  refine Bool.eq_iff_iff.mpr ⟨fun begins => ?_, fun same => ?_⟩
  · exact decide_eq_true
      (startsWith_provider (knownProviders_plain row.provider row.providerKnown).1 plain begins)
  · rw [← of_decide_eq_true same]
    exact startsWith_append (row.provider ++ ":") row.modelName

theorem metadata_model (row : ModelRegistryEntry) : row.metadata.model = row.modelName := rfl

theorem providerModelNames_eq (registered : Registered rows) {provider : String}
    (plain : ':' ∉ provider.toList) :
    (newCatalog (getAllForCatalog rows)).providerModelNames provider =
      ((getAllForCatalog rows).filter fun row => row.provider = lower provider).map
        ModelRegistryEntry.modelName := by
  have kept : (getAllForCatalog rows).filter
        (fun row => startsWith row.catalogKey (lower provider ++ ":")) =
      (getAllForCatalog rows).filter fun row => row.provider = lower provider :=
    List.filter_congr fun row _ => startsWith_catalogKey (plain_lower plain) row
  rw [newCatalog_of_nodup (distinct_keys registered), CatalogDict.providerModelNames,
    List.filter_map, List.map_map]
  simp only [Function.comp_def, kept, metadata_model]

theorem mem_names (registered : Registered rows) {provider : String}
    (plain : ':' ∉ provider.toList) (name : String) :
    name ∈ (newCatalog (getAllForCatalog rows)).providerModelNames provider ↔
      Named rows provider name := by
  rw [providerModelNames_eq registered plain, List.mem_map]
  simp only [List.mem_filter, mem_getAllForCatalog, decide_eq_true_eq, Named, and_assoc]

theorem nodup_names (registered : Registered rows) {provider : String}
    (plain : ':' ∉ provider.toList) :
    ((newCatalog (getAllForCatalog rows)).providerModelNames provider).Nodup := by
  rw [providerModelNames_eq registered plain]
  have once : ((getAllForCatalog rows).filter fun row => row.provider = lower provider).Nodup :=
    (List.Nodup.of_map _ (distinct_keys registered)).filter _
  refine (List.nodup_map_iff_inj_on once).mpr fun row member other memberToo sameName => ?_
  obtain ⟨listed, its⟩ := List.mem_filter.mp member
  obtain ⟨listedToo, itsToo⟩ := List.mem_filter.mp memberToo
  exact List.inj_on_of_nodup_map registered.models (mem_getAllForCatalog.mp listed).1
    (mem_getAllForCatalog.mp listedToo).1
    (Prod.ext ((of_decide_eq_true its).trans (of_decide_eq_true itsToo).symm) sameName)

variable (ollamaDefaultCost : NNRat)

theorem catalog_named (registered : Registered rows) {row : ModelRegistryEntry}
    (member : row ∈ rows) (enabled : row.enabled = true) {provider name : String}
    (sameProvider : row.provider = lower provider) (sameName : row.modelName = name) :
    (loaded rows ollamaDefaultCost).catalog.catalog (lower provider ++ ":" ++ name) =
      some row.metadata := by
  have key : row.catalogKey = lower provider ++ ":" ++ name := by
    rw [← sameProvider, ← sameName]
    rfl
  cases looked : (loaded rows ollamaDefaultCost).catalog.catalog (lower provider ++ ":" ++ name) with
  | none => exact absurd key (loaded_missing rows ollamaDefaultCost looked row member enabled)
  | some metadata =>
      obtain ⟨other, listed, -, otherKey, rfl⟩ := loaded_found rows ollamaDefaultCost looked
      obtain ⟨otherProvider, otherName⟩ := key_injective
        (knownProviders_plain other.provider other.providerKnown).1
        (knownProviders_plain row.provider row.providerKnown).1 (otherKey.trans key.symm)
      rw [List.inj_on_of_nodup_map registered.models listed member
        (Prod.ext otherProvider otherName)]

theorem catalog_unnamed {provider name : String} (plain : ':' ∉ provider.toList)
    (unnamed : ¬Named rows provider name) :
    (loaded rows ollamaDefaultCost).catalog.catalog (lower provider ++ ":" ++ name) = none := by
  by_contra found
  obtain ⟨metadata, looked⟩ := Option.ne_none_iff_exists'.mp found
  obtain ⟨row, member, enabled, key, -⟩ := loaded_found rows ollamaDefaultCost looked
  exact unnamed ⟨row, member, enabled, (catalogKey_iff (plain_lower plain)).mp key⟩

theorem givesBack_of_registered (registered : Registered rows) :
    GivesBack rows ollamaDefaultCost where
  registered row member enabled provider model sameProvider sameName := by
    rw [ModelMetadataCatalog.get,
      catalog_named ollamaDefaultCost registered member enabled sameProvider.symm sameName.symm]
  untagged provider model plain unnamed row member enabled sameProvider sameName := by
    rw [ModelMetadataCatalog.get, catalog_unnamed ollamaDefaultCost plain unnamed,
      catalog_named ollamaDefaultCost registered member enabled sameProvider sameName]
  unregistered provider model plain unnamed unnamedToo := by
    rw [ModelMetadataCatalog.get, catalog_unnamed ollamaDefaultCost plain unnamed,
      catalog_unnamed ollamaDefaultCost plain unnamedToo]
    simp only [decide_eq_true_eq]
    rfl
  names provider plain := ⟨nodup_names registered plain, mem_names registered plain⟩

end Registered

/-- After any requests to a registry, its catalog gives back what is registered. -/
theorem load_lookup_inverse (coercions : Coercions) (registry : Registry)
    (submissions : List Submission) (ollamaDefaultCost : NNRat) :
    GivesBack (registry.submitAll coercions submissions).rows ollamaDefaultCost :=
  givesBack_of_registered ollamaDefaultCost
    (registry.submitAll coercions submissions).registered

end CortexGateway.Prices
