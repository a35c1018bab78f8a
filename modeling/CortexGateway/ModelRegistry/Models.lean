import CortexGateway.Budget.Service

/-! # The model registry

The rows of `app/model_registry/models.py`, the request bodies of
`app/model_registry/schemas.py` and the queries of
`app/model_registry/service.py`.  Costs are not negative and providers are
known ones, as the schemas and the seeds have it. -/
set_option autoImplicit false
namespace CortexGateway.ModelRegistry

def knownProviders : List String := ["gemini", "groq", "ollama", "openai"]

structure ModelRegistryEntry where
  id : String
  provider : String
  modelName : String
  displayName : Option String
  inputCostPer1k : NNRat
  outputCostPer1k : NNRat
  capabilities : List String
  contextWindow : ℤ
  baselineLatencyMs : ℚ
  enabled : Bool
  providerKnown : provider ∈ knownProviders
  deriving DecidableEq

namespace ModelRegistryEntry

/-- The mean of the two prices. -/
def costPer1kTokens (entry : ModelRegistryEntry) : NNRat :=
  (entry.inputCostPer1k + entry.outputCostPer1k) / 2

/-- The primary key, and the pair of `uq_model_registry_provider_model`. -/
def clash (entry other : ModelRegistryEntry) : Bool :=
  entry.id = other.id || (entry.provider = other.provider && entry.modelName = other.modelName)

/-- `order_by(provider, model_name)`. -/
def Before (entry other : ModelRegistryEntry) : Prop :=
  entry.provider < other.provider ∨
    (entry.provider = other.provider ∧ entry.modelName ≤ other.modelName)

instance : DecidableRel Before := fun entry other =>
  inferInstanceAs (Decidable (entry.provider < other.provider ∨
    (entry.provider = other.provider ∧ entry.modelName ≤ other.modelName)))

end ModelRegistryEntry

def groqLlama : ModelRegistryEntry :=
  ⟨"model-1", "groq", "llama", none, 1/200, 1/100, ["text"], 8192, 500, true, by decide⟩

/-- The body of a POST. -/
structure ModelRegistryCreate where
  provider : String
  modelName : String
  displayName : Option String
  inputCostPer1k : NNRat
  outputCostPer1k : NNRat
  capabilities : List String
  contextWindow : ℤ
  baselineLatencyMs : ℚ
  enabled : Bool
  providerKnown : provider ∈ knownProviders

/-- The body of a PATCH.  A field that is given may be given as null. -/
structure ModelRegistryUpdate where
  displayName : Option (Option String)
  inputCostPer1k : Option (Option NNRat)
  outputCostPer1k : Option (Option NNRat)
  capabilities : Option (Option (List String))
  contextWindow : Option (Option ℤ)
  baselineLatencyMs : Option (Option ℚ)
  enabled : Option (Option Bool)

/-- The table: `uq_model_registry_provider_model` holds of it. -/
structure ModelRegistryTable where
  rows : List ModelRegistryEntry
  unique : (rows.map fun row => (row.provider, row.modelName)).Nodup

theorem ModelRegistryTable.row_unique (table : ModelRegistryTable) {row other : ModelRegistryEntry}
    (member : row ∈ table.rows) (memberToo : other ∈ table.rows)
    (sameProvider : row.provider = other.provider) (sameModel : row.modelName = other.modelName) :
    row = other :=
  List.inj_on_of_nodup_map table.unique member memberToo
    (Prod.ext sameProvider sameModel)

/-- A column that may not be null after `setattr` of the given value. -/
def setColumn {α : Type} (given : Option (Option α)) (current : α) : Option α :=
  given.getD (some current)

namespace ModelRegistryService

def newEntry (data : ModelRegistryCreate) (id : String) : ModelRegistryEntry :=
  { id := id
    provider := data.provider
    modelName := data.modelName
    displayName := data.displayName
    inputCostPer1k := data.inputCostPer1k
    outputCostPer1k := data.outputCostPer1k
    capabilities := data.capabilities
    contextWindow := data.contextWindow
    baselineLatencyMs := data.baselineLatencyMs
    enabled := data.enabled
    providerKnown := data.providerKnown }

/-- The attributes after the `setattr` loop; `none` when a required column is null. -/
def setattrs (data : ModelRegistryUpdate) (entry : ModelRegistryEntry) :
    Option ModelRegistryEntry := do
  let inputCostPer1k ← setColumn data.inputCostPer1k entry.inputCostPer1k
  let outputCostPer1k ← setColumn data.outputCostPer1k entry.outputCostPer1k
  let capabilities ← setColumn data.capabilities entry.capabilities
  let contextWindow ← setColumn data.contextWindow entry.contextWindow
  let baselineLatencyMs ← setColumn data.baselineLatencyMs entry.baselineLatencyMs
  let enabled ← setColumn data.enabled entry.enabled
  return { entry with
    displayName := data.displayName.getD entry.displayName
    inputCostPer1k := inputCostPer1k
    outputCostPer1k := outputCostPer1k
    capabilities := capabilities
    contextWindow := contextWindow
    baselineLatencyMs := baselineLatencyMs
    enabled := enabled }

/-- UPDATE of the columns whose value changed since the row was loaded. -/
def updated (loaded attrs row : ModelRegistryEntry) : ModelRegistryEntry :=
  { row with
    displayName := Budgeting.writeBack loaded.displayName attrs.displayName row.displayName
    inputCostPer1k :=
      Budgeting.writeBack loaded.inputCostPer1k attrs.inputCostPer1k row.inputCostPer1k
    outputCostPer1k :=
      Budgeting.writeBack loaded.outputCostPer1k attrs.outputCostPer1k row.outputCostPer1k
    capabilities := Budgeting.writeBack loaded.capabilities attrs.capabilities row.capabilities
    contextWindow := Budgeting.writeBack loaded.contextWindow attrs.contextWindow row.contextWindow
    baselineLatencyMs :=
      Budgeting.writeBack loaded.baselineLatencyMs attrs.baselineLatencyMs row.baselineLatencyMs
    enabled := Budgeting.writeBack loaded.enabled attrs.enabled row.enabled }

def getByProviderModel (rows : List ModelRegistryEntry) (provider modelName : String) :
    Option ModelRegistryEntry :=
  rows.find? fun row => row.provider = provider && row.modelName = modelName

def getModel (rows : List ModelRegistryEntry) (modelId : String) : Option ModelRegistryEntry :=
  rows.find? fun row => row.id = modelId

/-- The listing is ordered by provider and model name. -/
def listModels (rows : List ModelRegistryEntry) (provider : Option String) (enabledOnly : Bool) :
    List ModelRegistryEntry :=
  (rows.filter fun row =>
    (!enabledOnly || row.enabled) &&
      provider.all fun name => name = "" || row.provider = lower name).insertionSort
    ModelRegistryEntry.Before

def getAllForCatalog (rows : List ModelRegistryEntry) : List ModelRegistryEntry :=
  listModels rows none true

/-- The catalog is loaded from the enabled rows, each of them once. -/
theorem getAllForCatalog_perm (rows : List ModelRegistryEntry) :
    (getAllForCatalog rows).Perm (rows.filter ModelRegistryEntry.enabled) := by
  unfold getAllForCatalog listModels
  simpa using List.perm_insertionSort ModelRegistryEntry.Before
    (rows.filter ModelRegistryEntry.enabled)

theorem mem_getAllForCatalog {rows : List ModelRegistryEntry} {row : ModelRegistryEntry} :
    row ∈ getAllForCatalog rows ↔ row ∈ rows ∧ row.enabled = true := by
  rw [(getAllForCatalog_perm rows).mem_iff, List.mem_filter]

end ModelRegistryService

end CortexGateway.ModelRegistry
