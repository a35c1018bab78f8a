import CortexGateway.Reliability.Failover
import CortexGateway.Routing.Metadata
import CortexGateway.Services.Targets

/-! # Building the candidates

`app/routing/candidates.py`.  An Ollama model must be catalogued and installed;
any other provider's live list is used as it is, and the catalog stands in for
it when it is empty.  What the adapters answer is an argument. -/
set_option autoImplicit false
namespace CortexGateway
open Budgeting ModelRegistry

/-- What the tracker reports of a model. -/
structure ModelStats where
  latencyMs : Option ℚ
  successRate : ℚ
  totalRequests : ℕ

/-- What `_inspect_provider` returns. -/
structure Inspected where
  providerName : String
  isHealthy : Bool
  liveModels : List String

namespace CandidateBuilder

/-- `_resolve_ollama_models`. -/
def resolveOllamaModels (liveModels catalogModels : List String) : List String :=
  let liveSet := liveModels.map strip
  catalogModels.filter fun catalogModel =>
    let normalized := strip catalogModel
    liveSet.contains normalized ||
      liveSet.any fun live => beforeColon live = beforeColon normalized

section Build
variable (registry : ProviderRegistry) (healthCheck : String → Except Exc Bool)
  (listModels : String → Except Exc (List String)) (stats : String → String → Option ModelStats)
  (catalog : CatalogDict) (ollamaDefaultCost : ℚ) (nonneg : 0 ≤ ollamaDefaultCost)

/-- `try: await call except Exception: fallback`. -/
def orFallback {α : Type} (answer : Except Exc α) (fallback : α) : Except Exc α :=
  match answer with
  | .ok value => .ok value
  | .error exc => if exc.isException then .ok fallback else .error exc

def inspectProvider (name : String) : Except Exc (Option Inspected) :=
  match registry.get name with
  | .error _ => .ok none
  | .ok _ => do
      let isHealthy ← orFallback (healthCheck name) false
      let liveModels ← orFallback (listModels name) []
      return some ⟨name, isHealthy, liveModels⟩

/-- The models that are enumerated for a provider. -/
def modelsOf (inspected : Inspected) : List String :=
  if inspected.providerName = "ollama" then
    resolveOllamaModels inspected.liveModels (catalog.providerModelNames "ollama")
  else if inspected.liveModels ≠ [] then inspected.liveModels
  else catalog.providerModelNames inspected.providerName

def candidate (inspected : Inspected) (modelName : String) : RoutingCandidate :=
  let metadata := (catalog.toCatalog ollamaDefaultCost nonneg).get inspected.providerName modelName
  let found := stats inspected.providerName modelName
  { provider := inspected.providerName
    model := modelName
    capabilities := metadata.capabilities
    contextWindow := metadata.contextWindow
    costPer1kTokens := metadata.costPer1kTokens
    isHealthy := inspected.isHealthy
    baselineLatencyMs := metadata.baselineLatencyMs
    runtimeLatencyMs := found.bind ModelStats.latencyMs
    runtimeSuccessRate := (found.map ModelStats.successRate).getD 1
    totalRequests := (found.map ModelStats.totalRequests).getD 0 }

/-- The loop over the gathered results; what is no `Exception` is unpacked. -/
def collect : List (Except Exc (Option Inspected)) → Except Exc (List RoutingCandidate)
  | [] => .ok []
  | .ok none :: rest => collect rest
  | .ok (some inspected) :: rest => do
      let others ← collect rest
      return (modelsOf catalog inspected).map
        (candidate stats catalog ollamaDefaultCost nonneg inspected) ++ others
  | .error exc :: rest =>
      if exc.isException then collect rest
      else .error (.typeError ("cannot unpack non-iterable " ++ exc.code ++ " object"))

def buildCandidates : Except Exc (List RoutingCandidate) :=
  collect stats catalog ollamaDefaultCost nonneg
    ((registry.names.insertionSort (· ≤ ·)).map
      (inspectProvider registry healthCheck listModels))

/-! ## Which models are candidates -/

theorem orFallback_error {α : Type} {answer : Except Exc α} {fallback : α} {exc : Exc}
    (raised : orFallback answer fallback = .error exc) : exc.isException = false := by
  unfold orFallback at raised
  split at raised
  · cases raised
  · split_ifs at raised with caught
    cases raised
    simpa using caught

theorem orFallback_ok {α : Type} {answer : Except Exc α} {fallback value : α}
    (returned : orFallback answer fallback = .ok value) : answer = .ok value ∨ value = fallback := by
  unfold orFallback at returned
  split at returned
  · exact Or.inl returned
  · split_ifs at returned
    exact Or.inr (Except.ok.inj returned).symm

/-- An inspection fails only with what is no `Exception`. -/
theorem inspectProvider_error {name : String} {exc : Exc}
    (raised : inspectProvider registry healthCheck listModels name = .error exc) :
    exc.isException = false := by
  unfold inspectProvider at raised
  split at raised
  · cases raised
  · cases health : orFallback (healthCheck name) false with
    | error other =>
        rw [health] at raised
        cases raised
        exact orFallback_error health
    | ok isHealthy =>
        cases listing : orFallback (listModels name) [] with
        | error other =>
            rw [health, listing] at raised
            cases raised
            exact orFallback_error listing
        | ok liveModels =>
            rw [health, listing] at raised
            cases raised

/-- What is inspected is what the adapter lists, or nothing if it fails to. -/
theorem inspectProvider_some {name : String} {inspected : Inspected}
    (returned : inspectProvider registry healthCheck listModels name = .ok (some inspected)) :
    inspected.providerName = name ∧
      orFallback (listModels name) [] = .ok inspected.liveModels := by
  unfold inspectProvider at returned
  split at returned
  · cases returned
  · cases health : orFallback (healthCheck name) false with
    | error other =>
        rw [health] at returned
        cases returned
    | ok isHealthy =>
        cases listing : orFallback (listModels name) [] with
        | error other =>
            rw [health, listing] at returned
            cases returned
        | ok liveModels =>
            rw [health, listing] at returned
            cases returned
            exact ⟨rfl, rfl⟩

theorem mem_collect {results : List (Except Exc (Option Inspected))}
    {candidates : List RoutingCandidate}
    (collected : collect stats catalog ollamaDefaultCost nonneg results = .ok candidates)
    (c : RoutingCandidate) :
    c ∈ candidates ↔ ∃ inspected, .ok (some inspected) ∈ results ∧
      ∃ modelName ∈ modelsOf catalog inspected,
        candidate stats catalog ollamaDefaultCost nonneg inspected modelName = c := by
  induction results generalizing candidates with
  | nil =>
      cases collected
      simp
  | cons first rest ih =>
      cases first with
      | error exc =>
          simp only [collect] at collected
          split_ifs at collected
          simpa using ih collected
      | ok result =>
          cases result with
          | none => simpa using ih collected
          | some inspected =>
              simp only [collect] at collected
              cases others : collect stats catalog ollamaDefaultCost nonneg rest with
              | error exc =>
                  rw [others] at collected
                  cases collected
              | ok found =>
                  rw [others] at collected
                  cases collected
                  rw [List.mem_append, ih others, List.mem_map]
                  simp [or_and_right, exists_or]

theorem ok_of_collect {results : List (Except Exc (Option Inspected))}
    {candidates : List RoutingCandidate}
    (collected : collect stats catalog ollamaDefaultCost nonneg results = .ok candidates)
    (exc : Exc) (raised : .error exc ∈ results) : exc.isException = true := by
  induction results generalizing candidates with
  | nil => cases raised
  | cons first rest ih =>
      cases first with
      | error other =>
          simp only [collect] at collected
          split_ifs at collected with caught
          rcases List.mem_cons.mp raised with same | later
          · cases same
            exact caught
          · exact ih collected later
      | ok result =>
          have later : .error exc ∈ rest := by simpa using raised
          cases result with
          | none => exact ih collected later
          | some inspected =>
              simp only [collect] at collected
              cases others : collect stats catalog ollamaDefaultCost nonneg rest with
              | error other =>
                  rw [others] at collected
                  cases collected
              | ok found => exact ih others later

theorem knownProviders_key :
    ∀ provider ∈ knownProviders, ProviderRegistry.key provider = provider := by
  decide

/-- When candidates are built, every registered provider has been inspected. -/
theorem inspected_of_built {candidates : List RoutingCandidate}
    (built : buildCandidates registry healthCheck listModels stats catalog ollamaDefaultCost nonneg =
      .ok candidates) (name : String) (known : name ∈ knownProviders)
    (registered : name ∈ registry.names) :
    ∃ inspected, inspectProvider registry healthCheck listModels name = .ok (some inspected) := by
  have among : inspectProvider registry healthCheck listModels name ∈
      (registry.names.insertionSort (· ≤ ·)).map
        (inspectProvider registry healthCheck listModels) :=
    List.mem_map_of_mem ((List.mem_insertionSort (· ≤ ·)).mpr registered)
  cases returned : inspectProvider registry healthCheck listModels name with
  | error exc =>
      rw [returned] at among
      have caught := ok_of_collect stats catalog ollamaDefaultCost nonneg built exc among
      rw [inspectProvider_error registry healthCheck listModels returned] at caught
      cases caught
  | ok result =>
      cases result with
      | some inspected => exact ⟨inspected, rfl⟩
      | none =>
          have got : registry.get name = .ok () := by
            unfold ProviderRegistry.get ProviderRegistry.isRegistered
            rw [knownProviders_key name known]
            simp [registered]
          unfold inspectProvider at returned
          rw [got] at returned
          cases health : orFallback (healthCheck name) false <;>
            cases listing : orFallback (listModels name) [] <;>
              rw [health, listing] at returned <;> cases returned

theorem mem_buildCandidates {candidates : List RoutingCandidate}
    (built : buildCandidates registry healthCheck listModels stats catalog ollamaDefaultCost nonneg =
      .ok candidates) (c : RoutingCandidate) :
    c ∈ candidates ↔ ∃ inspected,
      inspected.providerName ∈ registry.names ∧
      inspectProvider registry healthCheck listModels inspected.providerName =
        .ok (some inspected) ∧
      ∃ modelName ∈ modelsOf catalog inspected,
        candidate stats catalog ollamaDefaultCost nonneg inspected modelName = c := by
  rw [mem_collect stats catalog ollamaDefaultCost nonneg built]
  constructor
  · rintro ⟨inspected, listed, models⟩
    obtain ⟨name, registered, returned⟩ := List.mem_map.mp listed
    obtain ⟨rfl, -⟩ := inspectProvider_some registry healthCheck listModels returned
    exact ⟨inspected, (List.mem_insertionSort (· ≤ ·)).mp registered, returned, models⟩
  · rintro ⟨inspected, registered, returned, models⟩
    refine ⟨inspected, ?_, models⟩
    rw [← returned]
    exact List.mem_map_of_mem ((List.mem_insertionSort (· ≤ ·)).mpr registered)

/-- A name that the catalog does not have is enumerated if a provider other than
Ollama lists it. -/
theorem mem_modelsOf_of_uncatalogued {inspected : Inspected} {modelName : String}
    (uncatalogued : modelName ∉ catalog.providerModelNames inspected.providerName) :
    modelName ∈ modelsOf catalog inspected ↔
      inspected.providerName ≠ "ollama" ∧ modelName ∈ inspected.liveModels := by
  unfold modelsOf
  split_ifs with ollama listed
  · -- an Ollama model is one of the catalog
    rw [ollama] at uncatalogued
    exact iff_of_false (fun eligible => uncatalogued (List.mem_of_mem_filter eligible))
      fun other => other.1 ollama
  · exact ⟨fun live => ⟨ollama, live⟩, And.right⟩
  · exact iff_of_false uncatalogued fun other => listed (List.ne_nil_of_mem other.2)

end Build

/-! ## Which registered Ollama models are eligible -/

/-- The name denotes an installed model: one is installed under exactly this name,
or the name carries no tag and one is installed under it with a tag. -/
def Denotes (liveModels : List String) (catalogModel : String) : Prop :=
  strip catalogModel ∈ liveModels.map strip ∨
    ':' ∉ (strip catalogModel).toList ∧
      ∃ live ∈ liveModels.map strip, beforeColon live = strip catalogModel

instance (liveModels : List String) : DecidablePred (Denotes liveModels) := fun _ =>
  inferInstanceAs (Decidable (_ ∨ _ ∧ _))

/-- The name's own tag is not installed, but the model is, untagged or under
another tag. -/
def OtherTagInstalled (liveModels : List String) (catalogModel : String) : Prop :=
  ':' ∈ (strip catalogModel).toList ∧ strip catalogModel ∉ liveModels.map strip ∧
    ∃ live ∈ liveModels.map strip, beforeColon live = beforeColon (strip catalogModel)

theorem beforeColon_of_untagged {model : String} (untagged : ':' ∉ model.toList) :
    beforeColon model = model := by
  have kept : model.toList.takeWhile (· ≠ ':') = model.toList := by
    rw [List.takeWhile_eq_self_iff]
    intro c member
    have other : c ≠ ':' := fun same => untagged (same ▸ member)
    simpa using other
  unfold beforeColon
  rw [kept, String.ofList_toList]

theorem mem_resolveOllamaModels {liveModels catalogModels : List String} {model : String} :
    model ∈ resolveOllamaModels liveModels catalogModels ↔ model ∈ catalogModels ∧
      (Denotes liveModels model ∨ OtherTagInstalled liveModels model) := by
  unfold resolveOllamaModels
  rw [List.mem_filter]
  refine and_congr_right fun _ => ?_
  simp only [Bool.or_eq_true, List.contains_iff_mem, List.any_eq_true, decide_eq_true_eq]
  unfold Denotes OtherTagInstalled
  by_cases installed : strip model ∈ liveModels.map strip
  · simp [installed]
  · by_cases tagged : ':' ∈ (strip model).toList
    · simp [installed, tagged]
    · rw [beforeColon_of_untagged tagged]
      simp [installed, tagged]

/-- Eligible are exactly the names that denote an installed model, unless a name
with a tag shares its model with an installed one. -/
theorem resolveOllamaModels_denotes_iff (liveModels catalogModels : List String) :
    resolveOllamaModels liveModels catalogModels =
        catalogModels.filter (fun model => Denotes liveModels model) ↔
      ∀ model ∈ catalogModels, ¬ OtherTagInstalled liveModels model := by
  constructor
  · intro denoted model member other
    have eligible := mem_resolveOllamaModels.mpr ⟨member, Or.inr other⟩
    rw [denoted, List.mem_filter] at eligible
    rcases of_decide_eq_true eligible.2 with installed | untagged
    · exact other.2.1 installed
    · exact untagged.1 other.1
  · intro noOther
    refine List.filter_congr fun model member => Bool.eq_iff_iff.mpr ?_
    have eligible : model ∈ resolveOllamaModels liveModels catalogModels ↔ _ :=
      mem_resolveOllamaModels
    unfold resolveOllamaModels at eligible
    simp only [List.mem_filter, member, true_and, noOther model member, or_false] at eligible
    rw [eligible, decide_eq_true_eq]

/-- With `phi:mini` installed, the registered `phi:latest` is eligible. -/
theorem other_tag_eligible :
    "phi:latest" ∈ resolveOllamaModels ["phi:mini"] ["phi:latest"] ∧
      ¬ Denotes ["phi:mini"] "phi:latest" := by
  decide +kernel

/-! ## Disabled models -/

/-- The row's provider is a registered one other than Ollama, and lists the model. -/
def ListedLive (registry : ProviderRegistry) (listModels : String → Except Exc (List String))
    (row : ModelRegistryEntry) : Prop :=
  row.provider ≠ "ollama" ∧ row.provider ∈ registry.names ∧
    ∃ models, listModels row.provider = .ok models ∧ row.modelName ∈ models

section Disabled
variable {registry : ProviderRegistry} {healthCheck : String → Except Exc Bool}
  {listModels : String → Except Exc (List String)} {stats : String → String → Option ModelStats}
  {ollamaDefaultCost : ℚ} {nonneg : 0 ≤ ollamaDefaultCost} {table : ModelRegistryTable}
  {candidates : List RoutingCandidate}

/-- No model of the catalog has a disabled row. -/
theorem enabled_of_catalogued (row : ModelRegistryEntry) (member : row ∈ table.rows)
    (catalogued : row.modelName ∈ (newCatalog (ModelRegistryService.getAllForCatalog
      table.rows)).providerModelNames row.provider) : row.enabled = true := by
  obtain ⟨entry, loaded, provider, model⟩ := mem_providerModelNames row.providerKnown catalogued
  obtain ⟨listed, enabled⟩ := ModelRegistryService.mem_getAllForCatalog.mp loaded
  rw [← table.row_unique listed member provider model]
  exact enabled

/-- A disabled model is a candidate if and only if a provider other than Ollama
lists it live. -/
theorem disabled_candidate_iff
    (built : buildCandidates registry healthCheck listModels stats
      (newCatalog (ModelRegistryService.getAllForCatalog table.rows)) ollamaDefaultCost nonneg =
        .ok candidates)
    (row : ModelRegistryEntry) (member : row ∈ table.rows) (disabled : row.enabled = false) :
    (∃ c ∈ candidates, c.provider = row.provider ∧ c.model = row.modelName) ↔
      ListedLive registry listModels row := by
  have uncatalogued : row.modelName ∉ (newCatalog (ModelRegistryService.getAllForCatalog
      table.rows)).providerModelNames row.provider := by
    intro catalogued
    rw [enabled_of_catalogued row member catalogued] at disabled
    cases disabled
  constructor
  · rintro ⟨c, found, provider, model⟩
    obtain ⟨inspected, registered, returned, modelName, enumerated, rfl⟩ :=
      (mem_buildCandidates registry healthCheck listModels stats _ _ _ built c).mp found
    obtain ⟨-, listing⟩ := inspectProvider_some registry healthCheck listModels returned
    simp only [candidate] at provider model
    subst model
    unfold ListedLive
    rw [← provider] at uncatalogued ⊢
    obtain ⟨cloud, live⟩ := (mem_modelsOf_of_uncatalogued _ uncatalogued).mp enumerated
    refine ⟨cloud, registered, inspected.liveModels, ?_, live⟩
    rcases orFallback_ok listing with listed | unlisted
    · exact listed
    · exact absurd unlisted (List.ne_nil_of_mem live)
  · rintro ⟨cloud, registered, models, listed, live⟩
    obtain ⟨inspected, returned⟩ := inspected_of_built registry healthCheck listModels stats _ _ _
      built row.provider row.providerKnown registered
    obtain ⟨name, listing⟩ := inspectProvider_some registry healthCheck listModels returned
    rw [listed] at listing
    cases listing
    rw [← name] at registered returned cloud uncatalogued
    exact ⟨_, (mem_buildCandidates registry healthCheck listModels stats _ _ _ built _).mpr
      ⟨inspected, registered, returned, row.modelName,
        (mem_modelsOf_of_uncatalogued _ uncatalogued).mpr ⟨cloud, live⟩, rfl⟩, name, rfl⟩

/-! ## What is chosen -/

/-- What automatic routing, the failover selector or the budget downgrade
chooses from the candidates. -/
inductive Chosen (candidates : List RoutingCandidate) : String → String → Prop
  | routed (engine : RoutingEngine) (request : ChatCompletionRequest) (decision : RoutingDecision)
      (automatic : engine.resolveRoutingMode request ≠ .manual)
      (decided : engine.route request candidates = .ok decision) :
      Chosen candidates decision.provider decision.model
  | fallback (engine : RoutingEngine) (circuits : Reliability.CircuitBreakerRegistry)
      (request : ChatCompletionRequest) (attemptedProviders : List String) (now : ℚ)
      (c : RoutingCandidate)
      (selected : (Reliability.selectFallback engine circuits request attemptedProviders candidates
        now).1 = some c) : Chosen candidates c.provider c.model
  | downgraded {σ τ : Type} (svc : Collaborators σ τ) (building : svc.buildCandidates = pure candidates)
      (request : ChatCompletionRequest) (budgetService : BudgetClient (σ × τ)) (cost : CostClient)
      (context : RequestContext) (target : Target) (estimatedCost : ℚ) (world after : World σ τ)
      (quote : Quote)
      (attempted : (ChatService.attemptBudgetDowngrade svc request budgetService cost context target
        estimatedCost).run world = .ok quote after)
      (replaced : quote.budgetDowngraded = true) :
      Chosen candidates quote.target.provider quote.target.model

theorem candidate_of_chosen {provider model : String} (chosen : Chosen candidates provider model) :
    ∃ c ∈ candidates, c.provider = provider ∧ c.model = model := by
  cases chosen with
  | routed engine request decision automatic decided =>
      obtain ⟨best, first, rfl⟩ := route_ranked engine request candidates decision automatic decided
      have ranked := scoreCandidates_mem _ _ best (List.mem_of_mem_head? first)
      exact ⟨best.candidate, (rankingPool_mem request candidates _ ranked).1, rfl, rfl⟩
  | fallback engine circuits request attemptedProviders now c selected =>
      exact ⟨c, (Reliability.selectFallback_not_attempted engine circuits request attemptedProviders
        candidates now c selected).1, rfl, rfl⟩
  | downgraded svc building request budgetService cost context target estimatedCost world after
      quote attempted replaced =>
      have ends := (ChatService.attemptBudgetDowngrade_target svc request budgetService cost context
        target estimatedCost world).returned attempted
      rcases ends with ⟨kept, -⟩ | ⟨-, before, found, later, c, remaining, awaited, member, -, same⟩
      · rw [replaced] at kept
        cases kept
      · rw [building] at awaited
        cases awaited
        rw [same]
        exact ⟨c, member, rfl, rfl⟩

end Disabled

/-! ## A cloud model and a local one -/

/-- Both models are disabled. -/
def disabledModels : ModelRegistryTable :=
  ⟨[{ groqLlama with enabled := false },
    ⟨"model-2", "ollama", "phi", none, 0, 0, ["text"], 8192, 300, false, by decide⟩], by decide⟩

/-- Groq serves its model and Ollama has its own installed. -/
def installedModels (provider : String) : Except Exc (List String) :=
  .ok (if provider = "groq" then ["llama"] else ["phi"])

def builtCandidates : Except Exc (List RoutingCandidate) :=
  buildCandidates ⟨["groq", "ollama"]⟩ (fun _ => .ok true) installedModels (fun _ _ => none)
    (newCatalog (ModelRegistryService.getAllForCatalog disabledModels.rows)) 0 free_nonneg

theorem builtCandidates_eq :
    builtCandidates =
      .ok [⟨"groq", "llama", ["text", "code", "json"], 8192, 5/10000, true, 500, none, 1, 0⟩] := by
  decide +kernel

def autoHello : ChatCompletionRequest := { hello with routingMode := some .auto }

end CandidateBuilder
end CortexGateway
