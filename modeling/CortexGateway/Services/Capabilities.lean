import CortexGateway.Reliability.Responses
import CortexGateway.Services.FailoverCost
import CortexGateway.Services.Targets

/-! # The capabilities of what is called

Routing, downgrade and failover choose among candidates with the required
capabilities.  The arm of an experiment and a target the routing engine takes
for manual are called as they are. -/
set_option autoImplicit false
namespace CortexGateway
open Budgeting Exits Reliability Transition

/-- The catalog lists every required capability of the model; a blank entry
requires nothing, as for `_filter_by_capabilities`. -/
def Capable (catalog : ModelMetadataCatalog) (required : List String) (provider model : String) :
    Prop :=
  ∀ r ∈ required, strip r ≠ "" →
    strip (lower r) ∈ (catalog.get provider model).capabilities.map fun cap => strip (lower cap)

instance (catalog : ModelMetadataCatalog) (required : List String) (provider model : String) :
    Decidable (Capable catalog required provider model) :=
  inferInstanceAs (Decidable (∀ r ∈ required, _))

/-- `build_candidates` takes the capabilities of a candidate from the catalog. -/
def Catalogued (catalog : ModelMetadataCatalog) (c : RoutingCandidate) : Prop :=
  c.capabilities = (catalog.get c.provider c.model).capabilities

/-! ## The check of the downgrade -/

/-- The capability check in `_attempt_budget_downgrade`. -/
def downgradeSupports (required : List String) (c : RoutingCandidate) : Bool :=
  required.all fun r => (c.capabilities.map lower).contains (lower r)

theorem affordable_eq (cost : CostClient) (request : ChatCompletionRequest) (target : Target)
    (remaining : ℚ) (c : RoutingCandidate) :
    affordable cost request target remaining c =
      (c.isHealthy && !(c.provider = target.provider && c.model = target.model) &&
        downgradeSupports request.requiredCaps c &&
        decide (cost.estimateCost c.provider c.model request ≤ remaining)) := rfl

/-- The candidate has the entry, up to letter case. -/
def Spelled (c : RoutingCandidate) (r : String) : Prop := lower r ∈ c.capabilities.map lower

/-- The candidate has the entry, up to letter case and the blanks around it. -/
def Named (c : RoutingCandidate) (r : String) : Prop :=
  strip (lower r) ∈ c.capabilities.map fun cap => strip (lower cap)

/-- Routing takes the entry for met, the downgrade does not: it is blank, or has
other blanks around it than the candidate's. -/
def Misspelt (c : RoutingCandidate) (r : String) : Prop :=
  ¬ Spelled c r ∧ (strip r = "" ∨ Named c r)

/-- The entry is not blank and the candidate has it in no spelling. -/
def Lacks (c : RoutingCandidate) (r : String) : Prop := strip r ≠ "" ∧ ¬ Named c r

theorem named_of_spelled {c : RoutingCandidate} {r : String} (spelled : Spelled c r) :
    Named c r := by
  obtain ⟨cap, member, same⟩ := List.mem_map.mp spelled
  exact List.mem_map.mpr ⟨cap, member, by rw [same]⟩

theorem downgradeSupports_iff {required : List String} {c : RoutingCandidate} :
    downgradeSupports required c = true ↔ ∀ r ∈ required, Spelled c r := by
  simp only [downgradeSupports, List.all_eq_true, List.contains_iff_mem, Spelled]

theorem supports_iff {required : List String} {c : RoutingCandidate} :
    supports required c = true ↔ ∀ r ∈ required, ¬ Lacks c r := by
  simp only [supports, List.all_map, List.all_eq_true, List.mem_filter, Function.comp_apply,
    List.contains_iff_mem, decide_eq_true_eq, Lacks, Named, not_and, not_not, and_imp]

/-- The check of the downgrade does not strip, so it asks for more. -/
theorem supports_of_downgradeSupports {required : List String} {c : RoutingCandidate}
    (supported : downgradeSupports required c = true) : supports required c = true := by
  rw [supports_iff]
  intro r asked lacks
  exact lacks.2 (named_of_spelled (downgradeSupports_iff.mp supported r asked))

theorem capable_iff_supports (catalog : ModelMetadataCatalog) (required : List String)
    (c : RoutingCandidate) (catalogued : Catalogued catalog c) :
    Capable catalog required c.provider c.model ↔ supports required c = true := by
  rw [supports_iff]
  unfold Capable Lacks Named
  rw [← catalogued]
  simp only [not_and, not_not]

theorem capable_of_affordable (catalog : ModelMetadataCatalog) (cost : CostClient)
    (request : ChatCompletionRequest) (target : Target) (remaining : ℚ) (c : RoutingCandidate)
    (catalogued : Catalogued catalog c)
    (affords : affordable cost request target remaining c = true) :
    Capable catalog request.requiredCaps c.provider c.model := by
  rw [affordable_eq] at affords
  simp only [Bool.and_eq_true] at affords
  rw [capable_iff_supports catalog request.requiredCaps c catalogued]
  exact supports_of_downgradeSupports affords.1.2

namespace ChatService
variable {σ τ : Type} (svc : Collaborators σ τ) (settings : Settings) (policy : ResolvedPolicy)
variable (request : ChatCompletionRequest) (requestId : String) (context : Option RequestContext)
variable (catalog : ModelMetadataCatalog)

def CapableTarget (target : Target) : Prop :=
  Capable catalog request.requiredCaps target.provider target.model

/-- The assigned arm has the capabilities; without one, what the engine takes
for manual has them. -/
def CapableChoice : Prop :=
  match assignExperiment svc policy requestId context with
  | some assignment =>
      Capable catalog request.requiredCaps assignment.provider assignment.model
  | none => svc.routingEngine.resolveRoutingMode request = .manual →
      Capable catalog request.requiredCaps (request.provider.getD "") request.model

/-- Every candidate the gateway builds is in the catalog. -/
def BuildsCatalogued : Prop :=
  ∀ before candidates after, svc.buildCandidates.run before = .ok candidates after →
    ∀ c ∈ candidates, Catalogued catalog c

section Choice
variable (required : request.requiredCaps ≠ []) (mode : request.routingMode ≠ some .manual)
variable (catalogued : BuildsCatalogued svc catalog)

include required mode

/-- Such a request is not manual for `complete`. -/
theorem isManual_of_required : request.isManual = false := by
  simp [ChatCompletionRequest.isManual, required, mode]

include catalogued in
/-- What is routed to has the capabilities, unless the engine takes the request
for manual. -/
theorem resolveTarget_capable (world after : World σ τ) (target : Target)
    (resolved : (resolveTarget svc request).run world = .ok target after) :
    (svc.routingEngine.resolveRoutingMode request = .manual →
        target.provider = request.provider.getD "" ∧ target.model = request.model) ∧
      (svc.routingEngine.resolveRoutingMode request ≠ .manual →
        CapableTarget request catalog target) := by
  obtain ⟨candidates, decision, routed, rfl, built⟩ := resolveTarget_routed svc request
    (isManual_of_required request required mode) world after target resolved
  constructor
  · intro manual
    rw [route_manual svc.routingEngine request candidates decision manual routed]
    exact ⟨rfl, rfl⟩
  · intro automatic
    obtain ⟨best, ranked, rfl⟩ := route_ranked svc.routingEngine request candidates decision automatic
      routed
    obtain ⟨shared, listed⟩ := built automatic
    have inPool := scoreCandidates_mem _ _ best (List.mem_of_mem_head? ranked)
    obtain ⟨member, capable⟩ := rankingPool_mem request candidates best.candidate inPool
    exact (capable_iff_supports catalog request.requiredCaps best.candidate
      (catalogued world.shared candidates shared listed best.candidate member)).mpr
        (capable required)

include catalogued in
/-- An admitted target has the capabilities exactly if the choice has. -/
theorem admitted_capable_iff (world arrived : World σ τ) (admitted : Admitted)
    (arrives : (admission svc settings policy request requestId context).run world =
      .ok (.inr admitted) arrived) :
    CapableTarget request catalog admitted.target ↔
      CapableChoice svc policy request requestId context catalog := by
  obtain ⟨_, limits, target, routed, -, resolved, assigned⟩ := admission_resolved svc settings policy
    request requestId context world arrived admitted arrives
  obtain ⟨manual, automatic⟩ := resolveTarget_capable svc request catalog required mode catalogued
    limits routed target resolved
  unfold assignedTarget at assigned
  unfold CapableChoice
  cases assignment : assignExperiment svc policy requestId context with
  | some arm =>
      rw [assignment] at assigned
      rw [assigned]
      exact Iff.rfl
  | none =>
      rw [assignment] at assigned
      rw [assigned]
      dsimp only
      constructor
      · intro capable resolves
        obtain ⟨provider, model⟩ := manual resolves
        rw [← provider, ← model]
        exact capable
      · intro choice
        by_cases resolves : svc.routingEngine.resolveRoutingMode request = .manual
        · obtain ⟨provider, model⟩ := manual resolves
          unfold CapableTarget
          rw [provider, model]
          exact choice resolves
        · exact automatic resolves

/-! ## Runs of the executor -/

/-- Whatever the executor calls for the quote, in any run, has the capabilities. -/
def CapableThroughout (quote : Quote) : Prop :=
  ∀ executor system call actions, system.tasks call = none →
    StepsMeet (step executor)
      (Executes (executorArguments policy request quote) (Catalogued catalog) call) system actions →
    HoldsThroughout (step executor) (fun system => ∀ task ∈ system.tasks call, ∀ attemptIdx,
      task.control = .calling attemptIdx →
        Capable catalog request.requiredCaps task.currentProvider task.currentModel) system actions

include required in
omit mode in
/-- Failover keeps to the capabilities, so the first target decides. -/
theorem capableThroughout_iff_target (quote : Quote) :
    CapableThroughout policy request catalog quote ↔ CapableTarget request catalog quote.target := by
  constructor
  · intro throughout
    obtain ⟨final, task, taken, found, calling, provider, model⟩ :=
      calls_exist (executorArguments policy request quote)
    have executes : StepsMeet (step (immediate quote.target.provider))
        (Executes (executorArguments policy request quote) (Catalogued catalog) 0)
        (start 0 5 1 30) [.spawn 0 (executorArguments policy request quote)] := by
      rw [stepsMeet_cons]
      exact fun _ _ => ⟨fun _ => rfl, stepsMeet_nil _ _ _⟩
    have capable := throughout (immediate quote.target.provider) (start 0 5 1 30) 0 _ rfl executes
      _ (List.prefix_refl _) final taken task found 0 calling
    rw [provider, model] at capable
    exact capable
  · intro capable executor system call actions absent executes
    have targeted := requestTargeted_throughout executor (executorArguments policy request quote)
      (Catalogued catalog) call system absent actions executes
    refine targeted.imp (step executor) fun reached requestTargeted task found _ _ => ?_
    have targets := requestTargeted task found
    cases triggered : task.failoverTriggered with
    | false =>
        obtain ⟨provider, model⟩ := targets.initial triggered
        rw [provider, model]
        exact capable
    | true =>
        obtain ⟨c, catalogued, provider, model, supported⟩ := targets.fallback triggered
        rw [provider, model]
        rw [executorArguments, execRequest_requiredCaps] at supported
        rw [capable_iff_supports catalog request.requiredCaps c catalogued]
        exact supported required

include catalogued in
/-- Every call has the capabilities if the choice has; and only then, where no
downgrade replaces the choice. -/
theorem capable_iff_choice (world quoted : World σ τ) (admitted : Admitted) (quote : Quote)
    (prepared : (prepare svc settings policy request requestId context).run world =
      .ok (.inr (admitted, quote)) quoted) :
    (CapableChoice svc policy request requestId context catalog →
        CapableThroughout policy request catalog quote) ∧
      (quote.budgetDowngraded = false → CapableThroughout policy request catalog quote →
        CapableChoice svc policy request requestId context catalog) := by
  obtain ⟨arrived, arrives, quotes⟩ := prepare_admitted svc settings policy request requestId context
    world quoted admitted quote prepared
  have choice := admitted_capable_iff svc settings policy request requestId context catalog required
    mode catalogued world arrived admitted arrives
  rw [capableThroughout_iff_target policy request catalog required quote]
  rcases (quote_target svc settings policy request context admitted.target arrived).returned quotes with
    ⟨kept, same⟩ | ⟨downgraded, cost, before, candidates, after, c, remaining, listed, member, affords,
      replaced⟩
  · rw [same, choice]
    exact ⟨id, fun _ => id⟩
  · constructor
    · intro _
      have capable := capable_of_affordable catalog cost request admitted.target remaining c
        (catalogued before candidates after listed c member) affords
      rw [replaced]
      exact capable
    · intro kept
      rw [downgraded] at kept
      cases kept

end Choice

end ChatService
/-! ## A greeting that needs eyes -/

open ChatService

/-- `hello` to a model of its choice, which is to have vision. -/
def seeingHello (model : String) : ChatCompletionRequest :=
  { hello with model := model, requiredCapabilities := some ["vision"] }

def sightPrices : ModelMetadata :=
  { llamaPrices with model := "sight", capabilities := ["text", " Vision"] }

/-- The text model and one with vision. -/
def sightCatalog : ModelMetadataCatalog :=
  ⟨fun name => if name = "groq:llama" then some llamaPrices
    else if name = "groq:sight" then some sightPrices else none, 0, free_nonneg⟩

def sight : RoutingCandidate :=
  { llamaModel with model := "sight", capabilities := ["text", " Vision"] }

def twoModels : Collaborators BudgetTable AsyncSession :=
  { oneProvider april (pure helloBack) with buildCandidates := pure [llamaModel, sight] }

theorem twoModels_catalogued : BuildsCatalogued twoModels sightCatalog := by
  intro before candidates after listed c member
  cases listed
  simp only [List.mem_cons, List.not_mem_nil, or_false] at member
  rcases member with rfl | rfl
  · unfold Catalogued
    decide +kernel
  · unfold Catalogued
    decide +kernel

/-- Asked of the text model by name, it is put to the text model. -/
theorem blind_model_called :
    ∃ admitted quote quoted, (prepare twoModels defaultSettings globalDefaultPolicy
        (seeingHello "llama") "req-1" (some member)).run unusedWorld =
      .ok (.inr (admitted, quote)) quoted ∧
      ¬ CapableThroughout globalDefaultPolicy (seeingHello "llama") sightCatalog quote := by
  have comes : (quoteOf twoModels defaultSettings globalDefaultPolicy (seeingHello "llama") "req-1"
      (some member) unusedWorld).map (fun found => decide (Capable sightCatalog ["vision"]
        found.2.1.target.provider found.2.1.target.model)) = some false := by decide +kernel
  obtain ⟨⟨admitted, quote, quoted⟩, found, incapable⟩ := Option.map_eq_some_iff.mp comes
  refine ⟨admitted, quote, quoted, (quoteOf_eq_some _ _ _ _ _ _ _ _ _ _).mp found, ?_⟩
  rw [capableThroughout_iff_target globalDefaultPolicy (seeingHello "llama") sightCatalog (by decide)]
  intro capable
  exact (of_decide_eq_false incapable) capable

/-- Left to the gateway, it is put to the model with vision. -/
theorem seeing_model_called :
    ∃ admitted quote quoted, (prepare twoModels defaultSettings globalDefaultPolicy
        (seeingHello "auto") "req-1" (some member)).run unusedWorld =
      .ok (.inr (admitted, quote)) quoted ∧
      CapableThroughout globalDefaultPolicy (seeingHello "auto") sightCatalog quote := by
  have comes : (quoteOf twoModels defaultSettings globalDefaultPolicy (seeingHello "auto") "req-1"
      (some member) unusedWorld).isSome = true := by decide +kernel
  obtain ⟨⟨admitted, quote, quoted⟩, found⟩ := Option.isSome_iff_exists.mp comes
  have prepared := (quoteOf_eq_some _ _ _ _ _ _ _ _ _ _).mp found
  have automatic : twoModels.routingEngine.resolveRoutingMode (seeingHello "auto") ≠ .manual := by
    decide +kernel
  have choice : CapableChoice twoModels globalDefaultPolicy (seeingHello "auto") "req-1"
      (some member) sightCatalog := fun manual => absurd manual automatic
  exact ⟨admitted, quote, quoted, prepared, (capable_iff_choice twoModels defaultSettings
    globalDefaultPolicy (seeingHello "auto") "req-1" (some member) sightCatalog (by decide)
    (by decide) twoModels_catalogued unusedWorld quoted admitted quote prepared).1 choice⟩

end CortexGateway
