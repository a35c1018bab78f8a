import CortexGateway.Reliability.Responses
import CortexGateway.Services.FailoverCost
import CortexGateway.Services.Targets

/-! # The strategy of the policy

`complete` computes the team's routing strategy and then asks the routing
engine, which knows the request alone: an automatic request is ranked and
recorded under the engine's own default mode. -/
set_option autoImplicit false
namespace CortexGateway
open Budgeting Exits Reliability

/-- A request that is not manual, sets no mode and requires nothing gets the
default mode. -/
theorem resolveRoutingMode_default (engine : RoutingEngine) (request : ChatCompletionRequest)
    (unset : request.routingMode = none) (unrequired : request.requiredCaps = [])
    (automatic : request.isManual = false) :
    engine.resolveRoutingMode request = engine.defaultMode := by
  simp only [ChatCompletionRequest.isManual, unset, unrequired] at automatic
  simp only [RoutingEngine.resolveRoutingMode, unset, unrequired]
  by_cases given : request.provider.getD "" = ""
  · simp [given]
  · have concrete : lower request.model = "auto" := by simpa [given] using automatic
    simp [concrete]

/-- Under a manual default mode such a request is not routed at all. -/
theorem routed_not_manual (engine : RoutingEngine) (request : ChatCompletionRequest)
    (candidates : List RoutingCandidate) (decision : RoutingDecision)
    (unset : request.routingMode = none) (unrequired : request.requiredCaps = [])
    (automatic : request.isManual = false)
    (routed : engine.route request candidates = .ok decision) :
    engine.resolveRoutingMode request ≠ .manual := by
  intro manual
  have incomplete : (request.provider.getD "" = "" || request.model = "" ||
      lower request.model = "auto") = true := by
    simp only [ChatCompletionRequest.isManual, unset, unrequired] at automatic
    by_cases given : request.provider.getD "" = ""
    · simp [given]
    · have concrete : lower request.model = "auto" := by simpa [given] using automatic
      simp [concrete]
  unfold RoutingEngine.route at routed
  rw [if_pos manual] at routed
  dsimp only at routed
  rw [if_pos incomplete] at routed
  cases routed

namespace ChatService
variable {σ τ : Type} (svc : Collaborators σ τ) (settings : Settings) (policy : ResolvedPolicy)
variable (request : ChatCompletionRequest) (requestId : String) (context : Option RequestContext)

/-! ## The target that is routed to -/

theorem resolveTarget_ranked (automatic : request.isManual = false)
    (mode : svc.routingEngine.resolveRoutingMode request ≠ .manual) (world after : World σ τ)
    (candidates : List RoutingCandidate) (shared : σ)
    (listed : svc.buildCandidates.run world.shared = .ok candidates shared) (target : Target)
    (resolved : (resolveTarget svc request).run world = .ok target after) :
    ∃ best, (scoreCandidates (rankingPool request candidates)
        (policyWeights (svc.routingEngine.resolveRoutingMode request))).head? = some best ∧
      target = ⟨best.candidate.provider, best.candidate.model,
        svc.routingEngine.resolveRoutingMode request⟩ := by
  obtain ⟨found, decision, routed, rfl, built⟩ := resolveTarget_routed svc request automatic world
    after target resolved
  obtain ⟨_, same⟩ := built mode
  rw [listed] at same
  cases same
  obtain ⟨best, first, rfl⟩ := route_ranked svc.routingEngine request candidates decision mode routed
  exact ⟨best, first, rfl⟩

/-! ## The strategy -/

/-- The target is the candidate ranked first under the team's strategy, and the
answer to the request records this strategy. -/
structure StrategyApplied (candidates : List RoutingCandidate) (limits : World σ τ)
    (admitted : Admitted) (quote : Quote) : Prop where
  selected : ∃ best target routed, (scoreCandidates (rankingPool request candidates)
      (policyWeights policy.routingStrategy)).head? = some best ∧
    (resolveTarget svc request).run limits = .ok target routed ∧
    target.provider = best.candidate.provider ∧ target.model = best.candidate.model
  recorded : ∀ executor response reservation actualCost remainingBudget,
    Answers executor (executorArguments policy request quote) response →
    (attachMetadata admitted reservation actualCost remainingBudget response).metadata.routingMode =
      some policy.routingStrategy

theorem attachMetadata_mode (admitted : Admitted) (reservation : Reservation) (actualCost : ℚ)
    (remainingBudget : Option ℚ) (response : ChatCompletionResponse) :
    (attachMetadata admitted reservation actualCost remainingBudget response).metadata.routingMode =
      response.metadata.routingMode := by
  unfold attachMetadata
  split <;> rfl

/-- The team's strategy is applied exactly if it is the engine's default mode. -/
theorem strategyApplied_iff (unset : request.routingMode = none)
    (unrequired : request.requiredCaps = []) (automatic : request.isManual = false)
    (world limits quoted : World σ τ) (remaining : Option ℤ)
    (limited : (checkRateLimits svc settings context).run world = .ok remaining limits)
    (candidates : List RoutingCandidate) (shared : σ)
    (listed : svc.buildCandidates.run limits.shared = .ok candidates shared)
    (admitted : Admitted) (quote : Quote)
    (prepared : (prepare svc settings policy request requestId context).run world =
      .ok (.inr (admitted, quote)) quoted) :
    StrategyApplied svc policy request candidates limits admitted quote ↔
      policy.routingStrategy = svc.routingEngine.defaultMode := by
  have resolves := resolveRoutingMode_default svc.routingEngine request unset unrequired automatic
  obtain ⟨arrived, arrives, quotes⟩ := prepare_admitted svc settings policy request requestId context
    world quoted admitted quote prepared
  obtain ⟨_, _, target, routed, first, resolved, assigned⟩ := admission_resolved svc settings policy
    request requestId context world arrived admitted arrives
  rw [limited] at first
  cases first
  have mode : svc.routingEngine.resolveRoutingMode request ≠ .manual := by
    obtain ⟨found, decision, routes, -⟩ := resolveTarget_routed svc request automatic limits routed
      target resolved
    exact routed_not_manual svc.routingEngine request found decision unset unrequired automatic routes
  obtain ⟨best, ranked, rfl⟩ := resolveTarget_ranked svc request automatic mode limits routed
    candidates shared listed target resolved
  rw [resolves] at ranked
  have passed : quote.target.routingMode = svc.routingEngine.defaultMode := by
    rw [(quote_mode svc settings policy request context admitted.target arrived).returned quotes,
      assigned, assignedTarget_mode, resolves]
  have records : ∀ executor response,
      Answers executor (executorArguments policy request quote) response →
        response.metadata.routingMode = some svc.routingEngine.defaultMode := by
    intro executor response answers
    rw [(answers_recorded executor _ response answers).1, executorArguments, passed]
  constructor
  · intro applied
    obtain ⟨response, answers, -⟩ := answers_exist (executorArguments policy request quote) helloBack
    have recorded := applied.recorded _ response ⟨quote, none, false⟩ 0 none answers
    rw [attachMetadata_mode, records _ response answers] at recorded
    exact (Option.some.inj recorded).symm
  · intro same
    constructor
    · exact ⟨best, _, routed, same ▸ ranked, resolved, rfl, rfl⟩
    · intro executor response reservation actualCost remainingBudget answers
      rw [attachMetadata_mode, records executor response answers, same]

end ChatService
/-! ## A fast and a cheap model -/

open ChatService

def swift : RoutingCandidate := ⟨"groq", "swift", ["text"], 8192, 1/10, true, 100, none, 1, 0⟩

def frugal : RoutingCandidate := ⟨"gemini", "frugal", ["text"], 8192, 1/100, true, 2000, none, 1, 0⟩

/-- A greeting that leaves the choice to the gateway. -/
def anyHello : ChatCompletionRequest := { hello with provider := none, model := "auto" }

def fastOrCheap : Collaborators BudgetTable AsyncSession :=
  { oneProvider april (pure helloBack) with buildCandidates := pure [swift, frugal] }

def cheapestPolicy : ResolvedPolicy :=
  .merge { noSections with routingStrategy := some .lowestCost }

/-- The greeting comes to a quote under either policy. -/
theorem fastOrCheap_prepares (policy : ResolvedPolicy)
    (known : policy = cheapestPolicy ∨ policy = globalDefaultPolicy) :
    ∃ admitted quote quoted, (prepare fastOrCheap defaultSettings policy anyHello "req-1"
      (some member)).run unusedWorld = .ok (.inr (admitted, quote)) quoted := by
  have comes : (quoteOf fastOrCheap defaultSettings policy anyHello "req-1" (some member)
      unusedWorld).isSome = true := by
    rcases known with rfl | rfl <;> decide +kernel
  obtain ⟨⟨admitted, quote, quoted⟩, found⟩ := Option.isSome_iff_exists.mp comes
  exact ⟨admitted, quote, quoted, (quoteOf_eq_some fastOrCheap defaultSettings policy anyHello "req-1"
    (some member) unusedWorld quoted admitted quote).mp found⟩

/-- Under a lowest-cost policy the fast model is selected. -/
theorem cheapest_not_applied :
    ∃ admitted quote quoted, (prepare fastOrCheap defaultSettings cheapestPolicy anyHello "req-1"
        (some member)).run unusedWorld = .ok (.inr (admitted, quote)) quoted ∧
      ¬ StrategyApplied fastOrCheap cheapestPolicy anyHello [swift, frugal] unusedWorld admitted
        quote := by
  obtain ⟨admitted, quote, quoted, prepared⟩ := fastOrCheap_prepares cheapestPolicy (Or.inl rfl)
  refine ⟨admitted, quote, quoted, prepared, fun applied => ?_⟩
  obtain ⟨best, target, routed, ranked, resolved, provider, -⟩ := applied.selected
  have cheapest : (scoreCandidates (rankingPool anyHello [swift, frugal])
      (policyWeights cheapestPolicy.routingStrategy)).head?.map (·.candidate.provider) =
        some "gemini" := by decide +kernel
  have selected : (match (resolveTarget fastOrCheap anyHello).run unusedWorld with
      | .ok target _ => target.provider
      | .error .. => "") = "groq" := by decide +kernel
  rw [ranked] at cheapest
  rw [resolved] at selected
  have dear : best.candidate.provider = "groq" := provider.symm.trans selected
  have low : best.candidate.provider = "gemini" := Option.some.inj cheapest
  rw [dear] at low
  revert low
  decide

/-- Under the default policy the strategies agree. -/
theorem default_applied :
    ∃ admitted quote, StrategyApplied fastOrCheap globalDefaultPolicy anyHello [swift, frugal]
      unusedWorld admitted quote := by
  obtain ⟨admitted, quote, quoted, prepared⟩ :=
    fastOrCheap_prepares globalDefaultPolicy (Or.inr rfl)
  exact ⟨admitted, quote, (strategyApplied_iff fastOrCheap defaultSettings globalDefaultPolicy
    anyHello "req-1" (some member) rfl rfl (by decide +kernel) unusedWorld unusedWorld quoted none
    rfl [swift, frugal] unusedWorld.shared rfl admitted quote prepared).mpr rfl⟩

end CortexGateway
