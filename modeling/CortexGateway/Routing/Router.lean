import CortexGateway.Providers.Registry
import CortexGateway.Routing.Scorer

/-! # The routing engine

`app/routing/router.py`.  The candidates that `build_candidates` finds are an
argument. -/
set_option autoImplicit false
namespace CortexGateway

structure RoutingEngine where
  registry : ProviderRegistry
  defaultMode : RoutingMode

/-- `_resolve_routing_mode`; a mode that is set is one of the literals. -/
def RoutingEngine.resolveRoutingMode (engine : RoutingEngine) (request : ChatCompletionRequest) :
    RoutingMode :=
  match request.routingMode with
  | some mode => mode
  | none =>
      if (request.provider.getD "" ≠ "") && request.model ≠ "" && lower request.model ≠ "auto" then
        .manual
      else if request.requiredCaps ≠ [] then .capabilityBased
      else engine.defaultMode

/-- Every required capability that is not blank is among the candidate's. -/
def supports (required : List String) (candidate : RoutingCandidate) : Bool :=
  let reqSet := (required.filter fun r => strip r ≠ "").map fun r => strip (lower r)
  let candSet := candidate.capabilities.map fun cap => strip (lower cap)
  reqSet.all fun r => candSet.contains r

def filterByCapabilities (candidates : List RoutingCandidate) (required : List String) :
    List RoutingCandidate :=
  candidates.filter (supports required)

structure RoutingDecision where
  provider : String
  model : String
  routingMode : RoutingMode
  deriving DecidableEq

def noRoutableProviderError (message : String) : Exc := .provider .noRoutableProviderError message

/-- `route`; `candidates` is what `build_candidates` returns if it is awaited. -/
def RoutingEngine.route (engine : RoutingEngine) (request : ChatCompletionRequest)
    (candidates : List RoutingCandidate) : Except Exc RoutingDecision := do
  let mode := engine.resolveRoutingMode request
  if mode = .manual then
    let provider := request.provider.getD ""
    if provider = "" || request.model = "" || lower request.model = "auto" then
      throw (.provider .invalidManualRoutingError
        "Manual routing mode requires both 'provider' and a concrete 'model' name.")
    if !engine.registry.isRegistered provider then
      throw (noRoutableProviderError ("Manual provider '" ++ provider ++
        "' is not registered or available."))
    return ⟨provider, request.model, .manual⟩
  if candidates = [] then
    throw (noRoutableProviderError "No active providers are registered in the gateway.")
  let provider := request.provider.getD ""
  let restricted := provider ≠ "" && lower provider ≠ "auto"
  let candidates :=
    if restricted then candidates.filter fun c => lower c.provider = lower provider else candidates
  if restricted && candidates = [] then
    throw (noRoutableProviderError ("Requested provider '" ++ provider ++
      "' has no available candidates."))
  let capable :=
    if request.requiredCaps ≠ [] then filterByCapabilities candidates request.requiredCaps
    else candidates
  if capable = [] then
    throw (.provider .noCapableProviderError ("No available provider/model supports all " ++
      "required capabilities: " ++ reprList request.requiredCaps))
  let healthy := capable.filter (·.isHealthy)
  let pool := if healthy ≠ [] then healthy else capable
  match scoreCandidates pool (policyWeights mode) with
  | [] => throw (noRoutableProviderError "Failed to score any candidates for the request.")
  | best :: _ => return ⟨best.candidate.provider, best.candidate.model, mode⟩

/-! ## What route decides -/

/-- Of the provider that is asked for, if one is. -/
def ofProvider (request : ChatCompletionRequest) (candidates : List RoutingCandidate) :
    List RoutingCandidate :=
  let provider := request.provider.getD ""
  if provider ≠ "" && lower provider ≠ "auto" then
    candidates.filter fun c => lower c.provider = lower provider
  else candidates

def capableCandidates (request : ChatCompletionRequest) (candidates : List RoutingCandidate) :
    List RoutingCandidate :=
  if request.requiredCaps ≠ [] then
    filterByCapabilities (ofProvider request candidates) request.requiredCaps
  else ofProvider request candidates

/-- The candidates that are ranked: the healthy ones, if any is. -/
def rankingPool (request : ChatCompletionRequest) (candidates : List RoutingCandidate) :
    List RoutingCandidate :=
  let healthy := (capableCandidates request candidates).filter (·.isHealthy)
  if healthy ≠ [] then healthy else capableCandidates request candidates

theorem capableCandidates_mem (request : ChatCompletionRequest)
    (candidates : List RoutingCandidate) (c : RoutingCandidate)
    (member : c ∈ capableCandidates request candidates) :
    c ∈ candidates ∧ (request.requiredCaps ≠ [] → supports request.requiredCaps c = true) := by
  have listed : ofProvider request candidates ⊆ candidates := by
    unfold ofProvider
    dsimp only
    split_ifs
    · exact List.filter_subset_self candidates
    · exact List.Subset.refl candidates
  unfold capableCandidates at member
  split_ifs at member with required
  · obtain ⟨inPool, capable⟩ := List.mem_filter.mp member
    exact ⟨listed inPool, fun _ => capable⟩
  · exact ⟨listed member, fun asked => absurd asked required⟩

theorem rankingPool_mem (request : ChatCompletionRequest) (candidates : List RoutingCandidate)
    (c : RoutingCandidate) (member : c ∈ rankingPool request candidates) :
    c ∈ candidates ∧ (request.requiredCaps ≠ [] → supports request.requiredCaps c = true) := by
  apply capableCandidates_mem
  simp only [rankingPool] at member
  split_ifs at member
  · exact List.mem_of_mem_filter member
  · exact member

section Route
variable (engine : RoutingEngine) (request : ChatCompletionRequest)
variable (candidates : List RoutingCandidate)

/-- `route` by its checks. -/
theorem route_eq (automatic : engine.resolveRoutingMode request ≠ .manual) :
    engine.route request candidates =
      if candidates = [] then
        .error (noRoutableProviderError "No active providers are registered in the gateway.")
      else if request.provider.getD "" ≠ "" && lower (request.provider.getD "") ≠ "auto" &&
          ofProvider request candidates = [] then
        .error (noRoutableProviderError ("Requested provider '" ++ request.provider.getD "" ++
          "' has no available candidates."))
      else if capableCandidates request candidates = [] then
        .error (.provider .noCapableProviderError ("No available provider/model supports all " ++
          "required capabilities: " ++ reprList request.requiredCaps))
      else
        match scoreCandidates (rankingPool request candidates)
          (policyWeights (engine.resolveRoutingMode request)) with
        | [] => .error (noRoutableProviderError "Failed to score any candidates for the request.")
        | best :: _ => .ok ⟨best.candidate.provider, best.candidate.model,
            engine.resolveRoutingMode request⟩ := by
  unfold RoutingEngine.route
  rw [if_neg automatic]
  by_cases unavailable : candidates = []
  · rw [if_pos unavailable, if_pos unavailable]
    rfl
  rw [if_neg unavailable, if_neg unavailable]
  rfl

/-- In every mode but manual the decision is the candidate ranked first. -/
theorem route_ranked (decision : RoutingDecision)
    (automatic : engine.resolveRoutingMode request ≠ .manual)
    (routed : engine.route request candidates = .ok decision) :
    ∃ best, (scoreCandidates (rankingPool request candidates)
        (policyWeights (engine.resolveRoutingMode request))).head? = some best ∧
      decision =
        ⟨best.candidate.provider, best.candidate.model, engine.resolveRoutingMode request⟩ := by
  rw [route_eq engine request candidates automatic] at routed
  split_ifs at routed
  cases ranked : scoreCandidates (rankingPool request candidates)
      (policyWeights (engine.resolveRoutingMode request)) with
  | nil =>
      rw [ranked] at routed
      cases routed
  | cons best rest =>
      rw [ranked] at routed
      cases routed
      exact ⟨best, rfl, rfl⟩

/-- A manual decision is what the request asks for. -/
theorem route_manual (decision : RoutingDecision)
    (manual : engine.resolveRoutingMode request = .manual)
    (routed : engine.route request candidates = .ok decision) :
    decision = ⟨request.provider.getD "", request.model, .manual⟩ := by
  unfold RoutingEngine.route at routed
  rw [if_pos manual] at routed
  dsimp only at routed
  split_ifs at routed
  · cases routed
  · cases routed
  · cases routed
  · cases routed
    rfl

end Route

end CortexGateway
