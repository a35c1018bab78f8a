import CortexGateway.Reliability.CircuitBreaker
import CortexGateway.Routing.Router

/-! # The failover selector

`app/reliability/failover.py`.  `select_fallback` awaits `build_candidates`
once; what follows runs without an await, so the candidates and the clock are
arguments. -/
set_option autoImplicit false
namespace CortexGateway.Reliability
open CircuitBreakerRegistry

/-- `[c for c in candidates if can_execute(c.provider)]`: one call for every
candidate model, in order. -/
def filterAvailable (now : ℚ) : CircuitBreakerRegistry → List RoutingCandidate →
    List RoutingCandidate × CircuitBreakerRegistry
  | circuits, [] => ([], circuits)
  | circuits, c :: rest =>
      let (allowed, circuits) := circuits.canExecute c.provider now
      let (others, circuits) := filterAvailable now circuits rest
      (if allowed then c :: others else others, circuits)

/-- Candidates of providers not attempted yet. -/
def eligible (attemptedProviders : List String) (candidates : List RoutingCandidate) :
    List RoutingCandidate :=
  let attemptedLower := attemptedProviders.map lower
  candidates.filter fun c => !attemptedLower.contains (lower c.provider)

def selectFallback (engine : RoutingEngine) (circuits : CircuitBreakerRegistry)
    (request : ChatCompletionRequest) (attemptedProviders : List String)
    (candidates : List RoutingCandidate) (now : ℚ) :
    Option RoutingCandidate × CircuitBreakerRegistry :=
  let (available, circuits) := filterAvailable now circuits (eligible attemptedProviders candidates)
  let capable :=
    if request.requiredCaps ≠ [] then filterByCapabilities available request.requiredCaps
    else available
  let healthy := capable.filter (·.isHealthy)
  let scoringPool := if healthy ≠ [] then healthy else capable
  let weights := policyWeights (engine.resolveRoutingMode request)
  ((scoreCandidates scoringPool weights).head?.map ScoredCandidate.candidate, circuits)

theorem filterAvailable_mem (now : ℚ) (circuits : CircuitBreakerRegistry)
    (candidates : List RoutingCandidate) :
    (filterAvailable now circuits candidates).1 ⊆ candidates := by
  induction candidates generalizing circuits with
  | nil => exact fun _ member => member
  | cons c rest ih =>
      simp only [filterAvailable]
      split_ifs
      · exact List.cons_subset_cons c (ih _)
      · exact fun _ member => List.mem_cons_of_mem c (ih _ member)

section Select
variable (engine : RoutingEngine) (circuits : CircuitBreakerRegistry)
variable (request : ChatCompletionRequest) (attemptedProviders : List String)
variable (candidates : List RoutingCandidate) (now : ℚ)

/-- The candidate that is ranked first: capable, and healthy if any is. -/
def rankFirst (available : List RoutingCandidate) : Option RoutingCandidate :=
  let capable :=
    if request.requiredCaps ≠ [] then filterByCapabilities available request.requiredCaps
    else available
  let healthy := capable.filter (·.isHealthy)
  let scoringPool := if healthy ≠ [] then healthy else capable
  (scoreCandidates scoringPool (policyWeights (engine.resolveRoutingMode request))).head?.map
    ScoredCandidate.candidate

theorem rankFirst_mem (available : List RoutingCandidate) (best : RoutingCandidate)
    (first : rankFirst engine request available = some best) : best ∈ available := by
  obtain ⟨scored, head, rfl⟩ := Option.map_eq_some_iff.mp first
  have inPool := scoreCandidates_mem _ _ scored (List.mem_of_mem_head? head)
  split_ifs at inPool
  · exact List.mem_of_mem_filter (List.mem_of_mem_filter inPool)
  · exact List.mem_of_mem_filter inPool
  · exact List.mem_of_mem_filter inPool
  · exact inPool

theorem selectFallback_eq :
    selectFallback engine circuits request attemptedProviders candidates now =
      (rankFirst engine request
          (filterAvailable now circuits (eligible attemptedProviders candidates)).1,
        (filterAvailable now circuits (eligible attemptedProviders candidates)).2) := rfl

theorem selectFallback_not_attempted (fallback : RoutingCandidate)
    (selected : (selectFallback engine circuits request attemptedProviders candidates now).1 =
      some fallback) :
    fallback ∈ candidates ∧ lower fallback.provider ∉ attemptedProviders.map lower := by
  rw [selectFallback_eq] at selected
  have inAvailable := rankFirst_mem engine request _ fallback selected
  have inEligible := filterAvailable_mem now circuits _ inAvailable
  obtain ⟨member, fresh⟩ := List.mem_filter.mp inEligible
  exact ⟨member, by simpa using fresh⟩

end Select

/-- The candidates of one circuit breaker. -/
def candidatesOf (breakerKey : String) (candidates : List RoutingCandidate) : ℕ :=
  candidates.countP fun c => key c.provider = breakerKey

end CortexGateway.Reliability
