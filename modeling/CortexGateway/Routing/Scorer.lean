import CortexGateway.Schemas.Chat

/-! # Candidates and their ranking

`app/routing/models.py`, `policies.py` and `scorer.py`.  Scores are exact
rationals; the sort is stable and its key compares as the Python tuple does. -/
set_option autoImplicit false
namespace CortexGateway

structure RoutingCandidate where
  provider : String
  model : String
  capabilities : List String
  contextWindow : ℤ
  costPer1kTokens : ℚ
  isHealthy : Bool
  baselineLatencyMs : ℚ
  runtimeLatencyMs : Option ℚ
  runtimeSuccessRate : ℚ
  totalRequests : ℕ
  deriving DecidableEq

/-- Observed runtime latency if positive, else the baseline. -/
def RoutingCandidate.effectiveLatencyMs (candidate : RoutingCandidate) : ℚ :=
  match candidate.runtimeLatencyMs with
  | some latency => if 0 < latency then latency else candidate.baselineLatencyMs
  | none => candidate.baselineLatencyMs

structure PolicyWeights where
  healthWeight : ℚ
  successRateWeight : ℚ
  latencyWeight : ℚ
  costWeight : ℚ
  deriving DecidableEq

/-- `_POLICY_WEIGHTS`. -/
def policyWeights : RoutingMode → PolicyWeights
  | .auto => ⟨30/100, 30/100, 20/100, 20/100⟩
  | .lowestCost => ⟨15/100, 15/100, 10/100, 60/100⟩
  | .lowestLatency => ⟨15/100, 15/100, 60/100, 10/100⟩
  | .bestAvailable => ⟨40/100, 40/100, 10/100, 10/100⟩
  | .capabilityBased => ⟨30/100, 30/100, 20/100, 20/100⟩
  | .manual => ⟨25/100, 25/100, 25/100, 25/100⟩

/-- The defaults of `score_candidates`. -/
def defaultWeights : PolicyWeights := ⟨30/100, 30/100, 20/100, 20/100⟩

def PolicyWeights.total (weights : PolicyWeights) : ℚ :=
  weights.healthWeight + weights.successRateWeight + weights.latencyWeight + weights.costWeight

def normalizeWeights (weights : PolicyWeights) : PolicyWeights :=
  if weights.total ≤ 0 then ⟨25/100, 25/100, 25/100, 25/100⟩
  else ⟨weights.healthWeight / weights.total, weights.successRateWeight / weights.total,
    weights.latencyWeight / weights.total, weights.costWeight / weights.total⟩

structure ScoreBreakdown where
  health : ℚ
  successRate : ℚ
  latency : ℚ
  cost : ℚ
  deriving DecidableEq

structure ScoredCandidate where
  candidate : RoutingCandidate
  totalScore : ℚ
  scoreBreakdown : ScoreBreakdown
  deriving DecidableEq

def minOf (first : ℚ) (rest : List ℚ) : ℚ := rest.foldl min first

def maxOf (first : ℚ) (rest : List ℚ) : ℚ := rest.foldl max first

/-- Latency and cost bounds across the pool. -/
structure PoolBounds where
  minLat : ℚ
  maxLat : ℚ
  minCost : ℚ
  maxCost : ℚ
  minPaidCost : ℚ

def poolBounds (first : RoutingCandidate) (rest : List RoutingCandidate) : PoolBounds :=
  let latencies := rest.map RoutingCandidate.effectiveLatencyMs
  let costs := rest.map RoutingCandidate.costPer1kTokens
  { minLat := minOf first.effectiveLatencyMs latencies
    maxLat := maxOf first.effectiveLatencyMs latencies
    minCost := minOf first.costPer1kTokens costs
    maxCost := maxOf first.costPer1kTokens costs
    minPaidCost :=
      match (first.costPer1kTokens :: costs).filter (0 < ·) with
      | [] => 0
      | paid :: others => minOf paid others }

def latencyScore (bounds : PoolBounds) (latency : ℚ) : ℚ :=
  if bounds.maxLat = bounds.minLat then 1
  else if 0 < latency then bounds.minLat / latency
  else 1

def costScore (bounds : PoolBounds) (cost : ℚ) : ℚ :=
  if bounds.maxCost = bounds.minCost ∨ cost = 0 then 1
  else if bounds.minCost = 0 ∧ 0 < bounds.minPaidCost then
    max (5/100) (75/100 * (bounds.minPaidCost / cost))
  else if 0 < bounds.minCost then bounds.minCost / cost
  else 1

def scoreCandidate (weights : PolicyWeights) (bounds : PoolBounds) (c : RoutingCandidate) :
    ScoredCandidate :=
  let health := if c.isHealthy then 1 else 0
  let success := max 0 (min 1 c.runtimeSuccessRate)
  let latency := latencyScore bounds c.effectiveLatencyMs
  let cost := costScore bounds c.costPer1kTokens
  let total := health * weights.healthWeight + success * weights.successRateWeight +
    latency * weights.latencyWeight + cost * weights.costWeight
  { candidate := c
    totalScore := roundTo (max 0 (min 1 total)) 4
    scoreBreakdown :=
      ⟨roundTo health 4, roundTo success 4, roundTo latency 4, roundTo cost 4⟩ }

/-- `a ≤ b` for the tuples of the sort key. -/
def ranksBefore (a b : ScoredCandidate) : Bool :=
  let x := a.candidate
  let y := b.candidate
  if a.totalScore ≠ b.totalScore then b.totalScore < a.totalScore
  else if x.isHealthy ≠ y.isHealthy then x.isHealthy
  else if x.runtimeSuccessRate ≠ y.runtimeSuccessRate then
    y.runtimeSuccessRate < x.runtimeSuccessRate
  else if x.effectiveLatencyMs ≠ y.effectiveLatencyMs then
    x.effectiveLatencyMs < y.effectiveLatencyMs
  else if x.costPer1kTokens ≠ y.costPer1kTokens then x.costPer1kTokens < y.costPer1kTokens
  else if x.provider ≠ y.provider then x.provider < y.provider
  else x.model ≤ y.model

def scoreCandidates (candidates : List RoutingCandidate) (weights : PolicyWeights) :
    List ScoredCandidate :=
  match candidates with
  | [] => []
  | first :: rest =>
      ((first :: rest).map (scoreCandidate (normalizeWeights weights)
        (poolBounds first rest))).insertionSort (fun a b => ranksBefore a b = true)

theorem scoreCandidates_mem (candidates : List RoutingCandidate) (weights : PolicyWeights)
    (scored : ScoredCandidate) (member : scored ∈ scoreCandidates candidates weights) :
    scored.candidate ∈ candidates := by
  cases candidates with
  | nil => cases member
  | cons first rest =>
      simp only [scoreCandidates, List.mem_insertionSort] at member
      obtain ⟨candidate, inPool, rfl⟩ := List.mem_map.mp member
      exact inPool

theorem scoreCandidates_length (candidates : List RoutingCandidate) (weights : PolicyWeights) :
    (scoreCandidates candidates weights).length = candidates.length := by
  cases candidates with
  | nil => rfl
  | cons first rest => rw [scoreCandidates, List.length_insertionSort, List.length_map]

end CortexGateway
