import CortexGateway.Lib.Counter
import CortexGateway.Observability.Analytics
import CortexGateway.Schemas.Chat

/-! # Prometheus metrics

`app/observability/metrics.py`, the series that the chat endpoint updates. -/
set_option autoImplicit false
namespace CortexGateway

/-- `_LATENCY_BUCKETS` -/
def latencyBuckets : List ℚ :=
  [1/100, 25/1000, 5/100, 1/10, 25/100, 1/2, 1, 5/2, 5, 10, 30, 60, 120]

theorem latencyBuckets_ascending : latencyBuckets.Pairwise (· < ·) := by
  unfold latencyBuckets
  decide +kernel

/-- Requests are labelled with provider, model and status, failovers with the two
providers, rejections with the scope. -/
structure Metrics where
  gatewayRequestsTotal : Counter (String × String × String)
  gatewayRequestLatencySeconds : String × String → Histogram
  fallbackRequestsTotal : Counter (String × String)
  circuitBreakerState : String → Option ℕ
  budgetDowngradeTotal : ℕ
  rateLimitExceededTotal : Counter String
  semanticCacheHitsTotal : ℕ
  semanticCacheMissesTotal : ℕ

namespace Metrics

def fresh : Metrics :=
  { gatewayRequestsTotal := .fresh
    gatewayRequestLatencySeconds := fun _ => .fresh latencyBuckets
    fallbackRequestsTotal := .fresh
    circuitBreakerState := fun _ => none
    budgetDowngradeTotal := 0
    rateLimitExceededTotal := .fresh
    semanticCacheHitsTotal := 0
    semanticCacheMissesTotal := 0 }

/-- `_CB_STATE_MAP.get(state_str.upper(), 0)` -/
def stateNumber (state : String) : ℕ :=
  if upper state = "OPEN" then 1 else if upper state = "HALF_OPEN" then 2 else 0

section Update
variable (metrics : Metrics)

def updateCircuitBreakerState (provider state : String) : Metrics :=
  { metrics with
    circuitBreakerState :=
      Function.update metrics.circuitBreakerState provider (some (stateNumber state)) }

/-- A latency of zero is not observed. -/
def recordGatewayRequest (provider model status : String) (latencyMs : ℚ) : Metrics :=
  { metrics with
    gatewayRequestsTotal := metrics.gatewayRequestsTotal.inc (provider, model, status)
    gatewayRequestLatencySeconds :=
      if 0 < latencyMs then
        Function.update metrics.gatewayRequestLatencySeconds (provider, model)
          ((metrics.gatewayRequestLatencySeconds (provider, model)).observe (latencyMs / 1000))
      else metrics.gatewayRequestLatencySeconds }

def recordCacheLookup (hit : Bool) : Metrics :=
  if hit then { metrics with semanticCacheHitsTotal := metrics.semanticCacheHitsTotal + 1 }
  else { metrics with semanticCacheMissesTotal := metrics.semanticCacheMissesTotal + 1 }

def recordFallback (fromProvider toProvider : String) : Metrics :=
  { metrics with
    fallbackRequestsTotal := metrics.fallbackRequestsTotal.inc (fromProvider, toProvider) }

def recordDowngrade : Metrics :=
  { metrics with budgetDowngradeTotal := metrics.budgetDowngradeTotal + 1 }

def recordRejection (scope : String) : Metrics :=
  { metrics with rateLimitExceededTotal := metrics.rateLimitExceededTotal.inc scope }

end Update

/-- `label or "unknown"` -/
def orUnknown (label : Option String) : String :=
  if label.getD "" = "" then "unknown" else label.getD ""

/-- What the endpoint records of an answer, in this order. -/
def answered (metrics : Metrics) (metadata : ResponseMetadata) : Metrics :=
  let provider := orUnknown metadata.selectedProvider
  let counted := (metrics.recordGatewayRequest provider (orUnknown metadata.selectedModel)
    "success" metadata.latencyMs).recordCacheLookup metadata.cacheHit
  let original := metadata.originalProvider.getD ""
  let failedOver := if metadata.failoverTriggered ∧ original ≠ "" then
    counted.recordFallback original provider else counted
  let downgraded := if metadata.budgetDowngraded then failedOver.recordDowngrade else failedOver
  let state := metadata.circuitBreakerState.getD ""
  if state ≠ "" then downgraded.updateCircuitBreakerState provider state else downgraded

/-! ## The series after an answer -/

section Answered
variable (metrics : Metrics) (metadata : ResponseMetadata)

/-- The failover of an answer, where it is counted. -/
def fallbackOf (metadata : ResponseMetadata) : Option (String × String) :=
  if metadata.failoverTriggered ∧ metadata.originalProvider.getD "" ≠ "" then
    some (metadata.originalProvider.getD "", orUnknown metadata.selectedProvider)
  else none

theorem answered_requests : (metrics.answered metadata).gatewayRequestsTotal =
    metrics.gatewayRequestsTotal.inc
      (orUnknown metadata.selectedProvider, orUnknown metadata.selectedModel, "success") := by
  unfold answered recordCacheLookup
  dsimp only
  split_ifs <;> rfl

theorem answered_latencies (labels : String × String) :
    (metrics.answered metadata).gatewayRequestLatencySeconds labels =
      if labels = (orUnknown metadata.selectedProvider, orUnknown metadata.selectedModel) ∧
          0 < metadata.latencyMs then
        (metrics.gatewayRequestLatencySeconds labels).observe (metadata.latencyMs / 1000)
      else metrics.gatewayRequestLatencySeconds labels := by
  have recorded : (metrics.answered metadata).gatewayRequestLatencySeconds =
      (metrics.recordGatewayRequest (orUnknown metadata.selectedProvider)
        (orUnknown metadata.selectedModel) "success"
          metadata.latencyMs).gatewayRequestLatencySeconds := by
    unfold answered recordCacheLookup
    dsimp only
    split_ifs <;> rfl
  rw [recorded, recordGatewayRequest]
  by_cases positive : 0 < metadata.latencyMs
  · rw [if_pos positive]
    dsimp only
    rw [Function.update_apply]
    by_cases own : labels =
        (orUnknown metadata.selectedProvider, orUnknown metadata.selectedModel)
    · rw [if_pos own, if_pos ⟨own, positive⟩, own]
    · rw [if_neg own, if_neg fun both => own both.1]
  · rw [if_neg positive, if_neg fun both => positive both.2]

theorem answered_fallbacks : (metrics.answered metadata).fallbackRequestsTotal =
    metrics.fallbackRequestsTotal.incAny (fallbackOf metadata) := by
  unfold answered recordCacheLookup fallbackOf
  dsimp only
  split_ifs <;> rfl

theorem answered_state (provider : String) :
    (metrics.answered metadata).circuitBreakerState provider =
      if orUnknown metadata.selectedProvider = provider ∧
          metadata.circuitBreakerState.getD "" ≠ "" then
        some (stateNumber (metadata.circuitBreakerState.getD ""))
      else metrics.circuitBreakerState provider := by
  by_cases told : metadata.circuitBreakerState.getD "" = ""
  · have kept : (metrics.answered metadata).circuitBreakerState = metrics.circuitBreakerState := by
      unfold answered recordCacheLookup
      dsimp only
      rw [if_neg (not_not.mpr told)]
      split_ifs <;> rfl
    rw [kept, if_neg fun both => both.2 told]
  · have updated : (metrics.answered metadata).circuitBreakerState =
        Function.update metrics.circuitBreakerState (orUnknown metadata.selectedProvider)
          (some (stateNumber (metadata.circuitBreakerState.getD ""))) := by
      unfold answered recordCacheLookup
      dsimp only
      rw [if_pos told]
      split_ifs <;> rfl
    rw [updated, Function.update_apply]
    by_cases own : provider = orUnknown metadata.selectedProvider
    · rw [if_pos own, if_pos ⟨own.symm, told⟩]
    · rw [if_neg own, if_neg fun both => own both.1.symm]

theorem answered_downgrades : (metrics.answered metadata).budgetDowngradeTotal =
    metrics.budgetDowngradeTotal + if metadata.budgetDowngraded then 1 else 0 := by
  unfold answered recordCacheLookup
  dsimp only
  split_ifs <;> rfl

theorem answered_hits : (metrics.answered metadata).semanticCacheHitsTotal =
    metrics.semanticCacheHitsTotal + if metadata.cacheHit then 1 else 0 := by
  unfold answered recordCacheLookup
  dsimp only
  split_ifs <;> rfl

theorem answered_misses : (metrics.answered metadata).semanticCacheMissesTotal =
    metrics.semanticCacheMissesTotal + if metadata.cacheHit then 0 else 1 := by
  unfold answered recordCacheLookup
  dsimp only
  split_ifs <;> rfl

theorem answered_rejections : (metrics.answered metadata).rateLimitExceededTotal =
    metrics.rateLimitExceededTotal := by
  unfold answered recordCacheLookup
  dsimp only
  split_ifs <;> rfl

end Answered

end Metrics
end CortexGateway
