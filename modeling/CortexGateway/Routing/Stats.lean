import CortexGateway.Routing.Candidates

/-! # Runtime statistics

`app/routing/stats.py`.  The tracker keeps the statistics of every provider and
model under their normalized names. -/
set_option autoImplicit false
namespace CortexGateway.Stats

structure ModelStats where
  provider : String
  model : String
  totalRequests : ℕ
  successfulRequests : ℕ
  failedRequests : ℕ
  lastLatencyMs : Option ℚ
  averageLatencyMs : Option ℚ
  recentOutcomes : List Bool
  recentLatencies : List ℚ

/-- `deque.append` with `maxlen=50`. -/
def appendRecent {α : Type} (recent : List α) (value : α) : List α :=
  (recent ++ [value]).drop (recent.length + 1 - 50)

namespace ModelStats

def new (key : String × String) : ModelStats := ⟨key.1, key.2, 0, 0, 0, none, none, [], []⟩

def successRate (stats : ModelStats) : ℚ :=
  if stats.recentOutcomes = [] then 1
  else (stats.recentOutcomes.count true : ℚ) / stats.recentOutcomes.length

def latencyMs (stats : ModelStats) : Option ℚ :=
  if stats.recentLatencies = [] then stats.lastLatencyMs
  else some (stats.recentLatencies.sum / stats.recentLatencies.length)

def recordSuccess (stats : ModelStats) (latencyMs : ℚ) : ModelStats :=
  { stats with
    totalRequests := stats.totalRequests + 1
    successfulRequests := stats.successfulRequests + 1
    lastLatencyMs := some latencyMs
    recentOutcomes := appendRecent stats.recentOutcomes true
    recentLatencies := appendRecent stats.recentLatencies latencyMs
    averageLatencyMs := match stats.averageLatencyMs with
      | none => some latencyMs
      | some average => some (2/10 * latencyMs + 8/10 * average) }

def recordFailure (stats : ModelStats) : ModelStats :=
  { stats with
    totalRequests := stats.totalRequests + 1
    failedRequests := stats.failedRequests + 1
    recentOutcomes := appendRecent stats.recentOutcomes false }

/-- What the candidate builder reads. -/
def reported (stats : ModelStats) : CortexGateway.ModelStats :=
  ⟨stats.latencyMs, stats.successRate, stats.totalRequests⟩

end ModelStats

abbrev ProviderStatsTracker := String × String → Option ModelStats

namespace ProviderStatsTracker

def key (provider model : String) : String × String := (strip (lower provider), strip model)

/-- `get_or_create`, without storing what it creates. -/
def statsAt (tracker : ProviderStatsTracker) (key : String × String) : ModelStats :=
  (tracker key).getD (.new key)

def recordSuccess (tracker : ProviderStatsTracker) (provider model : String) (latencyMs : ℚ) :
    ProviderStatsTracker :=
  Function.update tracker (key provider model)
    (some ((tracker.statsAt (key provider model)).recordSuccess latencyMs))

def recordFailure (tracker : ProviderStatsTracker) (provider model : String) :
    ProviderStatsTracker :=
  Function.update tracker (key provider model)
    (some (tracker.statsAt (key provider model)).recordFailure)

def getStats (tracker : ProviderStatsTracker) (provider model : String) :
    Option CortexGateway.ModelStats :=
  (tracker (key provider model)).map ModelStats.reported

theorem statsAt_recordSuccess (tracker : ProviderStatsTracker) (provider model : String)
    (latencyMs : ℚ) (other : String × String) :
    (tracker.recordSuccess provider model latencyMs).statsAt other =
      if other = key provider model then (tracker.statsAt other).recordSuccess latencyMs
      else tracker.statsAt other := by
  unfold statsAt recordSuccess
  by_cases own : other = key provider model
  · subst own
    simp [statsAt]
  · simp [own]

theorem statsAt_recordFailure (tracker : ProviderStatsTracker) (provider model : String)
    (other : String × String) :
    (tracker.recordFailure provider model).statsAt other =
      if other = key provider model then (tracker.statsAt other).recordFailure
      else tracker.statsAt other := by
  unfold statsAt recordFailure
  by_cases own : other = key provider model
  · subst own
    simp [statsAt]
  · simp [own]

end ProviderStatsTracker

end CortexGateway.Stats
