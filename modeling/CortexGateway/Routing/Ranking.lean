import CortexGateway.Routing.Scorer

/-! # The order of the ranking

The sort key of `score_candidates` compares as a tuple does, so the first of the
ranked candidates stands before all others. -/
set_option autoImplicit false
namespace CortexGateway

/-- The sort key. -/
def ScoredCandidate.sortKey (scored : ScoredCandidate) :
    ℚ ×ₗ Bool ×ₗ ℚ ×ₗ ℚ ×ₗ ℚ ×ₗ String ×ₗ String :=
  let c := scored.candidate
  toLex (-scored.totalScore, toLex (!c.isHealthy, toLex (-c.runtimeSuccessRate,
    toLex (c.effectiveLatencyMs, toLex (c.costPer1kTokens, toLex (c.provider, c.model))))))

theorem ranksBefore_iff (a b : ScoredCandidate) :
    ranksBefore a b = true ↔ a.sortKey ≤ b.sortKey := by
  have unhealthyLast : ∀ x y : Bool, x ≠ y → ((!x) < (!y) ↔ x = true) := by decide
  simp only [ScoredCandidate.sortKey, Prod.Lex.toLex_le_toLex]
  unfold ranksBefore
  dsimp only
  split_ifs with score health rate latency price provider
  · simp [score]
  · simp [not_not.mp score, health, unhealthyLast _ _ health]
  · simp [not_not.mp score, not_not.mp health, rate]
  · simp [not_not.mp score, not_not.mp health, not_not.mp rate, latency]
  · simp [not_not.mp score, not_not.mp health, not_not.mp rate, not_not.mp latency, price]
  · simp [not_not.mp score, not_not.mp health, not_not.mp rate, not_not.mp latency,
      not_not.mp price, provider]
  · simp [not_not.mp score, not_not.mp health, not_not.mp rate, not_not.mp latency,
      not_not.mp price, not_not.mp provider]

theorem head_insertionSort {α β : Type} [LinearOrder β] (key : α → β) (before : α → α → Prop)
    [DecidableRel before] (same : ∀ a b, before a b ↔ key a ≤ key b) {l rest : List α} {head : α}
    (sorted : l.insertionSort before = head :: rest) : ∀ a ∈ l, key head ≤ key a := by
  have total : Std.Total before := ⟨fun a b => by simpa only [same] using le_total (key a) (key b)⟩
  have trans : IsTrans α before := ⟨fun a b c => by simpa only [same] using le_trans⟩
  have ordered := List.pairwise_insertionSort before l
  rw [sorted, List.pairwise_cons] at ordered
  intro a member
  have listed : a ∈ head :: rest := by
    rw [← sorted]
    exact (List.mem_insertionSort before).mpr member
  rcases List.mem_cons.mp listed with rfl | later
  · exact le_rfl
  · exact (same head a).mp (ordered.1 a later)

/-- The bounds of a pool. -/
def boundsOf : List RoutingCandidate → PoolBounds
  | [] => ⟨0, 0, 0, 0, 0⟩
  | first :: rest => poolBounds first rest

theorem scoreCandidates_first {candidates : List RoutingCandidate} {weights : PolicyWeights}
    {best : ScoredCandidate} {rest : List ScoredCandidate}
    (ranked : scoreCandidates candidates weights = best :: rest) :
    best = scoreCandidate (normalizeWeights weights) (boundsOf candidates) best.candidate ∧
      best.candidate ∈ candidates ∧
      ∀ c ∈ candidates, best.sortKey ≤
        (scoreCandidate (normalizeWeights weights) (boundsOf candidates) c).sortKey := by
  have member := scoreCandidates_mem candidates weights best (by simp [ranked])
  cases candidates with
  | nil => cases member
  | cons first others =>
      have least := head_insertionSort ScoredCandidate.sortKey _ ranksBefore_iff ranked
      have listed : best ∈ scoreCandidates (first :: others) weights := by
        rw [ranked]
        exact List.mem_cons_self
      simp only [scoreCandidates, List.mem_insertionSort] at listed
      obtain ⟨c, -, rfl⟩ := List.mem_map.mp listed
      exact ⟨rfl, member, fun c listed => least _ (List.mem_map_of_mem listed)⟩

/-! ## Healthy candidates under the default weights -/

/-- Three parts of health, three of history, two of latency and two of price. -/
def standing (bounds : PoolBounds) (c : RoutingCandidate) : ℚ :=
  roundTo (max 0 (min 1 (30/100 + max 0 (min 1 c.runtimeSuccessRate) * (30/100) +
    latencyScore bounds c.effectiveLatencyMs * (20/100) +
    costScore bounds c.costPer1kTokens * (20/100)))) 4

/-- The better standing first, then the better history, the lower latency, the
lower blended price and the name. -/
def rank (bounds : PoolBounds) (c : RoutingCandidate) : ℚ ×ₗ ℚ ×ₗ ℚ ×ₗ ℚ ×ₗ String ×ₗ String :=
  toLex (-standing bounds c, toLex (-c.runtimeSuccessRate, toLex (c.effectiveLatencyMs,
    toLex (c.costPer1kTokens, toLex (c.provider, c.model)))))

theorem normalizeWeights_default : normalizeWeights defaultWeights = defaultWeights := by
  decide +kernel

theorem totalScore_healthy (bounds : PoolBounds) {c : RoutingCandidate}
    (healthy : c.isHealthy = true) :
    (scoreCandidate (normalizeWeights defaultWeights) bounds c).totalScore = standing bounds c := by
  rw [normalizeWeights_default]
  simp [scoreCandidate, standing, defaultWeights, healthy]

theorem rank_le_of_sortKey {bounds : PoolBounds} {c d : RoutingCandidate}
    (healthy : c.isHealthy = true) (healthyToo : d.isHealthy = true)
    (before : (scoreCandidate (normalizeWeights defaultWeights) bounds c).sortKey ≤
      (scoreCandidate (normalizeWeights defaultWeights) bounds d).sortKey) :
    rank bounds c ≤ rank bounds d := by
  simp only [ScoredCandidate.sortKey, totalScore_healthy bounds healthy,
    totalScore_healthy bounds healthyToo] at before
  simpa [scoreCandidate, healthy, healthyToo, rank, Prod.Lex.toLex_le_toLex] using before

/-- Who ranks alike is the same model of the same provider. -/
theorem names_of_rank {bounds : PoolBounds} {c d : RoutingCandidate}
    (alike : rank bounds c = rank bounds d) : c.provider = d.provider ∧ c.model = d.model := by
  simp only [rank, EmbeddingLike.apply_eq_iff_eq, Prod.mk.injEq] at alike
  exact alike.2.2.2.2

end CortexGateway
