import CortexGateway.Routing.Ranking

/-! # Dominance

A candidate that is at least as good as another in health, history, latency and
price, and better in one of them, is ranked before it.  The scores are rounded by
any monotone rounding; a tie it makes is broken by the rest of the key. -/
set_option autoImplicit false
namespace CortexGateway

/-! ## Scores under any rounding -/

/-- The clamped total, before it is rounded. -/
def clampedScore (weights : PolicyWeights) (bounds : PoolBounds) (c : RoutingCandidate) : ℚ :=
  max 0 (min 1 ((if c.isHealthy then 1 else 0) * weights.healthWeight +
    max 0 (min 1 c.runtimeSuccessRate) * weights.successRateWeight +
    latencyScore bounds c.effectiveLatencyMs * weights.latencyWeight +
    costScore bounds c.costPer1kTokens * weights.costWeight))

/-- `scoreCandidate` with `round` in place of rounding to four digits. -/
def scoreCandidateBy (round : ℚ → ℚ) (weights : PolicyWeights) (bounds : PoolBounds)
    (c : RoutingCandidate) : ScoredCandidate :=
  { candidate := c
    totalScore := round (clampedScore weights bounds c)
    scoreBreakdown :=
      ⟨round (if c.isHealthy then 1 else 0), round (max 0 (min 1 c.runtimeSuccessRate)),
        round (latencyScore bounds c.effectiveLatencyMs),
        round (costScore bounds c.costPer1kTokens)⟩ }

def scoreCandidatesBy (round : ℚ → ℚ) (candidates : List RoutingCandidate)
    (weights : PolicyWeights) : List ScoredCandidate :=
  (candidates.map (scoreCandidateBy round (normalizeWeights weights)
    (boundsOf candidates))).insertionSort (fun a b => ranksBefore a b = true)

theorem scoreCandidates_by (candidates : List RoutingCandidate) (weights : PolicyWeights) :
    scoreCandidates candidates weights =
      scoreCandidatesBy (fun x => roundTo x 4) candidates weights := by
  cases candidates with
  | nil => rfl
  | cons first rest => rfl

theorem roundHalfEven_mono : Monotone roundHalfEven := by
  intro x y le
  have floors : ⌊x⌋ ≤ ⌊y⌋ := Int.floor_le_floor le
  rcases eq_or_lt_of_le floors with same | less
  · have fractions : x - (⌊x⌋ : ℚ) ≤ y - (⌊y⌋ : ℚ) := by
      rw [same]
      linarith
    simp only [roundHalfEven, same] at fractions ⊢
    split_ifs <;> first | omega | linarith
  · -- the rounded values lie within one of the floors
    have above : roundHalfEven x ≤ ⌊x⌋ + 1 := by
      simp only [roundHalfEven]
      split_ifs <;> omega
    have below : ⌊y⌋ ≤ roundHalfEven y := by
      simp only [roundHalfEven]
      split_ifs <;> omega
    omega

theorem roundTo_mono (digits : ℕ) : Monotone fun x => roundTo x digits := by
  intro x y le
  have scaled : x * 10 ^ digits ≤ y * 10 ^ digits :=
    mul_le_mul_of_nonneg_right le (by positivity)
  have rounded : ((roundHalfEven (x * 10 ^ digits) : ℤ) : ℚ) ≤ roundHalfEven (y * 10 ^ digits) := by
    exact_mod_cast roundHalfEven_mono scaled
  exact div_le_div_of_nonneg_right rounded (by positivity)

/-! ## The bounds of a pool -/

theorem le_minOf_iff (bound first : ℚ) (rest : List ℚ) :
    bound ≤ minOf first rest ↔ ∀ x ∈ first :: rest, bound ≤ x := by
  unfold minOf
  induction rest generalizing first with
  | nil => simp
  | cons next rest ih =>
      rw [List.foldl_cons, ih]
      simp only [List.mem_cons, forall_eq_or_imp, le_min_iff, and_assoc]

theorem maxOf_le_iff (bound first : ℚ) (rest : List ℚ) :
    maxOf first rest ≤ bound ↔ ∀ x ∈ first :: rest, x ≤ bound := by
  unfold maxOf
  induction rest generalizing first with
  | nil => simp
  | cons next rest ih =>
      rw [List.foldl_cons, ih]
      simp only [List.mem_cons, forall_eq_or_imp, max_le_iff, and_assoc]

/-- The least of the positive prices, 0 if there is none. -/
def leastPaid (costs : List ℚ) : ℚ :=
  match costs.filter (0 < ·) with
  | [] => 0
  | paid :: others => minOf paid others

theorem boundsOf_minPaidCost (pool : List RoutingCandidate) :
    (boundsOf pool).minPaidCost = leastPaid (pool.map RoutingCandidate.costPer1kTokens) := by
  cases pool with
  | nil => rfl
  | cons first rest => rfl

theorem leastPaid_le {costs : List ℚ} {cost : ℚ} (member : cost ∈ costs) (paid : 0 < cost) :
    leastPaid costs ≤ cost := by
  have listed : cost ∈ costs.filter (0 < ·) := List.mem_filter.mpr ⟨member, by simpa using paid⟩
  unfold leastPaid
  cases priced : costs.filter (0 < ·) with
  | nil =>
      rw [priced] at listed
      cases listed
  | cons first others =>
      rw [priced] at listed
      exact (le_minOf_iff _ first others).mp le_rfl cost listed

theorem le_boundsOf_minLat (bound : ℚ) {pool : List RoutingCandidate} (filled : pool ≠ []) :
    bound ≤ (boundsOf pool).minLat ↔ ∀ c ∈ pool, bound ≤ c.effectiveLatencyMs := by
  cases pool with
  | nil => exact absurd rfl filled
  | cons first rest =>
      simpa [boundsOf, poolBounds] using le_minOf_iff bound first.effectiveLatencyMs
        (rest.map RoutingCandidate.effectiveLatencyMs)

theorem boundsOf_maxLat_le (bound : ℚ) {pool : List RoutingCandidate} (filled : pool ≠ []) :
    (boundsOf pool).maxLat ≤ bound ↔ ∀ c ∈ pool, c.effectiveLatencyMs ≤ bound := by
  cases pool with
  | nil => exact absurd rfl filled
  | cons first rest =>
      simpa [boundsOf, poolBounds] using maxOf_le_iff bound first.effectiveLatencyMs
        (rest.map RoutingCandidate.effectiveLatencyMs)

theorem le_boundsOf_minCost (bound : ℚ) {pool : List RoutingCandidate} (filled : pool ≠ []) :
    bound ≤ (boundsOf pool).minCost ↔ ∀ c ∈ pool, bound ≤ c.costPer1kTokens := by
  cases pool with
  | nil => exact absurd rfl filled
  | cons first rest =>
      simpa [boundsOf, poolBounds] using le_minOf_iff bound first.costPer1kTokens
        (rest.map RoutingCandidate.costPer1kTokens)

theorem boundsOf_maxCost_le (bound : ℚ) {pool : List RoutingCandidate} (filled : pool ≠ []) :
    (boundsOf pool).maxCost ≤ bound ↔ ∀ c ∈ pool, c.costPer1kTokens ≤ bound := by
  cases pool with
  | nil => exact absurd rfl filled
  | cons first rest =>
      simpa [boundsOf, poolBounds] using maxOf_le_iff bound first.costPer1kTokens
        (rest.map RoutingCandidate.costPer1kTokens)

/-! ## What dominates scores no less -/

/-- At least as good in health, history, latency and price, and better in one. -/
structure Dominates (a b : RoutingCandidate) : Prop where
  health : b.isHealthy = true → a.isHealthy = true
  rate : b.runtimeSuccessRate ≤ a.runtimeSuccessRate
  latency : a.effectiveLatencyMs ≤ b.effectiveLatencyMs
  price : a.costPer1kTokens ≤ b.costPer1kTokens
  better : (a.isHealthy = true ∧ b.isHealthy = false) ∨
    b.runtimeSuccessRate < a.runtimeSuccessRate ∨
    a.effectiveLatencyMs < b.effectiveLatencyMs ∨ a.costPer1kTokens < b.costPer1kTokens

theorem latencyScore_antitone (bounds : PoolBounds) (least : 0 ≤ bounds.minLat) {x y : ℚ}
    (positive : 0 < x) (le : x ≤ y) : latencyScore bounds y ≤ latencyScore bounds x := by
  unfold latencyScore
  rw [if_pos positive, if_pos (positive.trans_le le)]
  split_ifs
  · exact le_rfl
  · exact div_le_div_of_nonneg_left least positive le

/-- Bounds that hold of a pool with the price `cost` in it. -/
structure BoundsPrice (bounds : PoolBounds) (cost : ℚ) : Prop where
  minCost : bounds.minCost ≤ cost
  minPaidCost : 0 < cost → bounds.minPaidCost ≤ cost

theorem costScore_le_one {bounds : PoolBounds} {cost : ℚ} (bounded : BoundsPrice bounds cost)
    (nonneg : 0 ≤ cost) : costScore bounds cost ≤ 1 := by
  unfold costScore
  split_ifs with level free cheapest
  · exact le_rfl
  · have positive : 0 < cost := lt_of_le_of_ne nonneg fun zero => level (.inr zero.symm)
    have ratio : bounds.minPaidCost / cost ≤ 1 := (div_le_one positive).mpr (bounded.minPaidCost positive)
    exact max_le (by norm_num) (by linarith)
  · exact (div_le_one (cheapest.trans_le bounded.minCost)).mpr bounded.minCost
  · exact le_rfl

theorem costScore_antitone (bounds : PoolBounds) {x y : ℚ} (nonneg : 0 ≤ x) (le : x ≤ y)
    (bounded : BoundsPrice bounds y) : costScore bounds y ≤ costScore bounds x := by
  by_cases level : bounds.maxCost = bounds.minCost ∨ x = 0
  · -- the other scores as much as any can
    have highest : costScore bounds x = 1 := if_pos level
    rw [highest]
    exact costScore_le_one bounded (nonneg.trans le)
  · have positive : 0 < x := lt_of_le_of_ne nonneg fun zero => level (.inr zero.symm)
    have paid : ¬ (bounds.maxCost = bounds.minCost ∨ y = 0) := by
      rintro (same | zero)
      · exact level (.inl same)
      · linarith
    unfold costScore
    rw [if_neg level, if_neg paid]
    split_ifs with free cheapest
    · have ratio : bounds.minPaidCost / y ≤ bounds.minPaidCost / x :=
        div_le_div_of_nonneg_left free.2.le positive le
      exact max_le_max le_rfl (by linarith)
    · exact div_le_div_of_nonneg_left cheapest.le positive le
    · exact le_rfl

structure PolicyWeights.Nonneg (weights : PolicyWeights) : Prop where
  health : 0 ≤ weights.healthWeight
  successRate : 0 ≤ weights.successRateWeight
  latency : 0 ≤ weights.latencyWeight
  cost : 0 ≤ weights.costWeight

theorem normalizeWeights_nonneg {weights : PolicyWeights} (nonneg : weights.Nonneg) :
    (normalizeWeights weights).Nonneg := by
  unfold normalizeWeights
  split_ifs with empty
  · constructor <;> norm_num
  · have total : 0 ≤ weights.total := (not_le.mp empty).le
    exact ⟨div_nonneg nonneg.health total, div_nonneg nonneg.successRate total,
      div_nonneg nonneg.latency total, div_nonneg nonneg.cost total⟩

theorem clampedScore_le {weights : PolicyWeights} (nonneg : weights.Nonneg) {bounds : PoolBounds}
    {a b : RoutingCandidate} (dominates : Dominates a b) (least : 0 ≤ bounds.minLat)
    (latency : 0 < a.effectiveLatencyMs) (price : 0 ≤ a.costPer1kTokens)
    (bounded : BoundsPrice bounds b.costPer1kTokens) :
    clampedScore weights bounds b ≤ clampedScore weights bounds a := by
  have health : (if b.isHealthy then 1 else 0 : ℚ) ≤ if a.isHealthy then 1 else 0 := by
    split_ifs with second first
    · exact le_rfl
    · exact absurd (dominates.health second) first
    · exact zero_le_one
    · exact le_rfl
  have rate : max 0 (min 1 b.runtimeSuccessRate) ≤ max 0 (min 1 a.runtimeSuccessRate) :=
    max_le_max le_rfl (min_le_min le_rfl dominates.rate)
  have faster := latencyScore_antitone bounds least latency dominates.latency
  have cheaper := costScore_antitone bounds price dominates.price bounded
  refine max_le_max le_rfl (min_le_min le_rfl ?_)
  gcongr
  · exact nonneg.health
  · exact nonneg.successRate
  · exact nonneg.latency
  · exact nonneg.cost

/-! ## What dominates is ranked before -/

theorem toLex_lt_of_le {α β : Type} [PartialOrder α] [Preorder β] {x x' : α} {y y' : β}
    (first : x ≤ x') (second : x = x' → y < y') : toLex (x, y) < toLex (x', y') := by
  rw [Prod.Lex.toLex_lt_toLex]
  rcases eq_or_lt_of_le first with same | less
  · exact Or.inr ⟨same, second same⟩
  · exact Or.inl less

/-- No better total and a better candidate: the tie-break decides. -/
theorem sortKey_lt {a b : ScoredCandidate} (dominates : Dominates a.candidate b.candidate)
    (total : b.totalScore ≤ a.totalScore) : a.sortKey < b.sortKey := by
  have health : (!a.candidate.isHealthy) ≤ (!b.candidate.isHealthy) := by
    have sound := dominates.health
    revert sound
    cases a.candidate.isHealthy <;> cases b.candidate.isHealthy <;> decide
  refine toLex_lt_of_le (neg_le_neg total) fun _ => ?_
  refine toLex_lt_of_le health fun sameHealth => ?_
  refine toLex_lt_of_le (neg_le_neg dominates.rate) fun sameRate => ?_
  refine toLex_lt_of_le dominates.latency fun sameLatency => ?_
  rw [Prod.Lex.toLex_lt_toLex]
  left
  rcases dominates.better with ⟨healthy, unhealthy⟩ | rate | latency | price
  · rw [healthy, unhealthy] at sameHealth
    cases sameHealth
  · exact absurd (neg_injective sameRate).symm rate.ne
  · exact absurd sameLatency latency.ne
  · exact price

/-- Both are ranked, and `a` stands before `b` wherever they stand. -/
structure RankedBefore (ranked : List ScoredCandidate) (a b : RoutingCandidate) : Prop where
  first : a ∈ ranked.map ScoredCandidate.candidate
  second : b ∈ ranked.map ScoredCandidate.candidate
  before : ∀ i j : ℕ, (ranked.map ScoredCandidate.candidate)[i]? = some a →
    (ranked.map ScoredCandidate.candidate)[j]? = some b → i < j

section Ranked
variable (round : ℚ → ℚ) (candidates : List RoutingCandidate) (weights : PolicyWeights)

theorem scoreCandidatesBy_perm :
    (scoreCandidatesBy round candidates weights).Perm
      (candidates.map (scoreCandidateBy round (normalizeWeights weights) (boundsOf candidates))) :=
  List.perm_insertionSort _ _

theorem scoreCandidatesBy_candidates :
    ((scoreCandidatesBy round candidates weights).map ScoredCandidate.candidate).Perm candidates := by
  have scored := (scoreCandidatesBy_perm round candidates weights).map ScoredCandidate.candidate
  have same : (candidates.map (scoreCandidateBy round (normalizeWeights weights)
      (boundsOf candidates))).map ScoredCandidate.candidate = candidates := by
    rw [List.map_map]
    exact List.map_id candidates
  rwa [same] at scored

theorem scoreCandidatesBy_sorted :
    (scoreCandidatesBy round candidates weights).Pairwise
      fun a b => a.sortKey ≤ b.sortKey := by
  have total : Std.Total fun a b : ScoredCandidate => ranksBefore a b = true :=
    ⟨fun a b => by simpa only [ranksBefore_iff] using le_total a.sortKey b.sortKey⟩
  have trans : IsTrans ScoredCandidate fun a b => ranksBefore a b = true :=
    ⟨fun a b c => by simpa only [ranksBefore_iff] using le_trans⟩
  have ordered := List.pairwise_insertionSort (fun a b => ranksBefore a b = true)
    (candidates.map (scoreCandidateBy round (normalizeWeights weights) (boundsOf candidates)))
  exact ordered.imp fun {a b} before => (ranksBefore_iff a b).mp before

/-- What stands at a place of the ranking is the scored candidate. -/
theorem scoreCandidatesBy_at {i : ℕ} {c : RoutingCandidate}
    (stands : ((scoreCandidatesBy round candidates weights).map ScoredCandidate.candidate)[i]? =
      some c) :
    (scoreCandidatesBy round candidates weights)[i]? =
      some (scoreCandidateBy round (normalizeWeights weights) (boundsOf candidates) c) := by
  rw [List.getElem?_map, Option.map_eq_some_iff] at stands
  obtain ⟨scored, placed, rfl⟩ := stands
  rw [placed]
  have member := (scoreCandidatesBy_perm round candidates weights).mem_iff.mp
    (List.mem_of_getElem? placed)
  obtain ⟨c, -, rfl⟩ := List.mem_map.mp member
  rfl

/-- The ranking respects dominance, whatever the rounding and the weights. -/
theorem dominating_ranked_before (monotone : Monotone round) (nonneg : weights.Nonneg)
    (latencies : ∀ c ∈ candidates, 0 < c.effectiveLatencyMs)
    (prices : ∀ c ∈ candidates, 0 ≤ c.costPer1kTokens) (a b : RoutingCandidate)
    (listed : a ∈ candidates) (other : b ∈ candidates) (dominates : Dominates a b) :
    RankedBefore (scoreCandidatesBy round candidates weights) a b := by
  have filled : candidates ≠ [] := List.ne_nil_of_mem listed
  have least : 0 ≤ (boundsOf candidates).minLat :=
    (le_boundsOf_minLat 0 filled).mpr fun c member => (latencies c member).le
  have bounded : BoundsPrice (boundsOf candidates) b.costPer1kTokens :=
    { minCost := (le_boundsOf_minCost _ filled).mp le_rfl b other
      minPaidCost := fun paid => by
        rw [boundsOf_minPaidCost]
        exact leastPaid_le (List.mem_map_of_mem other) paid }
  have total := clampedScore_le (normalizeWeights_nonneg nonneg) dominates least
    (latencies a listed) (prices a listed) bounded
  have before : (scoreCandidateBy round (normalizeWeights weights) (boundsOf candidates) a).sortKey <
      (scoreCandidateBy round (normalizeWeights weights) (boundsOf candidates) b).sortKey :=
    sortKey_lt dominates (monotone total)
  have ranked := scoreCandidatesBy_candidates round candidates weights
  refine ⟨ranked.mem_iff.mpr listed, ranked.mem_iff.mpr other, fun i j atI atJ => ?_⟩
  have placedA := scoreCandidatesBy_at round candidates weights atI
  have placedB := scoreCandidatesBy_at round candidates weights atJ
  by_contra behind
  have sorted := scoreCandidatesBy_sorted round candidates weights
  rcases eq_or_lt_of_le (not_lt.mp behind) with same | less
  · rw [same, placedA] at placedB
    rw [Option.some_inj.mp placedB] at before
    exact lt_irrefl _ before
  · obtain ⟨inRange, atJ⟩ := List.getElem?_eq_some_iff.mp placedB
    obtain ⟨inRangeToo, atI⟩ := List.getElem?_eq_some_iff.mp placedA
    have after := List.pairwise_iff_getElem.mp sorted j i inRange inRangeToo less
    rw [atI, atJ] at after
    exact absurd before (not_lt.mpr after)

end Ranked

/-! ## A tie of the totals -/

def dearTwin : RoutingCandidate := ⟨"groq", "twin", ["text"], 8192, 1/100, true, 500, none, 1, 0⟩

def cheapTwin : RoutingCandidate := { dearTwin with model := "twin-lite", costPer1kTokens := 1/1000 }

/-- Where health alone counts, both score 1 and the price decides. -/
theorem cheapTwin_ranked_before :
    RankedBefore (scoreCandidates [dearTwin, cheapTwin] ⟨1, 0, 0, 0⟩) cheapTwin dearTwin := by
  rw [scoreCandidates_by]
  exact dominating_ranked_before (fun x => roundTo x 4) [dearTwin, cheapTwin] ⟨1, 0, 0, 0⟩
    (roundTo_mono 4) (by constructor <;> decide +kernel) (by decide +kernel) (by decide +kernel)
    cheapTwin dearTwin (by decide +kernel) (by decide +kernel)
    (by constructor <;> decide +kernel)

end CortexGateway
