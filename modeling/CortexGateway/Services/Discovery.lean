import CortexGateway.Reliability.Selection
import CortexGateway.Routing.Dominance
import CortexGateway.Services.Downgrade

/-! # The order of discovery

Candidates are discovered in the order in which the providers list their models.
Where no model is listed twice, neither the ranking nor what is chosen by it
depends on that order. -/
set_option autoImplicit false
namespace CortexGateway

/-- No two candidates are the same model of the same provider. -/
def DistinctModels (candidates : List RoutingCandidate) : Prop :=
  (candidates.map fun c => (c.provider, c.model)).Nodup

instance (candidates : List RoutingCandidate) : Decidable (DistinctModels candidates) :=
  inferInstanceAs (Decidable (List.Nodup _))

theorem perm_nil_iff {α : Type} {l reordered : List α} (perm : l.Perm reordered) :
    l = [] ↔ reordered = [] := by
  rw [← List.length_eq_zero_iff, perm.length_eq, List.length_eq_zero_iff]

theorem DistinctModels.filter {candidates : List RoutingCandidate}
    (distinct : DistinctModels candidates) (keep : RoutingCandidate → Bool) :
    DistinctModels (candidates.filter keep) :=
  List.Nodup.sublist (List.filter_sublist.map _) distinct

/-! ## The ranking -/

theorem leastPaid_perm {costs reordered : List ℚ} (perm : costs.Perm reordered) :
    leastPaid costs = leastPaid reordered := by
  have paid := perm.filter (0 < ·)
  unfold leastPaid
  cases first : costs.filter (0 < ·) with
  | nil =>
      rw [first] at paid
      rw [paid.nil_eq.symm]
  | cons price others =>
      rw [first] at paid
      cases second : reordered.filter (0 < ·) with
      | nil =>
          rw [second] at paid
          cases paid.eq_nil
      | cons price' others' =>
          rw [second] at paid
          refine eq_of_forall_le_iff fun bound => ?_
          dsimp only
          rw [le_minOf_iff, le_minOf_iff]
          simp only [paid.mem_iff]

attribute [ext] PoolBounds

section Order
variable {candidates reordered : List RoutingCandidate} (perm : candidates.Perm reordered)

include perm

theorem boundsOf_perm : boundsOf candidates = boundsOf reordered := by
  by_cases filled : candidates = []
  · rw [filled] at perm ⊢
    rw [perm.nil_eq.symm]
  have filledToo : reordered ≠ [] := fun empty => filled ((perm_nil_iff perm).mpr empty)
  apply PoolBounds.ext
  · refine eq_of_forall_le_iff fun bound => ?_
    rw [le_boundsOf_minLat bound filled, le_boundsOf_minLat bound filledToo]
    simp only [perm.mem_iff]
  · refine eq_of_forall_ge_iff fun bound => ?_
    rw [boundsOf_maxLat_le bound filled, boundsOf_maxLat_le bound filledToo]
    simp only [perm.mem_iff]
  · refine eq_of_forall_le_iff fun bound => ?_
    rw [le_boundsOf_minCost bound filled, le_boundsOf_minCost bound filledToo]
    simp only [perm.mem_iff]
  · refine eq_of_forall_ge_iff fun bound => ?_
    rw [boundsOf_maxCost_le bound filled, boundsOf_maxCost_le bound filledToo]
    simp only [perm.mem_iff]
  · rw [boundsOf_minPaidCost, boundsOf_minPaidCost]
    exact leastPaid_perm (perm.map _)

/-- The candidates of a list without duplicates are told apart by their keys. -/
theorem scoreCandidates_reordered (distinct : DistinctModels candidates) (weights : PolicyWeights) :
    scoreCandidates candidates weights = scoreCandidates reordered weights := by
  rw [scoreCandidates_by, scoreCandidates_by]
  have scored := (scoreCandidatesBy_perm (fun x => roundTo x 4) candidates weights)
  have scoredToo := (scoreCandidatesBy_perm (fun x => roundTo x 4) reordered weights)
  rw [← boundsOf_perm perm] at scoredToo
  refine List.Perm.eq_of_pairwise (fun a b first second le ge => ?_)
    (scoreCandidatesBy_sorted _ candidates weights) (scoreCandidatesBy_sorted _ reordered weights)
    (scored.trans ((perm.map _).trans scoredToo.symm))
  obtain ⟨c, listed, rfl⟩ := List.mem_map.mp (scored.mem_iff.mp first)
  obtain ⟨d, listedToo, rfl⟩ := List.mem_map.mp (scoredToo.mem_iff.mp second)
  have keys := le_antisymm le ge
  simp only [ScoredCandidate.sortKey, EmbeddingLike.apply_eq_iff_eq, Prod.mk.injEq] at keys
  have names : (c.provider, c.model) = (d.provider, d.model) := Prod.ext_iff.mpr keys.2.2.2.2.2
  rw [List.inj_on_of_nodup_map distinct listed (perm.mem_iff.mpr listedToo) names]

/-! ## What is chosen -/

theorem filtered_nil_iff (keep : RoutingCandidate → Bool) :
    candidates.filter keep = [] ↔ reordered.filter keep = [] :=
  perm_nil_iff (perm.filter keep)

/-- A pool of the healthy candidates, if any is, is ranked alike. -/
theorem healthyPool_reordered (distinct : DistinctModels candidates) (weights : PolicyWeights) :
    scoreCandidates (if candidates.filter (·.isHealthy) ≠ [] then candidates.filter (·.isHealthy)
        else candidates) weights =
      scoreCandidates (if reordered.filter (·.isHealthy) ≠ [] then reordered.filter (·.isHealthy)
        else reordered) weights := by
  have healthy := filtered_nil_iff perm (·.isHealthy)
  by_cases none : candidates.filter (·.isHealthy) = []
  · rw [if_neg (not_not.mpr none), if_neg (not_not.mpr (healthy.mp none))]
    exact scoreCandidates_reordered perm distinct weights
  · rw [if_pos none, if_pos (none ∘ healthy.mpr)]
    exact scoreCandidates_reordered (perm.filter _) (distinct.filter _) weights

theorem ofProvider_perm (request : ChatCompletionRequest) :
    (ofProvider request candidates).Perm (ofProvider request reordered) := by
  unfold ofProvider
  dsimp only
  split_ifs
  · exact perm.filter _
  · exact perm

theorem capableCandidates_perm (request : ChatCompletionRequest) :
    (capableCandidates request candidates).Perm (capableCandidates request reordered) := by
  unfold capableCandidates
  split_ifs
  · exact (ofProvider_perm perm request).filter _
  · exact ofProvider_perm perm request

end Order

section Choice
variable (engine : RoutingEngine) (request : ChatCompletionRequest)
variable {candidates reordered : List RoutingCandidate} (perm : candidates.Perm reordered)
variable (distinct : DistinctModels candidates)

include perm distinct

theorem rankingPool_reordered (weights : PolicyWeights) :
    scoreCandidates (rankingPool request candidates) weights =
      scoreCandidates (rankingPool request reordered) weights := by
  have listed : DistinctModels (capableCandidates request candidates) := by
    unfold capableCandidates ofProvider
    dsimp only
    split_ifs
    · exact (distinct.filter _).filter _
    · exact distinct.filter _
    · exact distinct.filter _
    · exact distinct
  exact healthyPool_reordered (capableCandidates_perm perm request) listed weights

theorem route_reordered : engine.route request candidates = engine.route request reordered := by
  by_cases manual : engine.resolveRoutingMode request = .manual
  · unfold RoutingEngine.route
    rw [if_pos manual, if_pos manual]
  · rw [route_eq engine request candidates manual, route_eq engine request reordered manual]
    simp only [perm_nil_iff perm, perm_nil_iff (ofProvider_perm perm request),
      perm_nil_iff (capableCandidates_perm perm request),
      rankingPool_reordered request perm distinct]

/-- The failover selector ranks its available candidates alike. -/
theorem rankFirst_reordered :
    Reliability.rankFirst engine request candidates =
      Reliability.rankFirst engine request reordered := by
  unfold Reliability.rankFirst filterByCapabilities
  dsimp only
  by_cases required : request.requiredCaps ≠ []
  · simp only [if_pos required]
    rw [healthyPool_reordered (perm.filter _) (distinct.filter _)]
  · simp only [if_neg required]
    rw [healthyPool_reordered perm distinct]

/-- Where the breakers have a trial for each of their candidates, so does its choice. -/
theorem selectFallback_reordered (circuits : Reliability.CircuitBreakerRegistry)
    (attemptedProviders : List String) (now : ℚ)
    (enough : ∀ c ∈ candidates, Reliability.trialsFor circuits now c ≠ 0 →
      Reliability.candidatesOf (Reliability.CircuitBreakerRegistry.key c.provider) candidates ≤
        Reliability.trialsFor circuits now c) :
    (Reliability.selectFallback engine circuits request attemptedProviders candidates now).1 =
      (Reliability.selectFallback engine circuits request attemptedProviders reordered now).1 := by
  have fewer : ∀ l : List RoutingCandidate, ∀ breakerKey,
      Reliability.candidatesOf breakerKey (Reliability.eligible attemptedProviders l) ≤
        Reliability.candidatesOf breakerKey l := fun l _ =>
    List.Sublist.countP_le List.filter_sublist
  have alike : ∀ breakerKey, Reliability.candidatesOf breakerKey candidates =
      Reliability.candidatesOf breakerKey reordered := fun _ => perm.countP_eq _
  rw [Reliability.selected_of_enough, Reliability.selected_of_enough]
  · exact rankFirst_reordered engine request ((perm.filter _).filter _)
      ((distinct.filter _).filter _)
  · intro c member trial
    have covered := enough c (perm.mem_iff.mpr (List.mem_of_mem_filter member)) trial
    rw [alike] at covered
    exact (fewer reordered _).trans covered
  · intro c member trial
    exact (fewer candidates _).trans (enough c (List.mem_of_mem_filter member) trial)

omit perm distinct in
theorem awaitShared_bind {σ τ α : Type} (discover : EStateM Exc σ Unit) (found : α) :
    (awaitShared (discover >>= fun _ => pure found) : ServiceM σ τ α) =
      awaitShared discover >>= fun _ => pure found := by
  funext world
  simp only [awaitShared, bind, EStateM.bind, EStateM.run]
  cases discover world.shared <;> rfl

theorem downgrade_reordered {σ τ : Type} (svc : Collaborators σ τ)
    (discover : EStateM Exc σ Unit) (budgetService : BudgetClient (σ × τ)) (cost : CostClient)
    (context : RequestContext) (target : Target) (estimatedCost : ℚ) :
    ChatService.attemptBudgetDowngrade
        { svc with buildCandidates := discover >>= fun _ => pure candidates } request budgetService
          cost context target estimatedCost =
      ChatService.attemptBudgetDowngrade
        { svc with buildCandidates := discover >>= fun _ => pure reordered } request budgetService
          cost context target estimatedCost := by
  have same : ∀ remaining,
      scoreCandidates (candidates.filter (affordable cost request target remaining))
          defaultWeights =
        scoreCandidates (reordered.filter (affordable cost request target remaining))
          defaultWeights := fun remaining =>
    scoreCandidates_reordered (perm.filter _) (distinct.filter _) defaultWeights
  unfold ChatService.attemptBudgetDowngrade
  simp only [awaitShared_bind, bind_assoc, pure_bind, same]

end Choice

/-- What is made of two lists of candidates is the same: the ranking with its
scores, the decision of the router, the choice of the failover selector among
available candidates, also after it has asked the breakers, and the outcome of the
downgrade, whatever else discovery does. -/
structure ChosenAlike (candidates reordered : List RoutingCandidate) : Prop where
  ranking : ∀ weights, scoreCandidates candidates weights = scoreCandidates reordered weights
  routing : ∀ (engine : RoutingEngine) request,
    engine.route request candidates = engine.route request reordered
  failover : ∀ engine request, Reliability.rankFirst engine request candidates =
    Reliability.rankFirst engine request reordered
  fallback : ∀ engine circuits request attemptedProviders now,
    (∀ c ∈ candidates, Reliability.trialsFor circuits now c ≠ 0 →
      Reliability.candidatesOf (Reliability.CircuitBreakerRegistry.key c.provider) candidates ≤
        Reliability.trialsFor circuits now c) →
    (Reliability.selectFallback engine circuits request attemptedProviders candidates now).1 =
      (Reliability.selectFallback engine circuits request attemptedProviders reordered now).1
  downgrade : ∀ {σ τ : Type} (svc : Collaborators σ τ) (discover : EStateM Exc σ Unit) request
    budgetService cost context target estimatedCost,
    ChatService.attemptBudgetDowngrade
        { svc with buildCandidates := discover >>= fun _ => pure candidates } request budgetService
          cost context target estimatedCost =
      ChatService.attemptBudgetDowngrade
        { svc with buildCandidates := discover >>= fun _ => pure reordered } request budgetService
          cost context target estimatedCost

end CortexGateway
