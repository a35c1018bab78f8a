import CortexGateway.Services.Downgrade
import CortexGateway.Routing.Ranking

/-! # The downgrade and the cheapest candidate

`_attempt_budget_downgrade` ranks what it can afford by the balanced score of the
router.  What it picks is compared with the candidate of the least estimate. -/
set_option autoImplicit false
namespace CortexGateway
open Budgeting

namespace ChatService
variable (svc : Collaborators BudgetTable AsyncSession) (request : ChatCompletionRequest)
variable (cost : CostClient) (present : RequestContext) (target : Target)
variable (reservedAt settledAt : Datetime)

def priceOf (c : RoutingCandidate) : ℚ := cost.estimateCost c.provider c.model request

/-- Healthy, capable and within what is left. -/
def fits (remaining : ℚ) (c : RoutingCandidate) : Bool :=
  c.isHealthy && (request.requiredCaps.all fun r => (c.capabilities.map lower).contains (lower r)) &&
    priceOf request cost c ≤ remaining

/-- A candidate that fits replaces the target, and none that fits costs less. -/
def IsCheapest (remaining : ℚ) (candidates : List RoutingCandidate) (chosen : Target) : Prop :=
  ∃ c ∈ candidates, chosen = replaced target c ∧ fits request cost remaining c = true ∧
    ∀ other ∈ candidates, fits request cost remaining other = true →
      priceOf request cost c ≤ priceOf request cost other

/-- Whatever replaces the target is the cheapest candidate that fits. -/
def DowngradesToCheapest (world : World BudgetTable AsyncSession) (row : Budget)
    (candidates : List RoutingCandidate) : Prop :=
  ∀ quote quoted,
    (downgrade svc request cost present target reservedAt settledAt).run world = .ok quote quoted →
      quote.budgetDowngraded = true →
        IsCheapest request cost target row.remainingAmount candidates quote.target

/-- Every candidate of the pool that is not the cheapest stands behind one that is. -/
def CheapestStandsFirst (pool : List RoutingCandidate) : Prop :=
  ∀ dear ∈ pool, (∃ c ∈ pool, priceOf request cost c < priceOf request cost dear) →
    ∃ cheapest ∈ pool, (∀ c ∈ pool, priceOf request cost cheapest ≤ priceOf request cost c) ∧
      rank (boundsOf pool) cheapest < rank (boundsOf pool) dear

/-- What the target costs is beyond what is left, so leaving the target out
leaves nothing out that fits. -/
theorem affordable_eq_fits {remaining : ℚ} (beyond : remaining < costOf request cost target)
    (c : RoutingCandidate) :
    affordable cost request target remaining c = fits request cost remaining c := by
  by_cases original : c.provider = target.provider ∧ c.model = target.model
  · have dear : ¬priceOf request cost c ≤ remaining := by
      rw [priceOf, original.1, original.2, not_le]
      exact beyond
    simp [affordable, fits, dear, original]
  · have other : (decide (c.provider = target.provider) && decide (c.model = target.model)) = false :=
      by simpa using original
    simp only [affordable, fits, other, Bool.not_false, Bool.and_true]
    rfl

theorem priceOf_replaced {c d : RoutingCandidate} (same : replaced target c = replaced target d) :
    priceOf request cost c = priceOf request cost d := by
  rw [priceOf, priceOf, show c.provider = d.provider from congrArg Target.provider same,
    show c.model = d.model from congrArg Target.model same]

/-- The first of the pool is a cheapest one exactly where the cheapest stand first. -/
theorem first_cheapest_iff {pool : List RoutingCandidate} {first : RoutingCandidate}
    (member : first ∈ pool)
    (leads : ∀ c ∈ pool, rank (boundsOf pool) first ≤ rank (boundsOf pool) c) :
    (∀ c ∈ pool, priceOf request cost first ≤ priceOf request cost c) ↔
      CheapestStandsFirst request cost pool := by
  constructor
  · intro cheapest dear inPool cheaper
    obtain ⟨c, listed, less⟩ := cheaper
    refine ⟨first, member, cheapest, lt_of_le_of_ne (leads dear inPool) fun alike => ?_⟩
    obtain ⟨provider, model⟩ := names_of_rank alike
    have price : priceOf request cost first = priceOf request cost dear := by
      rw [priceOf, priceOf, provider, model]
    exact absurd (cheapest c listed) (not_le.mpr (price ▸ less))
  · intro stands c listed
    by_contra dearer
    obtain ⟨cheapest, inPool, -, before⟩ := stands first member ⟨c, listed, not_le.mp dearer⟩
    exact absurd (leads cheapest inPool) (not_le.mpr before)

/-- The downgrade finds the cheapest candidate exactly where the target is kept, or
the balanced ranking of what fits puts the cheapest first. -/
theorem downgradesToCheapest_iff (world : World BudgetTable AsyncSession)
    (fresh : world.session = .fresh) (row : Budget)
    (found : world.shared present.teamId = some row) (enabled : row.enabled = true)
    (candidates : List RoutingCandidate) (shared : BudgetTable)
    (listed : svc.buildCandidates.run world.shared = .ok candidates shared) :
    DowngradesToCheapest svc request cost present target reservedAt settledAt world row candidates ↔
      costOf request cost target ≤ row.remainingAmount ∨
        CheapestStandsFirst request cost
          (candidates.filter (fits request cost row.remainingAmount)) := by
  by_cases affords : costOf request cost target ≤ row.remainingAmount
  · refine iff_of_true (fun quote quoted returned downgraded => ?_) (.inl affords)
    rw [downgrade_affords svc request cost present target reservedAt settledAt world fresh row found
      affords] at returned
    cases returned
    cases downgraded
  · rw [or_iff_right affords]
    have ran := run_downgrade_beyond svc request cost present target reservedAt settledAt world fresh
      row found enabled (not_le.mp affords) candidates shared listed
    rw [List.filter_congr fun c _ => affordable_eq_fits request cost target (not_le.mp affords) c]
      at ran
    generalize pooled : candidates.filter (fits request cost row.remainingAmount) = pool at ran ⊢
    have inPool : ∀ c, c ∈ pool ↔ c ∈ candidates ∧ fits request cost row.remainingAmount c = true := by
      intro c
      rw [← pooled, List.mem_filter]
    cases ranked : scoreCandidates pool defaultWeights with
    | nil =>
        have empty := scoreCandidates_eq_nil pool defaultWeights ranked
        rw [ranked] at ran
        refine iff_of_true (fun quote quoted returned _ => ?_) fun dear member => ?_
        · rw [ran] at returned
          cases returned
        · rw [empty] at member
          cases member
    | cons best rest =>
        rw [ranked] at ran
        obtain ⟨scored, member, least⟩ := scoreCandidates_first ranked
        have healthy : ∀ c ∈ pool, c.isHealthy = true := by
          intro c listedToo
          have suits := ((inPool c).mp listedToo).2
          simp only [fits, Bool.and_eq_true] at suits
          exact suits.1.1
        have leads : ∀ c ∈ pool, rank (boundsOf pool) best.candidate ≤ rank (boundsOf pool) c := by
          intro c listedToo
          have before := least c listedToo
          rw [scored] at before
          exact rank_le_of_sortKey (healthy _ member) (healthy c listedToo) before
        rw [← first_cheapest_iff request cost member leads]
        constructor
        · intro cheapest c listedToo
          obtain ⟨chosen, -, same, -, least⟩ := cheapest _ _ ran rfl
          rw [priceOf_replaced request cost target same]
          exact least c ((inPool c).mp listedToo).1 ((inPool c).mp listedToo).2
        · intro cheapest quote quoted returned _
          rw [ran] at returned
          cases returned
          exact ⟨best.candidate, ((inPool _).mp member).1, rfl, ((inPool _).mp member).2,
            fun other listedToo suits => cheapest other ((inPool other).mpr ⟨listedToo, suits⟩)⟩

end ChatService

/-! ## A slow cheap model and a fast dear one -/

open ChatService

def cents (n : ℕ) : NNRat := n / (100 : ℕ)

/-- A model of Groq, its two prices alike. -/
def groqModel (model : String) (price : NNRat) (latency : ℚ) : RoutingCandidate :=
  ⟨"groq", model, ["text"], 8192, price, true, latency, none, 1, 0⟩

def groqPrices (model : String) (price : NNRat) : ModelMetadata :=
  ⟨"groq", model, price, price, price, ["text"], 8192, 500, price.coe_nonneg, price.coe_nonneg,
    price.coe_nonneg⟩

/-- A dollar, a cent or two cents a thousand tokens. -/
def groqCalculator : CostCalculator :=
  ⟨⟨fun key =>
      if key = "groq:large" then some (groqPrices "large" 1)
      else if key = "groq:slow" then some (groqPrices "slow" (cents 1))
      else if key = "groq:fast" then some (groqPrices "fast" (cents 2))
      else none, 0, free_nonneg⟩⟩

def largeTarget : Target := ⟨"groq", "large", .manual⟩

def groqModels (slowLatency : ℚ) : List RoutingCandidate :=
  [groqModel "slow" (cents 1) slowLatency, groqModel "fast" (cents 2) 100]

/-- What a run has downgraded to. -/
def downgradedTo {σ : Type} : EStateM.Result Exc σ Quote → Option Target
  | .ok quote _ => if quote.budgetDowngraded then some quote.target else none
  | .error .. => none

/-- With ten cents left the fast model is chosen, at twice the price of the slow one. -/
theorem fast_model_chosen :
    ¬DowngradesToCheapest (downgrading april (groqModels 2000)) hello (costClient groqCalculator)
      member largeTarget april april (aprilWorld (99/10)) (aprilBudget (99/10))
      (groqModels 2000) := by
  intro cheapest
  have fast : downgradedTo ((downgrade (downgrading april (groqModels 2000)) hello
      (costClient groqCalculator) member largeTarget april april).run (aprilWorld (99/10))) =
        some ⟨"groq", "fast", .manual⟩ := by decide +kernel
  cases ran : (downgrade (downgrading april (groqModels 2000)) hello
      (costClient groqCalculator) member largeTarget april april).run (aprilWorld (99/10)) with
  | ok quote quoted =>
      rw [ran, downgradedTo] at fast
      obtain ⟨downgraded, target⟩ := Option.ite_none_right_eq_some.mp fast
      obtain ⟨c, -, same, -, least⟩ := cheapest quote quoted ran downgraded
      have chosen : c.provider = "groq" ∧ c.model = "fast" := by
        rw [Option.some.inj target] at same
        exact ⟨(congrArg Target.provider same).symm, (congrArg Target.model same).symm⟩
      have slow := least (groqModel "slow" (cents 1) 2000) List.mem_cons_self (by decide +kernel)
      rw [priceOf, chosen.1, chosen.2] at slow
      revert slow
      decide +kernel
  | error exc after =>
      rw [ran] at fast
      cases fast

theorem slow_model_chosen :
    DowngradesToCheapest (downgrading april (groqModels 150)) hello (costClient groqCalculator)
      member largeTarget april april (aprilWorld (99/10)) (aprilBudget (99/10)) (groqModels 150) :=
  (downgradesToCheapest_iff (downgrading april (groqModels 150)) hello (costClient groqCalculator)
    member largeTarget april april (aprilWorld (99/10)) rfl (aprilBudget (99/10)) rfl rfl
    (groqModels 150) (aprilWorld (99/10)).shared rfl).mpr (.inr (by
      unfold CheapestStandsFirst
      decide +kernel))

end CortexGateway
