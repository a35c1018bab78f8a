import CortexGateway.Services.PolicyAction

/-! # The downgrade and the reservation

`_attempt_budget_downgrade` reads the row before `check_and_reserve` does, by
another formula and without the rollover.  What it lets pass, and what it
rejects, is compared with what the reservation would have decided. -/
set_option autoImplicit false
namespace CortexGateway
open Budgeting Exits

/-! ## Two formulas for one test -/

namespace Budgeting.Budget
variable (budget : Budget) (estimatedCost : ℚ)

theorem exceeds_of_within (within : budget.currentUsage + budget.reserved ≤ budget.limitAmount)
    (fits : estimatedCost ≤ budget.remainingAmount) : budget.exceeds estimatedCost = false := by
  have positive : 0 ≤ budget.limitAmount - budget.currentUsage - budget.reserved := by linarith
  rw [remainingAmount, max_eq_right positive] at fits
  rw [exceeds, decide_eq_false_iff_not, not_lt]
  linarith

theorem remainingAmount_overdrawn
    (overdrawn : budget.limitAmount < budget.currentUsage + budget.reserved) :
    budget.remainingAmount = 0 := by
  apply max_eq_left
  linarith

/-- Beyond the limit even a request that costs nothing exceeds it. -/
theorem exceeds_overdrawn (overdrawn : budget.limitAmount < budget.currentUsage + budget.reserved)
    (nonneg : 0 ≤ estimatedCost) : budget.exceeds estimatedCost = true := by
  rw [exceeds, decide_eq_true_eq]
  linarith

end Budgeting.Budget

theorem scoreCandidates_eq_nil (candidates : List RoutingCandidate) (weights : PolicyWeights)
    (unranked : scoreCandidates candidates weights = []) : candidates = [] := by
  have same := scoreCandidates_length candidates weights
  rw [unranked] at same
  exact List.eq_nil_of_length_eq_zero same.symm

namespace ChatService
variable (svc : Collaborators BudgetTable AsyncSession) (request : ChatCompletionRequest)
variable (cost : CostClient) (present : RequestContext) (target : Target)
variable (reservedAt settledAt : Datetime)

/-! ## The downgrade on the row it reads -/

def costOf (target : Target) : ℚ := cost.estimateCost target.provider target.model request

/-- The downgrade of a target at its own estimate. -/
abbrev downgrade : ServiceM BudgetTable AsyncSession Quote :=
  attemptBudgetDowngrade svc request (budgetClient reservedAt settledAt) cost present target
    (costOf request cost target)

/-- The target with the provider and the model of a candidate. -/
def replaced (c : RoutingCandidate) : Target :=
  { target with provider := c.provider, model := c.model }

/-- The target or a candidate fits in what the row has left. -/
def Findable (remaining : ℚ) (candidates : List RoutingCandidate) : Prop :=
  costOf request cost target ≤ remaining ∨
    ∃ c ∈ candidates, affordable cost request target remaining c = true

theorem affordable_estimate (remaining : ℚ) (c : RoutingCandidate)
    (affords : affordable cost request target remaining c = true) :
    costOf request cost (replaced target c) ≤ remaining := by
  simp only [affordable, Bool.and_eq_true, decide_eq_true_eq] at affords
  exact affords.2

section Row
variable (world : World BudgetTable AsyncSession) (fresh : world.session = .fresh) (row : Budget)
variable (found : world.shared present.teamId = some row) (enabled : row.enabled = true)

theorem run_awaitGetBudget (teamId : String) (fresh : world.session = .fresh) :
    (awaitSession ((budgetClient reservedAt settledAt).getBudget teamId) :
      ServiceM BudgetTable AsyncSession (Option Budget)).run world =
        .ok (world.shared teamId) world := by
  obtain ⟨shared, session, calls⟩ := world
  cases fresh
  apply run_onSession (getBudget teamId) ⟨shared, .fresh, calls⟩ (shared teamId) ⟨shared, .fresh⟩
  cases row : shared teamId with
  | none => simp [getBudget, row]
  | some row => simp [getBudget, row, Instance.ofRow]

include fresh found

theorem downgrade_affords (fits : costOf request cost target ≤ row.remainingAmount) :
    (downgrade svc request cost present target reservedAt settledAt).run world =
      .ok ⟨target, costOf request cost target, false⟩ world := by
  unfold downgrade attemptBudgetDowngrade
  rw [EStateM.run_bind, run_awaitGetBudget reservedAt settledAt world present.teamId fresh, found]
  simp [fits]

include enabled in
/-- Beyond the remaining amount the best affordable candidate replaces the target. -/
theorem run_downgrade_beyond (beyond : row.remainingAmount < costOf request cost target)
    (candidates : List RoutingCandidate) (shared : BudgetTable)
    (listed : svc.buildCandidates.run world.shared = .ok candidates shared) :
    (downgrade svc request cost present target reservedAt settledAt).run world =
      match scoreCandidates
        (candidates.filter (affordable cost request target row.remainingAmount)) defaultWeights with
      | [] => .error (.budgetExceeded ("Budget exhausted and no cheaper compatible provider " ++
          "found. Remaining: $" ++ formatFixed6 row.remainingAmount ++ ".") present.teamId
            row.remainingAmount) { world with shared := shared }
      | best :: _ => .ok ⟨replaced target best.candidate,
          costOf request cost (replaced target best.candidate), true⟩
            { world with shared := shared } := by
  have waits : (awaitShared svc.buildCandidates :
      ServiceM BudgetTable AsyncSession (List RoutingCandidate)).run world =
        .ok candidates { world with shared := shared } := by
    simp only [awaitShared, EStateM.run] at listed ⊢
    rw [listed]
  unfold downgrade attemptBudgetDowngrade
  rw [EStateM.run_bind, run_awaitGetBudget reservedAt settledAt world present.teamId fresh, found]
  simp only [enabled, Bool.not_true, Bool.false_or, decide_eq_true_eq, not_le.mpr beyond,
    if_false]
  rw [EStateM.run_bind, waits]
  dsimp only
  cases scoreCandidates
    (candidates.filter (affordable cost request target row.remainingAmount)) defaultWeights <;> rfl

include enabled in
/-- Beyond the remaining amount some affordable candidate replaces the target;
without one the request is rejected on the row as it was read. -/
theorem downgrade_seeks (beyond : row.remainingAmount < costOf request cost target)
    (candidates : List RoutingCandidate) (shared : BudgetTable)
    (listed : svc.buildCandidates.run world.shared = .ok candidates shared) :
    (∃ c ∈ candidates, affordable cost request target row.remainingAmount c = true ∧
      (downgrade svc request cost present target reservedAt settledAt).run world =
        .ok ⟨replaced target c, costOf request cost (replaced target c), true⟩
          { world with shared := shared }) ∨
    ((∀ c ∈ candidates, affordable cost request target row.remainingAmount c = false) ∧
      ∃ message, (downgrade svc request cost present target reservedAt settledAt).run world =
        .error (.budgetExceeded message present.teamId row.remainingAmount)
          { world with shared := shared }) := by
  have ran := run_downgrade_beyond svc request cost present target reservedAt settledAt world fresh
    row found enabled beyond candidates shared listed
  cases ranked : scoreCandidates
      (candidates.filter (affordable cost request target row.remainingAmount)) defaultWeights with
  | nil =>
      right
      rw [ranked] at ran
      refine ⟨fun c member => ?_, _, ran⟩
      have empty := scoreCandidates_eq_nil _ _ ranked
      rw [← Bool.not_eq_true]
      exact List.filter_eq_nil_iff.mp empty c member
  | cons best rest =>
      left
      rw [ranked] at ran
      have first : best ∈ scoreCandidates
          (candidates.filter (affordable cost request target row.remainingAmount))
          defaultWeights := by
        rw [ranked]
        exact List.mem_cons_self
      have member := List.mem_filter.mp (scoreCandidates_mem _ _ best first)
      exact ⟨best.candidate, member.1, member.2, ran⟩

section Listed
variable (candidates : List RoutingCandidate) (shared : BudgetTable)
variable (listed : svc.buildCandidates.run world.shared = .ok candidates shared)
variable (alone : shared present.teamId = some row)

include listed

include enabled alone in
/-- What is returned fits in what the row has left and costs no more than the
target; the row is as it was read. -/
theorem downgrade_returned (quote : Quote) (quoted : World BudgetTable AsyncSession)
    (returned : (downgrade svc request cost present target reservedAt settledAt).run world =
      .ok quote quoted) :
    quote.estimatedCost = costOf request cost quote.target ∧
      quote.estimatedCost ≤ row.remainingAmount ∧
      quote.estimatedCost ≤ costOf request cost target ∧
      quoted.session = .fresh ∧ quoted.shared present.teamId = some row := by
  by_cases fits : costOf request cost target ≤ row.remainingAmount
  · rw [downgrade_affords svc request cost present target reservedAt settledAt world fresh row found
      fits] at returned
    cases returned
    exact ⟨rfl, fits, le_rfl, fresh, found⟩
  · rcases downgrade_seeks svc request cost present target reservedAt settledAt world fresh row found
      enabled (not_le.mp fits) candidates shared listed with ⟨c, -, affords, ran⟩ | ⟨-, _, ran⟩
    · rw [ran] at returned
      cases returned
      have estimate := affordable_estimate request cost target _ c affords
      exact ⟨rfl, estimate, estimate.trans (le_of_not_ge fits), fresh, alone⟩
    · rw [ran] at returned
      cases returned

include enabled in
theorem downgrade_returns
    (findable : Findable request cost target row.remainingAmount candidates) :
    ∃ quote quoted, (downgrade svc request cost present target reservedAt settledAt).run world =
      .ok quote quoted := by
  by_cases fits : costOf request cost target ≤ row.remainingAmount
  · exact ⟨_, _, downgrade_affords svc request cost present target reservedAt settledAt world fresh
      row found fits⟩
  · rcases downgrade_seeks svc request cost present target reservedAt settledAt world fresh row found
      enabled (not_le.mp fits) candidates shared listed with ⟨c, -, -, ran⟩ | ⟨dear, -⟩
    · exact ⟨_, _, ran⟩
    · obtain ⟨c, member, affords⟩ := findable.resolve_left fits
      rw [dear c member] at affords
      cases affords

include enabled in
theorem downgrade_refuses
    (unfindable : ¬ Findable request cost target row.remainingAmount candidates) :
    ∃ message, (downgrade svc request cost present target reservedAt settledAt).run world =
      .error (.budgetExceeded message present.teamId row.remainingAmount)
        { world with shared := shared } := by
  have beyond : row.remainingAmount < costOf request cost target :=
    not_le.mp fun fits => unfindable (Or.inl fits)
  rcases downgrade_seeks svc request cost present target reservedAt settledAt world fresh row found
    enabled beyond candidates shared listed with ⟨c, member, affords, -⟩ | ⟨-, refused⟩
  · exact absurd (Or.inr ⟨c, member, affords⟩) unfindable
  · exact refused

end Listed
end Row

/-! ## Affordable and admitted -/

/-- Whatever target the downgrade returns, the reservation of its estimate is
admitted, with no other request in between. -/
def AffordableIsAdmitted (percent : ℕ) (world : World BudgetTable AsyncSession) : Prop :=
  ∀ quote quoted,
    (downgrade svc request cost present target reservedAt settledAt).run world = .ok quote quoted →
      ∃ outcome after, (checkAndReserve present.teamId quote.estimatedCost percent reservedAt).run
        ⟨quoted.shared, quoted.session⟩ = .ok outcome after

/-- A running row that enforces its limit admits just what does not exceed it. -/
theorem admits_iff (percent : ℕ) (estimatedCost : ℚ) (shared : BudgetTable) (row : Budget)
    (found : shared present.teamId = some row) (enabled : row.enabled = true)
    (enforces : row.policy.enforces = true) (running : row.isPeriodExpired reservedAt = false) :
    (∃ outcome after, (checkAndReserve present.teamId estimatedCost percent reservedAt).run
        ⟨shared, .fresh⟩ = .ok outcome after) ↔ row.exceeds estimatedCost = false := by
  have decides : rejects row estimatedCost reservedAt = row.exceeds estimatedCost := by
    rw [rejects, enforces, Bool.true_and, rolledOver_running row reservedAt running]
  cases exceeds : row.exceeds estimatedCost with
  | true =>
      have rejected := checkAndReserve_rejects present.teamId estimatedCost percent reservedAt
        ⟨shared, .fresh⟩ row found enabled (load_fresh row) (decides.trans exceeds)
      simp [rejected]
  | false =>
      have admitted := checkAndReserve_admits present.teamId estimatedCost percent reservedAt
        ⟨shared, .fresh⟩ row found enabled (load_fresh row) (decides.trans exceeds)
      simp [admitted]

section Recovery
variable (settings : Settings) (policy : ResolvedPolicy) (requestId : String)

/-- The row after the first reservation of a new period. -/
def renewedRow (row : Budget) (estimatedCost : ℚ) : Budget :=
  { row with
    currentUsage := 0
    reserved := estimatedCost
    periodStart := reservedAt
    periodEnd := computePeriodEnd row.period reservedAt
    updatedAt := reservedAt }

/-- The request meets no budget exception, and its reservation starts a new
period of the row. -/
structure Recovers (row : Budget) (world : World BudgetTable AsyncSession) : Prop where
  unrejected : ¬ FailsWith Exc.isBudgetRejection
    ((complete svc settings policy request requestId (some present)).run world)
  rollsOver : ∃ reservation reserved,
    reservationOf svc settings policy request requestId (some present) world =
      some (reservation, reserved) ∧
    reserved.shared present.teamId =
      some (renewedRow reservedAt row reservation.quote.estimatedCost)

theorem reservedRow_expired (row : Budget) (estimatedCost : ℚ)
    (expired : row.isPeriodExpired reservedAt = true) :
    reservedRow row estimatedCost reservedAt = renewedRow reservedAt row estimatedCost := by
  simp [reservedRow, rolledOver, expired, renewedRow]

/-- What fits in the limit is admitted by an expired row, whatever was used. -/
theorem rejects_expired (row : Budget) (estimatedCost : ℚ)
    (expired : row.isPeriodExpired reservedAt = true) (fits : estimatedCost ≤ row.limitAmount) :
    rejects row estimatedCost reservedAt = false := by
  simp [rejects, rolledOver, expired, Budget.exceeds, fits]

theorem run_quote (own : svc.Own reservedAt settledAt) (calculator : svc.costCalculator = some cost)
    (on : budgeted svc settings (some present) = true)
    (downgrades : policy.budgetAction = .DOWNGRADE) :
    quote svc settings policy request (some present) target =
      downgrade svc request cost present target reservedAt settledAt := by
  obtain ⟨_, budgetService, _, same, service, -, switched⟩ :=
    services_of_budgeted svc settings (some present) on
  cases same
  rw [own.budget budgetService service] at service
  simp [quote, service, calculator, switched, downgrades, downgrade, costOf]

theorem run_prepare (world arrived : World BudgetTable AsyncSession) (admitted : Admitted)
    (arrives : (admission svc settings policy request requestId (some present)).run world =
      .ok (.inr admitted) arrived) :
    (prepare svc settings policy request requestId (some present)).run world =
      match (quote svc settings policy request (some present) admitted.target).run arrived with
      | .ok quote quoted => .ok (.inr (admitted, quote)) quoted
      | .error exc after => .error exc after := by
  unfold prepare
  rw [EStateM.run_bind, arrives]
  dsimp only
  rw [EStateM.run_bind]
  cases (quote svc settings policy request (some present) admitted.target).run arrived <;> rfl

/-- An expired DOWNGRADE row recovers exactly where what the ended period has
left of it would have paid for the target or for some candidate. -/
theorem recovers_iff (own : svc.Own reservedAt settledAt)
    (calculator : svc.costCalculator = some cost)
    (on : budgeted svc settings (some present) = true)
    (downgrades : policy.budgetAction = .DOWNGRADE)
    (world arrived : World BudgetTable AsyncSession) (unserved : Unserved world)
    (admitted : Admitted)
    (arrives : (admission svc settings policy request requestId (some present)).run world =
      .ok (.inr admitted) arrived)
    (row : Budget) (found : arrived.shared present.teamId = some row) (enabled : row.enabled = true)
    (expired : row.isPeriodExpired reservedAt = true)
    (within : costOf request cost admitted.target ≤ row.limitAmount)
    (candidates : List RoutingCandidate) (shared : BudgetTable)
    (listed : svc.buildCandidates.run arrived.shared = .ok candidates shared)
    (alone : shared present.teamId = some row) :
    Recovers svc request present reservedAt settings policy requestId row world ↔
      Findable request cost admitted.target row.remainingAmount candidates := by
  have still : Unserved arrived := (admission_keeps svc settings policy request requestId (some present)
    unserved_undisturbed own.others world unserved).returned arrives
  have prepared := run_prepare svc request present settings policy requestId world arrived admitted
    arrives
  rw [run_quote svc request cost present admitted.target reservedAt settledAt settings policy own
    calculator on downgrades] at prepared
  constructor
  · intro recovers
    by_contra unfindable
    obtain ⟨message, refused⟩ := downgrade_refuses svc request cost present admitted.target reservedAt
      settledAt arrived still.1 row found enabled candidates shared listed unfindable
    rw [refused] at prepared
    apply recovers.unrejected
    exact ⟨.budgetExceeded message present.teamId row.remainingAmount,
      { arrived with shared := shared }, run_complete_stopped svc settings policy request requestId
        (some present) world _ _ prepared, rfl⟩
  · intro findable
    obtain ⟨quote, quoted, returned⟩ := downgrade_returns svc request cost present admitted.target
      reservedAt settledAt arrived still.1 row found enabled candidates shared listed findable
    obtain ⟨-, -, cheaper, fresh, same⟩ := downgrade_returned svc request cost present admitted.target
      reservedAt settledAt arrived still.1 row found enabled candidates shared listed alone quote
      quoted returned
    rw [returned] at prepared
    have sees : SeesRow quoted.session row := by
      rw [fresh]
      exact load_fresh row
    have reserves := run_reserve svc settings reservedAt settledAt present quote quoted own on
    rw [checkAndReserve_admits present.teamId quote.estimatedCost
      settings.budgetWarningThresholdPercent reservedAt ⟨quoted.shared, quoted.session⟩ row same
      enabled sees (rejects_expired reservedAt row quote.estimatedCost expired
        (cheaper.trans within))] at reserves
    constructor
    · exact (complete_served svc settings policy request requestId (some present) reservedAt settledAt
        world own admitted quote _ quoted _ prepared reserves ⟨some _, rfl⟩).2
    · refine ⟨_, _, (reservationOf_eq_some svc settings policy request requestId (some present) world
        _ _).mpr ⟨admitted, quote, quoted, prepared, reserves⟩, ?_⟩
      simp only [checked, setRow_self]
      rw [reservedRow_expired reservedAt row quote.estimatedCost expired]

end Recovery

end ChatService

/-! ## A downgrading budget -/

open ChatService

def june : Datetime := .ofDate ⟨2026, 6, 1, by decide, by decide⟩

/-- The downgrading budget of ten dollars for April, this much of it used. -/
def aprilBudget (usage : ℚ) : Budget :=
  { unusedBudget with currentUsage := usage, policy := .DOWNGRADE }

def aprilWorld (usage : ℚ) : World BudgetTable AsyncSession :=
  { unusedWorld with
    shared := fun teamId => if teamId = "team-1" then some (aprilBudget usage) else none }

def downgradingPolicy : ResolvedPolicy := .merge { noSections with budgetAction := some .DOWNGRADE }

/-- A local model, which costs nothing. -/
def localModel : RoutingCandidate := ⟨"ollama", "phi", ["text"], 8192, 0, true, 300, none, 1, 0⟩

/-- One provider, and these candidates for a downgrade. -/
def downgrading (now : Datetime) (candidates : List RoutingCandidate) :
    Collaborators BudgetTable AsyncSession :=
  { oneProvider now (pure helloBack) with buildCandidates := pure candidates }

theorem downgrading_own (now : Datetime) (candidates : List RoutingCandidate) :
    (downgrading now candidates).Own now now := by
  have own := oneProvider_own now (pure helloBack) (fun _ _ _ raised => by cases raised)
  exact
    { budget := own.budget
      others := { own.others with buildCandidates := fun _ _ _ raised => by cases raised } }

def llamaTarget : Target := ⟨"groq", "llama", .manual⟩

/-- With its ten dollars used up in April, the budget rejects in June. -/
theorem spent_never_recovers :
    (aprilBudget 10).isPeriodExpired june = true ∧
      costOf hello (costClient ⟨llamaCatalog⟩) llamaTarget ≤ (aprilBudget 10).limitAmount ∧
      ¬ Recovers (downgrading june [llamaModel]) hello member june defaultSettings downgradingPolicy "req-1"
        (aprilBudget 10) (aprilWorld 10) := by
  refine ⟨by decide +kernel, by decide +kernel, fun recovers => ?_⟩
  have stopped : FailsWith Exc.isBudgetRejection
      ((complete (downgrading june [llamaModel]) defaultSettings downgradingPolicy hello "req-1"
        (some member)).run (aprilWorld 10)) := by decide +kernel
  exact recovers.unrejected stopped

/-- With six dollars left of April, it recovers. -/
theorem unspent_recovers :
    Recovers (downgrading june [llamaModel]) hello member june defaultSettings downgradingPolicy "req-1"
      (aprilBudget 4) (aprilWorld 4) :=
  (recovers_iff (downgrading june [llamaModel]) hello (costClient ⟨llamaCatalog⟩) member june june
    defaultSettings downgradingPolicy "req-1" (downgrading_own june [llamaModel]) rfl rfl rfl (aprilWorld 4)
    (aprilWorld 4) ⟨rfl, fun _ member => by cases member⟩ ⟨llamaTarget, none, none⟩ rfl
    (aprilBudget 4) rfl rfl (by decide +kernel) (by decide +kernel) [llamaModel]
    (aprilWorld 4).shared rfl
    rfl).mpr (Or.inl (by decide +kernel))

end CortexGateway
