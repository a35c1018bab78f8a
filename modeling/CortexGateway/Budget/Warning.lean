import CortexGateway.Budget.Rejection

/-! # The warning beside the rejection

The BLOCK branch of `check_and_reserve` counts what is reserved for requests in
flight, the WARN branch does not.  One row is put under either policy. -/
set_option autoImplicit false
namespace CortexGateway.Budgeting

/-- The row under another policy, found by a session that holds nothing yet. -/
def underPolicy (budgets : BudgetTable) (teamId : String) (row : Budget) (policy : BudgetPolicy) :
    Store :=
  ⟨setRow budgets teamId (some { row with policy := policy }), .fresh⟩

def BlockRejects (budgets : BudgetTable) (teamId : String) (row : Budget) (estimatedCost : ℚ)
    (percent : ℕ) (now : Datetime) : Prop :=
  ∃ exc after, (checkAndReserve teamId estimatedCost percent now).run
    (underPolicy budgets teamId row .BLOCK) = .error exc after

def WarnWarns (budgets : BudgetTable) (teamId : String) (row : Budget) (estimatedCost : ℚ)
    (percent : ℕ) (now : Datetime) : Prop :=
  ∃ budget after, (checkAndReserve teamId estimatedCost percent now).run
    (underPolicy budgets teamId row .WARN) = .ok (budget, true) after

/-- The estimate fits beside the reservations, or already the usage without them
is over the limit or at the threshold. -/
def TellsWithoutReserved (row : Budget) (estimatedCost : ℚ) (percent : ℕ) : Prop :=
  row.currentUsage + row.reserved + estimatedCost ≤ row.limitAmount ∨
    row.limitAmount < row.currentUsage + estimatedCost ∨
    if 0 < row.limitAmount then
      percent * row.limitAmount ≤ (row.currentUsage + estimatedCost) * 100
    else percent = 0

theorem underPolicy_found (budgets : BudgetTable) (teamId : String) (row : Budget)
    (policy : BudgetPolicy) :
    (underPolicy budgets teamId row policy).budgets teamId =
      some { row with policy := policy } := setRow_self ..

theorem underPolicy_disabled {row : Budget} (disabled : row.enabled = false)
    (budgets : BudgetTable) (teamId : String) (policy : BudgetPolicy) :
    ∀ other, (underPolicy budgets teamId row policy).budgets teamId = some other →
      other.enabled = false := by
  intro other found
  rw [underPolicy_found] at found
  cases Option.some.inj found
  exact disabled

theorem rolledOver_underPolicy (row : Budget) (policy : BudgetPolicy) (now : Datetime) :
    rolledOver { row with policy := policy } now = { rolledOver row now with policy := policy } := by
  unfold rolledOver
  split_ifs <;> first | rfl | contradiction

theorem blockRejects_iff (budgets : BudgetTable) (teamId : String) (row : Budget)
    (enabled : row.enabled = true) (estimatedCost : ℚ) (percent : ℕ) (now : Datetime) :
    BlockRejects budgets teamId row estimatedCost percent now ↔
      (rolledOver row now).exceeds estimatedCost = true := by
  have decides : rejects { row with policy := .BLOCK } estimatedCost now =
      (rolledOver row now).exceeds estimatedCost := by
    rw [rejects, rolledOver_underPolicy]
    simp [BudgetPolicy.enforces, Budget.exceeds]
  cases decision : (rolledOver row now).exceeds estimatedCost with
  | true =>
      have raised := checkAndReserve_rejects teamId estimatedCost percent now
        (underPolicy budgets teamId row .BLOCK) _ (underPolicy_found ..) enabled rfl
        (decides.trans decision)
      exact ⟨fun _ => rfl, fun _ => ⟨_, _, raised⟩⟩
  | false =>
      have admitted := checkAndReserve_admits teamId estimatedCost percent now
        (underPolicy budgets teamId row .BLOCK) _ (underPolicy_found ..) enabled rfl
        (decides.trans decision)
      simp [BlockRejects, admitted]

theorem warnWarns_iff (budgets : BudgetTable) (teamId : String) (row : Budget)
    (enabled : row.enabled = true) (estimatedCost : ℚ) (percent : ℕ) (now : Datetime) :
    WarnWarns budgets teamId row estimatedCost percent now ↔
      warns (rolledOver row now) estimatedCost percent = true := by
  have admitted := checkAndReserve_admits teamId estimatedCost percent now
    (underPolicy budgets teamId row .WARN) _ (underPolicy_found ..) enabled rfl rfl
  have flag : budgetWarning { row with policy := .WARN } estimatedCost percent now =
      warns (rolledOver row now) estimatedCost percent := by
    rw [budgetWarning, rolledOver_underPolicy]
    simp [BudgetPolicy.enforces, warns]
  simp [WarnWarns, admitted, flag]

theorem warns_iff (row : Budget) (estimatedCost : ℚ) (percent : ℕ) :
    warns row estimatedCost percent = true ↔
      row.limitAmount < row.currentUsage + estimatedCost ∨
        if 0 < row.limitAmount then
          percent * row.limitAmount ≤ (row.currentUsage + estimatedCost) * 100
        else percent = 0 := by
  unfold warns
  rw [Bool.or_eq_true, decide_eq_true_eq, decide_eq_true_eq]
  refine or_congr_right ?_
  split_ifs with positive
  · rw [div_mul_eq_mul_div, le_div_iff₀ positive]
  · simp

theorem tells_iff (row : Budget) (estimatedCost : ℚ) (percent : ℕ) :
    (row.exceeds estimatedCost = true → warns row estimatedCost percent = true) ↔
      TellsWithoutReserved row estimatedCost percent := by
  rw [warns_iff, Budget.exceeds, decide_eq_true_eq, imp_iff_not_or, not_lt, TellsWithoutReserved]

/-- A rollover clears the reservations, and then both branches compare alike. -/
theorem tells_expired {row : Budget} {now : Datetime} (expired : row.isPeriodExpired now = true)
    (estimatedCost : ℚ) (percent : ℕ) :
    TellsWithoutReserved (rolledOver row now) estimatedCost percent := by
  rw [← tells_iff, warns_iff]
  intro exceeding
  simp only [Budget.exceeds, rolledOver, expired, if_true, decide_eq_true_eq,
    add_zero] at exceeding ⊢
  exact Or.inl exceeding

/-- WARN warns wherever BLOCK rejects exactly on the rows that are disabled or
expired, or whose reservations do not decide. -/
theorem warnsWheneverBlocked_iff (budgets : BudgetTable) (teamId : String) (row : Budget)
    (estimatedCost : ℚ) (percent : ℕ) (now : Datetime) :
    (BlockRejects budgets teamId row estimatedCost percent now →
        WarnWarns budgets teamId row estimatedCost percent now) ↔
      row.enabled = false ∨ row.isPeriodExpired now = true ∨
        TellsWithoutReserved row estimatedCost percent := by
  cases enabled : row.enabled with
  | false =>
      have unbudgeted := checkAndReserve_unbudgeted teamId estimatedCost percent now _
        (underPolicy_disabled enabled budgets teamId .BLOCK)
      simp [BlockRejects, unbudgeted]
  | true =>
      rw [blockRejects_iff budgets teamId row enabled, warnWarns_iff budgets teamId row enabled,
        tells_iff]
      cases expired : row.isPeriodExpired now with
      | true => simp [tells_expired expired]
      | false => simp [rolledOver_running row now expired]

/-- Ten dollars a month, nothing spent, nine and a half reserved for requests in flight. -/
def busy : Budget :=
  { created "team-1" "budget-1" (tenDollars .monthly .WARN) january with
    reserved := 19 / 2 }

/-- One dollar more: BLOCK rejects it, WARN at 80 percent is silent. -/
theorem busy_not_warned :
    BlockRejects (fun _ => none) "team-1" busy 1 80 busy.periodStart ∧
      ¬WarnWarns (fun _ => none) "team-1" busy 1 80 busy.periodStart := by
  rw [blockRejects_iff _ _ _ rfl, warnWarns_iff _ _ _ rfl]
  decide +kernel

end CortexGateway.Budgeting
