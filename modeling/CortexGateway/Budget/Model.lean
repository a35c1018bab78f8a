import Mathlib
import CortexGateway.Core.Datetime

/-! # The budget row

`app/budget/models.py` and the request schemas of `app/budget/schemas.py`.
Money columns are exact rationals.  The three policies and the three periods
are the values the schemas admit. -/
set_option autoImplicit false
namespace CortexGateway.Budgeting

inductive BudgetPeriod
  | daily
  | weekly
  | monthly
  deriving DecidableEq, Repr

inductive BudgetPolicy
  | BLOCK
  | WARN
  | DOWNGRADE
  deriving DecidableEq, Repr

/-- A budget action that rejects: everything but `WARN`. -/
def BudgetPolicy.enforces : BudgetPolicy → Bool
  | .BLOCK => true
  | .WARN => false
  | .DOWNGRADE => true

structure Budget where
  id : String
  teamId : String
  limitAmount : ℚ
  currentUsage : ℚ
  reserved : ℚ
  period : BudgetPeriod
  periodStart : Datetime
  periodEnd : Datetime
  policy : BudgetPolicy
  enabled : Bool
  updatedAt : Datetime
  deriving DecidableEq

namespace Budget

def remainingAmount (budget : Budget) : ℚ :=
  max 0 (budget.limitAmount - budget.currentUsage - budget.reserved)

def isPeriodExpired (budget : Budget) (now : Datetime) : Bool := budget.periodEnd ≤ now

/-- `current_usage + reserved + estimated_cost > limit_amount`. -/
def exceeds (budget : Budget) (estimatedCost : ℚ) : Bool :=
  budget.limitAmount < budget.currentUsage + budget.reserved + estimatedCost

end Budget

/-- `BudgetCreate` after validation: a positive limit has been rounded to six
digits, possibly to zero. -/
structure BudgetCreate where
  limitAmount : ℚ
  period : BudgetPeriod
  policy : BudgetPolicy
  enabled : Bool
  limitNonneg : 0 ≤ limitAmount

/-- A limit of ten dollars. -/
def tenDollars (period : BudgetPeriod) (policy : BudgetPolicy) : BudgetCreate :=
  ⟨10, period, policy, true, by norm_num⟩

structure BudgetUpdate where
  limitAmount : Option ℚ
  policy : Option BudgetPolicy
  enabled : Option Bool
  limitPositive : ∀ limit ∈ limitAmount, 0 < limit

/-- One row per team: `uq_budgets_team_id_enabled` is unique on `team_id`. -/
abbrev BudgetTable := String → Option Budget

end CortexGateway.Budgeting
