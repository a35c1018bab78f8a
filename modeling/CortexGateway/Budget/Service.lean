import CortexGateway.Core.Exceptions
import CortexGateway.Core.Text
import CortexGateway.Budget.Model

/-! # BudgetService over an SQLAlchemy session

`app/budget/service.py`.  The session is the part of SQLAlchemy the service
relies on.  A row is loaded into an `Instance`, which remembers the values it
was loaded with; a query that returns a row already loaded hands back the
instance as it is; a flush writes the attributes whose value changed since the
load; `commit` keeps the instance (`expire_on_commit=False`), `rollback`
expires it; reading an expired instance of an `AsyncSession` raises
`MissingGreenlet`. -/
set_option autoImplicit false
namespace CortexGateway.Budgeting

/-! ## The session -/

structure Instance where
  attrs : Budget
  committed : Budget
  expired : Bool

def Instance.ofRow (row : Budget) : Instance := ⟨row, row, false⟩

/-- A request-scoped session; it only ever meets the budget of its team. -/
structure AsyncSession where
  budget : Option Instance

def AsyncSession.fresh : AsyncSession := ⟨none⟩

/-- What an unexpired instance of the same row in the identity map hides is
not read again. -/
def AsyncSession.load (session : AsyncSession) (row : Budget) : AsyncSession :=
  match session.budget with
  | some inst =>
      if inst.attrs.id = row.id ∧ inst.expired = false then session else ⟨some (.ofRow row)⟩
  | none => ⟨some (.ofRow row)⟩

/-- The column a flush stores: only a changed attribute is part of the UPDATE. -/
def writeBack {α : Type} [DecidableEq α] (committed attr stored : α) : α :=
  if attr = committed then stored else attr

def Instance.flush (inst : Instance) (row : Budget) : Budget :=
  { row with
    limitAmount := writeBack inst.committed.limitAmount inst.attrs.limitAmount row.limitAmount
    currentUsage := writeBack inst.committed.currentUsage inst.attrs.currentUsage row.currentUsage
    reserved := writeBack inst.committed.reserved inst.attrs.reserved row.reserved
    periodStart := writeBack inst.committed.periodStart inst.attrs.periodStart row.periodStart
    periodEnd := writeBack inst.committed.periodEnd inst.attrs.periodEnd row.periodEnd
    policy := writeBack inst.committed.policy inst.attrs.policy row.policy
    enabled := writeBack inst.committed.enabled inst.attrs.enabled row.enabled
    updatedAt := writeBack inst.committed.updatedAt inst.attrs.updatedAt row.updatedAt }

structure Store where
  budgets : BudgetTable
  session : AsyncSession

abbrev BudgetM := EStateM Exc Store

/-- `select(Budget).where(team_id, enabled == True).with_for_update()`: is there
such a row, and is it loaded. -/
def selectForUpdate (teamId : String) : BudgetM Bool := do
  let store ← get
  match store.budgets teamId with
  | some row =>
      if row.enabled then
        set { store with session := store.session.load row }
        return true
      else return false
  | none => return false

/-- The attributes of the loaded instance, as Python code reads them. -/
def readBudget : BudgetM Budget := do
  match (← get).session.budget with
  | some inst => if inst.expired then throw .missingGreenlet else return inst.attrs
  | none => throw .missingGreenlet

def modifyBudget (update : Budget → Budget) : BudgetM Unit :=
  modify fun store => { store with
    session := ⟨store.session.budget.map fun inst => { inst with attrs := update inst.attrs }⟩ }

def setRow (budgets : BudgetTable) (teamId : String) (row : Option Budget) : BudgetTable :=
  Function.update budgets teamId row

/-- Flush and COMMIT; nothing expires. -/
def commit (teamId : String) : BudgetM Unit :=
  modify fun store =>
    match store.session.budget with
    | some inst =>
        ⟨setRow store.budgets teamId ((store.budgets teamId).map inst.flush),
          ⟨some { inst with committed := inst.attrs }⟩⟩
    | none => store

def refresh (teamId : String) : BudgetM Unit :=
  modify fun store => { store with session := ⟨(store.budgets teamId).map .ofRow⟩ }

/-- Nothing was flushed (`autoflush=False`), so the row is as it was; every
loaded instance is expired. -/
def rollback : BudgetM Unit :=
  modify fun store => { store with
    session := ⟨store.session.budget.map fun inst => { inst with expired := true }⟩ }

/-! ## Period helpers -/

def computePeriodEnd (period : BudgetPeriod) (periodStart : Datetime) : Datetime :=
  match period with
  | .daily => periodStart.addDays 1
  | .weekly => periodStart.addDays 7
  | .monthly => ((periodStart.firstOfMonth).addDays 32).firstOfMonth.midnight

/-- The attributes `_apply_rollover_if_needed` leaves. -/
def rolledOver (budget : Budget) (now : Datetime) : Budget :=
  if budget.isPeriodExpired now then
    { budget with
      currentUsage := 0
      reserved := 0
      periodStart := now
      periodEnd := computePeriodEnd budget.period now
      updatedAt := now }
  else budget

def applyRolloverIfNeeded (now : Datetime) : BudgetM Bool := do
  let budget ← readBudget
  modifyBudget (rolledOver · now)
  return budget.isPeriodExpired now

/-! ## CRUD -/

/-- `get_budget` reads the row; its callers drop the instance, which then
leaves the weak identity map.  An instance kept alive is returned as it is. -/
def getBudget (teamId : String) : BudgetM (Option Budget) := do
  let store ← get
  return (store.budgets teamId).bind fun row =>
    (store.session.load row).budget.map Instance.attrs

def createBudget (teamId budgetId : String) (data : BudgetCreate) (now : Datetime) :
    BudgetM Budget := do
  let existing ← getBudget teamId
  if existing.isSome then
    throw (.budgetConfigurationError ("A budget already exists for team '" ++ teamId ++
      "'. Use PATCH to update or DELETE to remove it first."))
  let budget : Budget :=
    { id := budgetId
      teamId := teamId
      limitAmount := data.limitAmount
      currentUsage := 0
      reserved := 0
      period := data.period
      periodStart := now
      periodEnd := computePeriodEnd data.period now
      policy := data.policy
      enabled := data.enabled
      updatedAt := now }
  modify fun store => { store with budgets := setRow store.budgets teamId (some budget) }
  refresh teamId
  readBudget

def updateBudget (teamId : String) (data : BudgetUpdate) (now : Datetime) : BudgetM Budget := do
  let some row := (← get).budgets teamId
    | throw (.budgetConfigurationError ("No budget found for team '" ++ teamId ++ "'."))
  modify fun store => { store with session := store.session.load row }
  modifyBudget fun budget =>
    { budget with
      limitAmount := data.limitAmount.getD budget.limitAmount
      policy := data.policy.getD budget.policy
      enabled := data.enabled.getD budget.enabled
      updatedAt := now }
  commit teamId
  refresh teamId
  readBudget

def deleteBudget (teamId : String) : BudgetM Bool := do
  let existing ← getBudget teamId
  if existing.isNone then return false
  set (⟨setRow (← get).budgets teamId none, .fresh⟩ : Store)
  return true

/-! ## Reservation and reconciliation -/

/-- The warning of the WARN branch. -/
def warns (budget : Budget) (estimatedCost : ℚ) (warningThresholdPercent : ℕ) : Bool :=
  let usageAfter := budget.currentUsage + estimatedCost
  let usagePct := if 0 < budget.limitAmount then usageAfter / budget.limitAmount * 100 else 0
  budget.limitAmount < usageAfter || (warningThresholdPercent : ℚ) ≤ usagePct

def reserve (estimatedCost : ℚ) : BudgetM Unit :=
  modifyBudget fun budget => { budget with reserved := budget.reserved + estimatedCost }

def checkAndReserve (teamId : String) (estimatedCost : ℚ) (warningThresholdPercent : ℕ)
    (now : Datetime) : BudgetM (Option Budget × Bool) := do
  if !(← selectForUpdate teamId) then
    return (none, false)
  let _ ← applyRolloverIfNeeded now
  let budget ← readBudget
  let mut budgetWarning := false
  match budget.policy with
  | .BLOCK =>
      if budget.exceeds estimatedCost then
        rollback
        -- the message and the argument read the instance the rollback expired
        let message := "Team budget exhausted. Remaining: $" ++
          formatFixed6 (← readBudget).remainingAmount ++ ", estimated cost: $" ++
          formatFixed6 estimatedCost ++ "."
        throw (.budgetExceeded message teamId (← readBudget).remainingAmount)
      reserve estimatedCost
  | .WARN =>
      reserve estimatedCost
      budgetWarning := warns budget estimatedCost warningThresholdPercent
  | .DOWNGRADE =>
      if budget.exceeds estimatedCost then
        rollback
        throw (.budgetExceeded "No cheaper provider found within budget." teamId
          (← readBudget).remainingAmount)
      reserve estimatedCost
  modifyBudget fun budget => { budget with updatedAt := now }
  commit teamId
  refresh teamId
  return (some (← readBudget), budgetWarning)

def reconcile (teamId : String) (estimatedCost actualCost : ℚ) (now : Datetime) :
    BudgetM (Option Budget) := do
  if !(← selectForUpdate teamId) then
    return none
  modifyBudget fun budget =>
    { budget with
      reserved := max 0 (budget.reserved - estimatedCost)
      currentUsage := max 0 (budget.currentUsage + actualCost)
      updatedAt := now }
  commit teamId
  refresh teamId
  return some (← readBudget)

def releaseReservation (teamId : String) (estimatedCost : ℚ) (now : Datetime) :
    BudgetM Unit := do
  if !(← selectForUpdate teamId) then
    return ()
  modifyBudget fun budget =>
    { budget with
      reserved := max 0 (budget.reserved - estimatedCost)
      updatedAt := now }
  commit teamId

end CortexGateway.Budgeting
