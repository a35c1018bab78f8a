import CortexGateway.Budget.Service

/-! # What each budget call does

One description of each call of the service: the row it stores, the session it
leaves and the exception it ends in.  Everything later is derived from these
and no proof unfolds a call again. -/
set_option autoImplicit false
namespace CortexGateway.Budgeting

/-! ## Loading and flushing -/

@[simp] theorem load_fresh (row : Budget) : AsyncSession.fresh.load row = ⟨some (.ofRow row)⟩ := rfl

/-- A copy loaded earlier hides the stored row. -/
theorem load_ofRow (copy row : Budget) (same : copy.id = row.id) :
    (AsyncSession.mk (some (.ofRow copy))).load row = ⟨some (.ofRow copy)⟩ := by
  simp [AsyncSession.load, Instance.ofRow, same]

@[simp] theorem writeBack_stored {α : Type} [DecidableEq α] (value attr : α) :
    writeBack value attr value = attr := by
  unfold writeBack
  split_ifs with unchanged
  · exact unchanged.symm
  · rfl

@[simp] theorem writeBack_unchanged {α : Type} [DecidableEq α] (value stored : α) :
    writeBack value value stored = stored := if_pos rfl

/-- An instance loaded from the stored row stores its own attributes. -/
theorem flush_committed (attrs row : Budget) (expired : Bool) (sameId : attrs.id = row.id)
    (sameTeam : attrs.teamId = row.teamId) (samePeriod : attrs.period = row.period) :
    (Instance.mk attrs row expired).flush row = attrs := by
  cases attrs
  simp only at sameId sameTeam samePeriod
  simp only [Instance.flush, writeBack_stored, sameId, sameTeam, samePeriod]

@[simp] theorem setRow_self (budgets : BudgetTable) (teamId : String) (row : Option Budget) :
    setRow budgets teamId row teamId = row := Function.update_self ..

@[simp] theorem rolledOver_id (row : Budget) (now : Datetime) :
    (rolledOver row now).id = row.id := by
  unfold rolledOver
  split_ifs <;> rfl

@[simp] theorem rolledOver_teamId (row : Budget) (now : Datetime) :
    (rolledOver row now).teamId = row.teamId := by
  unfold rolledOver
  split_ifs <;> rfl

@[simp] theorem rolledOver_period (row : Budget) (now : Datetime) :
    (rolledOver row now).period = row.period := by
  unfold rolledOver
  split_ifs <;> rfl

@[simp] theorem rolledOver_policy (row : Budget) (now : Datetime) :
    (rolledOver row now).policy = row.policy := by
  unfold rolledOver
  split_ifs <;> rfl

theorem rolledOver_running (row : Budget) (now : Datetime)
    (running : row.isPeriodExpired now = false) : rolledOver row now = row := by
  simp [rolledOver, running]

/-! ## check_and_reserve -/

/-- The row an admitted request leaves. -/
def reservedRow (row : Budget) (estimatedCost : ℚ) (now : Datetime) : Budget :=
  { rolledOver row now with
    reserved := (rolledOver row now).reserved + estimatedCost
    updatedAt := now }

theorem reservedRow_running (row : Budget) (estimatedCost : ℚ) (now : Datetime)
    (running : row.isPeriodExpired now = false) :
    reservedRow row estimatedCost now =
      { row with reserved := row.reserved + estimatedCost, updatedAt := now } := by
  rw [reservedRow, rolledOver_running row now running]

/-- The rejection test, made after any rollover that is due. -/
def rejects (row : Budget) (estimatedCost : ℚ) (now : Datetime) : Bool :=
  row.policy.enforces && (rolledOver row now).exceeds estimatedCost

/-! ## The statements of a call -/

@[simp] theorem run_throw {α : Type} (exc : Exc) (store : Store) :
    EStateM.run (throw exc : BudgetM α) store = .error exc store := rfl

theorem run_selectForUpdate_none (teamId : String) (store : Store)
    (unbudgeted : ∀ row, store.budgets teamId = some row → row.enabled = false) :
    (selectForUpdate teamId).run store = .ok false store := by
  cases found : store.budgets teamId with
  | none => simp [selectForUpdate, found]
  | some row => simp [selectForUpdate, found, unbudgeted row found]

theorem run_selectForUpdate (teamId : String) (store : Store) (row : Budget)
    (found : store.budgets teamId = some row) (enabled : row.enabled = true) :
    (selectForUpdate teamId).run store = .ok true ⟨store.budgets, store.session.load row⟩ := by
  simp [selectForUpdate, found, enabled]

@[simp] theorem run_readBudget (budgets : BudgetTable) (attrs committed : Budget) :
    readBudget.run ⟨budgets, ⟨some ⟨attrs, committed, false⟩⟩⟩ =
      .ok attrs ⟨budgets, ⟨some ⟨attrs, committed, false⟩⟩⟩ := by
  simp [readBudget]

@[simp] theorem run_readBudget_ofRow (budgets : BudgetTable) (row : Budget) :
    readBudget.run ⟨budgets, ⟨some (.ofRow row)⟩⟩ =
      .ok row ⟨budgets, ⟨some (.ofRow row)⟩⟩ := run_readBudget budgets row row

/-- Reading an attribute after the rollback raises. -/
@[simp] theorem run_readBudget_expired (budgets : BudgetTable) (attrs committed : Budget) :
    readBudget.run ⟨budgets, ⟨some ⟨attrs, committed, true⟩⟩⟩ =
      .error .missingGreenlet ⟨budgets, ⟨some ⟨attrs, committed, true⟩⟩⟩ := by
  simp [readBudget]

@[simp] theorem run_modifyBudget (update : Budget → Budget) (budgets : BudgetTable)
    (inst : Instance) :
    (modifyBudget update).run ⟨budgets, ⟨some inst⟩⟩ =
      .ok () ⟨budgets, ⟨some { inst with attrs := update inst.attrs }⟩⟩ := by
  simp [modifyBudget]

@[simp] theorem run_applyRolloverIfNeeded (budgets : BudgetTable) (attrs committed : Budget)
    (now : Datetime) :
    (applyRolloverIfNeeded now).run ⟨budgets, ⟨some ⟨attrs, committed, false⟩⟩⟩ =
      .ok (attrs.isPeriodExpired now)
        ⟨budgets, ⟨some ⟨rolledOver attrs now, committed, false⟩⟩⟩ := by
  simp [applyRolloverIfNeeded]

@[simp] theorem run_commit (teamId : String) (budgets : BudgetTable) (inst : Instance) :
    (commit teamId).run ⟨budgets, ⟨some inst⟩⟩ =
      .ok () ⟨setRow budgets teamId ((budgets teamId).map inst.flush),
        ⟨some { inst with committed := inst.attrs }⟩⟩ := by
  simp [commit]

@[simp] theorem run_refresh (teamId : String) (store : Store) :
    (refresh teamId).run store =
      .ok () { store with session := ⟨(store.budgets teamId).map .ofRow⟩ } := by
  simp [refresh]

@[simp] theorem run_rollback (budgets : BudgetTable) (inst : Instance) :
    rollback.run ⟨budgets, ⟨some inst⟩⟩ =
      .ok () ⟨budgets, ⟨some { inst with expired := true }⟩⟩ := by
  simp [rollback]

/-- A team has an enabled budget, or every call on its behalf finds none. -/
theorem enabled_or_unbudgeted (budgets : BudgetTable) (teamId : String) :
    (∃ row, budgets teamId = some row ∧ row.enabled = true) ∨
      ∀ row, budgets teamId = some row → row.enabled = false := by
  by_cases budgeted : ∃ row, budgets teamId = some row ∧ row.enabled = true
  · exact Or.inl budgeted
  · refine Or.inr fun row found => ?_
    by_contra enabled
    exact budgeted ⟨row, found, by simpa using enabled⟩

/-! ## check_and_reserve -/

theorem checkAndReserve_unbudgeted (teamId : String) (estimatedCost : ℚ) (percent : ℕ)
    (now : Datetime) (store : Store)
    (unbudgeted : ∀ row, store.budgets teamId = some row → row.enabled = false) :
    (checkAndReserve teamId estimatedCost percent now).run store = .ok (none, false) store := by
  simp [checkAndReserve, run_selectForUpdate_none teamId store unbudgeted]

/-- The session reads the stored row: it is fresh, or holds a copy that is still current. -/
def SeesRow (session : AsyncSession) (row : Budget) : Prop :=
  session.load row = ⟨some (.ofRow row)⟩

theorem checkAndReserve_rejects (teamId : String) (estimatedCost : ℚ) (percent : ℕ)
    (now : Datetime) (store : Store) (row : Budget) (found : store.budgets teamId = some row)
    (enabled : row.enabled = true) (sees : SeesRow store.session row)
    (rejected : rejects row estimatedCost now = true) :
    (checkAndReserve teamId estimatedCost percent now).run store =
      .error .missingGreenlet ⟨store.budgets, ⟨some ⟨rolledOver row now, row, true⟩⟩⟩ := by
  obtain ⟨enforcing, overLimit⟩ := Bool.and_eq_true_iff.mp rejected
  have selected := run_selectForUpdate teamId store row found enabled
  rw [sees, Instance.ofRow] at selected
  cases chosen : row.policy with
  | WARN => simp [chosen, BudgetPolicy.enforces] at enforcing
  | BLOCK => simp [checkAndReserve, selected, chosen, overLimit]
  | DOWNGRADE => simp [checkAndReserve, selected, chosen, overLimit]

/-- The warning flag an admitted request returns. -/
def budgetWarning (row : Budget) (estimatedCost : ℚ) (percent : ℕ) (now : Datetime) : Bool :=
  !row.policy.enforces && warns (rolledOver row now) estimatedCost percent

theorem checkAndReserve_admits (teamId : String) (estimatedCost : ℚ) (percent : ℕ)
    (now : Datetime) (store : Store) (row : Budget) (found : store.budgets teamId = some row)
    (enabled : row.enabled = true) (sees : SeesRow store.session row)
    (admitted : rejects row estimatedCost now = false) :
    (checkAndReserve teamId estimatedCost percent now).run store =
      .ok (some (reservedRow row estimatedCost now), budgetWarning row estimatedCost percent now)
        ⟨setRow store.budgets teamId (some (reservedRow row estimatedCost now)),
          ⟨some (.ofRow (reservedRow row estimatedCost now))⟩⟩ := by
  have selected := run_selectForUpdate teamId store row found enabled
  rw [sees, Instance.ofRow] at selected
  have fits : row.policy.enforces = true → (rolledOver row now).exceeds estimatedCost = false := by
    intro enforcing
    simpa [rejects, enforcing] using admitted
  cases chosen : row.policy with
  | WARN =>
      simp [checkAndReserve, selected, chosen, reserve, found, flush_committed, budgetWarning,
        BudgetPolicy.enforces, reservedRow]
  | BLOCK =>
      simp [checkAndReserve, selected, chosen, reserve, found, flush_committed, budgetWarning,
        BudgetPolicy.enforces, reservedRow, fits (by rw [chosen]; rfl)]
  | DOWNGRADE =>
      simp [checkAndReserve, selected, chosen, reserve, found, flush_committed, budgetWarning,
        BudgetPolicy.enforces, reservedRow, fits (by rw [chosen]; rfl)]

/-! ## Settling -/

def reconciled (copy : Budget) (estimatedCost actualCost : ℚ) (now : Datetime) : Budget :=
  { copy with
    reserved := max 0 (copy.reserved - estimatedCost)
    currentUsage := max 0 (copy.currentUsage + actualCost)
    updatedAt := now }

def released (copy : Budget) (estimatedCost : ℚ) (now : Datetime) : Budget :=
  { copy with
    reserved := max 0 (copy.reserved - estimatedCost)
    updatedAt := now }

/-- What a session holding `copy` stores when it leaves `attrs` in it. -/
def stored (attrs copy row : Budget) : Budget := (Instance.mk attrs copy false).flush row

@[simp] theorem stored_reconciled_current (row : Budget) (estimatedCost actualCost : ℚ)
    (now : Datetime) :
    stored (reconciled row estimatedCost actualCost now) row row =
      reconciled row estimatedCost actualCost now :=
  flush_committed _ _ _ rfl rfl rfl

@[simp] theorem stored_released_current (row : Budget) (estimatedCost : ℚ) (now : Datetime) :
    stored (released row estimatedCost now) row row = released row estimatedCost now :=
  flush_committed _ _ _ rfl rfl rfl

theorem reconcile_unbudgeted (teamId : String) (estimatedCost actualCost : ℚ) (now : Datetime)
    (store : Store)
    (unbudgeted : ∀ row, store.budgets teamId = some row → row.enabled = false) :
    (reconcile teamId estimatedCost actualCost now).run store = .ok none store := by
  simp [reconcile, run_selectForUpdate_none teamId store unbudgeted]

/-- The lock is taken on the stored row, the values come from the copy. -/
theorem reconcile_enabled (teamId : String) (estimatedCost actualCost : ℚ) (now : Datetime)
    (store : Store) (row copy : Budget) (found : store.budgets teamId = some row)
    (enabled : row.enabled = true) (loads : store.session.load row = ⟨some (.ofRow copy)⟩) :
    (reconcile teamId estimatedCost actualCost now).run store =
      .ok (some (stored (reconciled copy estimatedCost actualCost now) copy row))
        ⟨setRow store.budgets teamId
            (some (stored (reconciled copy estimatedCost actualCost now) copy row)),
          ⟨some (.ofRow (stored (reconciled copy estimatedCost actualCost now) copy row))⟩⟩ := by
  have selected := run_selectForUpdate teamId store row found enabled
  rw [loads, Instance.ofRow] at selected
  simp [reconcile, selected, found, stored, reconciled]

theorem releaseReservation_unbudgeted (teamId : String) (estimatedCost : ℚ) (now : Datetime)
    (store : Store)
    (unbudgeted : ∀ row, store.budgets teamId = some row → row.enabled = false) :
    (releaseReservation teamId estimatedCost now).run store = .ok () store := by
  simp [releaseReservation, run_selectForUpdate_none teamId store unbudgeted]

theorem releaseReservation_enabled (teamId : String) (estimatedCost : ℚ) (now : Datetime)
    (store : Store) (row copy : Budget) (found : store.budgets teamId = some row)
    (enabled : row.enabled = true) (loads : store.session.load row = ⟨some (.ofRow copy)⟩) :
    (releaseReservation teamId estimatedCost now).run store =
      .ok () ⟨setRow store.budgets teamId
          (some (stored (released copy estimatedCost now) copy row)),
        ⟨some (.ofRow (released copy estimatedCost now))⟩⟩ := by
  have selected := run_selectForUpdate teamId store row found enabled
  rw [loads, Instance.ofRow] at selected
  simp [releaseReservation, selected, found, stored, released, Instance.ofRow]

/-! ## Administration, each call on a session of its own -/

def updated (row : Budget) (data : BudgetUpdate) (now : Datetime) : Budget :=
  { row with
    limitAmount := data.limitAmount.getD row.limitAmount
    policy := data.policy.getD row.policy
    enabled := data.enabled.getD row.enabled
    updatedAt := now }

theorem updateBudget_absent (teamId : String) (data : BudgetUpdate) (now : Datetime)
    (store : Store) (absent : store.budgets teamId = none) :
    (updateBudget teamId data now).run store =
      .error (.budgetConfigurationError ("No budget found for team '" ++ teamId ++ "'.")) store := by
  simp [updateBudget, absent]

theorem updateBudget_present (teamId : String) (data : BudgetUpdate) (now : Datetime)
    (store : Store) (row : Budget) (found : store.budgets teamId = some row)
    (sees : SeesRow store.session row) :
    (updateBudget teamId data now).run store =
      .ok (updated row data now) ⟨setRow store.budgets teamId (some (updated row data now)),
        ⟨some (.ofRow (updated row data now))⟩⟩ := by
  simp only [SeesRow, Instance.ofRow] at sees
  simp [updateBudget, found, sees, updated, flush_committed]

theorem deleteBudget_absent (teamId : String) (store : Store)
    (absent : store.budgets teamId = none) :
    (deleteBudget teamId).run store = .ok false store := by
  simp [deleteBudget, getBudget, absent]

theorem deleteBudget_present (teamId : String) (store : Store) (row : Budget)
    (found : store.budgets teamId = some row) (sees : SeesRow store.session row) :
    (deleteBudget teamId).run store =
      .ok true ⟨setRow store.budgets teamId none, .fresh⟩ := by
  simp only [SeesRow] at sees
  simp [deleteBudget, getBudget, found, sees]

def created (teamId budgetId : String) (data : BudgetCreate) (now : Datetime) : Budget :=
  { id := budgetId
    teamId := teamId
    limitAmount := data.limitAmount
    currentUsage := 0
    reserved := 0
    period := data.period
    periodStart := now
    periodEnd := computePeriodEnd data.period now
    policy := data.policy
    enabled := data.enabled
    updatedAt := now }

theorem createBudget_absent (teamId budgetId : String) (data : BudgetCreate) (now : Datetime)
    (store : Store) (absent : store.budgets teamId = none) :
    (createBudget teamId budgetId data now).run store =
      .ok (created teamId budgetId data now)
        ⟨setRow store.budgets teamId (some (created teamId budgetId data now)),
          ⟨some (.ofRow (created teamId budgetId data now))⟩⟩ := by
  simp [createBudget, getBudget, absent, created]

theorem createBudget_present (teamId budgetId : String) (data : BudgetCreate) (now : Datetime)
    (store : Store) (row : Budget) (found : store.budgets teamId = some row)
    (sees : SeesRow store.session row) :
    (createBudget teamId budgetId data now).run store =
      .error (.budgetConfigurationError ("A budget already exists for team '" ++ teamId ++
        "'. Use PATCH to update or DELETE to remove it first.")) store := by
  simp only [SeesRow] at sees
  simp [createBudget, getBudget, found, sees]

end CortexGateway.Budgeting
