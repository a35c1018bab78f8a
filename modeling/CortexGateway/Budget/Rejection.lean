import CortexGateway.Budget.Calls

/-! # The rejection path of check_and_reserve

A rejection rolls the session back before it reads the instance for the
exception it raises.  The stored row survives, a pending rollover included;
the exception does not. -/
set_option autoImplicit false
namespace CortexGateway.Budgeting

/-- The call raises `BudgetExceeded` with the remaining amount of the state it
decided on, and stores nothing. -/
def RejectsCleanly (teamId : String) (estimatedCost : ℚ) (percent : ℕ) (now : Datetime)
    (store : Store) (row : Budget) : Prop :=
  ∃ message after, (checkAndReserve teamId estimatedCost percent now).run store =
      .error (.budgetExceeded message teamId (rolledOver row now).remainingAmount) after ∧
    after.budgets = store.budgets

/-- Whatever ends the call with an exception, no row has changed. -/
theorem checkAndReserve_error_unchanged (teamId : String) (estimatedCost : ℚ) (percent : ℕ)
    (now : Datetime) (store after : Store) (exc : Exc)
    (sees : ∀ row, store.budgets teamId = some row → SeesRow store.session row)
    (raised : (checkAndReserve teamId estimatedCost percent now).run store = .error exc after) :
    exc = .missingGreenlet ∧ after.budgets = store.budgets := by
  rcases enabled_or_unbudgeted store.budgets teamId with ⟨row, found, enabled⟩ | unbudgeted
  · cases decision : rejects row estimatedCost now with
    | true =>
        rw [checkAndReserve_rejects teamId estimatedCost percent now store row found enabled
          (sees row found) decision] at raised
        injection raised with sameExc sameStore
        subst sameExc sameStore
        exact ⟨rfl, rfl⟩
    | false =>
        rw [checkAndReserve_admits teamId estimatedCost percent now store row found enabled
          (sees row found) decision] at raised
        cases raised
  · rw [checkAndReserve_unbudgeted teamId estimatedCost percent now store unbudgeted] at raised
    cases raised

/-- No rejection is clean: the expired instance turns every one of them into
`MissingGreenlet`, with the row as it was. -/
theorem rejection_never_clean (teamId : String) (estimatedCost : ℚ) (percent : ℕ)
    (now : Datetime) (store : Store) (row : Budget) (found : store.budgets teamId = some row)
    (enabled : row.enabled = true) (sees : SeesRow store.session row)
    (rejected : rejects row estimatedCost now = true) :
    ¬ RejectsCleanly teamId estimatedCost percent now store row ∧
      ∃ after, (checkAndReserve teamId estimatedCost percent now).run store =
          .error .missingGreenlet after ∧ after.budgets = store.budgets := by
  have outcome := checkAndReserve_rejects teamId estimatedCost percent now store row found
    enabled sees rejected
  constructor
  · rintro ⟨message, after, raised, -⟩
    rw [outcome] at raised
    injection raised with clash
    cases clash
  · exact ⟨_, outcome, rfl⟩

def january : Datetime := .ofDate ⟨2026, 1, 15, Date.newYear.monthValid, by decide⟩

/-- A blocking monthly budget of ten dollars, used up. -/
def exhausted : Budget :=
  { created "team-1" "budget-1" (tenDollars .monthly .BLOCK) january with
    currentUsage := 10 }

def exhaustedStore : Store := ⟨setRow (fun _ => none) "team-1" (some exhausted), .fresh⟩

theorem exhaustedStore_row : exhaustedStore.budgets "team-1" = some exhausted := by
  simp [exhaustedStore]

theorem exhausted_rejects : rejects exhausted 1 january = true := by decide +kernel

theorem rejection_never_clean_exhausted :
    ¬ RejectsCleanly "team-1" 1 80 january exhaustedStore exhausted ∧
      ∃ after, (checkAndReserve "team-1" 1 80 january).run exhaustedStore =
          .error .missingGreenlet after ∧ after.budgets = exhaustedStore.budgets :=
  rejection_never_clean "team-1" 1 80 january exhaustedStore exhausted exhaustedStore_row rfl
    rfl exhausted_rejects

/-- One dollar asked of the used-up budget: not `BudgetExceeded` with remaining 0. -/
theorem exhausted_request_raises_missingGreenlet :
    exhausted.remainingAmount = 0 ∧ rejects exhausted 1 january = true ∧
      ¬ RejectsCleanly "team-1" 1 80 january exhaustedStore exhausted := by
  refine ⟨by decide +kernel, exhausted_rejects, ?_⟩
  rintro ⟨message, after, raised, -⟩
  rw [checkAndReserve_rejects "team-1" 1 80 january exhaustedStore exhausted
    exhaustedStore_row rfl rfl exhausted_rejects] at raised
  injection raised with clash
  cases clash

end CortexGateway.Budgeting
