import CortexGateway.Budget.Service
import CortexGateway.Core.UtcDatetime

/-! # Periods in the range of datetimes

The period helpers and the rollover of `app/budget/service.py` with the range of
`datetime`: a period that would end past it raises `OverflowError`, after the
rollover has reset the usage of the instance.  Within the range they are the
helpers of the service. -/
set_option autoImplicit false
namespace CortexGateway.Budgeting

/-! ## The end of a period in the calendar -/

theorem computePeriodEnd_monthly (periodStart : Datetime) :
    computePeriodEnd .monthly periodStart = .ofDate periodStart.date.nextMonth :=
  congrArg Datetime.ofDate periodStart.date.firstOfMonth_addDays_jump.2

theorem lt_computePeriodEnd (period : BudgetPeriod) (periodStart : Datetime) :
    periodStart < computePeriodEnd period periodStart := by
  cases period with
  | daily => exact periodStart.lt_addDays Nat.one_pos
  | weekly => exact periodStart.lt_addDays (Nat.succ_pos 6)
  | monthly =>
      rw [computePeriodEnd_monthly]
      exact Datetime.lt_of_date_lt periodStart.date.lt_nextMonth

theorem computePeriodEnd_monthly_le (periodStart : Datetime) :
    computePeriodEnd .monthly periodStart ≤ periodStart.addDays 31 := by
  have within : periodStart.date.nextMonth ≤ (periodStart.addDays 31).date := by
    rw [Datetime.date_addDays]
    exact periodStart.date.nextMonth_le
  rw [computePeriodEnd_monthly]
  exact Datetime.ofDate_le within

theorem rolledOver_not_expired (budget : Budget) (now : Datetime) :
    (rolledOver budget now).isPeriodExpired now = false := by
  unfold rolledOver
  split_ifs with expired
  · exact decide_eq_false (not_le.mpr (lt_computePeriodEnd budget.period now))
  · exact Bool.eq_false_iff.mpr expired

/-! ## With the range of datetimes -/

namespace BudgetService

/-- `_compute_period_end`. -/
def computePeriodEnd (period : BudgetPeriod) (periodStart : UtcDatetime) : Except Exc UtcDatetime :=
  match period with
  | .daily => periodStart.addDays 1
  | .weekly => periodStart.addDays 7
  | .monthly => do
      let nextMonth ← periodStart.firstOfMonth.addDays 32
      return nextMonth.firstOfMonth.midnight

/-- `_apply_rollover_if_needed` on the loaded instance; `checked` is what the clock
shows in `is_period_expired`. -/
def applyRolloverIfNeeded (checked now : UtcDatetime) : EStateM Exc Budget Bool := do
  if !(← get).isPeriodExpired checked.val then
    return false
  modify fun budget => { budget with currentUsage := 0, reserved := 0, periodStart := now.val }
  let periodEnd ← ofExcept (computePeriodEnd (← get).period now)
  modify fun budget => { budget with periodEnd := periodEnd.val, updatedAt := now.val }
  return true

/-- The jump stays in range exactly if the end of the month does. -/
theorem inRange_jump (periodStart : Datetime) :
    (periodStart.firstOfMonth.addDays 32).InRange ↔
      (Budgeting.computePeriodEnd .monthly periodStart).InRange := by
  have year : (periodStart.firstOfMonth.addDays 32).date.year =
      (Budgeting.computePeriodEnd .monthly periodStart).date.year := by
    rw [computePeriodEnd_monthly, Datetime.date_addDays]
    exact periodStart.date.firstOfMonth_addDays_jump.1
  simp only [Datetime.InRange, year]

theorem computePeriodEnd_eq (period : BudgetPeriod) (periodStart : UtcDatetime) :
    computePeriodEnd period periodStart =
      represent (Budgeting.computePeriodEnd period periodStart.val) := by
  cases period with
  | daily => rfl
  | weekly => rfl
  | monthly =>
      simp only [computePeriodEnd, UtcDatetime.addDays, UtcDatetime.firstOfMonth]
      cases jumped : represent (periodStart.val.firstOfMonth.addDays 32) with
      | ok nextMonth =>
          have landed := represent_eq_ok.mp jumped
          refine (represent_eq_ok.mpr ?_).symm
          change nextMonth.val.firstOfMonth.midnight = _
          rw [landed]
          rfl
      | error exc =>
          obtain ⟨rfl, past⟩ := represent_eq_error.mp jumped
          exact (represent_eq_error.mpr ⟨rfl, (inRange_jump periodStart.val).not.mp past⟩).symm

/-- The day of December from which on a period leads past the year. -/
def lastStart : BudgetPeriod → ℕ
  | .daily => 31
  | .weekly => 25
  | .monthly => 1

/-- The period would end after `datetime.max`. -/
def EndsPastRange (period : BudgetPeriod) (periodStart : UtcDatetime) : Prop :=
  periodStart.val.date.year = 9999 ∧ periodStart.val.date.month = 12 ∧
    lastStart period ≤ periodStart.val.date.day

theorem daysInMonth_december {year month : ℕ} (december : month = 12) :
    daysInMonth year month = 31 := by
  subst december
  rfl

theorem computePeriodEnd_year (period : BudgetPeriod) (periodStart : Datetime) :
    (Budgeting.computePeriodEnd period periodStart).date.year =
      if periodStart.date.month = 12 ∧ lastStart period ≤ periodStart.date.day then
        periodStart.date.year + 1
      else periodStart.date.year := by
  have long := @daysInMonth_december periodStart.date.year periodStart.date.month
  have valid := periodStart.date.dayValid
  cases period with
  | daily =>
      rw [Budgeting.computePeriodEnd, Datetime.date_addDays, lastStart,
        periodStart.date.addDays_year (by omega), periodStart.date.nextMonth_year]
      split_ifs <;> omega
  | weekly =>
      rw [Budgeting.computePeriodEnd, Datetime.date_addDays, lastStart,
        periodStart.date.addDays_year (by omega), periodStart.date.nextMonth_year]
      split_ifs <;> omega
  | monthly =>
      rw [computePeriodEnd_monthly, lastStart]
      change periodStart.date.nextMonth.year = _
      rw [periodStart.date.nextMonth_year]
      split_ifs <;> omega

theorem endsPastRange_iff {period : BudgetPeriod} {periodStart : UtcDatetime} :
    EndsPastRange period periodStart ↔
      ¬(Budgeting.computePeriodEnd period periodStart.val).InRange := by
  obtain ⟨low, high⟩ := periodStart.property
  rw [Datetime.InRange, computePeriodEnd_year, EndsPastRange]
  split_ifs <;> omega

theorem computePeriodEnd_returns {period : BudgetPeriod} {periodStart : UtcDatetime}
    (representable : ¬EndsPastRange period periodStart) :
    ∃ periodEnd, computePeriodEnd period periodStart = .ok periodEnd ∧
      periodEnd.val = Budgeting.computePeriodEnd period periodStart.val := by
  have inRange := not_not.mp (endsPastRange_iff.not.mp representable)
  refine ⟨⟨_, inRange⟩, ?_, rfl⟩
  rw [computePeriodEnd_eq]
  exact represent_eq_ok.mpr rfl

theorem computePeriodEnd_overflows {period : BudgetPeriod} {periodStart : UtcDatetime}
    (past : EndsPastRange period periodStart) :
    computePeriodEnd period periodStart = .error overflowError := by
  rw [computePeriodEnd_eq]
  exact represent_eq_error.mpr ⟨rfl, endsPastRange_iff.mp past⟩

/-! ## The rollover -/

@[simp] theorem run_ofExcept_ok {α : Type} (value : α) (budget : Budget) :
    (ofExcept (.ok value : Except Exc α) : EStateM Exc Budget α).run budget = .ok value budget := rfl

@[simp] theorem run_ofExcept_error {α : Type} (exc : Exc) (budget : Budget) :
    (ofExcept (.error exc : Except Exc α) : EStateM Exc Budget α).run budget = .error exc budget := rfl

theorem applyRolloverIfNeeded_running {budget : Budget} {checked : UtcDatetime}
    (running : budget.isPeriodExpired checked.val = false) (now : UtcDatetime) :
    (applyRolloverIfNeeded checked now).run budget = .ok false budget := by
  simp [applyRolloverIfNeeded, running]

theorem applyRolloverIfNeeded_expired {budget : Budget} {checked now : UtcDatetime}
    {periodEnd : UtcDatetime} (expired : budget.isPeriodExpired checked.val = true)
    (ends : computePeriodEnd budget.period now = .ok periodEnd) :
    (applyRolloverIfNeeded checked now).run budget =
      .ok true { budget with
        currentUsage := 0
        reserved := 0
        periodStart := now.val
        periodEnd := periodEnd.val
        updatedAt := now.val } := by
  simp [applyRolloverIfNeeded, expired, ends]

/-- The reset of the usage is left behind. -/
theorem applyRolloverIfNeeded_overflows {budget : Budget} {checked now : UtcDatetime}
    (expired : budget.isPeriodExpired checked.val = true)
    (past : EndsPastRange budget.period now) :
    (applyRolloverIfNeeded checked now).run budget =
      .error overflowError
        { budget with currentUsage := 0, reserved := 0, periodStart := now.val } := by
  simp [applyRolloverIfNeeded, expired, computePeriodEnd_overflows past]

/-- Where no period ends past the range, the rollover is that of the service. -/
theorem applyRolloverIfNeeded_eq {budget : Budget} {now : UtcDatetime}
    (representable : EndsPastRange budget.period now → budget.isPeriodExpired now.val = false) :
    (applyRolloverIfNeeded now now).run budget =
      .ok (budget.isPeriodExpired now.val) (rolledOver budget now.val) := by
  cases expired : budget.isPeriodExpired now.val with
  | false =>
      rw [applyRolloverIfNeeded_running expired, rolledOver, expired]
      rfl
  | true =>
      have representable : ¬EndsPastRange budget.period now := fun past => by
        rw [representable past] at expired
        cases expired
      obtain ⟨periodEnd, ends, same⟩ := computePeriodEnd_returns representable
      rw [applyRolloverIfNeeded_expired expired ends, rolledOver, expired, same]
      rfl

/-- What the helpers do at an instant.  Both readings of the clock show it when the
rollover is applied. -/
structure PeriodArithmetic (instant : UtcDatetime) : Prop where
  ends : ∀ period, ¬EndsPastRange period instant →
    ∃ periodEnd, computePeriodEnd period instant = .ok periodEnd ∧ instant.val < periodEnd.val
  monthly : ¬EndsPastRange .monthly instant →
    ∃ periodEnd, computePeriodEnd .monthly instant = .ok periodEnd ∧
      periodEnd.val = .ofDate instant.val.date.nextMonth ∧
        periodEnd.val ≤ instant.val.addDays 31
  overflows : ∀ period, EndsPastRange period instant →
    computePeriodEnd period instant = .error overflowError
  settles : ∀ budget : Budget,
    (EndsPastRange budget.period instant → budget.isPeriodExpired instant.val = false) →
      ∃ rolled after, (applyRolloverIfNeeded instant instant).run budget = .ok rolled after ∧
        after.isPeriodExpired instant.val = false ∧
          (applyRolloverIfNeeded instant instant).run after = .ok false after

/-- Periods end later and are rolled over once, up to the end of the range. -/
theorem period_arithmetic (instant : UtcDatetime) : PeriodArithmetic instant where
  ends period representable := by
    obtain ⟨periodEnd, returned, same⟩ := computePeriodEnd_returns representable
    refine ⟨periodEnd, returned, ?_⟩
    rw [same]
    exact lt_computePeriodEnd period instant.val
  monthly representable := by
    obtain ⟨periodEnd, returned, same⟩ := computePeriodEnd_returns representable
    refine ⟨periodEnd, returned, ?_, ?_⟩
    · rw [same, computePeriodEnd_monthly]
    · rw [same]
      exact computePeriodEnd_monthly_le instant.val
  overflows period := computePeriodEnd_overflows
  settles budget representable := by
    have running := rolledOver_not_expired budget instant.val
    exact ⟨_, _, applyRolloverIfNeeded_eq representable, running,
      applyRolloverIfNeeded_running running instant⟩

/-- The last day of the range. -/
def lastDay : UtcDatetime :=
  ⟨.ofDate ⟨9999, 12, 31, by decide, by decide⟩, by decide⟩

/-- It has no daily period. -/
theorem lastDay_overflows :
    ¬∃ periodEnd, computePeriodEnd .daily lastDay = .ok periodEnd ∧ lastDay.val < periodEnd.val := by
  rintro ⟨periodEnd, returned, -⟩
  rw [computePeriodEnd_overflows ⟨rfl, rfl, le_rfl⟩] at returned
  cases returned

/-- A month that is entered on its last day ends at midnight, also in a leap year. -/
example : Budgeting.computePeriodEnd .monthly (.ofDate ⟨2024, 2, 29, by decide, by decide⟩) =
    .ofDate ⟨2024, 3, 1, by decide, by decide⟩ := by
  decide +kernel

end BudgetService

end CortexGateway.Budgeting
