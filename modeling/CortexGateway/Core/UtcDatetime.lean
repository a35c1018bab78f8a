import CortexGateway.Core.Datetime
import CortexGateway.Core.Exceptions

/-! # Months and the range of datetimes

Days counted from the first of a month, and the datetimes Python has: those of
the years one to 9999.  A sum past them raises `OverflowError`. -/
set_option autoImplicit false
namespace CortexGateway

/-! ## Months -/

namespace Date

theorem first_valid (year month : ℕ) : 1 ≤ 1 ∧ 1 ≤ daysInMonth year month :=
  ⟨le_rfl, (daysInMonth_bounds year month).1.trans' (by omega)⟩

theorem january_valid : 1 ≤ 1 ∧ 1 ≤ 12 := by omega

theorem month_succ_valid {month : ℕ} (inYear : month < 12) : 1 ≤ month + 1 ∧ month + 1 ≤ 12 := by
  omega

/-- The first day of the month that follows. -/
def nextMonth (date : Date) : Date :=
  if inYear : date.month < 12 then
    ⟨date.year, date.month + 1, 1, month_succ_valid inYear, first_valid date.year (date.month + 1)⟩
  else ⟨date.year + 1, 1, 1, january_valid, first_valid (date.year + 1) 1⟩

theorem firstOfMonth_nextMonth (date : Date) : date.nextMonth.firstOfMonth = date.nextMonth := by
  unfold nextMonth
  split_ifs <;> rfl

theorem addDays_succ (date : Date) (days : ℕ) :
    date.addDays (days + 1) = (date.addDays days).nextDay :=
  Function.iterate_succ_apply' nextDay days date

theorem addDays_add (date : Date) (earlier later : ℕ) :
    date.addDays (earlier + later) = (date.addDays earlier).addDays later := by
  rw [Nat.add_comm]
  exact Function.iterate_add_apply nextDay later earlier date

theorem addDays_strictMono (date : Date) : StrictMono date.addDays := by
  refine strictMono_nat_of_lt_succ fun days => ?_
  rw [addDays_succ]
  exact lt_nextDay (date.addDays days)

section Month
variable (date : Date)

/-- `replace(day=day)`. -/
def onDay (day : ℕ) (valid : 1 ≤ day ∧ day ≤ daysInMonth date.year date.month) : Date :=
  ⟨date.year, date.month, day, date.monthValid, valid⟩

theorem firstOfMonth_onDay (day : ℕ) (valid : 1 ≤ day ∧ day ≤ daysInMonth date.year date.month) :
    (date.onDay day valid).firstOfMonth = date.firstOfMonth := rfl

theorem nextDay_onDay {day : ℕ} (valid : 1 ≤ day ∧ day ≤ daysInMonth date.year date.month)
    (next : 1 ≤ day + 1 ∧ day + 1 ≤ daysInMonth date.year date.month) :
    (date.onDay day valid).nextDay = date.onDay (day + 1) next :=
  dif_pos (Nat.lt_of_succ_le next.2)

theorem nextDay_last {day : ℕ} (valid : 1 ≤ day ∧ day ≤ daysInMonth date.year date.month)
    (last : day = daysInMonth date.year date.month) :
    (date.onDay day valid).nextDay = date.nextMonth :=
  dif_neg (Nat.not_lt.mpr last.ge)

theorem firstOfMonth_addDays {days : ℕ}
    (within : 1 ≤ 1 + days ∧ 1 + days ≤ daysInMonth date.year date.month) :
    date.firstOfMonth.addDays days = date.onDay (1 + days) within := by
  induction days with
  | zero => rfl
  | succ days ih =>
      rw [addDays_succ, ih (by omega)]
      exact date.nextDay_onDay _ within

theorem eq_firstOfMonth_addDays : date = date.firstOfMonth.addDays (date.day - 1) := by
  have day : 1 + (date.day - 1) = date.day := Nat.add_sub_of_le date.dayValid.1
  rw [date.firstOfMonth_addDays (by rw [day]; exact date.dayValid)]
  simp only [onDay, day]

theorem firstOfMonth_addDays_daysInMonth :
    date.firstOfMonth.addDays (daysInMonth date.year date.month) = date.nextMonth := by
  obtain ⟨days, count⟩ : ∃ days, daysInMonth date.year date.month = 1 + days :=
    Nat.exists_eq_add_of_le (first_valid date.year date.month).2
  rw [count, Nat.add_comm, addDays_succ, date.firstOfMonth_addDays (by omega)]
  exact date.nextDay_last _ count.symm

/-- From the first of a month, its days and up to 27 more lead into the next one. -/
theorem firstOfMonth_addDays_past {days : ℕ} (past : daysInMonth date.year date.month ≤ days)
    (short : days < daysInMonth date.year date.month + 28) :
    (date.firstOfMonth.addDays days).year = date.nextMonth.year ∧
      (date.firstOfMonth.addDays days).firstOfMonth = date.nextMonth := by
  obtain ⟨rest, sum⟩ := Nat.exists_eq_add_of_le past
  obtain ⟨room, -⟩ := daysInMonth_bounds date.nextMonth.year date.nextMonth.month
  have landed : date.firstOfMonth.addDays days = date.nextMonth.onDay (1 + rest) (by omega) := by
    calc date.firstOfMonth.addDays days
        = date.nextMonth.addDays rest := by
          rw [sum, addDays_add, date.firstOfMonth_addDays_daysInMonth]
      _ = date.nextMonth.firstOfMonth.addDays rest := by rw [date.firstOfMonth_nextMonth]
      _ = date.nextMonth.onDay (1 + rest) _ := date.nextMonth.firstOfMonth_addDays _
  rw [landed, firstOfMonth_onDay]
  exact ⟨rfl, date.firstOfMonth_nextMonth⟩

theorem firstOfMonth_addDays_jump :
    (date.firstOfMonth.addDays 32).year = date.nextMonth.year ∧
      (date.firstOfMonth.addDays 32).firstOfMonth = date.nextMonth := by
  obtain ⟨long, short⟩ := daysInMonth_bounds date.year date.month
  exact date.firstOfMonth_addDays_past (by omega) (by omega)

theorem addDays_year {days : ℕ} (short : days ≤ 28) :
    (date.addDays days).year =
      if date.day + days ≤ daysInMonth date.year date.month then date.year
      else date.nextMonth.year := by
  have valid := date.dayValid
  have counted : date.addDays days = date.firstOfMonth.addDays (date.day - 1 + days) := by
    rw [addDays_add, ← date.eq_firstOfMonth_addDays]
  rw [counted]
  split_ifs with within
  · rw [date.firstOfMonth_addDays (by omega)]
    rfl
  · exact (date.firstOfMonth_addDays_past (by omega) (by omega)).1

theorem nextMonth_year :
    date.nextMonth.year = if date.month = 12 then date.year + 1 else date.year := by
  have valid := date.monthValid
  unfold nextMonth
  split_ifs <;> first | rfl | omega

theorem lt_nextMonth : date < date.nextMonth := by
  have valid := date.dayValid
  calc date
      = date.firstOfMonth.addDays (date.day - 1) := date.eq_firstOfMonth_addDays
    _ < date.firstOfMonth.addDays (daysInMonth date.year date.month) :=
        date.firstOfMonth.addDays_strictMono (by omega)
    _ = date.nextMonth := date.firstOfMonth_addDays_daysInMonth

theorem nextMonth_le : date.nextMonth ≤ date.addDays 31 := by
  obtain ⟨-, short⟩ := daysInMonth_bounds date.year date.month
  calc date.nextMonth
      = date.firstOfMonth.addDays (daysInMonth date.year date.month) :=
        date.firstOfMonth_addDays_daysInMonth.symm
    _ ≤ date.firstOfMonth.addDays (date.day - 1 + 31) :=
        date.firstOfMonth.addDays_strictMono.monotone (by omega)
    _ = date.addDays 31 := by rw [addDays_add, ← date.eq_firstOfMonth_addDays]

end Month

end Date

namespace Datetime

theorem lt_of_date_lt {earlier later : Datetime} (before : earlier.date < later.date) :
    earlier < later :=
  Prod.Lex.toLex_lt_toLex.mpr (Or.inl before)

theorem ofDate_le {date : Date} {instant : Datetime} (before : date ≤ instant.date) :
    ofDate date ≤ instant := by
  refine Prod.Lex.toLex_le_toLex.mpr ?_
  rcases before.lt_or_eq with earlier | same
  · exact Or.inl earlier
  · exact Or.inr ⟨same, Nat.zero_le _⟩

theorem date_addDays (instant : Datetime) (days : ℕ) :
    (instant.addDays days).date = instant.date.addDays days := rfl

theorem lt_addDays (instant : Datetime) {days : ℕ} (positive : 0 < days) :
    instant < instant.addDays days :=
  lt_of_date_lt (instant.date.addDays_strictMono positive)

end Datetime

/-! ## The range -/

/-- From `datetime.min` to `datetime.max`. -/
def Datetime.InRange (instant : Datetime) : Prop :=
  1 ≤ instant.date.year ∧ instant.date.year ≤ 9999

instance : DecidablePred Datetime.InRange := fun instant =>
  inferInstanceAs (Decidable (1 ≤ instant.date.year ∧ instant.date.year ≤ 9999))

abbrev UtcDatetime := {instant : Datetime // instant.InRange}

def overflowError : Exc := .otherException "OverflowError"

/-- What the constructor of `datetime` makes of a sum. -/
def represent (sum : Datetime) : Except Exc UtcDatetime :=
  if inRange : sum.InRange then .ok ⟨sum, inRange⟩ else .error overflowError

theorem represent_eq_ok {sum : Datetime} {instant : UtcDatetime} :
    represent sum = .ok instant ↔ instant.val = sum := by
  unfold represent
  split_ifs with inRange
  · rw [Except.ok.injEq, Subtype.ext_iff]
    exact eq_comm
  · refine iff_of_false (by rintro ⟨⟩) fun same => inRange ?_
    rw [← same]
    exact instant.property

theorem represent_eq_error {sum : Datetime} {exc : Exc} :
    represent sum = .error exc ↔ exc = overflowError ∧ ¬sum.InRange := by
  unfold represent
  split_ifs with inRange
  · exact iff_of_false (by rintro ⟨⟩) fun raised => raised.2 inRange
  · rw [Except.error.injEq, eq_comm]
    exact (and_iff_left inRange).symm

namespace UtcDatetime

/-- `instant + timedelta(days=days)`. -/
def addDays (instant : UtcDatetime) (days : ℕ) : Except Exc UtcDatetime :=
  represent (instant.val.addDays days)

def firstOfMonth (instant : UtcDatetime) : UtcDatetime :=
  ⟨instant.val.firstOfMonth, instant.property⟩

def midnight (instant : UtcDatetime) : UtcDatetime := ⟨instant.val.midnight, instant.property⟩

end UtcDatetime

end CortexGateway
