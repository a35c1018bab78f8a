import Mathlib

/-! # UTC datetimes

A date carries the proof that it is one; `nextDay` is the calendar successor
and `datetime + timedelta(days=n)` its iterate.  Both types are ordered
chronologically. -/
set_option autoImplicit false
namespace CortexGateway

def isLeapYear (year : ℕ) : Bool :=
  (year % 4 = 0 && year % 100 ≠ 0) || year % 400 = 0

def daysInMonth (year month : ℕ) : ℕ :=
  if month = 2 then (if isLeapYear year then 29 else 28)
  else if month = 4 ∨ month = 6 ∨ month = 9 ∨ month = 11 then 30
  else 31

theorem daysInMonth_bounds (year month : ℕ) :
    28 ≤ daysInMonth year month ∧ daysInMonth year month ≤ 31 := by
  unfold daysInMonth
  split_ifs <;> omega

structure Date where
  year : ℕ
  month : ℕ
  day : ℕ
  monthValid : 1 ≤ month ∧ month ≤ 12
  dayValid : 1 ≤ day ∧ day ≤ daysInMonth year month
  deriving DecidableEq, Repr

namespace Date

/-- `replace(day=1)`. -/
def firstOfMonth (date : Date) : Date :=
  ⟨date.year, date.month, 1, date.monthValid, by
    have := daysInMonth_bounds date.year date.month
    omega⟩

def nextDay (date : Date) : Date :=
  if inMonth : date.day < daysInMonth date.year date.month then
    ⟨date.year, date.month, date.day + 1, date.monthValid, by omega⟩
  else if inYear : date.month < 12 then
    ⟨date.year, date.month + 1, 1, by have := date.monthValid; omega, by
      have := daysInMonth_bounds date.year (date.month + 1)
      omega⟩
  else
    ⟨date.year + 1, 1, 1, by omega, by
      have := daysInMonth_bounds (date.year + 1) 1
      omega⟩

def addDays (date : Date) (days : ℕ) : Date := nextDay^[days] date

/-- Dates are compared by year, month and day, in this order. -/
def key (date : Date) : ℕ ×ₗ ℕ ×ₗ ℕ := toLex (date.year, toLex (date.month, date.day))

theorem key_injective : Function.Injective key := by
  rintro ⟨year, month, day, _, _⟩ ⟨year', month', day', _, _⟩ same
  simpa [key] using same

instance : LinearOrder Date := LinearOrder.lift' key key_injective

theorem lt_nextDay (date : Date) : date < date.nextDay := by
  change date.key < date.nextDay.key
  unfold nextDay
  split_ifs with inMonth inYear <;> simp [key, Prod.Lex.toLex_lt_toLex]

/-! Dates the examples start from. -/

def newYear : Date := ⟨2026, 1, 1, by decide, by decide⟩

def aprilFirst : Date := ⟨2026, 4, 1, by decide, by decide⟩

end Date

/-- Microseconds in a day. -/
def dayLength : ℕ := 86400000000

structure Datetime where
  date : Date
  time : ℕ
  timeValid : time < dayLength
  deriving DecidableEq, Repr

namespace Datetime

/-- Datetimes are compared by date, then by time of day. -/
def key (instant : Datetime) : Date ×ₗ ℕ := toLex (instant.date, instant.time)

theorem key_injective : Function.Injective key := by
  rintro ⟨date, time, _⟩ ⟨date', time', _⟩ same
  simpa [key] using same

instance : LinearOrder Datetime := LinearOrder.lift' key key_injective

/-- `instant + timedelta(days=days)`. -/
def addDays (instant : Datetime) (days : ℕ) : Datetime :=
  ⟨instant.date.addDays days, instant.time, instant.timeValid⟩

/-- `replace(day=1)`. -/
def firstOfMonth (instant : Datetime) : Datetime :=
  ⟨instant.date.firstOfMonth, instant.time, instant.timeValid⟩

/-- `replace(hour=0, minute=0, second=0, microsecond=0)`. -/
def midnight (instant : Datetime) : Datetime :=
  ⟨instant.date, 0, by unfold dayLength; omega⟩

/-- Midnight of a date written as a literal. -/
def ofDate (date : Date) : Datetime := ⟨date, 0, by unfold dayLength; omega⟩

end Datetime

end CortexGateway
