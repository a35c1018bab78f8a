import CortexGateway.Core.Datetime

/-! # Weeks and ISO text

Weekdays as `date.weekday` counts them, the start of an hour, a day or a week
as `date_trunc` has it, and `isoformat` of a UTC datetime. -/
set_option autoImplicit false
namespace CortexGateway

namespace Date

/-- `date.toordinal()`: the first of January of year one is day one. -/
def ordinal (date : Date) : ℕ :=
  let years := date.year - 1
  365 * years + years / 4 + years / 400 - years / 100 +
    ((List.range (date.month - 1)).map fun m => daysInMonth date.year (m + 1)).sum + date.day

/-- Monday is zero. -/
def weekday (date : Date) : ℕ := (date.ordinal + 6) % 7

def prevDay (date : Date) : Date :=
  if inMonth : 1 < date.day then
    ⟨date.year, date.month, date.day - 1, date.monthValid, by have := date.dayValid; omega⟩
  else if inYear : 1 < date.month then
    ⟨date.year, date.month - 1, daysInMonth date.year (date.month - 1),
      by have := date.monthValid; omega, by
        have := daysInMonth_bounds date.year (date.month - 1)
        omega⟩
  else
    ⟨date.year - 1, 12, 31, by omega, by simp [daysInMonth]⟩

def monday (date : Date) : Date := prevDay^[date.weekday] date

end Date

namespace Datetime

def startOfHour (instant : Datetime) : Datetime :=
  ⟨instant.date, instant.time - instant.time % 3600000000, by have := instant.timeValid; omega⟩

/-- `date_trunc(bucket, instant)` for the three buckets. -/
def trunc (bucket : String) (instant : Datetime) : Datetime :=
  if bucket = "hour" then instant.startOfHour
  else if bucket = "week" then .ofDate instant.date.monday
  else instant.midnight

def padded (width n : ℕ) : String :=
  let digits := toString n
  String.ofList (List.replicate (width - digits.length) '0') ++ digits

def isoformat (instant : Datetime) : String :=
  padded 4 instant.date.year ++ "-" ++ padded 2 instant.date.month ++ "-" ++
    padded 2 instant.date.day ++ "T" ++ padded 2 (instant.time / 3600000000) ++ ":" ++
    padded 2 (instant.time / 60000000 % 60) ++ ":" ++ padded 2 (instant.time / 1000000 % 60) ++
    (if instant.time % 1000000 = 0 then "" else "." ++ padded 6 (instant.time % 1000000)) ++
    "+00:00"

end Datetime

/-- The week of a leap day begins on a Monday in February. -/
example : (Datetime.ofDate ⟨2024, 3, 1, by decide, by decide⟩).trunc "week" =
    .ofDate ⟨2024, 2, 26, by decide, by decide⟩ := by decide +kernel

end CortexGateway
