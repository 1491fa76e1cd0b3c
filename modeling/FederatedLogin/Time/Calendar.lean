/-!
# The calendar

Dates of the Gregorian calendar, extended without end in both directions, and the number of days
from the first of January 1970 to a date. Years start in March in between, so that a leap day is the
last day of its year.
-/

namespace FederatedLogin.Time

/-- A day of the calendar. -/
structure Date where
  year : Int
  month : Nat
  day : Nat
  deriving DecidableEq, Repr

/-- The year has a 29th of February. -/
def isLeapYear (year : Int) : Bool :=
  year % 4 = 0 && (year % 100 ≠ 0 || year % 400 = 0)

/-- The number of days of a month. -/
def daysInMonth (year : Int) (month : Nat) : Nat :=
  if month = 2 then (if isLeapYear year then 29 else 28)
  else if month = 4 ∨ month = 6 ∨ month = 9 ∨ month = 11 then 30
  else 31

namespace Date

/-- The date is a day of the calendar. -/
def isValid (d : Date) : Bool :=
  1 ≤ d.month && d.month ≤ 12 && 1 ≤ d.day && d.day ≤ daysInMonth d.year d.month

/-- The days of the 400 years of an era before the given one of its years. -/
def daysBeforeYear (y : Int) : Int := 365 * y + y / 4 - y / 100

/-- The days of a year before the given month, where March is month zero. -/
def daysBeforeMonth (m : Int) : Int := (153 * m + 2) / 5

/-- The number of days from the first of January 1970 to the date. -/
def toDays (d : Date) : Int :=
  let year := if d.month ≤ 2 then d.year - 1 else d.year
  let month : Int := if d.month ≤ 2 then d.month + 9 else d.month - 3
  let era := year / 400
  146097 * era + daysBeforeYear (year - 400 * era) + daysBeforeMonth month + (d.day - 1) - 719468

/-- The date that lies the given number of days after the first of January 1970. -/
def ofDays (n : Int) : Date :=
  let days := n + 719468
  let era := days / 146097
  let left := days - 146097 * era
  let year := (left - left / 1460 + left / 36524 - left / 146096) / 365
  let left := left - daysBeforeYear year
  let month := (5 * left + 2) / 153
  let day := left - daysBeforeMonth month + 1
  let year := year + 400 * era
  if month < 10 then ⟨year, (month + 3).toNat, day.toNat⟩
  else ⟨year + 1, (month - 9).toNat, day.toNat⟩

end Date

end FederatedLogin.Time
