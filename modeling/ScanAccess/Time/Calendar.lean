import ScanAccess.Text.Numeral

/-! # The Gregorian calendar

Dates of the Gregorian calendar, extended to all years, and their day numbers.
Day 0 is 1970-01-01. A date has one day number and a valid date is found back
from it.
-/

namespace ScanAccess

/-- A year, a month from 1 and a day of the month from 1. -/
structure CalendarDate where
  year : Int
  month : Nat
  day : Nat
  deriving DecidableEq, Repr

namespace CalendarDate

/-- Every fourth year is a leap year, except full centuries that 400 does not divide. -/
def isLeap (year : Int) : Bool :=
  year % 4 == 0 && (year % 100 != 0 || year % 400 == 0)

/-- The lengths of the twelve months of a year. -/
def monthLengths (leap : Bool) : List Nat :=
  [31, if leap then 29 else 28, 31, 30, 31, 30, 31, 31, 30, 31, 30, 31]

/-- The days from 0001-01-01 to the first day of a year. -/
def daysBeforeYear (year : Int) : Int :=
  let whole := year - 1
  365 * whole + whole / 4 - whole / 100 + whole / 400

/-- The days of a year before the first day of a month. -/
def daysBeforeMonth (leap : Bool) (month : Nat) : Nat :=
  ((monthLengths leap).take (month - 1)).foldl (· + ·) 0

/-- The days from 0001-01-01 to 1970-01-01. -/
def epochDays : Int := 719162

/-- The day number of a date. -/
def toDays (date : CalendarDate) : Int :=
  daysBeforeYear date.year + daysBeforeMonth (isLeap date.year) date.month + (date.day - 1)
    - epochDays

/-- Finds the month in which a day of the year falls, counting days from zero:
the months passed over, and the day within the month. -/
def splitMonths : List Nat → Nat → Nat × Nat
  | [], day => (0, day)
  | length :: rest, day =>
    if day < length then (0, day)
    else
      let (months, day) := splitMonths rest (day - length)
      (months + 1, day)

/-- The date with a day number. Years are counted off in cycles of 400, then in
centuries, in groups of four and singly; the last century of a cycle and the
last year of a group take the leap day that is left over. -/
def ofDays (days : Int) : CalendarDate :=
  let sinceFirst := days + epochDays
  let cycles := sinceFirst / 146097
  let inCycle := (sinceFirst % 146097).toNat
  let centuries := min (inCycle / 36524) 3
  let inCentury := inCycle - 36524 * centuries
  let groups := inCentury / 1461
  let inGroup := inCentury % 1461
  let years := min (inGroup / 365) 3
  let dayOfYear := inGroup - 365 * years
  let year := 400 * cycles + (100 * centuries + 4 * groups + years : Nat) + 1
  let (months, day) := splitMonths (monthLengths (isLeap year)) dayOfYear
  ⟨year, months + 1, day + 1⟩

/-- A date whose month and day exist. -/
def isValid (date : CalendarDate) : Bool :=
  match (monthLengths (isLeap date.year))[date.month - 1]? with
  | some length => 1 ≤ date.month && 1 ≤ date.day && date.day ≤ length
  | none => false

/-- A date as year, month and day with dashes, the year filled up to `yearWidth`. -/
def text (yearWidth : Nat) (date : CalendarDate) : List Char :=
  Text.signedDecimalPadded yearWidth date.year ++ '-' :: Text.decimalPadded 2 date.month
    ++ '-' :: Text.decimalPadded 2 date.day

end CalendarDate

/-- A time of day as hours, minutes and seconds with colons. -/
def clockText (seconds : Nat) : List Char :=
  Text.decimalPadded 2 (seconds / 3600) ++ ':' :: Text.decimalPadded 2 (seconds / 60 % 60)
    ++ ':' :: Text.decimalPadded 2 (seconds % 60)

end ScanAccess
