import ScanAccess.Text.Numeral

/-! # Durations

A signed number of microseconds. The durations in use span at most 999999999
days in either direction.
-/

namespace ScanAccess

/-- A signed length of time. -/
structure Duration where
  microseconds : Int
  deriving DecidableEq, Repr

namespace Duration

/-- The microseconds in a day. -/
def perDay : Int := 86400000000

/-- Whether the whole days of a duration have at most nine digits. -/
def inRange (d : Duration) : Bool :=
  -999999999 ≤ d.microseconds / perDay && d.microseconds / perDay ≤ 999999999

/-- The duration of so many microseconds, unless it is out of range. -/
def ofMicroseconds? (n : Int) : Option Duration :=
  if inRange ⟨n⟩ then some ⟨n⟩ else none

/-- The duration of so many seconds, unless it is out of range. -/
def ofSeconds? (n : Int) : Option Duration :=
  ofMicroseconds? (1000000 * n)

/-- The whole days, rounded down. -/
def days (d : Duration) : Int :=
  d.microseconds / perDay

/-- The whole seconds beyond the days. -/
def seconds (d : Duration) : Nat :=
  (d.microseconds % perDay / 1000000).toNat

/-- The microseconds beyond the seconds. -/
def fraction (d : Duration) : Nat :=
  (d.microseconds % 1000000).toNat

/-- A positive duration. -/
def isPositive (d : Duration) : Bool :=
  0 < d.microseconds

/-- Days if there are any, then hours, minutes and seconds, then six digits of
a fraction if there is one. -/
def text (d : Duration) : List Char :=
  let unit := if d.days.natAbs = 1 then " day, " else " days, "
  let before := if d.days = 0 then [] else Text.signedDecimal d.days ++ unit.toList
  let after := if d.fraction = 0 then [] else '.' :: Text.decimalPadded 6 d.fraction
  before ++ Text.decimal (d.seconds / 3600) ++ ':' :: Text.decimalPadded 2 (d.seconds / 60 % 60)
    ++ ':' :: Text.decimalPadded 2 (d.seconds % 60) ++ after

end Duration

end ScanAccess
