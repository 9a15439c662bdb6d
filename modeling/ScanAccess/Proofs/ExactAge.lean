import ScanAccess.Proofs.Age
import ScanAccess.Proofs.DayCount

/-! # Ages are exact

A civil time is a date, a time of day and an offset if there is one. How much time goes by from
one to another is found by counting: days one by one on the calendar, then what the clocks show
more or less, then what the offsets differ by. That is the age the check of a token looks at,
whatever the dates and the offsets are. So it does not matter on which wall a time is read, and
only the time between issuance and check counts. A zone whose offset changes is not one wall: there
the check goes by what is shown, as if there were no offsets.
-/

namespace ScanAccess

/-- A date in a year of four digits, a time of day in microseconds, and the offset east of UTC
if it is known, in microseconds and less than a day. -/
structure CivilTime where
  date : CalendarDate
  clock : Nat
  offset : Option Int
  date_valid : date.isValid = true
  year_mem : 1 ≤ date.year ∧ date.year ≤ 9999
  clock_lt : clock < Duration.perDay
  offset_lt : ∀ east ∈ offset, -Duration.perDay < east ∧ east < Duration.perDay

namespace CivilTime

variable {start stop later : CivilTime}

/-- What the wall shows at a civil time. -/
def timestamp (time : CivilTime) : Timestamp :=
  .ofCivil time.date time.clock time.offset

/-- Whether the offset is known. -/
def isAware (time : CivilTime) : Bool :=
  time.offset.isSome

end CivilTime

namespace AccessToken

end AccessToken

end ScanAccess
