import ScanAccess.Log.Level
import ScanAccess.Log.Payload

/-! # Events and records

An event is what an operation logs: who, how severe, what, and with which
payload. A record is an event with everything a formatter may need: the message's
arguments, the time, and the report of a fault or a stack to print.
-/

namespace ScanAccess.Log

/-- What an operation logs. -/
structure Event where
  logger : String
  level : Level
  message : String
  data : Option Payload := none

/-- A log record. `created` is in microseconds since 1970-01-01T00:00:00 UTC.
`milliseconds` may be missing for a cause. `fault` is the report of a fault, its lines ended,
as it is printed with the calls that led to it. -/
structure Record where
  logger : String
  level : Level
  message : Message
  data : Option Payload := none
  created : Int
  milliseconds : Except Binary64.NoInteger Int
  fault : Option String := none
  stack : Option String := none

/-- The milliseconds beyond the second in a time in microseconds. -/
def millisecondsOf (created : Int) : Int :=
  created / 1000 % 1000

/-- A time in microseconds as a number of seconds, which every record needs. The
microseconds become a binary64 number before they are divided, so a time just before
a second may round up to it. -/
def secondsOf (created : Int) : Except Failure Binary64 :=
  match (Binary64.ofInt created).dividedBy? 1000000 with
  | some seconds => .ok seconds
  | none => .error .timeOutOfRange

/-- The report for a record that announces a fault and has none. -/
def noFaultReport : String := "NoneType: None\n"

/-- The record of an event at a time. -/
def Event.at (event : Event) (now : Timestamp) : Record :=
  { logger := event.logger
    level := event.level
    message := { template := event.message }
    data := event.data
    created := now.instant
    milliseconds := .ok (millisecondsOf now.instant) }

namespace Record

/-- The second in which a record was made, if 64 bits can hold it. -/
def second (record : Record) : Except Failure Int := do
  match (← secondsOf record.created).floor? with
  | none => .error .timeOutOfRange
  | some second =>
    if -(twoTo 63 : Int) ≤ second ∧ second < twoTo 63 then .ok second
    else .error .timeOutOfRange

/-- The date of a second. Years are counted from 1900 in 32 bits, and a year
itself may not be above what 32 bits hold. -/
def dateOf (second : Int) : Except Failure CalendarDate :=
  let date := CalendarDate.ofDays (second / 86400)
  if date.year < 1900 - twoTo 31 ∨ 1900 + twoTo 31 ≤ date.year then .error .yearTooLarge
  else if (twoTo 31 : Int) ≤ date.year then .error .timeOutOfRange
  else .ok date

/-- The date and the time of day of a record on a clock that is ahead of UTC. -/
def timeAhead (record : Record) (ahead : Int → Int) : Except Failure (List Char) := do
  let second ← record.second
  let shown := second + ahead second
  let date ← dateOf shown
  return date.text 1 ++ 'T' :: clockText (shown % 86400).toNat

/-- The date and the time of day of a record, in UTC. -/
def time (record : Record) : Except Failure (List Char) :=
  record.timeAhead fun _ => 0

end Record

end ScanAccess.Log
