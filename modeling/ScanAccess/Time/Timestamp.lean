import ScanAccess.Number.Reading
import ScanAccess.Time.Calendar
import ScanAccess.Time.Duration

/-! # Timestamps

A timestamp is what a calendar and a clock on some wall show, with the offset of
that wall from UTC if it is known. Timestamps with an offset stand for instants;
those without can be compared among themselves only. A wall may also hang in a zone
whose offset changes. Timestamps of one zone are compared as their walls show them,
even where the offset changed in between.
-/

namespace ScanAccess

/-- A zone whose offset from UTC changes, by the expression that it is spelled with, and whether
a reading is the later of two that show the same. -/
structure Zone where
  spelling : String
  later : Bool := false
  deriving DecidableEq, Repr

/-- A reading of a wall clock in microseconds since 1970-01-01T00:00:00 on that
wall, the wall's offset east of UTC in microseconds, if known, and the zone, if the
offset is not fixed. -/
structure Timestamp where
  wall : Int
  offset : Option Int
  zone : Option Zone := none
  deriving DecidableEq, Repr

namespace Timestamp

/-- The timestamp at a date and a time of day. -/
def ofCivil (date : CalendarDate) (microseconds : Nat) (offset : Option Int) : Timestamp :=
  { wall := Duration.perDay * date.toDays + microseconds, offset }

/-- The date that the wall shows. -/
def date (t : Timestamp) : CalendarDate :=
  CalendarDate.ofDays (t.wall / Duration.perDay)

/-- The time of day that the wall shows, in microseconds. -/
def timeOfDay (t : Timestamp) : Nat :=
  (t.wall % Duration.perDay).toNat

/-- The instant in microseconds since 1970-01-01T00:00:00 UTC; a timestamp
without an offset is read as UTC. -/
def instant (t : Timestamp) : Int :=
  t.wall - t.offset.getD 0

/-- Whether two timestamps are of one zone. -/
def sharesZone (t u : Timestamp) : Bool :=
  match t.zone, u.zone with
  | some zone, some other => zone.spelling == other.spelling
  | _, _ => false

/-- The microseconds from `start` to `t`: in one zone by the walls alone, else by the offsets too.
There are none between a timestamp with an offset and one without. -/
def since? (t start : Timestamp) : Option Int :=
  match t.offset, start.offset with
  | none, none => some (t.wall - start.wall)
  | some a, some b =>
    some (if t.sharesZone start then t.wall - start.wall else (t.wall - a) - (start.wall - b))
  | _, _ => none

/-- Whether two timestamps stand for the same time; one with and one without an
offset do not. -/
def sameTime (t u : Timestamp) : Bool :=
  t.since? u == some 0

/-- Whether the wall shows a year from 1 to 9999. -/
def inRange (t : Timestamp) : Bool :=
  1 ≤ t.date.year && t.date.year ≤ 9999

/-- The timestamp a duration later on the same wall, unless a year has no four digits there. -/
def advance? (t : Timestamp) (d : Duration) : Option Timestamp :=
  let later : Timestamp := { t with wall := t.wall + d.microseconds }
  if later.inRange then some later else none

/-- An offset: a sign, hours and minutes, then seconds and a fraction where needed. -/
def offsetText (offset : Int) : List Char :=
  let size := offset.natAbs
  let seconds := size / 1000000
  let fraction := size % 1000000
  let sign := if offset < 0 then '-' else '+'
  let tail :=
    if fraction ≠ 0 then
      ':' :: Text.decimalPadded 2 (seconds % 60) ++ '.' :: Text.decimalPadded 6 fraction
    else if seconds % 60 ≠ 0 then ':' :: Text.decimalPadded 2 (seconds % 60)
    else []
  sign :: Text.decimalPadded 2 (seconds / 3600) ++ ':' :: Text.decimalPadded 2 (seconds / 60 % 60)
    ++ tail

/-- The form of ISO 8601 with `separator` between date and time: six digits of a
fraction if there is one, and the offset if it is known. -/
def text (separator : Char) (t : Timestamp) : List Char :=
  let fraction := t.timeOfDay % 1000000
  t.date.text 4 ++ separator :: clockText (t.timeOfDay / 1000000)
    ++ (if fraction = 0 then [] else '.' :: Text.decimalPadded 6 fraction)
    ++ (match t.offset with
      | none => []
      | some offset => offsetText offset)

/-- The form of ISO 8601, with a `T` between date and time. -/
def iso (t : Timestamp) : String :=
  String.ofList (t.text 'T')

/-- Cuts a numeral of exactly `width` digits off the front. -/
def readFixed (width : Nat) (cs : List Char) : Option (Nat × List Char) :=
  let digits := cs.take width
  if digits.length = width ∧ digits.all Text.isDigit then
    some (Text.ofDigits digits, cs.drop width)
  else none

/-- Cuts one given character off the front. -/
def readChar (c : Char) : List Char → Option (List Char)
  | d :: rest => if c = d then some rest else none
  | [] => none

/-- Cuts a fraction of a second off the front, in microseconds: a point and up
to six digits. There is none if there is no point. -/
def readFraction : List Char → Option (Nat × List Char)
  | '.' :: rest =>
    let (digits, rest) := Text.spanDigits rest
    if digits.isEmpty || 6 < digits.length then none
    else some (Text.ofDigits digits * tenTo (6 - digits.length), rest)
  | rest => some (0, rest)

/-- Cuts hours and minutes off the front, in microseconds, and seconds with a
fraction if they follow. -/
def readClock (cs : List Char) : Option (Nat × List Char) := do
  let (hours, cs) ← readFixed 2 cs
  let cs ← readChar ':' cs
  let (minutes, cs) ← readFixed 2 cs
  let (seconds, cs) ← match cs with
    | ':' :: rest => do
      let (seconds, rest) ← readFixed 2 rest
      let (fraction, rest) ← readFraction rest
      pure (1000000 * seconds + fraction, rest)
    | rest => pure (0, rest)
  if hours < 24 ∧ minutes < 60 ∧ seconds < 60000000 then
    some (3600000000 * hours + 60000000 * minutes + seconds, cs)
  else none

/-- Reads the size of an offset, which takes up the whole text. An offset of less than a
second is none at all. -/
def readOffsetSize (cs : List Char) : Option Int := do
  let (size, rest) ← readClock cs
  if rest.isEmpty then some (if size < 1000000 then 0 else size) else none

/-- Reads an offset that takes up the whole text. -/
def readOffset (cs : List Char) : Option (Option Int) :=
  match cs with
  | [] => some none
  | '+' :: rest => (readOffsetSize rest).map some
  | '-' :: rest => (readOffsetSize rest).map fun size => some (-size)
  | _ => none

/-- Reads the form of ISO 8601 that `iso` writes, a shorter fraction allowed. -/
def ofIso? (s : String) : Option Timestamp := do
  let (year, cs) ← readFixed 4 s.toList
  let cs ← readChar '-' cs
  let (month, cs) ← readFixed 2 cs
  let cs ← readChar '-' cs
  let (day, cs) ← readFixed 2 cs
  let cs ← readChar 'T' cs
  let (time, cs) ← readClock cs
  let offset ← readOffset cs
  let date : CalendarDate := ⟨year, month, day⟩
  if 1 ≤ year ∧ date.isValid then some (ofCivil date time offset) else none

end Timestamp

end ScanAccess
