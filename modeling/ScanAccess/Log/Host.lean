import ScanAccess.Log.Spelling

/-! # The host

Records are formatted inside of a program that runs somewhere. It may nest no more than so many
calls, some of which are the business of functions that are only used here, and it has a local
time.
-/

namespace ScanAccess.Log

/-- What formatting depends on beside the record. `room` says how many calls may still be nested
where the redaction of a record begins, not counting those that the standard library makes for
every record. Then come the calls inside of some functions: of building a container, of telling
the kind of a value, of a digest, and of spelling a record. `ahead` says by how many seconds local
time is ahead of UTC in a second, less than a day either way. -/
structure Host where
  room : Nat
  building : Nat := 0
  telling : Nat := 0
  digesting : Nat := 0
  spelling : Nat := 0
  ahead : Int → Int := fun _ => 0
  ahead_lt : ∀ second, (ahead second).natAbs < 86400 := by intro second; decide

/-- How many calls are left inside of so many more, if they can be nested. -/
def enter (calls left : Nat) : Except Failure Nat :=
  if calls ≤ left then .ok (left - calls) else .error .callsTooDeep

namespace Host

mutual

/-- Checks that a payload can be spelled with so many calls left: each value takes one, the records
some of their own, and no integer may be too long. -/
def checkSpelling (host : Host) (left : Nat) : Payload → Except Failure Unit
  | .int value => do
    let _ ← enter 1 left
    if Text.isTooLong value then .error .numberTooLong else .ok ()
  | .items _ values => do host.checkSpellings (← enter 1 left) values
  | .mapping entries => do host.checkEntries (← enter 1 left) entries
  | .token _ => do
    let _ ← enter (1 + host.spelling) left
    return ()
  | .request _ metadata => do host.checkSpelling (← enter (1 + host.spelling) left) metadata
  | _ => do
    let _ ← enter 1 left
    return ()

/-- The same for payloads one after the other. -/
def checkSpellings (host : Host) (left : Nat) : List Payload → Except Failure Unit
  | [] => .ok ()
  | value :: rest => do
    host.checkSpelling left value
    host.checkSpellings left rest

/-- The same for the entries of a mapping. -/
def checkEntries (host : Host) (left : Nat) : List (Payload × Payload) → Except Failure Unit
  | [] => .ok ()
  | (key, value) :: rest => do
    host.checkSpelling left key
    host.checkSpelling left value
    host.checkEntries left rest

end

/-- The text that stands for a payload, with so many calls left. -/
def textOf (host : Host) (left : Nat) (payload : Payload) : Except Failure RawText :=
  match payload with
  | .text value => .ok value
  | payload => do
    host.checkSpelling left payload
    return payload.shown

end Host

end ScanAccess.Log
