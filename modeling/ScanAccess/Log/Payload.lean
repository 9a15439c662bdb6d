import ScanAccess.AccessToken
import ScanAccess.Number.Binary64

/-! # Payloads

A payload is the structured part of a log record. It is a tree of plain values,
of containers, and of the records this library works with.
-/

namespace ScanAccess.Log

/-- The kinds of containers without keys. -/
inductive Shape where
  | list
  | tuple
  | set
  | frozenSet
  deriving DecidableEq, Repr

/-- The record types that may be logged as such, instead of one of their records. -/
inductive RecordType where
  | accessToken
  | tokenRequest
  deriving DecidableEq, Repr

/-- A value to be logged. Bytes are fixed or open to change. A request carries the data
that its sender attached. -/
inductive Payload where
  | none
  | bool (value : Bool)
  | int (value : Int)
  | float (value : Binary64)
  | text (value : RawText)
  | time (value : Timestamp)
  | duration (value : Duration)
  | bytes (value : List UInt8) (fixed : Bool)
  | items (shape : Shape) (values : List Payload)
  | mapping (entries : List (Payload × Payload))
  | token (record : AccessToken)
  | request (url : RawText) (metadata : Payload)
  | fault (value : Fault)
  | recordType (type : RecordType)

namespace Payload

/-- Whether a payload is nothing to log: no value, false, a zero, or empty. -/
def isEmpty : Payload → Bool
  | none => true
  | bool value => !value
  | int value => value == 0
  | float value => value.isZero
  | text value => value.isEmpty
  | duration value => value.microseconds == 0
  | bytes value _ => value.isEmpty
  | items _ values => values.isEmpty
  | mapping entries => entries.isEmpty
  | time _ | token _ | request _ _ | fault _ | recordType _ => false

/-- The number that a payload is: numbers and truth values are compared by it. -/
def number? : Payload → Option (Int ⊕ Binary64)
  | bool value => some (.inl (if value then 1 else 0))
  | int value => some (.inl value)
  | float value => some (.inr value)
  | _ => Option.none

/-- Whether two numbers are equal. -/
def sameNumber : Int ⊕ Binary64 → Int ⊕ Binary64 → Bool
  | .inl m, .inl n => m == n
  | .inl n, .inr x | .inr x, .inl n => x.toInt? == some n
  | .inr x, .inr y => x.sameValue y

mutual

/-- Whether two payloads are one key of a mapping. Numbers are compared by value,
times by instant, containers item by item; faults are never equal. -/
def sameKey : Payload → Payload → Bool
  | none, none => true
  | text a, text b => a == b
  | time a, time b => a.sameTime b
  | duration a, duration b => a == b
  | bytes a _, bytes b _ => a == b
  | items a xs, items b ys => (a == b || (a != .list && a != .tuple && b != .list && b != .tuple))
      && sameKeys xs ys
  | token a, token b =>
    a.token == b.token && a.url == b.url && a.isValid == b.isValid
      && a.createdAt.sameTime b.createdAt
  | request url metadata, request other otherMetadata =>
    url == other && sameKey metadata otherMetadata
  | recordType a, recordType b => a == b
  | a, b =>
    match a.number?, b.number? with
    | some m, some n => sameNumber m n
    | _, _ => false

/-- Whether two rows of payloads are the same keys, one by one. -/
def sameKeys : List Payload → List Payload → Bool
  | [], [] => true
  | x :: xs, y :: ys => sameKey x y && sameKeys xs ys
  | _, _ => false

end

mutual

/-- The name of the kind of the first part of a payload that is open to change, so that
the payload cannot be a key. Sets are looked into where they are made. -/
def changeable? : Payload → Option String
  | items .list _ => "list"
  | items .set _ => "set"
  | items .tuple values => firstChangeable? values
  | items .frozenSet _ => Option.none
  | mapping _ => "dict"
  | bytes _ fixed => if fixed then Option.none else some "bytearray"
  | request _ metadata => changeable? metadata
  | _ => Option.none

/-- The same for the first of some payloads that has such a part. -/
def firstChangeable? : List Payload → Option String
  | [] => Option.none
  | value :: rest => (changeable? value).orElse fun _ => firstChangeable? rest

end

/-- A payload as a key of a mapping or an item of a set: nothing in it is open to change. -/
def asKey (payload : Payload) : Except Failure Payload :=
  match payload.changeable? with
  | some kind => .error (.changeableKey kind)
  | Option.none => .ok payload

/-- A payload that is looked for among keys: it has to be a key itself, and a set is looked
for as a frozen one. -/
def asSought (payload : Payload) : Except Failure Payload :=
  match payload with
  | items .set values => asKey (.items .frozenSet values)
  | payload => asKey payload

/-- Puts a value under a key: an equal key keeps its place and gets the new value. -/
def putEntry (key value : Payload) : List (Payload × Payload) → List (Payload × Payload)
  | [] => [(key, value)]
  | (k, v) :: rest =>
    if sameKey k key then (k, value) :: rest else (k, v) :: putEntry key value rest

/-- The mapping made from entries one after the other. -/
def ofEntries (entries : List (Payload × Payload)) : Payload :=
  .mapping (entries.foldl (fun dict (key, value) => putEntry key value dict) [])

/-- The mapping with these names for keys. -/
def ofFields (fields : List (String × Payload)) : Payload :=
  .mapping (fields.map fun (name, value) => (.text name, value))

end Payload

end ScanAccess.Log
