import ScanAccess.Json.Value
import ScanAccess.Number.Reading

/-! # Reading JSON

The reader accepts the JSON grammar and the words `NaN`, `Infinity` and
`-Infinity`. It refuses integers of more than 4300 digits and control characters
inside strings. A field named twice keeps its first place and its last value. Two
escapes of units that are a pair stand for one character; a unit without its partner is half of
one. Arrays and objects may
stand inside one another up to a limit.
-/

namespace ScanAccess.Json

open ScanAccess.Text

/-- Why a text is not read: it is no JSON, or a container lies too deep. -/
inductive ReadError where
  | malformed
  | tooDeep (container : Container)
  deriving DecidableEq, Repr

/-- Drops the spaces, tabs and line ends that may stand between the parts of a text. -/
def skipSpace (cs : List Char) : List Char :=
  cs.dropWhile fun c => c == ' ' || c == '\t' || c == '\n' || c == '\r'

/-- The number that four hexadecimal digits stand for. -/
def readUnit? (a b c d : Char) : Option Nat := do
  let a ← hexValue? a
  let b ← hexValue? b
  let c ← hexValue? c
  let d ← hexValue? d
  return ((a * 16 + b) * 16 + c) * 16 + d

/-- The character that a letter after a backslash stands for. -/
def simpleEscape? (c : Char) : Option Nat :=
  if c = '\x22' ∨ c = '\\' ∨ c = '/' then some c.toNat
  else if c = 'b' then some 0x08
  else if c = 'f' then some 0x0c
  else if c = 'n' then some 0x0a
  else if c = 'r' then some 0x0d
  else if c = 't' then some 0x09
  else none

/-- Reads the inside of a string up to its closing quote, as code points and,
where the text has escapes, code units of UTF-16. -/
def readUnits : List Char → Option (List Nat × List Char)
  | [] => none
  | '\x22' :: rest => some ([], rest)
  | '\\' :: 'u' :: a :: b :: c :: d :: rest => do
    let unit ← readUnit? a b c d
    let (units, rest) ← readUnits rest
    return (unit :: units, rest)
  | '\\' :: c :: rest => do
    let unit ← simpleEscape? c
    let (units, rest) ← readUnits rest
    return (unit :: units, rest)
  | c :: rest => do
    if c.toNat < 0x20 then none
    else
      let (units, rest) ← readUnits rest
      return (c.toNat :: units, rest)

/-- Makes each pair of units one character. -/
def joinUnits : List Nat → List CodePoint
  | [] => []
  | [unit] => [.ofCode unit]
  | unit :: next :: rest =>
    if isLeadingUnit unit && isTrailingUnit next then .char (pairOf unit next) :: joinUnits rest
    else .ofCode unit :: joinUnits (next :: rest)

/-- Reads a string after its opening quote. -/
def readString (cs : List Char) : Except ReadError (RawText × List Char) :=
  match readUnits cs with
  | some (units, rest) => .ok (⟨joinUnits units⟩, rest)
  | none => .error .malformed

/-- Reads a number: an integer if it has neither fraction nor exponent. -/
def readNumber (cs : List Char) : Except ReadError (Json × List Char) :=
  let (negative, body) := match cs with
    | '-' :: body => (true, body)
    | body => (false, body)
  let (parts, rest) := readNumeral false body
  if parts.whole.isEmpty || (parts.whole.head? == some '0' && parts.whole.length != 1) then
    .error .malformed
  else if parts.fraction.isNone && parts.exponent.isNone then
    if maxDigits < parts.whole.length then .error .malformed
    else
      let size : Int := ofDigits parts.whole
      .ok (.int (if negative then -size else size), rest)
  else .ok (.float (parts.toBinary64 negative), rest)

mutual

/-- Reads a value at the front of a text, with at most `depth` containers inside one
another; `fuel` bounds the reader's steps. -/
def readValue : Nat → Nat → List Char → Except ReadError (Json × List Char)
  | 0, _, _ => .error .malformed
  | fuel + 1, depth, cs =>
    match cs with
    | 'n' :: 'u' :: 'l' :: 'l' :: rest => .ok (.null, rest)
    | 't' :: 'r' :: 'u' :: 'e' :: rest => .ok (.bool true, rest)
    | 'f' :: 'a' :: 'l' :: 's' :: 'e' :: rest => .ok (.bool false, rest)
    | 'N' :: 'a' :: 'N' :: rest => .ok (.float .nan, rest)
    | 'I' :: 'n' :: 'f' :: 'i' :: 'n' :: 'i' :: 't' :: 'y' :: rest =>
      .ok (.float (.infinite false), rest)
    | '-' :: 'I' :: 'n' :: 'f' :: 'i' :: 'n' :: 'i' :: 't' :: 'y' :: rest =>
      .ok (.float (.infinite true), rest)
    | '\x22' :: rest => (readString rest).map fun (text, rest) => (.string text, rest)
    | '[' :: rest =>
      match depth with
      | 0 => .error (.tooDeep .array)
      | depth + 1 =>
        match skipSpace rest with
        | ']' :: rest => .ok (.array [], rest)
        | rest => (readItems fuel depth rest).map fun (items, rest) => (.array items, rest)
    | '\x7b' :: rest =>
      match depth with
      | 0 => .error (.tooDeep .object)
      | depth + 1 =>
        match skipSpace rest with
        | '\x7d' :: rest => .ok (.object [], rest)
        | rest => (readFields fuel depth rest).map fun (fields, rest) =>
            (.object (Dictionary.ofList fields), rest)
    | cs => readNumber cs

/-- Reads the items of an array, one at least, and its closing bracket. -/
def readItems : Nat → Nat → List Char → Except ReadError (List Json × List Char)
  | 0, _, _ => .error .malformed
  | fuel + 1, depth, cs => do
    let (item, rest) ← readValue fuel depth cs
    match skipSpace rest with
    | ',' :: rest =>
      let (items, rest) ← readItems fuel depth (skipSpace rest)
      return (item :: items, rest)
    | ']' :: rest => return ([item], rest)
    | _ => .error .malformed

/-- Reads the fields of an object, one at least, and its closing brace. -/
def readFields : Nat → Nat → List Char → Except ReadError (List (RawText × Json) × List Char)
  | 0, _, _ => .error .malformed
  | fuel + 1, depth, cs =>
    match cs with
    | '\x22' :: rest => do
      let (name, rest) ← readString rest
      match skipSpace rest with
      | ':' :: rest =>
        let (value, rest) ← readValue fuel depth (skipSpace rest)
        match skipSpace rest with
        | ',' :: rest =>
          let (fields, rest) ← readFields fuel depth (skipSpace rest)
          return ((name, value) :: fields, rest)
        | '\x7d' :: rest => return ([(name, value)], rest)
        | _ => .error .malformed
      | _ => .error .malformed
    | _ => .error .malformed

end

/-- Reads a text that is one value, with space around it or none. At most `depth` containers
may stand inside one another. -/
def read (depth : Nat) (text : String) : Except ReadError Json := do
  let cs := text.toList
  let (value, rest) ← readValue (2 * cs.length + 2) depth (skipSpace cs)
  if (skipSpace rest).isEmpty then return value else .error .malformed

end ScanAccess.Json
