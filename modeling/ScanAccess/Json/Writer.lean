import ScanAccess.Failure
import ScanAccess.Json.Value
import ScanAccess.Number.Shortest

/-! # JSON texts

A value is written on one line in printable ASCII: without spaces, the fields of
an object in the order of their names by code point, and every other character
escaped. Numbers that are not finite are written `NaN`, `Infinity` and
`-Infinity`, which strict readers refuse. A value with too long an integer in it is
not written at all.
-/

namespace ScanAccess.Json

open ScanAccess.Text

/-- A code unit of UTF-16 as an escape. -/
def unicodeEscape (unit : Nat) : List Char :=
  '\\' :: 'u' :: hexPadded 4 unit

/-- A character inside a string. Characters beyond the first plane become two
escapes, of their halves. -/
def escapeChar (c : Char) : List Char :=
  if c = '\x22' ∨ c = '\\' then ['\\', c]
  else if c = '\n' then ['\\', 'n']
  else if c = '\r' then ['\\', 'r']
  else if c = '\t' then ['\\', 't']
  else if c = '\x08' then ['\\', 'b']
  else if c = '\x0c' then ['\\', 'f']
  else if 0x20 ≤ c.toNat ∧ c.toNat < 0x7f then [c]
  else if c.toNat < 0x10000 then unicodeEscape c.toNat
  else
    let above := c.toNat - 0x10000
    unicodeEscape (0xd800 + above / 0x400) ++ unicodeEscape (0xdc00 + above % 0x400)

/-- A code point inside a string. -/
def escapePoint : CodePoint → List Char
  | .char c => escapeChar c
  | .half index => unicodeEscape (CodePoint.half index).code

/-- A string between double quotes. -/
def writeString (text : RawText) : List Char :=
  '\x22' :: text.points.flatMap escapePoint ++ ['\x22']

/-- A binary64 number. -/
def writeFloat : Binary64 → List Char
  | .nan => ['N', 'a', 'N']
  | .infinite false => ['I', 'n', 'f', 'i', 'n', 'i', 't', 'y']
  | .infinite true => ['-', 'I', 'n', 'f', 'i', 'n', 'i', 't', 'y']
  | x => x.text

/-- Texts with commas between them. -/
def commaSeparated (texts : List (List Char)) : List Char :=
  List.intercalate [','] texts

/-- Named texts in the order of the names. -/
def sortFields (fields : List (RawText × List Char)) : List (RawText × List Char) :=
  fields.mergeSort fun a b => decide (a.1 ≤ b.1)

/-- The text of a field: its name, a colon and the text of its value. -/
def fieldText (field : RawText × List Char) : List Char :=
  writeString field.1 ++ ':' :: field.2

mutual

/-- The text of a value. -/
def write : Json → List Char
  | .null => ['n', 'u', 'l', 'l']
  | .bool true => ['t', 'r', 'u', 'e']
  | .bool false => ['f', 'a', 'l', 's', 'e']
  | .int n => signedDecimal n
  | .float x => writeFloat x
  | .string s => writeString s
  | .array items => '[' :: commaSeparated (writeItems items) ++ [']']
  | .object fields =>
    '\x7b' :: commaSeparated ((sortFields (writeFields fields)).map fieldText) ++ ['\x7d']

/-- The texts of the items of an array. -/
def writeItems : List Json → List (List Char)
  | [] => []
  | item :: rest => write item :: writeItems rest

/-- The names of the fields of an object with the texts of their values. -/
def writeFields : List (RawText × Json) → List (RawText × List Char)
  | [] => []
  | (name, value) :: rest => (name, write value) :: writeFields rest

end

mutual

/-- Whether an integer in a value has too many digits to be written. -/
def hasLongNumber : Json → Bool
  | .int n => isTooLong n
  | .array items => anyLongNumber items
  | .object fields => anyLongField fields
  | .null | .bool _ | .float _ | .string _ => false

/-- The same for the items of an array. -/
def anyLongNumber : List Json → Bool
  | [] => false
  | item :: rest => item.hasLongNumber || anyLongNumber rest

/-- The same for the fields of an object. -/
def anyLongField : List (RawText × Json) → Bool
  | [] => false
  | (_, value) :: rest => value.hasLongNumber || anyLongField rest

end

/-- The text of a value as a string. -/
def render (json : Json) : String :=
  String.ofList (write json)

/-- The text of a value, if its integers can be written. -/
def encode (json : Json) : Except Failure String :=
  if json.hasLongNumber then .error .numberTooLong else .ok json.render

end ScanAccess.Json
