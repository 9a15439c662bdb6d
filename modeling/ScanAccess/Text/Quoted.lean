import ScanAccess.Text.Printable
import ScanAccess.Text.RawText

/-! # Quoted texts

A quoted text stands between single quotes, or between double quotes if it
holds a single quote and no double one. The backslash, the quote in use and
every code point that is not printable are escaped, so a quoted text is one line
of characters, without halves and without control characters.
-/

namespace ScanAccess.Text

/-- The quote that a text is put between. -/
def quoteFor (points : List CodePoint) : Char :=
  if .char '\x27' ∈ points ∧ .char '\x22' ∉ points then '\x22' else '\x27'

/-- A character as it stands between the quotes `quote`. -/
def escapeChar (quote c : Char) : List Char :=
  if c = quote ∨ c = '\\' then ['\\', c]
  else if c = '\t' then ['\\', 't']
  else if c = '\n' then ['\\', 'n']
  else if c = '\r' then ['\\', 'r']
  else if isPrintable c then [c]
  else
    let code := c.toNat
    if code < 0x100 then '\\' :: 'x' :: hexPadded 2 code
    else if code < 0x10000 then '\\' :: 'u' :: hexPadded 4 code
    else '\\' :: 'U' :: hexPadded 8 code

/-- A code point as it stands between the quotes `quote`. -/
def escapePoint (quote : Char) : CodePoint → List Char
  | .char c => escapeChar quote c
  | .half index => '\\' :: 'u' :: hexPadded 4 (CodePoint.half index).code

/-- The quoted form of a text. -/
def quote (text : RawText) : List Char :=
  let mark := quoteFor text.points
  mark :: text.points.flatMap (escapePoint mark) ++ [mark]

/-- The quoted form of a string. -/
def quoted (s : String) : String :=
  String.ofList (quote s)

/-- A byte as it stands between the quotes of a byte string: printable ASCII as
itself, everything else escaped. -/
def escapeByte (quote : Char) (byte : UInt8) : List Char :=
  let c := Char.ofNat byte.toNat
  if c = quote ∨ c = '\\' then ['\\', c]
  else if c = '\t' then ['\\', 't']
  else if c = '\n' then ['\\', 'n']
  else if c = '\r' then ['\\', 'r']
  else if 0x20 ≤ byte.toNat ∧ byte.toNat < 0x7f then [c]
  else '\\' :: 'x' :: hexPadded 2 byte.toNat

/-- The quoted form of a byte string. -/
def quoteBytes (bytes : List UInt8) : List Char :=
  let mark := quoteFor (bytes.map fun byte => .char (Char.ofNat byte.toNat))
  'b' :: mark :: bytes.flatMap (escapeByte mark) ++ [mark]

end ScanAccess.Text
