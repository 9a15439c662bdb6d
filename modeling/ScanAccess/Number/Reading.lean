import ScanAccess.Number.Binary64
import ScanAccess.Text.DecimalDigit

/-! # Reading numbers

The parts of a decimal numeral are cut off the front of a text; what the parts
may be is decided by those who use them.
-/

namespace ScanAccess.Text

/-- The pieces of a decimal numeral: the digits before the point, those after it
if there is a point, and the exponent if there is one. -/
structure NumeralParts where
  whole : List Char
  fraction : Option (List Char)
  exponent : Option Int
  deriving Repr

/-- Cuts a row of digits off the front. -/
def spanDigits (cs : List Char) : List Char × List Char :=
  (cs.takeWhile isDigit, cs.dropWhile isDigit)

/-- Cuts an exponent off the front: the letter, a sign or none, and digits. -/
def readExponent (cs : List Char) : Option Int × List Char :=
  match cs with
  | 'e' :: rest | 'E' :: rest =>
    let (negative, body) := match rest with
      | '-' :: body => (true, body)
      | '+' :: body => (false, body)
      | body => (false, body)
    match spanDigits body with
    | ([], _) => (none, cs)
    | (digits, after) =>
      let value : Int := ofDigits digits
      (some (if negative then -value else value), after)
  | _ => (none, cs)

/-- Cuts the parts of an unsigned numeral off the front. The point counts as a
part only if digits follow it or `bare` allows it to stand alone. -/
def readNumeral (bare : Bool) (cs : List Char) : NumeralParts × List Char :=
  let (whole, rest) := spanDigits cs
  let (fraction, rest) := match rest with
    | '.' :: after =>
      let (digits, afterDigits) := spanDigits after
      if digits.isEmpty && !bare then (none, rest) else (some digits, afterDigits)
    | _ => (none, rest)
  let (exponent, rest) := readExponent rest
  (⟨whole, fraction, exponent⟩, rest)

/-- The binary64 number nearest to a numeral. -/
def NumeralParts.toBinary64 (negative : Bool) (parts : NumeralParts) : Binary64 :=
  let fraction := parts.fraction.getD []
  Binary64.ofDecimal negative (ofDigits (parts.whole ++ fraction))
    (parts.exponent.getD 0 - fraction.length)

end ScanAccess.Text

namespace ScanAccess.Binary64

open ScanAccess.Text

/-- Reads a whole text as a number: a sign or none, then a decimal numeral, or
one of the words for infinity and for the NaN in any case. -/
def ofText? (s : String) : Option Binary64 :=
  let (negative, body) := match s.toList with
    | '-' :: body => (true, body)
    | '+' :: body => (false, body)
    | body => (false, body)
  let word := String.ofList (body.map Char.toLower)
  if word = "inf" ∨ word = "infinity" then some (.infinite negative)
  else if word = "nan" then some .nan
  else
    let (parts, rest) := readNumeral true body
    if rest.isEmpty && !(parts.whole.isEmpty && (parts.fraction.getD []).isEmpty) then
      some (parts.toBinary64 negative)
    else none

end ScanAccess.Binary64

namespace ScanAccess.Text

/-- Drops the low lines of a text, each of which has to stand between two digits. The
character before the text is a digit or none. -/
def dropDigitLines (afterDigit : Bool) : List Char → Option (List Char)
  | [] => some []
  | '_' :: c :: rest =>
    if afterDigit && isDigit c then (dropDigitLines true rest).map (c :: ·) else none
  | ['_'] => none
  | c :: rest => (dropDigitLines (isDigit c) rest).map (c :: ·)

/-- Whether a text can be read as a number, where decimal digits of every script count as
digits and low lines may stand between them. -/
def readsAsNumber (text : List Char) : Bool :=
  let plain := text.map fun c => if isDecimalDigit c then '0' else c
  ((dropDigitLines false plain).bind fun cs => Binary64.ofText? (String.ofList cs)).isSome

end ScanAccess.Text
