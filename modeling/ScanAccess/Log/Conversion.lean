import ScanAccess.Number.Places
import ScanAccess.Text.Quoted

/-! # Conversions

A conversion is a place in a template at which an argument is shown. Its letter
says what the argument becomes, and before the letter may stand flags, the least
width, and a precision.
-/

namespace ScanAccess.Log

open ScanAccess.Text

/-- An argument of a message. -/
inductive Argument where
  | text (value : String)
  | int (value : Int)
  deriving DecidableEq, Repr

/-- Why a template and its arguments do not make a message. -/
inductive FormatError where
  | tooFewArguments
  | leftoverArguments
  | numberRequired (letter : Char)
  | integerRequired (letter : Char)
  | realNumberRequired
  | characterRequired
  | integerForStar
  | mappingRequired
  | unsupported (letter : Char) (index : Nat)
  | incomplete
  | widthTooBig
  | precisionTooBig
  | numberTooLong
  | halfCharacter
  | outOfRange
  deriving DecidableEq, Repr

namespace FormatError

/-- What is reported about a template that does not fit its arguments. A number out of
range has no text, and neither has half of a character. -/
def message : FormatError → Option String
  | tooFewArguments => "not enough arguments for format string"
  | leftoverArguments => "not all arguments converted during string formatting"
  | numberRequired letter =>
    "%" ++ letter.toString ++ " format: a real number is required, not str"
  | integerRequired letter =>
    "%" ++ letter.toString ++ " format: an integer is required, not str"
  | realNumberRequired => "must be real number, not str"
  | characterRequired => "%c requires int or char"
  | integerForStar => "* wants int"
  | mappingRequired => "format requires a mapping"
  | unsupported letter index =>
    let shown := if 31 ≤ letter.toNat ∧ letter.toNat ≤ 126 then letter else '?'
    "unsupported format character '" ++ shown.toString ++ "' (0x"
      ++ String.ofList (Nat.toDigits 16 letter.toNat) ++ ") at index "
      ++ String.ofList (decimal index)
  | incomplete => "incomplete format"
  | widthTooBig => "width too big"
  | precisionTooBig => "precision too big"
  | numberTooLong => tooLongReport
  | halfCharacter | outOfRange => none

end FormatError

/-- How an argument is shown: the letter, which stands at `index`, and what stands
before it. -/
structure Conversion where
  flags : List Char := []
  width : Nat := 0
  precision : Option Nat := none
  letter : Char
  index : Nat
  deriving DecidableEq, Repr

namespace Conversion

/-- Whether a flag is set. -/
def has (conversion : Conversion) (flag : Char) : Bool :=
  conversion.flags.contains flag

/-- A text, filled up with blanks to the width. -/
def fillUp (conversion : Conversion) (text : List Char) : List Char :=
  let blanks := List.replicate (conversion.width - text.length) ' '
  if conversion.has '-' then text ++ blanks else blanks ++ text

/-- A text, cut to the precision and filled up with blanks. -/
def showText (conversion : Conversion) (text : List Char) : List Char :=
  match conversion.precision with
  | some precision => conversion.fillUp (text.take precision)
  | none => conversion.fillUp text

/-- A number, given what stands before its digits, filled up with blanks or zeros. -/
def showNumber (conversion : Conversion) (negative : Bool) (lead digits : List Char) :
    List Char :=
  let sign := if negative then ['-']
    else if conversion.has '+' then ['+']
    else if conversion.has ' ' then [' ']
    else []
  let front := sign ++ lead
  let missing := conversion.width - (front.length + digits.length)
  if conversion.has '-' then front ++ digits ++ List.replicate missing ' '
  else if conversion.has '0' then front ++ List.replicate missing '0' ++ digits
  else List.replicate missing ' ' ++ front ++ digits

/-- The largest precision that an integer can be shown with. -/
def maxPrecision : Nat := 2147483644

/-- An integer in a base. Each base but ten has a mark that may stand before the digits, and no
limit on their number. -/
def showInteger (conversion : Conversion) (base : Nat) (mark : List Char) (n : Int) :
    Except FormatError (List Char) :=
  let precision := conversion.precision.getD 0
  if maxPrecision < precision then .error .outOfRange
  else if base = 10 ∧ isTooLong n then .error .numberTooLong
  else
    let digits := padZeros precision (Nat.toDigits base n.natAbs)
    .ok (conversion.showNumber (n < 0) (if conversion.has '#' then mark else []) digits)

/-- An integer in one of the forms with a point, after it became a binary64 number. -/
def showReal (conversion : Conversion) (n : Int) : Except FormatError (List Char) :=
  match (Binary64.ofInt n).toInt? with
  | none => .error .outOfRange
  | some rounded =>
    let always := conversion.has '#'
    let places := conversion.precision.getD 6
    let mark := if conversion.letter.isUpper then 'E' else 'e'
    let digits :=
      if conversion.letter = 'f' ∨ conversion.letter = 'F' then
        fixedText always places rounded.natAbs
      else if conversion.letter = 'e' ∨ conversion.letter = 'E' then
        scientificText always mark places rounded.natAbs
      else generalText always mark places rounded.natAbs
    .ok (conversion.showNumber (rounded < 0) [] digits)

/-- The character that an argument is. An integer is one by its number. Half of a character is
none, since messages are texts of whole characters. -/
def character : Argument → Except FormatError Char
  | .text s =>
    match s.toList with
    | [c] => .ok c
    | _ => .error .characterRequired
  | .int n =>
    if 0 ≤ n ∧ n < 0x110000 then
      match CodePoint.ofCode n.toNat with
      | .char c => .ok c
      | .half _ => .error .halfCharacter
    else .error .outOfRange

/-- A quoted text in ASCII: other characters become escapes. -/
def asciiQuote (text : String) : List Char :=
  (quote text).flatMap fun c =>
    if c.toNat < 0x80 then [c]
    else if c.toNat < 0x100 then '\\' :: 'x' :: hexPadded 2 c.toNat
    else if c.toNat < 0x10000 then '\\' :: 'u' :: hexPadded 4 c.toNat
    else '\\' :: 'U' :: hexPadded 8 c.toNat

/-- An argument as a conversion shows it. -/
def showArgument (conversion : Conversion) (argument : Argument) :
    Except FormatError (List Char) :=
  match conversion.letter, argument with
  | 's', .text s => .ok (conversion.showText s.toList)
  | 'r', .text s => .ok (conversion.showText (quote s))
  | 'a', .text s => .ok (conversion.showText (asciiQuote s))
  | 's', .int n | 'r', .int n | 'a', .int n =>
    if isTooLong n then .error .numberTooLong
    else .ok (conversion.showText (signedDecimal n))
  | 'c', argument => (character argument).map fun c => conversion.fillUp [c]
  | 'd', .int n | 'i', .int n | 'u', .int n => conversion.showInteger 10 [] n
  | 'o', .int n => conversion.showInteger 8 ['0', 'o'] n
  | 'x', .int n => conversion.showInteger 16 ['0', 'x'] n
  | 'X', .int n => (conversion.showInteger 16 ['0', 'x'] n).map (List.map Char.toUpper)
  | 'd', .text _ | 'i', .text _ | 'u', .text _ => .error (.numberRequired conversion.letter)
  | 'o', .text _ | 'x', .text _ | 'X', .text _ => .error (.integerRequired conversion.letter)
  | letter, argument =>
    if ['e', 'E', 'f', 'F', 'g', 'G'].contains letter then
      match argument with
      | .int n => conversion.showReal n
      | .text _ => .error .realNumberRequired
    else .error (.unsupported letter conversion.index)

end Conversion

end ScanAccess.Log
