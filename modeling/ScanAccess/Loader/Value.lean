import ScanAccess.Loader.Node
import ScanAccess.Number.Reading
import ScanAccess.Loader.Problem
import ScanAccess.Text.Blank
import ScanAccess.Text.Half

/-! # Values of settings

Settings are given as texts or as JSON. Each kind of setting says which values it
takes and what is wrong with the others.
-/

namespace ScanAccess.Loader

open ScanAccess.Settings

open ScanAccess.Text

/-- The digits that an integer's text may have. -/
def maxDigits : Nat := 4300

/-- Reads a plain numeral that takes up the whole text: a minus sign or none, and
digits that do not begin with a zero, or a zero alone. Too many digits in a row
are found before anything that follows them. -/
def readPlain (cs : List Char) : Except Reason Int :=
  let (negative, body) := match cs with
    | '-' :: body => (true, body)
    | body => (false, body)
  let (digits, rest) := spanDigits body
  if digits.isEmpty || (digits.head? == some '0' && digits.length != 1) then
    .error .integerText
  else if maxDigits < digits.length then .error .integerSize
  else if !rest.isEmpty then .error .integerText
  else
    let size : Int := ofDigits digits
    .ok (if negative then -size else size)

/-- A character that may begin a numeral: a digit or a minus sign. -/
def beginsNumeral (c : Char) : Bool :=
  isDigit c || c == '-'

/-- Drops zeros and low lines, of which `last` came before. The last one stays if
nothing or a point follows. -/
def skipZeros (last : Char) : List Char → Option (List Char)
  | [] => some [last]
  | c :: rest =>
    if c = '0' ∨ c = '_' then skipZeros c rest
    else if c = '.' then some (last :: c :: rest)
    else if beginsNumeral c then some (c :: rest)
    else none

/-- Drops the zeros in front of a numeral, with the low lines between them. What is
left may begin with a minus sign. -/
def dropLeadingZeros : List Char → Option (List Char)
  | [] => none
  | c :: rest =>
    if c = '0' then skipZeros c rest
    else if beginsNumeral c then some (c :: rest)
    else none

/-- Drops a fraction of zeros. Any other fraction stays, an empty one too. -/
def dropZeroFraction (cs : List Char) : List Char :=
  match cs.dropWhile (· != '.') with
  | _ :: zeros =>
    if !zeros.isEmpty && zeros.all (· == '0') then cs.takeWhile (· != '.') else cs
  | [] => cs

/-- Drops the low lines, each of which has to stand alone between other characters. -/
def dropLowLines (cs : List Char) : Option (List Char) :=
  let groups := cs.splitOn '_'
  if groups.all fun group => !group.isEmpty then some groups.flatten else none

/-- Cuts a sign off the front: whether it is a minus sign, and what follows. A plus
sign right before a minus sign is none. -/
def splitSign (cs : List Char) : Bool × List Char :=
  match cs with
  | '-' :: body => (true, body)
  | '+' :: '-' :: _ => (false, cs)
  | '+' :: body => (false, body)
  | body => (false, body)

/-- The plain numeral for a text with anything that integers may have besides: white
space around it, a plus sign, leading zeros, a fraction of zeros, low lines. -/
def plainForm? (cs : List Char) : Option (List Char) := do
  let (negative, body) := splitSign (trimWhile isWhiteSpace cs)
  let numeral ← dropLowLines (dropZeroFraction (← dropLeadingZeros body))
  return if negative then '-' :: numeral else numeral

/-- Reads the text of an integer: as a plain numeral, or else by its plain form. A
numeral that is too long counts as such only where the text as given begins with it. -/
def readInteger (text : String) : Except Reason Int :=
  match readPlain text.toList with
  | .error .integerText =>
    match (plainForm? text.toList).map readPlain with
    | some (.ok n) => .ok n
    | _ => .error .integerText
  | result => result

/-- A binary64 number as an integer of 64 bits. -/
def integerOfFloat (x : Binary64) : Except Reason Int :=
  match x with
  | .nan | .infinite _ => .error .notFinite
  | x =>
    match x.toInt? with
    | none => .error .fractional
    | some n => if -(twoTo 63 : Int) < n ∧ n < twoTo 63 then .ok n else .error .integerSize

/-- The integer that a value stands for. Truth values count as one and zero. -/
def integer (value : Node) : Except Reason Int :=
  match value with
  | .int n => .ok n
  | .bool b => .ok (if b then 1 else 0)
  | .float x => integerOfFloat x
  | .string s => if hasHalf s then .error .illFormed else readInteger s
  | _ => .error .notAnInteger

/-- The texts for true, in small letters. -/
def trueTexts : List String := ["1", "t", "y", "on", "yes", "true"]

/-- The texts for false, in small letters. -/
def falseTexts : List String := ["0", "f", "n", "no", "off", "false"]

/-- The truth value that an integer stands for: zero and one do, and all others are refused
as texts are, if they have 64 bits. -/
def truthOfInteger (n : Int) : Except Reason Bool :=
  if n = 0 then .ok false
  else if n = 1 then .ok true
  else if -(twoTo 63 : Int) ≤ n ∧ n < twoTo 63 then .error .truthText
  else .error .notATruth

/-- The truth value that a value stands for. -/
def truth (value : Node) : Except Reason Bool :=
  match value with
  | .bool value => .ok value
  | .int n => truthOfInteger n
  | .float x => ((integerOfFloat x).toOption.map truthOfInteger).getD (.error .notATruth)
  | .string text =>
    let small := text.map Char.toLower
    if hasHalf text then .error .illFormed
    else if trueTexts.contains small then .ok true
    else if falseTexts.contains small then .ok false
    else .error .truthText
  | _ => .error .notATruth

/-- An integer from `low` to `high`. -/
def integerBetween (low high : Int) (value : Node) : Except Reason Int := do
  let n ← integer value
  if n < low then .error (.below low)
  else if high < n then .error (.above high)
  else return n

/-- A positive integer, or nothing for null. -/
def positiveIfAny (value : Node) : Except Reason (Option Int) :=
  match value with
  | .null => .ok none
  | value => do
    let n ← integer value
    if 0 < n then return some n else .error .notPositive

/-- The texts of a list, with the problems of the items that are none. `index` is
the position of the first item. -/
def texts (place : List Step) : Nat → List Node → List Problem × List String
  | _, [] => ([], [])
  | index, item :: rest =>
    let (problems, strings) := texts place (index + 1) rest
    match item with
    | .string s => (problems, s :: strings)
    | _ => (⟨place ++ [.position index], .notAString⟩ :: problems, strings)

/-- A list of texts. -/
def textList (place : List Step) (value : Node) : Except (List Problem) (List String) :=
  match value with
  | .array items =>
    match texts place 0 items with
    | ([], strings) => .ok strings
    | (problems, _) => .error problems
  | _ => .error [⟨place, .notAList⟩]

end ScanAccess.Loader
