import ScanAccess.Loader.CommandLine
import ScanAccess.Text.Blank

/-! # Finding flags by a pattern

Where letter case in flags does not matter, the flag at the front of an argument is found
by a pattern that is made of the marks. The first of them is taken for the name of a class
of characters if it is a letter, so that not all marks make a pattern, and some find other
flags than those that they begin.
-/

namespace ScanAccess.Loader

/-- What is reported about something that is wrong in the pattern by which flags are found. -/
def placedReport (text : String) (position : Nat) : Option String :=
  some (text ++ " at position " ++ String.ofList (Text.decimal position))

/-- How many digits in base 16 a letter asks for behind it, if it asks for some. -/
def askedDigits? (mark : Char) : Option Nat :=
  if mark = 'x' then some 2 else if mark = 'u' then some 4 else if mark = 'U' then some 8 else none

/-- The letters that are not wrong as the first of the marks: they stand for a class of
characters, for a control, or for a place. -/
def meaningfulLetters : List Char :=
  "adfnrstvwDSWABZb".toList

/-- What is reported about the first of the marks where it is a letter or a digit, and as such
does not stand for itself in the pattern. -/
def escapeReport? (mark : Char) (others : List Char) : Option String :=
  let place := placedReport
  let shown := String.singleton mark
  match askedDigits? mark with
  | some count =>
    let digits := (others.take count).takeWhile fun c => (Text.hexValue? c).isSome
    if digits.length < count then
      place ("incomplete escape \\" ++ shown ++ String.ofList digits) 2
    else none
  | none =>
    let reference := mark :: (others.take 1).takeWhile Text.isDigit
    if others.isEmpty && ['A', 'B', 'Z', 'b'].contains mark then place "nothing to repeat" 4
    else if mark = 'N' then
      if others.isEmpty then place "undefined character name '1,2'" 2 else place "missing \x7b" 4
    else if reference = ['1'] then place "cannot refer to an open group" 2
    else if '1' ≤ mark ∧ mark ≤ '9' then
      place ("invalid group reference " ++ String.ofList reference) 3
    else if mark.isAlpha && !meaningfulLetters.contains mark then
      place ("bad escape \\" ++ shown) 2
    else none

/-- What is reported about marks that make no pattern: the first is a letter or a digit, or
the last of several repeats the one before. -/
def patternReport? (marks : List Char) : Option String :=
  match marks with
  | [] => none
  | mark :: others =>
    (escapeReport? mark others).orElse fun _ =>
      if others.getLast?.any ['*', '+', '?'].contains then
        placedReport "multiple repeat" (marks.length + 3)
      else none

/-- Whether a character stands for the first of the marks where flags are found by a
pattern. Some letters stand for a class of characters or for a control there. -/
def fitsMark (mark c : Char) : Bool :=
  match mark with
  | 'd' => Text.isDecimalDigit c
  | 'D' => !Text.isDecimalDigit c
  | 's' => Text.isBlank c
  | 'S' => !Text.isBlank c
  | 'w' => Text.isWord c
  | 'W' => !Text.isWord c
  | 'a' => c == '\x07'
  | 'f' => c == '\x0c'
  | 'n' => c == '\n'
  | 'r' => c == '\r'
  | 't' => c == '\t'
  | 'v' => c == '\x0b'
  | '0' => c == '\x00'
  | mark => c == mark

/-- A character that may stand in a flag. -/
def isFlagCharacter (c : Char) : Bool :=
  !Text.isBlank c && c != '='

/-- Drops marks off the front of a text: one that stands for the first of them, and the
others. -/
def dropMarks (marks text : List Char) : Option (List Char) :=
  match marks, text with
  | mark :: others, c :: rest =>
    if fitsMark mark c && others.isPrefixOf rest then some (rest.drop others.length) else none
  | _, _ => none

/-- Whether the last of the marks is there once more, in front of a name. -/
def hasMarkAgain (marks rest : List Char) : Bool :=
  match marks, rest with
  | [mark], c :: next :: _ => fitsMark mark c && isFlagCharacter next
  | marks, c :: next :: _ => some c == marks.getLast? && isFlagCharacter next
  | _, _ => false

/-- The flag at the front of a text, and what follows it on its line: some marks, of which
the last may be there twice, and characters up to a blank or an equals sign. -/
def splitFlag (marks text : List Char) : Option (List Char × List Char) := do
  let rest ← dropMarks marks text
  let rest := if hasMarkAgain marks rest then rest.drop 1 else rest
  let name := rest.takeWhile isFlagCharacter
  let flag := text.take (text.length - rest.length) ++ name
  if name.isEmpty then none
  else some (flag, (rest.drop name.length).takeWhile (· != '\n'))

/-- An argument with its flag in lower case, if that is known. Otherwise the first character
after the mark may be a flag of a single letter. -/
def foldArgument (line : CommandLine) (text : String) : String :=
  match splitFlag line.marks.toList text.toList with
  | none => text
  | some (flag, rest) =>
    let whole := Text.lower (String.ofList flag)
    let letter := Text.lower (String.ofList ((flag.drop 1).take 1))
    let single := String.ofList (line.marks.toList.take 1) ++ letter
    if (line.flag? whole).isSome then whole ++ String.ofList rest
    else if (line.flag? single).isSome then single ++ String.ofList (flag.drop 2 ++ rest)
    else String.ofList (flag ++ rest)

end ScanAccess.Loader
