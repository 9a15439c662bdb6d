import ScanAccess.Text.Quoted

/-! # Halves of characters in strings

Settings are read as strings of characters, and some ways to write a text can give half of a
character without its partner. In its place stands a character of the last plane for private use,
which is not expected in settings: so the string can be worked with like any other, and the raw
text that it stands for is found again where it is quoted, reported or refused.
-/

namespace ScanAccess.Text

/-- The first of the characters that stand for halves, in the order of the halves. -/
def firstHalf : Nat := 0x10e000

/-- The character with a number, or the one that stands for a half. -/
def charOf (code : Nat) : Char :=
  if isLeadingUnit code || isTrailingUnit code then Char.ofNat (firstHalf + (code - 0xd800))
  else Char.ofNat code

/-- Whether a character stands for a half. -/
def isHalf (c : Char) : Bool :=
  firstHalf ≤ c.toNat && c.toNat < firstHalf + 0x800

/-- The number of a character, or of the half that it stands for. -/
def codeOf (c : Char) : Nat :=
  if isHalf c then c.toNat - firstHalf + 0xd800 else c.toNat

/-- The string that stands for a raw text. -/
def standIn (text : RawText) : String :=
  String.ofList (text.points.map fun point => charOf point.code)

/-- The raw text that a string stands for. -/
def restored (text : String) : RawText :=
  ⟨text.toList.map fun c => CodePoint.ofCode (codeOf c)⟩

/-- Whether a text has a half in it. -/
def hasHalf (text : String) : Bool :=
  text.toList.any isHalf

/-- What is reported about a text that cannot be written in UTF-8, if it cannot be. -/
def halfReport? (text : String) : Option String :=
  if hasHalf text then some (restored text).halfReport else none

/-- The quoted form of the raw text that a string stands for. -/
def quotedRaw (text : String) : String :=
  String.ofList (quote (restored text))

end ScanAccess.Text
