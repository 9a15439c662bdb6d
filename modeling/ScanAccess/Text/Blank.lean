import ScanAccess.Text.CodeRange

/-! # White space

Two sets are in use. Numbers are trimmed of the characters with the Unicode
property White_Space. Addresses and settings files are trimmed of *blanks*,
which are those characters and the four information separators.
-/

namespace ScanAccess.Text

/-- The ranges of the Unicode property White_Space. -/
def whiteSpaceRanges : List CodeRange :=
  [(0x09, 0x0d), (0x20, 0x20), (0x85, 0x85), (0xa0, 0xa0), (0x1680, 0x1680),
   (0x2000, 0x200a), (0x2028, 0x2029), (0x202f, 0x202f), (0x205f, 0x205f),
   (0x3000, 0x3000)]

/-- The information separators, file separator to unit separator. -/
def separatorRanges : List CodeRange := [(0x1c, 0x1f)]

/-- A character with the Unicode property White_Space. -/
def isWhiteSpace (c : Char) : Bool :=
  inRanges whiteSpaceRanges c.toNat

/-- A blank: white space or an information separator. -/
def isBlank (c : Char) : Bool :=
  inRanges (separatorRanges ++ whiteSpaceRanges) c.toNat

/-- Drops the leading and the trailing items that satisfy `p`, such as characters. -/
def trimWhile {α : Type} (p : α → Bool) (cs : List α) : List α :=
  ((cs.dropWhile p).reverse.dropWhile p).reverse

/-- Removes the blanks around a text. -/
def trim (s : String) : String :=
  String.ofList (trimWhile isBlank s.toList)

end ScanAccess.Text
