/-! # Character sets in rows and cells

Large character sets are laid out in rows of cells. A cell is found by two numbers
and holds one character or none.
-/

namespace ScanAccess.Codec

/-- A character set: its rows by their numbers, each with the characters of its cells from
`firstCell` on. A space marks an empty cell, and so are the cells behind the last
character of a row. -/
structure CharacterSet where
  firstCell : Nat
  rows : List (Nat × String)

namespace CharacterSet

/-- The character in a cell. -/
def char? (set : CharacterSet) (row cell : Nat) : Option Char :=
  if cell < set.firstCell then none
  else
    match set.rows.find? fun entry => entry.1 == row with
    | none => none
    | some (_, chars) =>
      match chars.toList[cell - set.firstCell]? with
      | some c => if c = ' ' then none else some c
      | none => none

/-- The character in a cell, for those who expect a list of characters. -/
def chars? (set : CharacterSet) (row cell : Nat) : Option (List Char) :=
  (set.char? row cell).map fun c => [c]

/-- The characters of a cell in a list of cells that stand for more than one. -/
def among (cells : List (Nat × Nat × List Char)) (row cell : Nat) : Option (List Char) :=
  (cells.find? fun entry => entry.1 == row && entry.2.1 == cell).map fun entry => entry.2.2

/-- Looks two bytes up that are row and cell with their high bits set. -/
def high? (chars? : Nat → Nat → Option (List Char)) (lead trail : Nat) : Option (List Char) :=
  if 0x80 ≤ lead ∧ 0x80 ≤ trail then chars? (lead - 0x80) (trail - 0x80) else none

end CharacterSet

end ScanAccess.Codec
