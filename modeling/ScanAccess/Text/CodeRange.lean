/-! # Character sets as ranges of code points

A property of characters is stored as a table of inclusive ranges. The tables
of this library list the ranges in increasing order, but membership does not
depend on it.
-/

namespace ScanAccess.Text

/-- An inclusive range of code points, given by its two ends. -/
abbrev CodeRange := Nat × Nat

/-- Whether a code point lies in one of the ranges. -/
def inRanges (ranges : List CodeRange) (code : Nat) : Bool :=
  ranges.any fun range => range.1 ≤ code && code ≤ range.2

theorem inRanges_eq_true_iff {ranges : List CodeRange} {code : Nat} :
    inRanges ranges code = true ↔
      ∃ range ∈ ranges, range.1 ≤ code ∧ code ≤ range.2 := by
  simp [inRanges]

end ScanAccess.Text
