/-! # Powers

The powers of two and of ten, by which numbers are scaled.
-/

namespace ScanAccess

/-- A power of two. -/
def twoTo (n : Nat) : Nat :=
  Nat.pow 2 n

/-- A power of ten. -/
def tenTo (n : Nat) : Nat :=
  Nat.pow 10 n

theorem twoTo_pos (n : Nat) : 0 < twoTo n :=
  Nat.two_pow_pos n

theorem tenTo_pos (n : Nat) : 0 < tenTo n :=
  Nat.pow_pos (by decide)

end ScanAccess
