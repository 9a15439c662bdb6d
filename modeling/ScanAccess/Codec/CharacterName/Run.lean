/-! # Runs of names

Neighbouring characters often have names that begin alike. A run of names holds what
they have in common once.
-/

namespace ScanAccess.Codec.CharacterName

/-- The names of characters from the number `first` on: each is the stem with one of the
endings, which stand in texts with commas between them. -/
structure NameRun where
  first : Nat
  stem : String
  endings : List String

/-- The character with a name, if the name is in a run. -/
def NameRun.char? (run : NameRun) (name : List Char) : Option Char :=
  let stem := run.stem.toList
  if stem.isPrefixOf name then
    let endings := run.endings.flatMap fun text => text.toList.splitOn ','
    (endings.idxOf? (name.drop stem.length)).map fun index => Char.ofNat (run.first + index)
  else none

end ScanAccess.Codec.CharacterName
