/-! # Code pages

A code page gives every byte a character of its own, or none. Many pages agree with
ASCII on the bytes below 128.
-/

namespace ScanAccess.Codec

/-- A code page: the bytes below `start` stand for the characters with their numbers, and
those from there on for the characters of `others`. In there, the replacement
character marks a byte that stands for nothing, as do the bytes behind the last one. -/
structure CodePage where
  start : Nat
  others : String
  deriving DecidableEq, Repr

namespace CodePage

/-- The character that a byte stands for. -/
def char? (page : CodePage) (byte : UInt8) : Option Char :=
  if byte.toNat < page.start then some (Char.ofNat byte.toNat)
  else
    match page.others.toList[byte.toNat - page.start]? with
    | some c => if c = '\ufffd' then none else some c
    | none => none

/-- Western Europe, part 1 of ISO 8859: every byte is the number of its character. -/
def latin1 : CodePage :=
  ⟨0x100, ""⟩

end CodePage

end ScanAccess.Codec
