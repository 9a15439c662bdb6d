import ScanAccess.Codec.CharacterSet.JapaneseExtension
import ScanAccess.Codec.CharacterSet.JapaneseStandard
import ScanAccess.Codec.CharacterSet.JapaneseSupplement
import ScanAccess.Codec.CharacterSet.JapaneseVendor
import ScanAccess.Codec.Decoding

/-! # Japanese in one to three bytes

EUC sets the high bits of row and cell, and one byte in front chooses a further set.
Shift JIS folds two rows into one lead byte and leaves room for single bytes of
katakana. Both exist with the larger set of JIS X 0213, in two editions.
-/

namespace ScanAccess.Codec

/-- The editions of JIS X 0213. The second one added ten characters. -/
inductive JapaneseEdition where
  | first
  | second
  deriving DecidableEq, Repr

namespace Japanese

/-- Katakana of half width take single bytes from this one on. -/
def katakana? (byte : UInt8) : Option Char :=
  if 0xa1 ≤ byte ∧ byte ≤ 0xdf then some (Char.ofNat (0xfec0 + byte.toNat)) else none

/-- The single bytes of JIS X 0201 below 128: two of them differ from ASCII. -/
def roman (byte : UInt8) : Char :=
  if byte = 0x5c then '¥' else if byte = 0x7e then '‾' else Char.ofNat byte.toNat

/-- The cells of the first plane that the second edition filled. -/
def addedCells : List (Nat × Nat) :=
  [(0x2e, 0x21), (0x2f, 0x7e), (0x4f, 0x54), (0x4f, 0x7e), (0x74, 0x27), (0x7e, 0x7a),
   (0x7e, 0x7b), (0x7e, 0x7c), (0x7e, 0x7d), (0x7e, 0x7e)]

/-- Whether an edition leaves a cell of the first plane empty that the other one fills. -/
def isVacant (edition : JapaneseEdition) (row cell : Nat) : Bool :=
  edition == .first && addedCells.contains (row, cell)

/-- The characters of a cell in the first plane of JIS X 0213, which begins with those of
JIS X 0208. -/
def firstPlane? (row cell : Nat) : Option (List Char) :=
  CharacterSet.japanese.chars? row cell
    <|> CharacterSet.japaneseFirstPlane.chars? row cell
    <|> CharacterSet.among CharacterSet.japanesePairs row cell

/-- The character of a cell in the second plane, one of which differs between editions. -/
def secondPlane? (edition : JapaneseEdition) (row cell : Nat) : Option (List Char) :=
  if edition = .first ∧ row = 0x7d ∧ cell = 0x3b then some ['\u9b1d']
  else CharacterSet.japaneseSecondPlane.chars? row cell

/-- Reads one byte of katakana after a byte that announces it. -/
def katakanaStep (rest : List UInt8) : DecodingStep Unit :=
  match rest with
  | [] => .incomplete rest
  | second :: _ => .ofChars? 1 () ((katakana? second).map fun c => [c])

/-- Reads row and cell after a byte that announces them. -/
def announcedStep (chars? : Nat → Nat → Option (List Char)) (rest : List UInt8) :
    DecodingStep Unit :=
  match rest with
  | second :: third :: _ => .ofChars? 2 () (CharacterSet.high? chars? second.toNat third.toNat)
  | _ => .incomplete rest

/-- One step of EUC with JIS X 0208 and JIS X 0212. -/
def eucStep (_ : Unit) (byte : UInt8) (rest : List UInt8) : DecodingStep Unit :=
  if byte < 0x80 then .single (Char.ofNat byte.toNat) ()
  else if byte = 0x8e then katakanaStep rest
  else if byte = 0x8f then announcedStep CharacterSet.japaneseSupplement.chars? rest
  else .pair () rest (CharacterSet.high? CharacterSet.japanese.chars? byte.toNat)

/-- One step of EUC with JIS X 0213. The characters of JIS X 0212 fill up its second plane. -/
def largeEucStep (edition : JapaneseEdition) (_ : Unit) (byte : UInt8) (rest : List UInt8) :
    DecodingStep Unit :=
  let further? (row cell : Nat) :=
    secondPlane? edition row cell <|> CharacterSet.japaneseSupplement.chars? row cell
  if byte < 0x80 then .single (Char.ofNat byte.toNat) ()
  else if byte = 0x8e then katakanaStep rest
  else if byte = 0x8f then announcedStep further? rest
  else
    match rest with
    | [] => .incomplete rest
    | second :: _ =>
      if isVacant edition (byte.toNat - 0x80) (second.toNat - 0x80) then .illegal 2
      else .ofChars? 1 () (CharacterSet.high? firstPlane? byte.toNat second.toNat)

/-- Whether a byte leads a pair in Shift JIS. -/
def isShiftLead (byte : UInt8) : Bool :=
  (0x81 ≤ byte && byte ≤ 0x9f) || (0xe0 ≤ byte && byte ≤ 0xfc)

/-- The row, counted from 0, and the cell that a pair of bytes stands for in Shift JIS. -/
def foldedCell? (lead trail : Nat) : Option (Nat × Nat) :=
  if trail < 0x40 ∨ trail = 0x7f ∨ 0xfc < trail then none
  else
    let double := 2 * (if lead < 0xe0 then lead - 0x81 else lead - 0xc1)
    let place := if trail < 0x80 then trail - 0x40 else trail - 0x41
    if place < 0x5e then some (double, place + 0x21) else some (double + 1, place - 0x5e + 0x21)

/-- The character of a pair in Shift JIS with JIS X 0208. -/
def shiftChars? (lead trail : Nat) : Option (List Char) := do
  let (row, cell) ← foldedCell? lead trail
  CharacterSet.japanese.chars? (row + 0x21) cell

/-- One step of Shift JIS with JIS X 0208. -/
def shiftStep (_ : Unit) (byte : UInt8) (rest : List UInt8) : DecodingStep Unit :=
  if byte < 0x80 then .single (Char.ofNat byte.toNat) ()
  else if isShiftLead byte then .pair () rest (shiftChars? byte.toNat)
  else .ofChars? 0 () ((katakana? byte).map fun c => [c])

/-- The row of the second plane that a row of Shift JIS behind the first plane stands for. -/
def secondPlaneRow (row : Nat) : Nat :=
  if 0x67 ≤ row then row + 0x07
  else if 0x63 ≤ row ∨ row = 0x5f then row - 0x37
  else row - 0x3d

/-- Reads a pair of Shift JIS with JIS X 0213. -/
def largeShiftPair (edition : JapaneseEdition) (lead trail : Nat) : DecodingStep Unit :=
  match foldedCell? lead trail with
  | none => .illegal 1
  | some (row, cell) =>
    if 0x5e ≤ row then .ofChars? 1 () (secondPlane? edition (secondPlaneRow row) cell)
    else
      let row := row + 0x21
      if isVacant edition row cell then .illegal 2
      else if row = 0x21 ∧ cell = 0x40 then .chars 1 ['\\'] ()
      else if row = 0x22 ∧ cell = 0x32 then .chars 1 ['~'] ()
      else .ofChars? 1 () (firstPlane? row cell)

/-- One step of Shift JIS with JIS X 0213. Its single bytes are those of JIS X 0201, so
backslash and tilde take pairs. -/
def largeShiftStep (edition : JapaneseEdition) (_ : Unit) (byte : UInt8) (rest : List UInt8) :
    DecodingStep Unit :=
  if byte < 0x80 then .single (roman byte) ()
  else if isShiftLead byte then
    match rest with
    | [] => .incomplete rest
    | second :: _ => largeShiftPair edition byte.toNat second.toNat
  else .ofChars? 0 () ((katakana? byte).map fun c => [c])

/-- The character of private use that a pair of bytes stands for in code page 932. -/
def privateChar? (lead trail : Nat) : Option (List Char) :=
  if 0xf0 ≤ lead ∧ lead ≤ 0xf9 ∧ 0x40 ≤ trail ∧ trail ≠ 0x7f ∧ trail ≤ 0xfc then
    let place := if trail < 0x80 then trail - 0x40 else trail - 0x41
    some [Char.ofNat (0xe000 + 188 * (lead - 0xf0) + place)]
  else none

/-- The character of a pair in code page 932: a vendor's, a standard one, or a private one. -/
def vendorChars? (lead trail : Nat) : Option (List Char) :=
  CharacterSet.japaneseVendor.chars? lead trail
    <|> (if (0x81 ≤ lead ∧ lead ≤ 0x9f) ∨ (0xe0 ≤ lead ∧ lead ≤ 0xea) then
          shiftChars? lead trail
        else none)
    <|> privateChar? lead trail

/-- One step of code page 932, which is Shift JIS with more characters. -/
def vendorShiftStep (_ : Unit) (byte : UInt8) (rest : List UInt8) : DecodingStep Unit :=
  if byte ≤ 0x80 then .single (Char.ofNat byte.toNat) ()
  else if byte = 0xa0 then .single '\uf8f0' ()
  else if 0xfd ≤ byte then .single (Char.ofNat (0xf8f1 + (byte.toNat - 0xfd))) ()
  else
    match katakana? byte with
    | some c => .single c ()
    | none => .pair () rest (vendorChars? byte.toNat)

end Japanese

end ScanAccess.Codec
