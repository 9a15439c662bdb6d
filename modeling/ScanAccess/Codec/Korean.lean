import ScanAccess.Codec.CharacterSet.KoreanStandard
import ScanAccess.Codec.CharacterSet.KoreanSyllables
import ScanAccess.Codec.Decoding

/-! # Korean in two bytes

A syllable consists of a consonant that leads, a vowel, and a consonant that ends it or
none. The standard set has the common syllables in cells of their own. The others are
spelled with their letters, have pairs of bytes in an extension, or, in Johab, all
syllables are put together from three numbers of five bits.
-/

namespace ScanAccess.Codec.Korean

/-- The consonants that lead syllables, in their order. -/
def leads : List Char := "ㄱㄲㄴㄷㄸㄹㅁㅂㅃㅅㅆㅇㅈㅉㅊㅋㅌㅍㅎ".toList

/-- The consonants that end syllables, in their order. -/
def ends : List Char := "ㄱㄲㄳㄴㄵㄶㄷㄹㄺㄻㄼㄽㄾㄿㅀㅁㅂㅄㅅㅆㅇㅈㅊㅋㅌㅍㅎ".toList

/-- The syllable of a lead and a vowel by their numbers from 0, with the end whose number
from 1 is given, or with none for 0. -/
def syllable (lead vowel ending : Nat) : Char :=
  Char.ofNat (0xac00 + 588 * lead + 28 * vowel + ending)

/-- The first byte of a letter that is spelled on its own. -/
def letterLead : UInt8 := 0xa4

/-- The second byte of the filler, which announces a syllable and stands for a missing end. -/
def fillerTrail : UInt8 := 0xd4

/-- The consonant with a second byte. -/
def consonant? (trail : UInt8) : Option Char :=
  if 0xa1 ≤ trail ∧ trail ≤ 0xbe then some (Char.ofNat (0x3131 + (trail.toNat - 0xa1))) else none

/-- The number of the vowel with a second byte. -/
def vowel? (trail : UInt8) : Option Nat :=
  if 0xbf ≤ trail ∧ trail ≤ 0xd3 then some (trail.toNat - 0xbf) else none

/-- The number of the end with a second byte. -/
def ending? (trail : UInt8) : Option Nat :=
  if trail = fillerTrail then some 0
  else do
    let c ← consonant? trail
    let index ← ends.idxOf? c
    return index + 1

/-- A syllable that is spelled with its letters, each in two bytes after the filler. -/
def spelled? (rest : List UInt8) : Option (List Char) :=
  match rest with
  | [_, a, lead, b, vowel, c, ending] => do
    guard (a = letterLead ∧ b = letterLead ∧ c = letterLead)
    let lead ← leads.idxOf? (← consonant? lead)
    return [syllable lead (← vowel? vowel) (← ending? ending)]
  | _ => none

/-- One step of EUC with KS X 1001. -/
def eucStep (_ : Unit) (byte : UInt8) (rest : List UInt8) : DecodingStep Unit :=
  if byte < 0x80 then .single (Char.ofNat byte.toNat) ()
  else if byte = letterLead ∧ rest.head? = some fillerTrail then
    if rest.length < 7 then .incomplete rest else .ofChars? 7 () (spelled? (rest.take 7))
  else .pair () rest (CharacterSet.high? CharacterSet.korean.chars? byte.toNat)

/-- The character of a pair in code page 949, which extends EUC. -/
def vendorChars? (lead trail : Nat) : Option (List Char) :=
  CharacterSet.high? CharacterSet.korean.chars? lead trail
    <|> CharacterSet.koreanSyllables.chars? lead trail

/-- The number from 0 of the lead that five bits stand for in Johab: `none` is no letter and
`some none` the filler. -/
def johabLead? (bits : Nat) : Option (Option Nat) :=
  if bits = 1 then some none
  else if 2 ≤ bits ∧ bits ≤ 20 then some (some (bits - 2))
  else none

/-- The number from 0 of the vowel that five bits stand for in Johab. Vowels stand in groups
of six, of which the first has only five, behind two numbers without use each. -/
def johabVowel? (bits : Nat) : Option (Option Nat) :=
  if bits = 2 then some none
  else if bits < 3 ∨ bits % 8 < 2 ∨ 30 ≤ bits then none
  else some (some (6 * (bits / 8) + bits % 8 - 3))

/-- The number from 1 of the end that five bits stand for in Johab. -/
def johabEnding? (bits : Nat) : Option (Option Nat) :=
  if bits = 1 then some none
  else if 2 ≤ bits ∧ bits ≤ 17 then some (some (bits - 1))
  else if 19 ≤ bits ∧ bits ≤ 29 then some (some (bits - 2))
  else none

/-- The syllable, the single letter or the blank that three numbers stand for in Johab. -/
def johabSyllable? (lead vowel ending : Nat) : Option Char := do
  match ← johabLead? lead, ← johabVowel? vowel, ← johabEnding? ending with
  | none, none, none => some '\u3000'
  | some lead, none, none => leads[lead]?
  | none, some vowel, none => some (Char.ofNat (0x314f + vowel))
  | none, none, some ending => ends[ending - 1]?
  | some lead, some vowel, ending => some (syllable lead vowel (ending.getD 0))
  | _, _, _ => none

/-- The character of KS X 1001 that a pair of Johab stands for, which folds two rows into
one lead byte. The letters that can be put together have no place there. -/
def johabOther? (lead trail : Nat) : Option Char :=
  if lead < 0xd9 ∨ lead = 0xdf ∨ 0xf9 < lead ∨ trail < 0x31 ∨ (0x80 ≤ trail ∧ trail < 0x91)
      ∨ trail % 0x80 = 0x7f ∨ (lead = 0xda ∧ 0xa1 ≤ trail ∧ trail ≤ 0xd3) then none
  else
    let row := (if lead < 0xe0 then 2 * (lead - 0xd9) else 2 * lead - 0x197) + 0x21
    let place := if trail < 0x91 then trail - 0x31 else trail - 0x43
    if place < 0x5e then CharacterSet.korean.char? row (place + 0x21)
    else CharacterSet.korean.char? (row + 1) (place - 0x5e + 0x21)

/-- The character of a pair in Johab. -/
def johabChars? (lead trail : Nat) : Option (List Char) :=
  (if lead < 0xd8 then
    johabSyllable? (lead / 4 % 32) (lead % 4 * 8 + trail / 32) (trail % 32)
  else johabOther? lead trail).map fun c => [c]

end ScanAccess.Codec.Korean
