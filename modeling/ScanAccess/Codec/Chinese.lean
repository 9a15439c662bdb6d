import ScanAccess.Codec.CharacterSet.ChineseExtension
import ScanAccess.Codec.CharacterSet.ChineseNational
import ScanAccess.Codec.CharacterSet.ChineseStandard
import ScanAccess.Codec.CharacterSet.TraditionalHongKong
import ScanAccess.Codec.CharacterSet.TraditionalStandard
import ScanAccess.Codec.CharacterSet.TraditionalVendor
import ScanAccess.Codec.Decoding

/-! # Chinese in one to four bytes

The simplified characters have a standard set, its extension GBK, and the national code,
in which every character can be written. In HZ, marks switch between ASCII and the
standard set, and all bytes are below 128. Big5 holds the traditional characters.
-/

namespace ScanAccess.Codec.Chinese

/-- The character of a pair in the extended set. -/
def extendedChars? (lead trail : Nat) : Option (List Char) :=
  CharacterSet.chineseExtension.chars? lead trail
    <|> CharacterSet.high? CharacterSet.chinese.chars? lead trail

/-- The character of private use that a pair of the national code stands for. There are
three areas of them. -/
def privateChar? (lead trail : Nat) : Option Char :=
  if 0xaa ≤ lead ∧ lead ≤ 0xaf ∧ 0xa1 ≤ trail ∧ trail ≤ 0xfe then
    some (Char.ofNat (0xe000 + 94 * (lead - 0xaa) + (trail - 0xa1)))
  else if 0xf8 ≤ lead ∧ lead ≤ 0xfe ∧ 0xa1 ≤ trail ∧ trail ≤ 0xfe then
    some (Char.ofNat (0xe234 + 94 * (lead - 0xf8) + (trail - 0xa1)))
  else if 0xa1 ≤ lead ∧ lead ≤ 0xa7 ∧ 0x40 ≤ trail ∧ trail ≤ 0xa0 ∧ trail ≠ 0x7f then
    let place := if trail < 0x7f then trail - 0x40 else trail - 0x41
    some (Char.ofNat (0xe4c6 + 96 * (lead - 0xa1) + place))
  else none

/-- The character of a pair in the national code. -/
def nationalChars? (lead trail : Nat) : Option (List Char) :=
  extendedChars? lead trail
    <|> (privateChar? lead trail).map (fun c => [c])
    <|> CharacterSet.chineseNational.chars? lead trail

/-- The character of the basic plane with an index among those of four bytes: it stands in
the last run that does not begin behind it. -/
def basicChar? (index : Nat) : Option Char :=
  (CharacterSet.chineseRuns.reverse.find? fun (start, _) => start ≤ index).map
    fun (start, first) => Char.ofNat (first + (index - start))

/-- The number of characters of the basic plane with four bytes. -/
def basicCount : Nat := 39420

/-- The character of four bytes. Each place counts from its own first byte. -/
def quadrupleChar? (a b c d : Nat) : Option Char :=
  if a < 0x81 ∨ 0xfe < a ∨ c < 0x81 ∨ 0xfe < c ∨ d < 0x30 ∨ 0x39 < d then none
  else
    let index := ((a - 0x81) * 10 + (b - 0x30)) * 1260 + (c - 0x81) * 10 + (d - 0x30)
    if a < 0x85 then if index < basicCount then basicChar? index else none
    else if a < 0x90 then none
    else
      let code := 0x10000 + (index - 15 * 12600)
      if code < 0x110000 then some (Char.ofNat code) else none

/-- One step of the national code. A digit as second byte begins four bytes. -/
def nationalStep (_ : Unit) (byte : UInt8) (rest : List UInt8) : DecodingStep Unit :=
  if byte < 0x80 then .single (Char.ofNat byte.toNat) ()
  else
    match rest with
    | [] => .incomplete rest
    | second :: others =>
      if 0x30 ≤ second ∧ second ≤ 0x39 then
        match others with
        | third :: fourth :: _ =>
          let c := quadrupleChar? byte.toNat second.toNat third.toNat fourth.toNat
          .ofChars? 3 () (c.map fun c => [c])
        | _ => .incomplete rest
      else .ofChars? 1 () (nationalChars? byte.toNat second.toNat)

/-- What a tilde and the byte after it do in HZ, inside Chinese text or outside: they stand
for a tilde or for nothing, and they may switch. -/
def switch? (inside : Bool) (second : UInt8) : Option (List Char × Bool) :=
  if inside then if second = 0x7d then some ([], false) else none
  else if second = 0x7e then some (['~'], false)
  else if second = 0x7b then some ([], true)
  else if second = 0x0a then some ([], false)
  else none

/-- One step of HZ. -/
def switchedStep (inside : Bool) (byte : UInt8) (rest : List UInt8) : DecodingStep Bool :=
  if byte = 0x7e then
    match rest with
    | [] => .incomplete rest
    | second :: _ =>
      match switch? inside second with
      | some (cs, inside) => .chars 1 cs inside
      | none => .illegal 1
  else if 0x80 ≤ byte then .illegal 1
  else if inside then .pair inside rest (CharacterSet.chinese.chars? byte.toNat)
  else .single (Char.ofNat byte.toNat) inside

/-- The character of a pair in code page 950, which extends Big5. -/
def vendorChars? (lead trail : Nat) : Option (List Char) :=
  CharacterSet.traditionalVendor.chars? lead trail
    <|> CharacterSet.traditional.chars? lead trail

/-- The characters of a pair in Big5 with those of Hong Kong, which reuse a part of it. -/
def hongKongChars? (lead trail : Nat) : Option (List Char) :=
  let isReused := 0xc6 ≤ lead && lead ≤ 0xc8 && (0xc7 ≤ lead || 0xa1 ≤ trail)
  (if isReused then none else CharacterSet.traditional.chars? lead trail)
    <|> CharacterSet.hongKong.chars? lead trail
    <|> CharacterSet.among CharacterSet.hongKongPairs lead trail

end ScanAccess.Codec.Chinese
