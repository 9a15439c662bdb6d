import ScanAccess.Codec.Decoding
import ScanAccess.Codec.WideUnits
import ScanAccess.Number.Power

/-! # Unicode in seven bits

In UTF-7 a byte stands for itself, but a plus sign begins a section in base 64, which
holds units of 16 bits and ends at the first byte that is no digit. A dash that ends
a section belongs to it.
-/

namespace ScanAccess.Codec

open ScanAccess.Text

/-- The value of a digit in base 64. -/
def base64Value? (byte : UInt8) : Option Nat :=
  let n := byte.toNat
  if 0x41 ≤ n ∧ n ≤ 0x5a then some (n - 0x41)
  else if 0x61 ≤ n ∧ n ≤ 0x7a then some (n - 0x61 + 26)
  else if 0x30 ≤ n ∧ n ≤ 0x39 then some (n - 0x30 + 52)
  else if n = 0x2b then some 62
  else if n = 0x2f then some 63
  else none

/-- A section in base 64: where its plus sign stands, how many bits of the next unit are
there and their value, and the first half of a pair of units. -/
structure Section where
  start : Nat
  bits : Nat := 0
  value : Nat := 0
  half : Option Nat := none

namespace Section

/-- An error from the start of a section to a position. -/
def error (part : Section) (last : Nat) (reason : String) : DecodingError :=
  .undecodable "utf7" part.start last 0x2b reason

/-- What a whole unit stands for, after half a pair or not, and half a pair that it begins. -/
def takeUnit (half : Option Nat) (unit : Nat) : List Char × Option Nat :=
  match half with
  | some first =>
    if isTrailingUnit unit then
      ([pairOf first unit], none)
    else if isLeadingUnit unit then ([charOf first], some unit)
    else ([charOf first, charOf unit], none)
  | none => if isLeadingUnit unit then ([], some unit) else ([charOf unit], none)

/-- A section with another digit, and the characters that are complete then. -/
def takeDigit (part : Section) (digit : Nat) : List Char × Section :=
  let bits := part.bits + 6
  let value := 64 * part.value + digit
  if bits < 16 then ([], { part with bits, value })
  else
    let scale := twoTo (bits - 16)
    let (cs, half) := takeUnit part.half (value / scale)
    (cs, { part with bits := bits - 16, value := value % scale, half })

/-- What is wrong with the bits that are left where a section ends. -/
def leftOver? (part : Section) : Option String :=
  if 6 ≤ part.bits then some "partial character in shift sequence"
  else if part.value ≠ 0 then some "non-zero padding bits in shift sequence"
  else none

end Section

/-- Reads bytes from a position on, inside a section or outside. -/
def decodeUtf7 : Nat → Option Section → List UInt8 → Except DecodingError (List Char)
  | _, none, [] => .ok []
  | position, some part, [] =>
    if part.half.isSome || 6 ≤ part.bits || part.value ≠ 0 then
      .error (part.error (position - 1) "unterminated shift sequence")
    else .ok []
  | position, some part, byte :: rest =>
    match base64Value? byte with
    | some digit =>
      let (cs, part) := part.takeDigit digit
      (decodeUtf7 (position + 1) (some part) rest).map (cs ++ ·)
    | none =>
      match part.leftOver? with
      | some reason => .error (part.error position reason)
      | none =>
        let half := if byte < 128 then part.half.toList.map charOf else []
        if byte = 0x2d then (decodeUtf7 (position + 1) none rest).map (half ++ ·)
        else if 128 ≤ byte then
          .error (.undecodable "utf7" position position byte "unexpected special character")
        else
          (decodeUtf7 (position + 1) none rest).map (half ++ Char.ofNat byte.toNat :: ·)
  | position, none, byte :: rest =>
    if byte = 0x2b then
      if rest.head? = some 0x2d then (decodeUtf7 (position + 2) none rest.tail).map ('+' :: ·)
      else if rest.head?.any fun next => (base64Value? next).isNone then
        .error (.undecodable "utf7" position (position + 1) byte "ill-formed sequence")
      else decodeUtf7 (position + 1) (some { start := position }) rest
    else if 128 ≤ byte then
      .error (.undecodable "utf7" position position byte "unexpected special character")
    else (decodeUtf7 (position + 1) none rest).map (Char.ofNat byte.toNat :: ·)
termination_by _ _ bytes => bytes.length

end ScanAccess.Codec
