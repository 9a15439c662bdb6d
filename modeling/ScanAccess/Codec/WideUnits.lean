import ScanAccess.Codec.Decoding

/-! # Characters in units of several bytes

In UTF-16 a character takes one unit of two bytes or a pair of them, and in UTF-32 it
takes its number in four bytes. The bytes of a unit stand in one of two orders.
-/

namespace ScanAccess.Codec

open ScanAccess.Text

/-- Which byte of several comes first. -/
inductive ByteOrder where
  | littleEndian
  | bigEndian
  deriving DecidableEq, Repr

namespace ByteOrder

/-- The number that bytes stand for in this order. -/
def number (order : ByteOrder) (bytes : List UInt8) : Nat :=
  let ordered := match order with
    | littleEndian => bytes.reverse
    | bigEndian => bytes
  ordered.foldl (fun number byte => 256 * number + byte.toNat) 0

/-- The two letters that name an order. -/
def abbreviation : ByteOrder → String
  | littleEndian => "le"
  | bigEndian => "be"

end ByteOrder

/-- An error of UTF-16 with a byte order. -/
def unitError (order : ByteOrder) (first last : Nat) (byte : UInt8) (reason : String) :
    DecodingError :=
  .undecodable ("utf-16-" ++ order.abbreviation) first last byte reason

/-- Reads units of two bytes, from a position on. A pair of units stands for one character. -/
def decodeUnits (order : ByteOrder) : Nat → List UInt8 → Except DecodingError (List Char)
  | _, [] => .ok []
  | position, [a] => .error (unitError order position position a "truncated data")
  | position, a :: b :: rest =>
    let unit := order.number [a, b]
    if isLeadingUnit unit then
      match rest with
      | c :: d :: rest =>
        let next := order.number [c, d]
        if isTrailingUnit next then
          (decodeUnits order (position + 4) rest).map (pairOf unit next :: ·)
        else .error (unitError order position (position + 1) a "illegal UTF-16 surrogate")
      | rest =>
        let last := position + 1 + rest.length
        .error (unitError order position last a "unexpected end of data")
    else if isTrailingUnit unit then
      .error (unitError order position (position + 1) a "illegal encoding")
    else (decodeUnits order (position + 2) rest).map (Char.ofNat unit :: ·)

/-- An error of UTF-32 with a byte order. -/
def numberError (order : ByteOrder) (first last : Nat) (byte : UInt8) (reason : String) :
    DecodingError :=
  .undecodable ("utf-32-" ++ order.abbreviation) first last byte reason

/-- Reads numbers of four bytes, from a position on. -/
def decodeNumbers (order : ByteOrder) : Nat → List UInt8 → Except DecodingError (List Char)
  | _, [] => .ok []
  | position, a :: b :: c :: d :: rest =>
    let code := order.number [a, b, c, d]
    if 0x110000 ≤ code then
      .error (numberError order position (position + 3) a "code point not in range(0x110000)")
    else if 0xd800 ≤ code ∧ code < 0xe000 then
      .error (numberError order position (position + 3) a
        "code point in surrogate code point range(0xd800, 0xe000)")
    else (decodeNumbers order (position + 4) rest).map (Char.ofNat code :: ·)
  | position, a :: rest =>
    .error (numberError order position (position + rest.length) a "truncated data")

end ScanAccess.Codec
