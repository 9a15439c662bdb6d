/-! # Base64 with the URL-safe alphabet

Three bytes become four characters of the alphabet A–Z, a–z, 0–9, `-`, `_`. A
last group of one or two bytes is filled up with `=`. The decoder accepts
exactly the texts the encoder writes.
-/

namespace ScanAccess.Bytes.Base64

/-- The character for a six-bit number. -/
def digit (n : Nat) : Char :=
  if n < 26 then Char.ofNat ('A'.toNat + n)
  else if n < 52 then Char.ofNat ('a'.toNat + (n - 26))
  else if n < 62 then Char.ofNat ('0'.toNat + (n - 52))
  else if n = 62 then '-'
  else '_'

/-- The six-bit number of a character of the alphabet. -/
def value? (c : Char) : Option Nat :=
  if 'A' ≤ c ∧ c ≤ 'Z' then some (c.toNat - 'A'.toNat)
  else if 'a' ≤ c ∧ c ≤ 'z' then some (c.toNat - 'a'.toNat + 26)
  else if '0' ≤ c ∧ c ≤ '9' then some (c.toNat - '0'.toNat + 52)
  else if c = '-' then some 62
  else if c = '_' then some 63
  else none

/-- The padded encoding of a byte string. -/
def encode : List UInt8 → List Char
  | [] => []
  | [a] =>
    let a := a.toNat
    [digit (a / 4), digit (a % 4 * 16), '=', '=']
  | [a, b] =>
    let a := a.toNat
    let b := b.toNat
    [digit (a / 4), digit (a % 4 * 16 + b / 16), digit (b % 16 * 4), '=']
  | a :: b :: c :: rest =>
    let x := a.toNat
    let y := b.toNat
    let z := c.toNat
    digit (x / 4) :: digit (x % 4 * 16 + y / 16) :: digit (y % 16 * 4 + z / 64)
      :: digit (z % 64) :: encode rest

/-- Reads a padded text back. Bits that the encoder leaves at zero must be zero. -/
def decode? : List Char → Option (List UInt8)
  | [] => some []
  | [p, q, '=', '='] => do
    let p ← value? p
    let q ← value? q
    if q % 16 = 0 then some [UInt8.ofNat (p * 4 + q / 16)] else none
  | [p, q, r, '='] => do
    let p ← value? p
    let q ← value? q
    let r ← value? r
    if r % 4 = 0 then
      some [UInt8.ofNat (p * 4 + q / 16), UInt8.ofNat (q % 16 * 16 + r / 4)]
    else none
  | p :: q :: r :: s :: rest => do
    let p ← value? p
    let q ← value? q
    let r ← value? r
    let s ← value? s
    let bytes ← decode? rest
    return UInt8.ofNat (p * 4 + q / 16) :: UInt8.ofNat (q % 16 * 16 + r / 4)
      :: UInt8.ofNat (r % 4 * 64 + s) :: bytes
  | _ => none

end ScanAccess.Bytes.Base64
