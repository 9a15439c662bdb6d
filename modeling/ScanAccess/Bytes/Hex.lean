import ScanAccess.Text.Numeral

/-! # Hexadecimal text of bytes -/

namespace ScanAccess.Bytes

open ScanAccess.Text

/-- Two lower-case hexadecimal digits for every byte. -/
def toHex (bytes : List UInt8) : List Char :=
  bytes.flatMap fun byte => hexPadded 2 byte.toNat

/-- The bytes that pairs of hexadecimal digits of either case stand for. -/
def ofHex? : List Char → Option (List UInt8)
  | [] => some []
  | [_] => none
  | high :: low :: rest => do
    let h ← hexValue? high
    let l ← hexValue? low
    let bytes ← ofHex? rest
    return UInt8.ofNat (16 * h + l) :: bytes

end ScanAccess.Bytes
