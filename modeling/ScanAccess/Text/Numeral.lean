/-! # Numerals

Numbers written in decimal and hexadecimal digits, and the digits read back.
-/

namespace ScanAccess.Text

/-- The decimal digits of a number, without leading zeros. -/
def decimal (n : Nat) : List Char :=
  Nat.toDigits 10 n

/-- A number in decimal digits, with a minus sign if it is negative. -/
def signedDecimal (n : Int) : List Char :=
  if n < 0 then '-' :: decimal n.natAbs else decimal n.natAbs

/-- The decimal digits that a number may have to be written or read. -/
def maxDigits : Nat := 4300

/-- Whether a number has too many digits to be written. -/
def isTooLong (n : Int) : Bool :=
  maxDigits < (decimal n.natAbs).length

/-- What is reported about a number that has too many digits. -/
def tooLongReport : String :=
  "Exceeds the limit (4300 digits) for integer string conversion; "
    ++ "use sys.set_int_max_str_digits() to increase the limit"

/-- Fills a numeral up with leading zeros. -/
def padZeros (width : Nat) (digits : List Char) : List Char :=
  List.replicate (width - digits.length) '0' ++ digits

/-- A decimal numeral of at least `width` digits. -/
def decimalPadded (width n : Nat) : List Char :=
  padZeros width (decimal n)

/-- A signed decimal numeral of at least `width` characters, the sign included. -/
def signedDecimalPadded (width : Nat) (n : Int) : List Char :=
  if n < 0 then '-' :: decimalPadded (width - 1) n.natAbs else decimalPadded width n.natAbs

/-- A lower-case hexadecimal numeral of at least `width` digits. -/
def hexPadded (width n : Nat) : List Char :=
  padZeros width (Nat.toDigits 16 n)

/-- One of the digits 0 to 9. -/
def isDigit (c : Char) : Bool :=
  '0' ≤ c && c ≤ '9'

/-- The value of a row of decimal digits. -/
def ofDigits (digits : List Char) : Nat :=
  digits.foldl (fun value c => 10 * value + (c.toNat - '0'.toNat)) 0

/-- The value of a hexadecimal digit of either case. -/
def hexValue? (c : Char) : Option Nat :=
  if '0' ≤ c ∧ c ≤ '9' then some (c.toNat - '0'.toNat)
  else if 'a' ≤ c ∧ c ≤ 'f' then some (c.toNat - 'a'.toNat + 10)
  else if 'A' ≤ c ∧ c ≤ 'F' then some (c.toNat - 'A'.toNat + 10)
  else none

end ScanAccess.Text
