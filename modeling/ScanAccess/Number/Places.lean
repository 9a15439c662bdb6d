import ScanAccess.Number.Binary64

/-! # Natural numbers with places

A natural number is written with a given number of decimal places, with a power
of ten after it, or in whichever of the two forms suits its size. The point is
left out where no digits follow it, unless it is asked for.
-/

namespace ScanAccess.Text

/-- The `count` leading digits of a number, filled up with zeros or rounded to the
nearest, and the power of ten of the first one. -/
def leadingDigits (count n : Nat) : List Char × Nat :=
  let digits := decimal n
  if digits.length ≤ count then
    (digits ++ List.replicate (count - digits.length) '0', digits.length - 1)
  else
    let rounded := decimal (Binary64.roundDiv n (tenTo (digits.length - count)))
    (rounded.take count, digits.length + rounded.length - count - 1)

/-- A whole part and the digits after the point. -/
def withPoint (always : Bool) (whole fraction : List Char) : List Char :=
  if fraction.isEmpty && !always then whole else whole ++ '.' :: fraction

/-- A power of ten, with a sign and at least two digits. -/
def powerText (mark : Char) (power : Nat) : List Char :=
  mark :: '+' :: decimalPadded 2 power

/-- A number with `places` digits after the point. -/
def fixedText (always : Bool) (places n : Nat) : List Char :=
  withPoint always (decimal n) (List.replicate places '0')

/-- A number with one digit before the point, `places` digits after it, and a power of
ten after `mark`. -/
def scientificText (always : Bool) (mark : Char) (places n : Nat) : List Char :=
  let (digits, power) := leadingDigits (places + 1) n
  withPoint always (digits.take 1) (digits.drop 1) ++ powerText mark power

/-- A number with `count` digits in all, and with a power of ten if it has more digits
than that. Zeros at the end of the fraction stay only if the point is always written. -/
def generalText (always : Bool) (mark : Char) (count n : Nat) : List Char :=
  let count := max count 1
  let (digits, power) := leadingDigits count n
  let trimmed (fraction : List Char) : List Char :=
    if always then fraction else (fraction.reverse.dropWhile (· == '0')).reverse
  if power < count then
    withPoint always (digits.take (power + 1)) (trimmed (digits.drop (power + 1)))
  else withPoint always (digits.take 1) (trimmed (digits.drop 1)) ++ powerText mark power

end ScanAccess.Text
