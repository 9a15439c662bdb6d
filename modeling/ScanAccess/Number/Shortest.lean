import ScanAccess.Number.Binary64

/-! # The shortest decimal form of a binary64 number

The digits are the fewest that read back as the same number, and of those the
nearest to it; a tie goes to the even digit. The form is positional for decimal
exponents from -4 to 15 and scientific outside, with a sign and at least two
digits in the exponent.
-/

namespace ScanAccess.Binary64

open ScanAccess.Text

/-- A decimal number `digits * 10 ^ exponent`. -/
structure Decimal where
  digits : Nat
  exponent : Int
  deriving DecidableEq, Repr

/-- A positive number with the two ends of the interval that rounds to it, all
three over one denominator. The ends belong to the interval if the mantissa is
even. -/
structure Rounding where
  value : Nat
  lower : Nat
  upper : Nat
  denominator : Nat
  closed : Bool

/-- The interval that rounds to `mantissa * 2 ^ exponent`. Below a power of two
the neighbouring number is only half as far away. -/
def Rounding.of (mantissa : Nat) (exponent : Int) : Rounding :=
  let unit := twoTo (exponent - 2).toNat
  let below := if mantissa = twoTo 52 ∧ -1074 < exponent then 1 else 2
  { value := 4 * mantissa * unit
    lower := (4 * mantissa - below) * unit
    upper := (4 * mantissa + 2) * unit
    denominator := twoTo (2 - exponent).toNat
    closed := mantissa % 2 = 0 }

/-- The number of digits before the decimal point; not positive for numbers below a tenth. -/
def Rounding.places (r : Rounding) : Int :=
  (decimal (r.value * tenTo 400 / r.denominator)).length - 400

/-- Whether `digits * 10 ^ exponent` lies in the interval. -/
def Rounding.contains (r : Rounding) (d : Decimal) : Bool :=
  let point := d.digits * tenTo d.exponent.toNat * r.denominator
  let scale := tenTo (-d.exponent).toNat
  if r.closed then r.lower * scale ≤ point && point ≤ r.upper * scale
  else r.lower * scale < point && point < r.upper * scale

/-- The decimal with `count` digits that stands for the number, if one does: of
the two neighbours on the grid, the nearer one in the interval. -/
def Rounding.withDigits? (r : Rounding) (count : Nat) : Option Decimal :=
  let exponent := r.places - count
  let num := r.value * tenTo (-exponent).toNat
  let den := r.denominator * tenTo exponent.toNat
  let down : Decimal := ⟨num / den, exponent⟩
  let up : Decimal := ⟨num / den + 1, exponent⟩
  let nearest : Decimal := ⟨roundDiv num den, exponent⟩
  if r.contains nearest then some nearest
  else if r.contains down then some down
  else if r.contains up then some up
  else none

/-- A decimal without trailing zeros in its digits; each zero raises the exponent. -/
def Decimal.normalize (d : Decimal) : Decimal :=
  if h : d.digits ≠ 0 ∧ d.digits % 10 = 0 then
    Decimal.normalize ⟨d.digits / 10, d.exponent + 1⟩
  else d
termination_by d.digits
decreasing_by omega

/-- The shortest decimal that reads back as `mantissa * 2 ^ exponent`. Seventeen
digits always suffice. -/
def shortest (mantissa : Nat) (exponent : Int) : Decimal :=
  let r := Rounding.of mantissa exponent
  (((List.range 17).findSome? fun i => r.withDigits? (i + 1)).getD
    ⟨mantissa, 0⟩).normalize

/-- A decimal in positional form, with at least one digit on each side of the point. -/
def Decimal.positional (d : Decimal) : List Char :=
  let digits := decimal d.digits
  if 0 ≤ d.exponent then digits ++ List.replicate d.exponent.toNat '0' ++ ['.', '0']
  else
    let fraction := (-d.exponent).toNat
    let padded := padZeros (fraction + 1) digits
    padded.take (padded.length - fraction) ++ '.' :: padded.drop (padded.length - fraction)

/-- A decimal in scientific form: one digit, the others after a point, and the exponent. -/
def Decimal.scientific (d : Decimal) : List Char :=
  let digits := decimal d.digits
  let exponent := d.exponent + (digits.length - 1 : Nat)
  let mantissa := match digits with
    | [] => []
    | [first] => [first]
    | first :: rest => first :: '.' :: rest
  let sign := if exponent < 0 then '-' else '+'
  mantissa ++ 'e' :: sign :: decimalPadded 2 exponent.natAbs

/-- The form for the decimal exponent at hand. -/
def Decimal.text (d : Decimal) : List Char :=
  let leading := d.exponent + ((decimal d.digits).length - 1 : Nat)
  if -4 ≤ leading ∧ leading < 16 then d.positional else d.scientific

/-- The shortest text of a number. -/
def text : Binary64 → List Char
  | .nan => ['n', 'a', 'n']
  | .infinite negative => (if negative then ['-'] else []) ++ ['i', 'n', 'f']
  | .finite negative mantissa exponent =>
    (if negative then ['-'] else []) ++
      (if mantissa = 0 then ['0', '.', '0'] else (shortest mantissa exponent).text)

end ScanAccess.Binary64
