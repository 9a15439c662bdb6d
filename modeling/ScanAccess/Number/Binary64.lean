import ScanAccess.Number.Power
import ScanAccess.Text.Numeral

/-! # Binary64 numbers as exact values

A finite number is a sign and an exact magnitude `mantissa * 2 ^ exponent`. All
arithmetic here is on natural numbers and integers: a quotient is rounded once,
to the nearest number, a tie to the even mantissa.
-/

namespace ScanAccess

/-- A binary64 number. Finite numbers are kept in one form each: the mantissa
has 53 bits, or the exponent is the least one, -1074. -/
inductive Binary64 where
  | nan
  | infinite (negative : Bool)
  | finite (negative : Bool) (mantissa : Nat) (exponent : Int)
  deriving DecidableEq, Repr

namespace Binary64

/-- The nearest integer to a quotient, a tie to the even one. -/
def roundDiv (num den : Nat) : Nat :=
  let quotient := num / den
  let rest := num % den
  if 2 * rest < den then quotient
  else if den < 2 * rest then quotient + 1
  else quotient + quotient % 2

/-- The numerator and denominator of `num / den / 2 ^ exponent`. -/
def atScale (num den : Nat) (exponent : Int) : Nat × Nat :=
  if 0 ≤ exponent then (num, den * twoTo exponent.toNat)
  else (num * twoTo (-exponent).toNat, den)

/-- The exponent at which a positive quotient has a mantissa of 53 bits. -/
def leadingExponent (num den : Nat) : Int :=
  let estimate : Int := (num.log2 : Int) - den.log2 - 53
  let scaled := atScale num den estimate
  if scaled.1 / scaled.2 < twoTo 53 then estimate else estimate + 1

/-- The number nearest to `num / den` in magnitude. -/
def ofRatio (negative : Bool) (num den : Nat) : Binary64 :=
  if num = 0 then .finite negative 0 (-1074)
  else
    let exponent := max (leadingExponent num den) (-1074)
    let scaled := atScale num den exponent
    let rounded := roundDiv scaled.1 scaled.2
    let mantissa := if rounded = twoTo 53 then twoTo 52 else rounded
    let exponent := if rounded = twoTo 53 then exponent + 1 else exponent
    if 971 < exponent then .infinite negative else .finite negative mantissa exponent

/-- The number nearest to an integer. -/
def ofInt (n : Int) : Binary64 :=
  ofRatio (n < 0) n.natAbs 1

/-- The number nearest to `digits * 10 ^ exponent` in magnitude. Exponents far
outside the range are settled without computing the power. -/
def ofDecimal (negative : Bool) (digits : Nat) (exponent : Int) : Binary64 :=
  let magnitude : Int := (Text.decimal digits).length + exponent
  if digits = 0 ∨ magnitude < -330 then .finite negative 0 (-1074)
  else if 310 < magnitude then .infinite negative
  else if 0 ≤ exponent then ofRatio negative (digits * tenTo exponent.toNat) 1
  else ofRatio negative digits (tenTo (-exponent).toNat)

/-- Zero of either sign. -/
def isZero : Binary64 → Bool
  | .finite _ 0 _ => true
  | _ => false

/-- Numerical equality: the two zeros are equal, and nothing equals a NaN. -/
def sameValue (x y : Binary64) : Bool :=
  x != .nan && (x == y || (x.isZero && y.isZero))

/-- A finite number as an integer over a power of two: the numerator and the
exponent of the denominator. -/
def asFraction? : Binary64 → Option (Int × Nat)
  | .finite negative mantissa exponent =>
    let numerator : Int := (mantissa * twoTo exponent.toNat : Nat)
    some (if negative then -numerator else numerator, (-exponent).toNat)
  | _ => none

/-- The largest integer that is not above a finite number. -/
def floor? (x : Binary64) : Option Int :=
  x.asFraction?.map fun (numerator, scale) => numerator / twoTo scale

/-- The number nearest to a finite number divided by a positive one. -/
def dividedBy? (x : Binary64) (divisor : Nat) : Option Binary64 :=
  x.asFraction?.map fun (numerator, scale) =>
    ofRatio (numerator < 0) numerator.natAbs (twoTo scale * divisor)

/-- Why a number has no integer part. -/
inductive NoInteger where
  | notANumber
  | infinite
  deriving DecidableEq, Repr

/-- The integer that a number comes to when its fraction is dropped. -/
def truncate (x : Binary64) : Except NoInteger Int :=
  match x, x.asFraction? with
  | _, some (numerator, scale) => .ok (numerator.tdiv (twoTo scale))
  | .nan, none => .error .notANumber
  | _, none => .error .infinite

/-- The integer that a number is equal to, if there is one. -/
def toInt? (x : Binary64) : Option Int :=
  match x.asFraction? with
  | some (numerator, scale) =>
    if numerator % twoTo scale = 0 then some (numerator / twoTo scale) else none
  | none => none

end Binary64

end ScanAccess
