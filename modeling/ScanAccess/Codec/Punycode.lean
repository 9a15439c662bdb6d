import ScanAccess.Codec.Decoding

/-! # Punycode

The characters of a text that are ASCII stand in front, up to the last dash. Behind it
stand numbers in base 36, one for every other character: it tells how many places to
go on from the character before, where a place is a character's number and a position.
The last digit of a number is below a bound, which depends on its place and on a
bias, and the bias follows the numbers that were seen.
-/

namespace ScanAccess.Codec.Punycode

open ScanAccess.Text

/-- The bias at the beginning. -/
def firstBias : Nat := 72

/-- The first character that is not ASCII. -/
def firstCode : Nat := 0x80

/-- The bound that the digit at a place, counted from 0, has to reach unless it is the last. -/
def bound (place bias : Nat) : Nat :=
  min 26 (max 1 (36 * (place + 1) - bias))

theorem bound_pos (place bias : Nat) : 1 ≤ bound place bias := by
  unfold bound
  omega

/-- Divides a number by 35 until it is small, and counts 36 for each division. -/
def reduce (count number : Nat) : Nat × Nat :=
  if 455 < number then reduce (count + 36) (number / 35) else (count, number)
termination_by number
decreasing_by exact Nat.div_lt_self (by omega) (by omega)

/-- The bias after a number, the first one or not, with the length of the text by then. -/
def adapt (isFirst : Bool) (number length : Nat) : Nat :=
  let halved := if isFirst then number / 700 else number / 2
  let (count, number) := reduce 0 (halved + halved / length)
  count + 36 * number / (number + 38)

/-- The value of a digit. -/
def digitValue? (c : Char) : Option Nat :=
  if 'A' ≤ c ∧ c ≤ 'Z' then some (c.toNat - 'A'.toNat)
  else if '0' ≤ c ∧ c ≤ '9' then some (c.toNat - '0'.toNat + 26)
  else none

/-- The digit with a value. -/
def digit (value : Nat) : Char :=
  if value < 26 then Char.ofNat ('a'.toNat + value) else Char.ofNat ('0'.toNat + (value - 26))

/-- Reads a number from a place on, where a digit counts as much as `weight` says. What comes
after the number is shorter than the text. -/
def readNumber (bias place weight number : Nat) :
    (cs : List Char) →
      Except DecodingError (Nat × { rest : List Char // rest.length < cs.length })
  | [] => .error .openNumber
  | c :: cs =>
    match digitValue? c with
    | none => .error (.noDigit c)
    | some value =>
      let number := number + value * weight
      if value < bound place bias then .ok (number, ⟨cs, Nat.lt_succ_self _⟩)
      else
        match readNumber bias (place + 1) (weight * (36 - bound place bias)) number cs with
        | .ok (number, ⟨rest, shorter⟩) => .ok (number, ⟨rest, Nat.lt_succ_of_lt shorter⟩)
        | .error error => .error error

/-- Puts the characters into a text whose numbers are given, from a place on. -/
def insertAll (isFirst : Bool) (bias code position : Nat) (cs numbers : List Char) :
    Except DecodingError (List Char) :=
  if numbers = [] then .ok cs
  else
    match readNumber bias 0 1 0 numbers with
    | .error error => .error error
    | .ok (number, ⟨rest, _⟩) =>
      let reached := position + number
      let code := code + reached / (cs.length + 1)
      let position := reached % (cs.length + 1)
      if 0x110000 ≤ code then .error (.noCharacter code)
      else
        let cs := cs.take position ++ charOf code :: cs.drop position
        insertAll false (adapt isFirst number cs.length) code (position + 1) cs rest
termination_by numbers.length

/-- The byte that ends the part of ASCII. -/
def dash : UInt8 := 0x2d

/-- Reads a text. Both parts have to be ASCII, and letter case does not matter in the second. -/
def decode (bytes : List UInt8) : Except DecodingError (List Char) := do
  let numbers := (bytes.reverse.takeWhile (· != dash)).reverse
  let plain := bytes.take (bytes.length - numbers.length - 1)
  let cs ← decodeAscii plain
  insertAll true firstBias firstCode 0 cs ((← decodeAscii numbers).map Char.toUpper)

/-- The digits of a number from a place on. -/
def writeNumber (bias place number : Nat) : List Char :=
  let low := bound place bias
  if h : number < low then [digit number]
  else
    digit (low + (number - low) % (36 - low))
      :: writeNumber bias (place + 1) ((number - low) / (36 - low))
termination_by number
decreasing_by
  have positive := bound_pos place bias
  have smaller := Nat.div_le_self (number - bound place bias) (36 - bound place bias)
  omega

/-- What has been written of the numbers: their digits, the places gone on since the last
one, the bias, and how many characters have been dealt with. -/
structure Written where
  digits : List Char := []
  distance : Nat := 0
  bias : Nat := firstBias
  count : Nat

/-- Goes past a character of the text when those with the number `code` are written. The
text has `plain` characters of ASCII. -/
def Written.pass (plain code : Nat) (state : Written) (c : Char) : Written :=
  if c.toNat < code then { state with distance := state.distance + 1 }
  else if c.toNat = code then
    { digits := state.digits ++ writeNumber state.bias 0 state.distance
      distance := 0
      bias := adapt (state.count == plain) state.distance (state.count + 1)
      count := state.count + 1 }
  else state

/-- Writes the numbers of a text for the characters with some numbers in ascending order, of
which the first is `code` or more. -/
def writeAll (plain code : Nat) (cs : List Char) : List Nat → Written → List Char
  | [], state => state.digits
  | next :: codes, state =>
    let gone := { state with distance := state.distance + (next - code) * (state.count + 1) }
    let state := cs.foldl (Written.pass plain next) gone
    writeAll plain (next + 1) cs codes { state with distance := state.distance + 1 }

/-- Writes a text. -/
def encode (cs : List Char) : List Char :=
  let plain := cs.filter fun c => c.toNat < firstCode
  let codes := ((cs.map Char.toNat).filter (firstCode ≤ ·)).eraseDups.mergeSort
  let numbers := writeAll plain.length firstCode cs codes { count := plain.length }
  if plain.isEmpty then numbers else plain ++ '-' :: numbers

end ScanAccess.Codec.Punycode
