import ScanAccess.Bytes.Hex
import ScanAccess.Text.Half

/-! # Decoding

Decoding reads bytes from the front, one character or a few of them at a time. Bytes
that stand for no character are reported with their place.
-/

namespace ScanAccess.Codec

open ScanAccess.Text

/-- Why bytes cannot be read: those from `first` to `last`, of which `byte` is the first,
stand for no character; there is no mark at the front; a character is no digit of a
number, the number does not end, or it leads to no character, which may happen inside a
label of a domain name; such a label has no length that it may have, begins with a mark
where it must not, holds a character that it must not, mixes directions or does not
end in its own one, or has another encoded form than the one that was read; or nothing
can be read in the encoding. -/
inductive DecodingError where
  | undecodable (encoding : String) (first last : Nat) (byte : UInt8) (reason : String)
  | unmarked (encoding : String)
  | noDigit (c : Char)
  | openNumber
  | noCharacter (code : Nat)
  | inLabel (error : DecodingError)
  | labelSize
  | labelMark
  | prohibited (c : Char)
  | mixedDirections
  | openDirection
  | otherLabel (label other : List UInt8)
  | undefined
  deriving DecidableEq, Repr

/-- The report of an error. A single byte is shown. -/
def DecodingError.message : DecodingError → String
  | undecodable encoding first last byte reason =>
    let place :=
      if first = last then
        "byte 0x" ++ String.ofList (Bytes.toHex [byte]) ++ " in position "
          ++ String.ofList (decimal first)
      else
        "bytes in position " ++ String.ofList (decimal first) ++ "-" ++ String.ofList (decimal last)
    "'" ++ encoding ++ "' codec can't decode " ++ place ++ ": " ++ reason
  | unmarked encoding => encoding ++ " stream does not start with BOM"
  | noDigit c => "Invalid extended code point '" ++ String.singleton c ++ "'"
  | openNumber => "incomplete punicode string"
  | noCharacter code => "Invalid character U+" ++ String.ofList (Nat.toDigits 16 code)
  | inLabel error =>
    "decoding with 'punycode' codec failed (UnicodeError: " ++ error.message ++ ")"
  | labelSize => "label empty or too long"
  | labelMark => "Label starts with ACE prefix"
  | prohibited c => "Invalid character " ++ String.ofList (quote (restored (String.singleton c)))
  | mixedDirections => "Violation of BIDI requirement 2"
  | openDirection => "Violation of BIDI requirement 3"
  | otherLabel label other =>
    "('IDNA does not round-trip', " ++ String.ofList (quoteBytes label) ++ ", "
      ++ String.ofList (quoteBytes other) ++ ")"
  | undefined => "undefined encoding"

/-- One step of reading: `cs`, for the first byte and `more` after it, with the state of the
next step, or some bytes that stand for nothing, with the reason. -/
inductive DecodingStep (σ : Type) where
  | chars (more : Nat) (cs : List Char) (next : σ)
  | wrong (count : Nat) (reason : String)

namespace DecodingStep

variable {σ : Type}

/-- Bytes that stand for no character. -/
def illegal (count : Nat) : DecodingStep σ :=
  .wrong count "illegal multibyte sequence"

/-- The last bytes, of which `rest` follows the first: they are too few for a character. -/
def incomplete (rest : List UInt8) : DecodingStep σ :=
  .wrong (1 + rest.length) "incomplete multibyte sequence"

/-- A single byte that stands for a character. -/
def single (c : Char) (next : σ) : DecodingStep σ :=
  .chars 0 [c] next

/-- The characters that the first byte and `more` after it stand for, if they do. -/
def ofChars? (more : Nat) (next : σ) : Option (List Char) → DecodingStep σ
  | some cs => .chars more cs next
  | none => .illegal 1

/-- Reads the second byte of a pair, which has to be there. -/
def pair (next : σ) (rest : List UInt8) (chars? : Nat → Option (List Char)) : DecodingStep σ :=
  match rest with
  | [] => .incomplete rest
  | second :: _ => .ofChars? 1 next (chars? second.toNat)

/-- Reads a pair of bytes from 128 on. Below, a byte stands for itself. -/
def ofPairs (chars? : Nat → Nat → Option (List Char)) (_ : Unit) (byte : UInt8)
    (rest : List UInt8) : DecodingStep Unit :=
  if byte < 0x80 then .single (Char.ofNat byte.toNat) ()
  else .pair () rest (chars? byte.toNat)

end DecodingStep

/-- Reads bytes step by step, from a position on. Errors name the `encoding`. -/
def decodeSteps {σ : Type} (encoding : String) (step : σ → UInt8 → List UInt8 → DecodingStep σ)
    (position : Nat) (state : σ) (bytes : List UInt8) : Except DecodingError (List Char) :=
  match bytes with
  | [] => .ok []
  | byte :: rest =>
    match step state byte rest with
    | .chars more cs next =>
      (decodeSteps encoding step (position + 1 + more) next (rest.drop more)).map (cs ++ ·)
    | .wrong count reason =>
      .error (.undecodable encoding position (position + count - 1) byte reason)
termination_by bytes.length
decreasing_by
  simp only [List.length_drop, List.length_cons]
  omega

/-- Reads bytes one by one, from a position on. -/
def decodeBytes (encoding reason : String) (char? : UInt8 → Option Char) :
    Nat → List UInt8 → Except DecodingError (List Char)
  | _, [] => .ok []
  | position, byte :: rest =>
    match char? byte with
    | some c => (decodeBytes encoding reason char? (position + 1) rest).map (c :: ·)
    | none => .error (.undecodable encoding position position byte reason)

/-- The character of a byte below 128. -/
def asciiChar? (byte : UInt8) : Option Char :=
  if byte < 128 then some (Char.ofNat byte.toNat) else none

/-- Reads bytes that all have to be ASCII. -/
def decodeAscii (bytes : List UInt8) : Except DecodingError (List Char) :=
  decodeBytes "ascii" "ordinal not in range(128)" asciiChar? 0 bytes

end ScanAccess.Codec
