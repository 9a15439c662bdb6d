import ScanAccess.Codec.CharacterName
import ScanAccess.Codec.Decoding
import ScanAccess.Text.Numeral

/-! # Escaped text

A byte stands for the character with its number, but a backslash and what follows
it stand for a character that is given by its number, by a letter or by its name.
In the raw form only the numbers of four or eight digits in base 16 are escapes.
-/

namespace ScanAccess.Codec.Escape

open ScanAccess.Text

/-- What a letter, a quote or a backslash stands for behind a backslash. -/
def shorthands : List (Char × Char) :=
  [('\\', '\\'), ('\x27', '\x27'), ('\x22', '\x22'), ('a', '\x07'), ('b', '\x08'), ('f', '\x0c'),
   ('n', '\n'), ('r', '\r'), ('t', '\t'), ('v', '\x0b')]

/-- Whether a byte is a digit in base 8. -/
def isOctal (byte : UInt8) : Bool :=
  0x30 ≤ byte && byte ≤ 0x37

/-- The letters that announce a number in base 16, each with the count of its digits. -/
def announcements : List (UInt8 × Nat) :=
  [(0x78, 2), (0x75, 4), (0x55, 8)]

/-- Reads `count` digits in base 16 behind a backslash and a letter. -/
def hexStep (letter : UInt8) (count : Nat) (tooLarge : String) (rest : List UInt8) :
    DecodingStep Unit :=
  let cs := rest.map fun byte => Char.ofNat byte.toNat
  let digits := (cs.take count).takeWhile fun c => (hexValue? c).isSome
  let code := digits.foldl (fun code c => 16 * code + (hexValue? c).getD 0) 0
  if digits.length < count then
    let form := String.ofList (Char.ofNat letter.toNat :: List.replicate count 'X')
    .wrong (2 + digits.length) ("truncated \\" ++ form ++ " escape")
  else if 0x110000 ≤ code then .wrong (2 + count) tooLarge
  else .chars (1 + count) [charOf code] ()

/-- Reads a name in braces behind a backslash and its letter. -/
def nameStep (rest : List UInt8) : DecodingStep Unit :=
  let malformed (count : Nat) := DecodingStep.wrong count "malformed \\N character escape"
  match rest with
  | [] => malformed 2
  | brace :: others =>
    let name := others.takeWhile (· != 0x7d)
    if brace ≠ 0x7b then malformed 2
    else if name.length = others.length then malformed (3 + name.length)
    else if name.isEmpty then malformed 3
    else
      match CharacterName.char? (name.map fun byte => Char.ofNat byte.toNat) with
      | some c => .chars (3 + name.length) [c] ()
      | none => .wrong (4 + name.length) "unknown Unicode character name"

/-- One step of escaped text. A backslash at the end of a line joins it to the next one, and
one that escapes nothing stands for itself. -/
def step (_ : Unit) (byte : UInt8) (rest : List UInt8) : DecodingStep Unit :=
  if byte ≠ 0x5c then .single (Char.ofNat byte.toNat) ()
  else
    match rest with
    | [] => .wrong 1 "\\ at end of string"
    | second :: others =>
      let c := Char.ofNat second.toNat
      if c = '\n' then .chars 1 [] ()
      else if isOctal second then
        let digits := (rest.take 3).takeWhile isOctal
        let code := digits.foldl (fun code digit => 8 * code + (digit.toNat - 0x30)) 0
        .chars digits.length [charOf code] ()
      else if c = 'N' then nameStep others
      else
        match shorthands.lookup c, announcements.lookup second with
        | some meant, _ => .chars 1 [meant] ()
        | none, some count => hexStep second count "illegal Unicode character" others
        | none, none => .chars 1 ['\\', c] ()

/-- One step of the raw form. -/
def rawStep (_ : Unit) (byte : UInt8) (rest : List UInt8) : DecodingStep Unit :=
  if byte ≠ 0x5c then .single (Char.ofNat byte.toNat) ()
  else
    match rest with
    | [] => .single '\\' ()
    | second :: others =>
      match announcements.lookup second with
      | some count =>
        if count = 2 then .chars 1 ['\\', Char.ofNat second.toNat] ()
        else hexStep second count "\\Uxxxxxxxx out of range" others
      | none => .chars 1 ['\\', Char.ofNat second.toNat] ()

/-- Reads escaped text, in the raw form or not. -/
def decode (raw : Bool) (bytes : List UInt8) : Except DecodingError (List Char) :=
  if raw then decodeSteps "rawunicodeescape" rawStep 0 () bytes
  else decodeSteps "unicodeescape" step 0 () bytes

end ScanAccess.Codec.Escape
