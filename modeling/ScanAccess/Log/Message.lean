import ScanAccess.Log.Conversion

/-! # Messages with arguments

A message is a template and the arguments for its places. A template without
arguments is the message itself, percent signs included. Otherwise each percent
sign begins a conversion, which takes the next argument; two percent signs are a
percent sign.
-/

namespace ScanAccess.Log

open ScanAccess.Text

/-- What is left of a template and of its arguments. `index` characters of the template
came before. -/
structure Cursor where
  index : Nat
  rest : List Char
  arguments : List Argument
  deriving DecidableEq, Repr

namespace Cursor

/-- Goes over some characters that come next. -/
def skip (cursor : Cursor) (count : Nat) : Cursor :=
  { cursor with index := cursor.index + count, rest := cursor.rest.drop count }

/-- The next argument. -/
def nextArgument (cursor : Cursor) : Except FormatError (Argument × Cursor) :=
  match cursor.arguments with
  | [] => .error .tooFewArguments
  | argument :: rest => .ok (argument, { cursor with arguments := rest })

/-- The next argument in place of a number of `bits` bits, sign included, after the star
that asks for it. -/
def starArgument (bits : Nat) (cursor : Cursor) : Except FormatError (Int × Cursor) := do
  let (argument, cursor) ← cursor.nextArgument
  match argument with
  | .text _ => .error .integerForStar
  | .int n =>
    if -(twoTo (bits - 1) : Int) ≤ n ∧ n < twoTo (bits - 1) then return (n, cursor.skip 1)
    else .error .outOfRange

/-- The flags that come next. -/
def flags (cursor : Cursor) : List Char × Cursor :=
  let flags := cursor.rest.takeWhile fun c => ['-', '+', ' ', '#', '0'].contains c
  (flags, cursor.skip flags.length)

/-- The width that comes next: digits, or an argument in place of a star. A negative one
sets the flag to align to the left. -/
def width (cursor : Cursor) : Except FormatError (List Char × Nat × Cursor) :=
  match cursor.rest with
  | '*' :: _ => do
    let (n, cursor) ← cursor.starArgument 64
    return (if n < 0 then ['-'] else [], n.natAbs, cursor)
  | cs =>
    let digits := cs.takeWhile isDigit
    if twoTo 63 ≤ ofDigits digits then .error .widthTooBig
    else .ok ([], ofDigits digits, cursor.skip digits.length)

/-- The precision that comes next: a point, and then digits or an argument in place of a
star. A point alone stands for zero, and so does a negative argument. -/
def precision (cursor : Cursor) : Except FormatError (Option Nat × Cursor) :=
  match cursor.rest with
  | '.' :: '*' :: _ => do
    let (n, cursor) ← (cursor.skip 1).starArgument 32
    return (some n.toNat, cursor)
  | '.' :: cs =>
    let digits := cs.takeWhile isDigit
    if twoTo 31 ≤ ofDigits digits then .error .precisionTooBig
    else .ok (some (ofDigits digits), cursor.skip (digits.length + 1))
  | _ => .ok (none, cursor)

/-- Goes over a letter for the size of a number, which means nothing. -/
def skipSize (cursor : Cursor) : Cursor :=
  match cursor.rest with
  | 'h' :: _ | 'l' :: _ | 'L' :: _ => cursor.skip 1
  | _ => cursor

/-- The conversion that comes next, after its percent sign. -/
def conversion (cursor : Cursor) : Except FormatError (Conversion × Cursor) :=
  if cursor.rest.head? = some '(' then .error .mappingRequired
  else do
    let (flags, cursor) := cursor.flags
    let (alignment, width, cursor) ← cursor.width
    let (precision, cursor) ← cursor.precision
    let cursor := cursor.skipSize
    match cursor.rest with
    | [] => .error .incomplete
    | letter :: _ =>
      return ({ flags := flags ++ alignment, width, precision, letter, index := cursor.index },
        cursor.skip 1)

end Cursor

/-- Fills the arguments into what is left of a template; `fuel` bounds the steps. -/
def fill : Nat → Cursor → Except FormatError (List Char)
  | 0, _ => .ok []
  | fuel + 1, cursor =>
    match cursor.rest with
    | [] => if cursor.arguments.isEmpty then .ok [] else .error .leftoverArguments
    | '%' :: '%' :: _ => do
      let filled ← fill fuel (cursor.skip 2)
      return '%' :: filled
    | '%' :: _ => do
      let (conversion, cursor) ← (cursor.skip 1).conversion
      let (argument, cursor) ← cursor.nextArgument
      let shown ← conversion.showArgument argument
      let filled ← fill fuel cursor
      return shown ++ filled
    | c :: _ => do
      let filled ← fill fuel (cursor.skip 1)
      return c :: filled

/-- A template with the arguments for its places. -/
structure Message where
  template : String
  arguments : List Argument := []
  deriving DecidableEq, Repr

/-- The text of a message. -/
def Message.text (message : Message) : Except FormatError String :=
  if message.arguments.isEmpty then .ok message.template
  else
    let cs := message.template.toList
    (fill (cs.length + 1) ⟨0, cs, message.arguments⟩).map String.ofList

end ScanAccess.Log
