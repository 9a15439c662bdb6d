import ScanAccess.Settings.Template
import ScanAccess.Text.Blank

/-! # Settings files

A settings file assigns values to names, one assignment after the other. A value
stands bare, up to the end of its line or a comment, or between quotes, where it
may go over several lines and hold escapes. A name without a value is noted as
such. A value may refer to names.
A statement that cannot be read is passed over up to the end of its line, and the
line where it begins is noted.
-/

namespace ScanAccess.Loader.DotEnv

open ScanAccess.Settings ScanAccess.Text

/-- A name with its value, if it has one. -/
abbrev Binding : Type := String × Option String

/-- Makes every line end a line feed: carriage returns count as line ends, alone
and before a line feed. -/
def normalizeLineEnds : List Char → List Char
  | [] => []
  | '\r' :: '\n' :: rest => '\n' :: normalizeLineEnds rest
  | '\r' :: rest => '\n' :: normalizeLineEnds rest
  | c :: rest => c :: normalizeLineEnds rest

/-- A blank that does not end a line. -/
def isGap (c : Char) : Bool :=
  isBlank c && c != '\n'

/-- Drops the rest of a line with its end. -/
def skipLine (cs : List Char) : List Char :=
  (cs.dropWhile (· != '\n')).drop 1

/-- Reads up to a closing quote. A backslash takes the next character with it, be it a
line's end, so a quote after it does not close. -/
def readQuoted (quote : Char) : List Char → Option (List Char × List Char)
  | [] | ['\\'] => none
  | '\\' :: c :: rest =>
    (readQuoted quote rest).map fun (value, after) => ('\\' :: c :: value, after)
  | c :: rest =>
    if c = quote then some ([], rest)
    else (readQuoted quote rest).map fun (value, after) => (c :: value, after)

/-- The character that a letter after a backslash stands for between double quotes. -/
def doubleEscape? (c : Char) : Option Char :=
  if c = '\\' ∨ c = '\x27' ∨ c = '\x22' then some c
  else if c = 'a' then some '\x07'
  else if c = 'b' then some '\x08'
  else if c = 'f' then some '\x0c'
  else if c = 'n' then some '\n'
  else if c = 'r' then some '\r'
  else if c = 't' then some '\t'
  else if c = 'v' then some '\x0b'
  else none

/-- The character that a letter after a backslash stands for between single quotes. -/
def singleEscape? (c : Char) : Option Char :=
  if c = '\\' ∨ c = '\x27' then some c else none

/-- Replaces the escapes; a backslash that begins none stays. -/
def decodeEscapes (escape? : Char → Option Char) : List Char → List Char
  | [] => []
  | '\\' :: c :: rest =>
    match escape? c with
    | some decoded => decoded :: decodeEscapes escape? rest
    | none => '\\' :: decodeEscapes escape? (c :: rest)
  | c :: rest => c :: decodeEscapes escape? rest

/-- Cuts off a comment: blanks, a number sign and what follows. -/
def cutComment : List Char → List Char
  | [] => []
  | c :: rest =>
    if isBlank c && (rest.dropWhile isBlank).head? == some '#' then []
    else c :: cutComment rest

/-- Reads a value after the equals sign. A bare value may be missing before a comment:
the blanks that a comment needs may be those after the equals sign. -/
def readValue (cs : List Char) : Option (String × List Char) :=
  match cs.dropWhile isGap with
  | '\x27' :: rest =>
    (readQuoted '\x27' rest).map fun (value, after) =>
      (String.ofList (decodeEscapes singleEscape? value), after)
  | '\x22' :: rest =>
    (readQuoted '\x22' rest).map fun (value, after) =>
      (String.ofList (decodeEscapes doubleEscape? value), after)
  | _ =>
    let value := trimWhile isBlank (cutComment (cs.takeWhile (· != '\n')))
    some (String.ofList value, cs.dropWhile (· != '\n'))

/-- A character of a bare name. -/
def isNameCharacter (c : Char) : Bool :=
  c != '=' && c != '#' && !isBlank c

/-- Reads a name, bare or between single quotes. A comment in its place means
that there is none. -/
def readName (cs : List Char) : Option (Option String × List Char) :=
  match cs with
  | '#' :: _ => some (none, cs)
  | '\x27' :: rest =>
    let name := rest.takeWhile (· != '\x27')
    match rest.dropWhile (· != '\x27') with
    | _ :: after => if name.isEmpty then none else some (some (String.ofList name), after)
    | [] => none
  | cs =>
    let name := cs.takeWhile isNameCharacter
    if name.isEmpty then none
    else some (some (String.ofList name), cs.dropWhile isNameCharacter)

/-- Drops the word `export` and the gap after it. -/
def skipExport (cs : List Char) : List Char :=
  match cs with
  | 'e' :: 'x' :: 'p' :: 'o' :: 'r' :: 't' :: c :: rest =>
    if isGap c then rest.dropWhile isGap else cs
  | cs => cs

/-- Reads the end of an assignment: a gap, a comment or none, and the line's end. -/
def readEnd (cs : List Char) : Option (List Char) :=
  match cs.dropWhile isGap with
  | [] => some []
  | '\n' :: rest => some rest
  | '#' :: rest => some (skipLine rest)
  | _ => none

/-- What a statement of a file is: an assignment, nothing but a comment, or none
that can be read. -/
inductive Statement where
  | assignment (binding : Binding)
  | remark
  | broken
  deriving DecidableEq, Repr

/-- Reads one statement at the front of a text that does not begin with a blank.
What is left to read comes back in any case. -/
def readStatement (cs : List Char) : Statement × List Char :=
  match readName (skipExport cs) with
  | none => (.broken, skipLine (skipExport cs))
  | some (name, afterName) =>
    let cs := afterName.dropWhile isGap
    let value := match cs with
      | '=' :: rest => (readValue rest).map fun (value, after) => (some value, after)
      | cs => some (none, cs)
    match value with
    | none => (.broken, skipLine cs)
    | some (value, after) =>
      match readEnd after, name with
      | none, _ => (.broken, skipLine after)
      | some rest, some name => (.assignment (name, value), rest)
      | some rest, none => (.remark, rest)

/-- Reads the statements of a text, each with the text from where the one before ended;
`fuel` bounds their number. -/
def readStatements : Nat → List Char → List (List Char × Statement)
  | 0, _ => []
  | fuel + 1, start =>
    match start.dropWhile isBlank with
    | [] => []
    | cs =>
      let (statement, rest) := readStatement cs
      (start, statement) :: readStatements fuel rest

/-- Reads what follows a dollar sign and an opening brace: a name and, after a colon and
a dash, what stands for its value if it has none. A closing brace ends both. -/
def readReference (cs : List Char) : Option (Piece × List Char) :=
  let name := String.ofList (cs.takeWhile fun c => c != '\x7d' && c != ':')
  match cs.dropWhile fun c => c != '\x7d' && c != ':' with
  | '\x7d' :: after => some (.reference name "", after)
  | ':' :: '-' :: rest =>
    match rest.dropWhile (· != '\x7d') with
    | _ :: after => some (.reference name (String.ofList (rest.takeWhile (· != '\x7d'))), after)
    | [] => none
  | _ => none

/-- The pieces of a value; `fuel` bounds their number. -/
def readPieces : Nat → List Char → Template
  | fuel + 1, '$' :: '\x7b' :: rest =>
    match readReference rest with
    | some (piece, after) => piece :: readPieces fuel after
    | none => .char '$' :: readPieces fuel ('\x7b' :: rest)
  | fuel + 1, c :: rest => .char c :: readPieces fuel rest
  | _, _ => []

/-- The value that a text is. -/
def template (text : String) : Template :=
  readPieces text.length text.toList

/-- The number of line ends in a text. -/
def lineEnds (cs : List Char) : Nat :=
  cs.countP (· == '\n')

/-- What a file says: its assignments, and the lines, counted from one, from which
on a statement could not be read. -/
structure Contents where
  assignments : List Assignment := []
  brokenLines : List Nat := []
  deriving DecidableEq, Repr

/-- Drops the mark with which a file may begin to say that it is Unicode. -/
def dropMark : List Char → List Char
  | '\ufeff' :: rest => rest
  | cs => cs

/-- Reads a file. The blank lines before a statement belong to it. -/
def read (text : List Char) : Contents :=
  let cs := dropMark (normalizeLineEnds text)
  let statements := readStatements cs.length cs
  { assignments := statements.filterMap fun (_, statement) =>
      match statement with
      | .assignment (name, value) => some ⟨name, value.map template⟩
      | _ => none
    brokenLines := statements.filterMap fun (start, statement) =>
      if statement = .broken then some (lineEnds cs - lineEnds start + 1) else none }

end ScanAccess.Loader.DotEnv
