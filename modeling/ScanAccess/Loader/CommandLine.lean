import ScanAccess.Loader.Flag

/-! # Reading a command line

A command line is a list of arguments. Some are flags, with a value attached or with
the next argument for a value; all others mean nothing by themselves. After an
argument of two dashes there are no more flags.
-/

namespace ScanAccess.Loader

open ScanAccess.Settings

/-- What an argument is: a value, the end of all flags, a flag in one of its spellings, with
a value attached after an equals sign or right after the flag or with none, or what
looks like a flag and is none. -/
inductive Reading where
  | value
  | divider
  | flag (flag : Flag) (spelling : String) (attached : Option String)
  | unknown
  deriving DecidableEq, Repr

/-- The flags of a command line, which begin with characters of `marks`. -/
structure CommandLine where
  marks : String
  flags : List Flag

namespace CommandLine

/-- The flag with a spelling. -/
def flag? (line : CommandLine) (spelling : String) : Option Flag :=
  line.flags.find? fun flag => flag.spellings.contains spelling

/-- Whether a character is a mark of flags. -/
def isMark (line : CommandLine) (c : Char) : Bool :=
  line.marks.contains c

/-- Whether a text is a row of digits, or one with a point in front or in between. -/
def isUnsignedNumber (cs : List Char) : Bool :=
  let digits := cs.dropWhile Text.isDecimalDigit
  match digits with
  | [] => !cs.isEmpty
  | '.' :: rest => !rest.isEmpty && rest.all Text.isDecimalDigit
  | _ => false

/-- Whether an argument is a negative number, with or without a line feed at its end. -/
def isNegativeNumber (cs : List Char) : Bool :=
  match cs with
  | '-' :: rest =>
    isUnsignedNumber rest || (rest.getLast? == some '\n' && isUnsignedNumber rest.dropLast)
  | _ => false

/-- Whether a flag is spelled like a negative number. Then such numbers are no values. -/
def hasNumberFlags (line : CommandLine) : Bool :=
  line.flags.any fun flag => flag.spellings.any fun text => isNegativeNumber text.toList

/-- The flag that an argument begins with, and what is attached to it: after an equals
sign, or after a flag of one letter. -/
def attachedFlag? (line : CommandLine) (cs : List Char) : Option Reading :=
  let name := String.ofList (cs.takeWhile (· != '='))
  let afterSign : Option Reading := match cs.dropWhile (· != '='), line.flag? name with
    | _ :: value, some flag => some (.flag flag name (some (String.ofList value)))
    | _, _ => none
  afterSign.orElse fun _ =>
    match cs with
    | mark :: letter :: rest =>
      let name := String.ofList [mark, letter]
      match line.flag? name with
      | some flag =>
        if line.isMark letter then none
        else some (.flag flag name (some (String.ofList rest)))
      | none => none
    | _ => none

/-- What a text is among the arguments. -/
def readText (line : CommandLine) (text : String) : Reading :=
  match text.toList with
  | [] => .value
  | c :: rest =>
    if !line.isMark c then .value
    else
      match line.flag? text with
      | some flag => .flag flag text none
      | none =>
        if rest.isEmpty then .value
        else
          match line.attachedFlag? (c :: rest) with
          | some reading => reading
          | none =>
            if isNegativeNumber (c :: rest) && !line.hasNumberFlags then .value
            else if text.contains ' ' then .value
            else .unknown

/-- What an argument is. One that is no text is a value if it is not switched on, or if it
is a list that begins with a text. -/
def readArgument (line : CommandLine) (argument : Node) : Except Error Reading :=
  match argument with
  | .string text => .ok (line.readText text)
  | .array (first :: _) =>
    match first with
    | .string text =>
      if text.isEmpty || line.marks.contains text then unusable .hashing "list" else .ok .value
    | first => unusable .comparing (kindName first)
  | .object (_ :: _) => .error (.misused (.missingKey 0))
  | argument => if isOn argument then unusable .subscripting (kindName argument) else .ok .value

/-- The text of the argument that ends all flags. -/
def dividerText : String := "--"

/-- What each of some arguments is. -/
def readings (line : CommandLine) : List Node → Except Error (List (Node × Reading))
  | [] => .ok []
  | argument :: rest =>
    match argument with
    | .string text =>
      if text = dividerText then
        .ok ((argument, .divider) :: rest.map fun argument => (argument, .value))
      else do return (argument, line.readText text) :: (← readings line rest)
    | argument => do return (argument, ← line.readArgument argument) :: (← readings line rest)

/-- Why the reading of a command line stops: a problem, or a call for help. -/
inductive Stop where
  | problem (problem : ArgumentProblem)
  | help
  deriving DecidableEq, Repr

/-- Why the reading stops at a flag of a single letter that asks for help and has a text
attached. The text holds other flags of single letters, up to one that takes the rest
for its value, and all of them are read before help is given; `next` is what follows
the argument. -/
def helpWith (line : CommandLine) (next : Option Reading) (flag : Flag) (mark : Char) :
    List Char → Stop
  | [] => .help
  | letter :: rest =>
    match line.flag? (String.ofList [mark, letter]) with
    | none => .problem (.ignoredValue flag.label (String.ofList (letter :: rest)))
    | some other =>
      if other.setting.isNone then helpWith line next other mark rest
      else if rest.isEmpty && next != some .value then .problem (.missingValue other.label)
      else .help

/-- Why the reading stops at a flag that asks for help. -/
def helpStop (line : CommandLine) (next : Option Reading) (flag : Flag) (spelling : String)
    (attached : Option String) : Stop :=
  match attached, spelling.toList with
  | none, _ => .help
  | some text, mark :: second :: _ =>
    if line.isMark second || text.isEmpty then .problem (.ignoredValue flag.label text)
    else line.helpWith next flag mark text.toList
  | some text, _ => .problem (.ignoredValue flag.label text)

/-- What a command line comes to: the values of settings, in their order, and the arguments
that mean nothing. -/
structure Contents where
  values : List (Field × Node) := []
  extras : List Node := []

/-- The value that is attached to a flag. A divider is none, and leaves an empty list. -/
def attachedValue (text : String) : Node :=
  if text = dividerText then .array [] else .string text

/-- Reads a command line from what its arguments are. -/
def interpret (line : CommandLine) : List (Node × Reading) → Except Stop Contents
  | [] => .ok {}
  | (argument, reading) :: rest =>
    match reading with
    | .value | .divider | .unknown => do
      let contents ← interpret line rest
      return { contents with extras := argument :: contents.extras }
    | .flag flag spelling attached =>
      match flag.setting with
      | none => .error (line.helpStop (rest.head?.map Prod.snd) flag spelling attached)
      | some field =>
        match attached, rest with
        | some text, rest => do
          let contents ← interpret line rest
          return { contents with values := (field, attachedValue text) :: contents.values }
        | none, (value, .value) :: rest => do
          let contents ← interpret line rest
          return { contents with values := (field, value) :: contents.values }
        | none, _ => .error (.problem (.missingValue flag.label))

end CommandLine

end ScanAccess.Loader
