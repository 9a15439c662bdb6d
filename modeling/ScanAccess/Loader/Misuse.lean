import ScanAccess.Fault
import ScanAccess.Text.Half

/-! # Misuse of options

An option may be given a value of a kind that cannot be used as the option needs
it, or a name that leads nowhere. Such a misuse is an error of its own kind; it is
not reported as a problem of the settings.
-/

namespace ScanAccess.Loader

/-- What a value is used for. -/
inductive Use where
  | iterating
  | path
  | encoding
  | measuring
  | decreasing
  | wholeNumber
  | separating
  | quoting
  | searching
  | subscripting
  | comparing
  | hashing
  | repeating
  | unpacking
  | calling
  | ordering
  | beginning
  deriving DecidableEq, Repr

/-- What is reported about a value of some kind that cannot be used so. -/
def Use.message (use : Use) (kind : String) : String :=
  match use with
  | iterating => "'" ++ kind ++ "' object is not iterable"
  | path => "expected str, bytes or os.PathLike object, not " ++ kind
  | encoding => "open() argument 'encoding' must be str or None, not " ++ kind
  | measuring => "object of type '" ++ kind ++ "' has no len()"
  | decreasing => "unsupported operand type(s) for -: '" ++ kind ++ "' and 'int'"
  | wholeNumber => "'" ++ kind ++ "' object cannot be interpreted as an integer"
  | separating => "must be str or None, not " ++ kind
  | quoting => "expected string or bytes-like object, got '" ++ kind ++ "'"
  | searching => "argument of type '" ++ kind ++ "' is not iterable"
  | subscripting => "'" ++ kind ++ "' object is not subscriptable"
  | comparing => "'in <string>' requires string as left operand, not " ++ kind
  | hashing => "unhashable type: '" ++ kind ++ "'"
  | repeating => "unsupported operand type(s) for *: '" ++ kind ++ "' and 'int'"
  | unpacking => "cannot unpack non-iterable " ++ kind ++ " object"
  | calling => "'" ++ kind ++ "' object is not callable"
  | ordering => "'<=' not supported between instances of '" ++ kind ++ "' and 'int'"
  | beginning => "startswith first arg must be str or a tuple of str, not " ++ kind

/-- How an option is misused: by a value that cannot be used so, by one that has no such
part, by an item among texts that is none, by a name that leads nowhere, is too long or
must not be given, by flags that are taken, by a mark of flags that is missing or that
begins no pattern, or by a number that is too large. -/
inductive Misuse where
  | unusable (use : Use) (kind : String)
  | lacking (kind part : String)
  | joining (index : Nat) (kind : String)
  | missingKey (key : Int)
  | missingMark (kind : String)
  | unknownEncoding (name : String)
  | binaryEncoding (name : String)
  | unknownHome
  | longName (path : String)
  | reservedName (name : String)
  | takenFlags (label : String) (flags : List String)
  | pattern (report : String)
  | tooLarge
  deriving DecidableEq, Repr

/-- The kind under which a misuse of an option is reported. -/
def Misuse.kind : Misuse → Fault.Kind
  | unusable _ _ | joining _ _ | reservedName _ => .type
  | lacking _ _ => .missingAttribute
  | missingKey _ => .key
  | missingMark _ => .index
  | unknownEncoding _ | binaryEncoding _ => .lookup
  | unknownHome => .runtime
  | longName _ => .system
  | takenFlags _ _ => .definedIn "argparse" "ArgumentError" [.general]
  | pattern _ => .definedIn "re" "error" [.general]
  | tooLarge => .overflow

/-- How many bytes of the name of an encoding are shown if it does not encode texts. -/
def shownBytes : Nat := 400

/-- The characters whose bytes are among the first `room` of a text. One of which only some
are is replaced. -/
def firstBytes : Nat → List Char → List Char
  | _, [] => []
  | room, c :: rest =>
    if c.utf8Size ≤ room then c :: firstBytes (room - c.utf8Size) rest
    else if room = 0 then []
    else ['\ufffd']

/-- What is reported about a misuse; a number that is too large has no text. -/
def Misuse.message : Misuse → Option String
  | unusable use kind => use.message kind
  | lacking kind part => "'" ++ kind ++ "' object has no attribute '" ++ part ++ "'"
  | joining index kind =>
    "sequence item " ++ String.ofList (Text.decimal index) ++ ": expected str instance, "
      ++ kind ++ " found"
  | missingKey key => String.ofList (Text.signedDecimal key)
  | missingMark kind => kind ++ " index out of range"
  | unknownEncoding name => "unknown encoding: " ++ name
  | binaryEncoding name =>
    "'" ++ String.ofList (firstBytes shownBytes name.toList)
      ++ "' is not a text encoding; use codecs.open() to handle arbitrary codecs"
  | unknownHome => "Could not determine home directory."
  | longName path => "[Errno 36] File name too long: " ++ Text.quotedRaw path
  | reservedName name =>
    "BaseSettings.__init__() got multiple values for argument " ++ Text.quotedRaw name
  | takenFlags label flags =>
    "argument " ++ label ++ ": conflicting option string" ++ (if flags.length = 1 then "" else "s")
      ++ ": " ++ String.intercalate ", " flags
  | pattern report => report
  | tooLarge => none

end ScanAccess.Loader
