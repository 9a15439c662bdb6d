import ScanAccess.Loader.CommandLine
import ScanAccess.Loader.FlagOptions
import ScanAccess.Loader.FlagPattern
import ScanAccess.Loader.ItemList

/-! # Arguments

Settings may be given as arguments, in the manner of a command line. Options say how
its flags are formed and what becomes of arguments that cannot be understood. A
number is given by the last of its flags, and the list of repositories by all of
its flags together.
-/

namespace ScanAccess.Loader

open ScanAccess.Settings

/-- The options for arguments. Letter case in flags does not matter if they are `folded`.
What arguments say can be lost, because the names of settings are spelled otherwise.
Problems with arguments end the program if they are `fatal`. -/
structure ArgumentOptions where
  style : FlagStyle := {}
  folded : Bool := true
  lost : Bool := false
  lenient : Bool := false
  fatal : Bool := true

/-- The options for arguments that the fields of an object give. Flags are formed by a truth
value for exact names, but settings have exact names where the value is switched on. -/
def ArgumentOptions.ofFields (fields : OptionFields) : Except Error ArgumentOptions := do
  let style ← FlagStyle.ofFields fields
  return {
    style
    folded := match fields.value? "_case_sensitive" with
      | none | some (.bool false) => true
      | some _ => false
    lost := fields.isOn "_case_sensitive" && !style.exactNames
    lenient := fields.isOn "_cli_ignore_unknown_args"
    fatal := (fields.value? "_cli_exit_on_error").all isOn }

/-- The texts of a list, up to the first item that is switched on and is none. What is
not switched on is an empty text. -/
def argumentTexts : List Node → Except Error (List String)
  | [] => .ok []
  | item :: rest =>
    match item with
    | .string text => do return text :: (← argumentTexts rest)
    | item =>
      if isOn item then unusable .quoting (kindName item)
      else do return "" :: (← argumentTexts rest)

/-- The list of arguments that a value gives. There are none for a truth value or zero. -/
def argumentList (value : Node) : Except Error (List Node) :=
  match value with
  | .array items => .ok items
  | .bool true => .ok []
  | value =>
    if isZero value then .ok [] else .error (.obstructed (.noArguments (kindName value)))

/-- Arguments with their flags in lower case. -/
def foldArguments (line : CommandLine) (arguments : List Node) : Except Error (List Node) := do
  let texts ← argumentTexts arguments
  match patternReport? line.marks.toList with
  | some report =>
    if texts.isEmpty then return [] else .error (.misused (.pattern report))
  | none => return texts.map fun text => .string (foldArgument line text)

/-- The first of some arguments that is no text, as an error of joining them. -/
def joinTexts : Nat → List Node → Except Error (List String)
  | _, [] => .ok []
  | index, .string text :: rest => do
    return text :: (← joinTexts (index + 1) rest)
  | index, other :: _ => .error (.misused (.joining index (kindName other)))

/-- What a problem with arguments comes to. -/
def argumentError (options : ArgumentOptions) (problem : ArgumentProblem) : Error :=
  if options.fatal then .ended 2 else .obstructed (.arguments problem)

/-- The values of settings in a list of arguments. -/
def readArguments (options : ArgumentOptions) (line : CommandLine) (arguments : List Node) :
    Except Error (List (Field × Node)) := do
  match line.interpret (← line.readings arguments) with
  | .error .help => .error (.ended 0)
  | .error (.problem problem) => .error (argumentError options problem)
  | .ok contents =>
    if options.lenient || contents.extras.isEmpty then return contents.values
    else .error (argumentError options (.unknown (← joinTexts 0 contents.extras)))

/-- The text for null, if there is one. -/
def ArgumentOptions.nullText? (options : ArgumentOptions) : Option String :=
  options.style.nullText.toOption.join

/-- The text of the list that values of a setting make. -/
def mergedText (options : ArgumentOptions) (field : Field) (values : List Node) :
    Except Error Node :=
  match ItemList.merge options.nullText? values with
  | .ok text => .ok (.string text)
  | .error problem =>
    .error (.obstructed (.argumentList (options.style.settingName field) problem))

/-- The value that the arguments give a setting, if they do. Only texts and lists can be
null: a list is taken for a text. -/
def argumentValue (options : ArgumentOptions) (values : List (Field × Node)) (field : Field) :
    Except Error (Option Node) := do
  let own := values.filterMap fun (other, value) => if other = field then some value else none
  let value ← match field, own, own.getLast? with
    | .repositories, _ :: _, _ => mergedText options field own
    | _, _, some (.array items) => mergedText options field items
    | _, _, value => .ok (value.getD .null)
  return match value with
    | .null => none
    | .string text => some (if options.nullText? = some text then .null else value)
    | value => some value

/-- The values that the arguments give settings, if there is a place for arguments. -/
def argumentsOf (fields : OptionFields) : Except Error (Option Given) := do
  match fields.value? "_cli_parse_args" with
  | none => return none
  | some value =>
    let options ← ArgumentOptions.ofFields fields
    let line : CommandLine := { marks := options.style.marks, flags := ← options.style.flags }
    let arguments ← argumentList value
    let arguments ← if options.folded then foldArguments line arguments else pure arguments
    let values ← readArguments options line arguments
    let tokenBytes ← argumentValue options values .tokenBytes
    let maxAgeSeconds ← argumentValue options values .maxAgeSeconds
    let repositories ← argumentValue options values .repositories
    return some fun field =>
      if options.lost then none
      else
        match field with
        | .tokenBytes => tokenBytes
        | .maxAgeSeconds => maxAgeSeconds
        | .repositories => repositories

end ScanAccess.Loader
