import ScanAccess.Loader.Node
import ScanAccess.Loader.Arguments
import ScanAccess.Loader.DotEnv
import ScanAccess.Loader.FileChoice
import ScanAccess.Text.LowerCase

/-! # Options of a search

Settings are searched for in the environment and in a settings file. Options say
which files are read and how names and values are understood. They may be given
as fields of a JSON object, under names of their own.
-/

namespace ScanAccess.Loader

open ScanAccess.Settings

/-- What stands between a name and the name of a part of its value. The kind is given of
a value that is no text, which finds parts but cannot separate them. The name of a part
is separated at no more than `splits` marks, where that is a number. -/
structure NestingMark where
  text : String
  wrongKind : Option String := none
  splits : Except Misuse (Option Nat) := .ok none

/-- The ends of the range of numbers of marks that can be counted to. -/
def maxSplits : Int := 9223372036854775807

/-- The number of marks that a value allows, which is one less than the number of parts it
gives. There is no limit without such a number, and below one. -/
def splitsOf (value : Node) : Except Misuse (Option Nat) :=
  let limit (parts : Int) : Except Misuse (Option Nat) :=
    let marks := parts - 1
    if maxSplits < marks ∨ marks < -maxSplits - 1 then .error .tooLarge
    else .ok (if marks < 0 then none else some marks.toNat)
  match value with
  | .int parts => limit parts
  | .bool true => limit 1
  | value =>
    if isOn value then .error (.unusable .wholeNumber (kindName value)) else .ok none

/-- The mark that a value gives, if it is switched on. -/
def NestingMark.ofJson? (value parts : Node) : Option NestingMark :=
  if !isOn value then none
  else
    let wrongKind := match value with
      | .string _ => none
      | value => some (kindName value)
    some { text := value.shown, wrongKind, splits := splitsOf parts }

/-- The names of fields that are options, whether they matter here or not. -/
def optionNames : List String :=
  ["_case_sensitive", "_nested_model_default_partial_update", "_env_prefix",
   "_env_prefix_target", "_env_file", "_env_file_encoding", "_env_file_depth",
   "_env_ignore_empty", "_env_nested_delimiter", "_env_nested_max_split",
   "_env_parse_none_str", "_env_parse_enums", "_cli_prog_name", "_cli_parse_args",
   "_cli_settings_source", "_cli_parse_none_str", "_cli_hide_none_type", "_cli_avoid_json",
   "_cli_enforce_required", "_cli_use_class_docs_for_groups", "_cli_exit_on_error",
   "_cli_prefix", "_cli_flag_prefix_char", "_cli_implicit_flags", "_cli_ignore_unknown_args",
   "_cli_kebab_case", "_cli_shortcuts", "_cli_show_env_vars", "_secrets_dir", "_build_sources"]

/-- How settings are searched for. Letter case in names matters only if names are
`exactNames`, and empty values count as missing if they are skipped. A value that
is `nullText` means null. If there is a nesting mark, a name followed by the mark
begins the name of a part of its value. The names of variables begin with
`opening`, which is given by `givenOpening` and may be left out; a given opening that is
no text is there as its kind, and `isOpened` says whether there is one at all. There is
`room` for so many containers of JSON inside one another in a value of the environment. -/
structure Options where
  room : Nat
  unusable : Option Misuse := none
  steps : List FileStep := [FileStep.settingsFile]
  depth : Node := .null
  encoding : Except Error Rereading := .ok utf8
  arguments : Except Error (Option Given) := .ok none
  secretsInFile : Except Misuse Bool := .ok false
  exactNames : Bool := false
  skipEmpty : Bool := false
  nullText : Option String := none
  nestingMark : Option NestingMark := none
  opening : Option String := some ""
  givenOpening : Except String String := .ok ""
  isOpened : Bool := false

namespace Options

/-- What is noticed before anything is read: a number of parts that cannot be counted down,
and an opening of names that has no length. -/
def unusableField (fields : OptionFields) : Option Misuse :=
  let decreasing : Option Misuse := match fields.value? "_env_nested_max_split" with
    | some value@(.string _) | some value@(.array _) | some value@(.object _) =>
      if isOn value then some (.unusable .decreasing (kindName value)) else none
    | _ => none
  let measuring : Option Misuse := match fields.value? "_env_prefix" with
    | some value@(.bool _) | some value@(.int _) | some value@(.float _) =>
      some (.unusable .measuring (kindName value))
    | _ => none
  decreasing.orElse fun _ => measuring

/-- The targets for which the names of variables begin with the opening. -/
def openingTargets : List String := ["alias", "all"]

/-- The options that the fields of an object give. A tilde in a path stands for `home`. -/
def ofFields (encodings : Encodings) (room : Nat) (home : Option String) (fields : OptionFields) :
    Options :=
  let given (name : String) := (fields.value? name).getD .null
  let opened := (fields.text? "_env_prefix_target").any openingTargets.contains
  { room
    unusable := unusableField fields
    steps := match Dictionary.get? fields "_env_file" with
      | some value => FileStep.ofJson home value
      | none => [FileStep.settingsFile]
    depth := given "_env_file_depth"
    encoding := encodingOf encodings (given "_env_file_encoding")
    arguments := argumentsOf fields
    secretsInFile := Loader.secretsInFile home (given "_secrets_dir")
    exactNames := fields.isOn "_case_sensitive"
    skipEmpty := fields.isOn "_env_ignore_empty"
    nullText := fields.text? "_env_parse_none_str"
    nestingMark := NestingMark.ofJson? (given "_env_nested_delimiter")
      (given "_env_nested_max_split")
    opening := match fields.value? "_env_prefix" with
      | some (.string text) => some (if opened then text else "")
      | none => some ""
      | some _ => if opened then none else some ""
    givenOpening := match fields.value? "_env_prefix" with
      | some (.string text) => .ok text
      | none => .ok ""
      | some value => .error (kindName value)
    isOpened := fields.isOn "_env_prefix" }

/-- A name as names are compared. -/
def nameKey (options : Options) (name : String) : String :=
  if options.exactNames then name else Text.lower name

/-- The name under which variables give a setting. -/
def variableName (options : Options) (name : String) : String :=
  options.opening.getD "" ++ name

/-- The variables that count, by their names as names are compared. Of two that have the
same the last counts, in the place of the first. -/
def counted (options : Options) (vars : Variables) : Variables :=
  let some? := if options.skipEmpty then vars.filter fun entry => entry.2 != some "" else vars
  Dictionary.ofList (some?.map fun (name, value) => (options.nameKey name, value))

/-- The value of a variable that counts: null if it is the text for null, and otherwise its
text. -/
def valueOf? (options : Options) (counted : Variables) (name : String) : Option Node :=
  let key := options.nameKey (options.variableName name)
  (Dictionary.get? counted key).join.map fun text =>
    if options.nullText = some text then .null else .string text

/-- Cuts a text at a mark, from left to right, at most `splits` times if there is such a
number. `fuel` bounds the steps. -/
def splitAt (mark : List Char) : Nat → Option Nat → List Char → List (List Char)
  | 0, _, cs | _, some 0, cs => [cs]
  | fuel + 1, splits, cs =>
    if mark.isPrefixOf cs then
      [] :: splitAt mark fuel (splits.map (· - 1)) (cs.drop mark.length)
    else
      match cs with
      | [] => [[]]
      | c :: rest =>
        match splitAt mark fuel splits rest with
        | first :: others => (c :: first) :: others
        | [] => [[c]]

/-- Puts a part of a value where its path leads. Nothing is put below what is no object, and
null does not replace anything. -/
def putPart (value : Node) (isNull : Bool) :
    List String → List (String × Node) → List (String × Node)
  | [], fields => fields
  | [name], fields =>
    if isNull && (Dictionary.get? fields name).isSome then fields
    else Dictionary.put name value fields
  | name :: path, fields =>
    match Dictionary.get? fields name with
    | none => Dictionary.put name (.object (putPart value isNull path [])) fields
    | some (.object inner) =>
      Dictionary.put name (.object (putPart value isNull path inner)) fields
    | some _ => fields

/-- The fields that the parts of a value make, each from the variable for it. -/
def partsOf (options : Options) (counted : Variables) (name : String) :
    Except Error (List (String × Node)) :=
  match options.nestingMark with
  | none => .ok []
  | some mark =>
    let start := (options.nameKey (options.variableName name) ++ mark.text).toList
    let parts := counted.filter fun entry => start.isPrefixOf entry.1.toList
    if parts.isEmpty then .ok []
    else
      match mark.splits, mark.wrongKind with
      | .error misuse, _ => .error (.misused misuse)
      | .ok _, some kind => Loader.unusable .separating kind
      | .ok splits, none =>
        .ok (parts.foldl (fun fields (name, value) =>
          let path := splitAt mark.text.toList name.length splits (name.toList.drop start.length)
          let isNull := value.isSome && value == options.nullText
          let value := if isNull then .null else (value.map Node.string).getD .null
          putPart value isNull (path.map String.ofList) fields) [])

end Options

end ScanAccess.Loader
