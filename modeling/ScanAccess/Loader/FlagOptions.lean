import ScanAccess.Loader.Flag
import ScanAccess.Loader.Check

/-! # Options for flags

How flags are formed is said by options. Some must be of a certain kind, and those that
are not are listed as problems. Others are only noticed where they are needed: the
marks first, then the opening of names, the flags for help, and at last the flags of
the settings, one after the other.
-/

namespace ScanAccess.Loader

open ScanAccess.Settings

/-- Fails if marks are of a kind that cannot be doubled. -/
def checkDoubling (marks : Node) : Except Error Unit :=
  match marks with
  | .object _ | .null => unusable .repeating (kindName marks)
  | _ => .ok ()

/-- Whether a text is a word that names something: word characters, of which the first is
no digit. -/
def isIdentifier (text : List Char) : Bool :=
  match text with
  | [] => false
  | c :: rest => !Text.isDecimalDigit c && (c :: rest).all Text.isWord

/-- The opening of names that a value gives: words with points between them. A point
follows it. What is not switched on gives none, unless it is a number. -/
def flagOpening (value : Node) : Except Error String :=
  match value with
  | .string text =>
    let cs := text.toList
    if text.isEmpty then .ok ""
    else if cs.head? == some '.' || cs.getLast? == some '.'
        || !isIdentifier (cs.filter (· != '.')) then
      .error (.obstructed (.flagOpening text))
    else .ok (text ++ ".")
  | value =>
    if isOn value then .error (.misused (.lacking (kindName value) "startswith"))
    else if isZero value then unusable .measuring (kindName value)
    else .ok ""

/-- The marks of flags that a value gives. There has to be one, in a text. -/
def flagMarks (value : Node) : Except Error String :=
  match value with
  | .string marks =>
    if marks.isEmpty then .error (.misused (.missingMark "string")) else .ok marks
  | .array [] => .error (.misused (.missingMark "list"))
  | .array items =>
    let help := String.ofList (Node.spelling (.array (items.take 1))) ++ "h"
    .error (.obstructed (.flagMark help (String.ofList (Node.spelling value))))
  | value => unusable .searching (kindName value)

/-- Fails if the name of the flags for help is made of marks. -/
def checkHelpName (marks : String) : Except Error Unit :=
  let long := String.ofList ((marks.toList ++ marks.toList).take 2 ++ "help".toList)
  if marks.contains 'h' then .error (.obstructed (.namelessFlag long)) else .ok ()

/-- The words that say which names have dashes. -/
def dashWords : List String := ["all", "no_enums"]

/-- The problems of an option that has to be a truth value, under the name of what it says. -/
def truthProblems (place : List Step) (value : Option Node) : List Problem :=
  (value.map fun value => problemsOf place (truth value)).getD []

/-- Reads a text that has to be one of some words. -/
def readChoice (words : List String) (text : String) : Except Reason String :=
  if Text.hasHalf text then .error .illFormed
  else if words.contains text then .ok text
  else .error (.noChoice words)

/-- The problems of an option that has to be one of some words or a truth value. -/
def wordProblems (place : List Step) (words : List String) (value : Node) : List Problem :=
  let choices := String.intercalate "," (words.map Text.quotedRaw)
  let choice := match value with
    | .string word => readChoice words word
    | _ => .error (.noChoice words)
  match truth value, choice with
  | .error first, .error second =>
    [⟨place ++ [.name "bool"], first⟩,
     ⟨place ++ [.name ("literal[" ++ choices ++ "]")], second⟩]
  | _, _ => []

/-- Lists the problems of options that must be of a certain kind. -/
def checkKinds (fields : OptionFields) : Except Error Unit :=
  let truths (option name : String) :=
    truthProblems [.name name] (fields.value? option)
  let opening := match fields.value? "_cli_prefix" with
    | none | some (.string _) => []
    | some _ => [⟨[.name "arg_prefix"], .notAString⟩]
  let dashes := match fields.value? "_cli_kebab_case" with
    | some value => wordProblems [.name "kebab_case"] dashWords value
    | none => []
  match opening ++ truths "_case_sensitive" "case_sensitive"
    ++ truths "_cli_hide_none_type" "hide_none_type" ++ dashes with
  | [] => .ok ()
  | problems => .error (.invalid problems)

/-- Fails if the names of variables should be shown and begin with what is no text, unless
their letter case matters. -/
def checkShownNames (fields : OptionFields) : Except Error Unit :=
  match fields.value? "_env_prefix" with
  | none | some (.string _) => .ok ()
  | some value =>
    if fields.isOn "_cli_show_env_vars" && !fields.isOn "_case_sensitive" then
      .error (.misused (.lacking (kindName value) "lower"))
    else .ok ()

/-- The shortcuts that a value gives: an object with a name or a list of names for each
target. -/
def flagShortcuts (value : Node) : Except Misuse (List (String × Node)) :=
  match value with
  | .object fields => .ok fields
  | value => if isOn value then .error (.lacking (kindName value) "items") else .ok []

/-- The text for null: the one of all sources if there is one, the one for arguments, or the
usual one, which is another if JSON is avoided. -/
def nullTextOf (fields : OptionFields) : Node :=
  let given (name : String) := (fields.value? name).filter isOn
  let usual := match fields.value? "_cli_avoid_json" with
    | some (.bool true) => "None"
    | _ => "null"
  ((given "_env_parse_none_str").orElse fun _ => given "_cli_parse_none_str").getD
    (.string usual)

/-- The text for null where null is mentioned. There it has to be a text, and elsewhere
nothing is taken for null if it is none. -/
def mentionedNullText (fields : OptionFields) : Except Misuse (Option String) :=
  match nullTextOf fields with
  | .string text => .ok (some text)
  | value =>
    if fields.isOn "_cli_hide_none_type" then .ok none else .error (.joining 1 (kindName value))

namespace FlagStyle

/-- How flags are formed by the options that the fields of an object give. -/
def ofFields (fields : OptionFields) : Except Error FlagStyle := do
  let given (name : String) := (fields.value? name).getD .null
  let marks := (fields.value? "_cli_flag_prefix_char").getD (.string "-")
  checkDoubling marks
  let opening ← flagOpening (given "_cli_prefix")
  let marks ← flagMarks marks
  checkHelpName marks
  checkKinds fields
  checkShownNames fields
  let exactNames := (truth (given "_case_sensitive")).toOption.getD false
  let dashed := (fields.value? "_cli_kebab_case").any fun value => !isZero value
  return {
    marks, opening, exactNames, dashed
    shortcuts := flagShortcuts (given "_cli_shortcuts")
    nullText := mentionedNullText fields }

end FlagStyle

end ScanAccess.Loader
