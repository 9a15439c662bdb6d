import ScanAccess.Loader.Misuse
import ScanAccess.Loader.Node
import ScanAccess.Settings.Refusal
import ScanAccess.Text.Half

/-! # Problems with settings

Settings are refused for one of four causes. Something may stand in the way of the
search for values, an option may be misused, or arguments may ask to end the
program, and then nothing else is looked at. Or some values are not what their
settings allow: then every such value is listed, with the place where it stands.
-/

namespace ScanAccess.Loader

open ScanAccess.Settings

/-- Where values of settings are read from. -/
inductive Source where
  | arguments
  | initial
  | environment
  | file
  | secrets
  | defaults
  deriving DecidableEq, Repr

/-- The name under which a source is reported. -/
def Source.label : Source → String
  | arguments => "CliSettingsSource"
  | initial => "InitSettingsSource"
  | environment => "EnvSettingsSource"
  | file => "DotEnvSettingsSource"
  | secrets => "SecretsSettingsSource"
  | defaults => "DefaultSettingsSource"

/-- What is wrong with arguments: a flag without its value, a flag with a value that it
does not take, or arguments that mean nothing. -/
inductive ArgumentProblem where
  | missingValue (label : String)
  | ignoredValue (label value : String)
  | unknown (arguments : List String)
  deriving DecidableEq, Repr

/-- What is reported about arguments. -/
def ArgumentProblem.message : ArgumentProblem → String
  | missingValue label => "argument " ++ label ++ ": expected one argument"
  | ignoredValue label value =>
    "argument " ++ label ++ ": ignored explicit argument " ++ Text.quotedRaw value
  | unknown arguments => "unrecognized arguments: " ++ String.intercalate " " arguments

/-- What is wrong with the items of a list: a bracket that is not closed, or a quote. -/
inductive ListProblem where
  | openBracket (closing : Char)
  | openQuote
  deriving DecidableEq, Repr

/-- What is reported about the items of a list. -/
def ListProblem.message : ListProblem → String
  | openBracket closing => "Missing end delimiter \"" ++ String.singleton closing ++ "\""
  | openQuote => "Mismatched quotes"

/-- What stands in the way of the search for values: a value that should be JSON and is
not, a name that cannot be formed, a file that is no text in its encoding, an
encoding whose name has a null character or half of one, secrets in a place that is a
file, a depth that is no number of directories, arguments that are no list or that
cannot be understood, flags that cannot be formed, or sources that are not given as a
pair. -/
inductive Obstacle where
  | unreadable (field : String) (source : Source)
  | nameless (field : String) (source : Source)
  | undecodable (report : String)
  | nullCharacter
  | halfCharacter (name : String)
  | secretsInFile
  | endlessDepth
  | noArguments (kind : String)
  | arguments (problem : ArgumentProblem)
  | argumentList (name : String) (problem : ListProblem)
  | flagOpening (text : String)
  | flagMark (flag marks : String)
  | namelessFlag (flag : String)
  | tooFewSources (count : Nat)
  | tooManySources
  deriving DecidableEq, Repr

/-- What is reported about an obstacle. -/
def Obstacle.message : Obstacle → String
  | unreadable field source =>
    "error parsing value for field \"" ++ field ++ "\" from source \"" ++ source.label ++ "\""
  | nameless field source =>
    "error getting value for field \"" ++ field ++ "\" from source \"" ++ source.label ++ "\""
  | undecodable report => report
  | nullCharacter => "embedded null character"
  | halfCharacter name => (Text.halfReport? name).getD ""
  | secretsInFile => "secrets_dir must reference a directory, not a file"
  | endlessDepth =>
    "Stop argument for islice() must be None or an integer: 0 <= x <= sys.maxsize."
  | noArguments kind =>
    "cli_parse_args must be a list or tuple of strings, received <class '" ++ kind ++ "'>"
  | arguments problem => "error parsing CLI: " ++ problem.message
  | argumentList name problem =>
    "Parsing error encountered for " ++ name ++ ": " ++ problem.message
  | flagOpening text => "CLI settings source prefix is invalid: " ++ text
  | flagMark flag marks =>
    "invalid option string " ++ Text.quotedRaw flag ++ ": must start with a character " ++ marks
  | namelessFlag flag => "dest= is required for options like " ++ Text.quotedRaw flag
  | tooFewSources count =>
    "not enough values to unpack (expected 2, got " ++ String.ofList (Text.decimal count) ++ ")"
  | tooManySources => "too many values to unpack (expected 2)"

/-- What is wrong with a value. -/
inductive Reason where
  | notAnInteger
  | integerText
  | integerSize
  | notFinite
  | fractional
  | below (bound : Int)
  | above (bound : Int)
  | notPositive
  | notAList
  | notAString
  | illFormed
  | notAnObject
  | notATruth
  | truthText
  | noChoice (choices : List String)
  | obstructed (obstacle : Obstacle)
  deriving DecidableEq, Repr

namespace Reason

/-- The code of a reason. -/
def code : Reason → String
  | notAnInteger => "int_type"
  | integerText => "int_parsing"
  | integerSize => "int_parsing_size"
  | notFinite => "finite_number"
  | fractional => "int_from_float"
  | below _ => "greater_than_equal"
  | above _ => "less_than_equal"
  | notPositive => "greater_than"
  | notAList => "tuple_type"
  | notAString => "string_type"
  | illFormed => "string_unicode"
  | notAnObject => "model_type"
  | notATruth => "bool_type"
  | truthText => "bool_parsing"
  | noChoice _ => "literal_error"
  | obstructed _ => "value_error"

/-- The text of a reason. -/
def message : Reason → String
  | notAnInteger => "Input should be a valid integer"
  | integerText => "Input should be a valid integer, unable to parse string as an integer"
  | integerSize => "Unable to parse input string as an integer, exceeded maximum size"
  | notFinite => "Input should be a finite number"
  | fractional => "Input should be a valid integer, got a number with a fractional part"
  | below bound =>
    "Input should be greater than or equal to " ++ String.ofList (Text.signedDecimal bound)
  | above bound =>
    "Input should be less than or equal to " ++ String.ofList (Text.signedDecimal bound)
  | notPositive => "Input should be greater than 0"
  | notAList => "Input should be a valid tuple"
  | notAString => "Input should be a valid string"
  | illFormed => "Input should be a valid string, unable to parse raw data as a unicode string"
  | notAnObject => "Input should be a valid dictionary or instance of TokenSettings"
  | notATruth => "Input should be a valid boolean"
  | truthText => "Input should be a valid boolean, unable to interpret input"
  | noChoice choices =>
    "Input should be " ++ String.intercalate " or " (choices.map Text.quotedRaw)
  | obstructed obstacle => "Value error, " ++ obstacle.message

end Reason

/-- A value that its setting does not allow. -/
structure Problem where
  place : List Step
  reason : Reason
  deriving DecidableEq, Repr

/-- Why settings are refused. A report that holds halves of characters cannot be given. -/
inductive Error where
  | obstructed (obstacle : Obstacle)
  | unwritable (report : String)
  | tooDeep (container : Json.Container)
  | misused (misuse : Misuse)
  | ended (status : Nat)
  | invalid (problems : List Problem)
  deriving DecidableEq, Repr

namespace Error

/-- The name of a kind of container. -/
def containerName : Json.Container → String
  | .array => "array"
  | .object => "object"

/-- The kind under which refused settings are reported. -/
def kind : Error → Fault.Kind
  | obstructed _ => .definedIn "pydantic_settings.exceptions" "SettingsError" [.value]
  | unwritable _ => .textEncoding
  | tooDeep _ => .recursion
  | misused misuse => misuse.kind
  | ended _ => .exit
  | invalid _ => .definedIn "pydantic_core._pydantic_core" "ValidationError" [.value]

/-- What is reported about refused settings; a list of problems has no text of its own. -/
def message : Error → Option String
  | obstructed obstacle => obstacle.message
  | unwritable report => Text.halfReport? report
  | tooDeep container =>
    "maximum recursion depth exceeded while decoding a JSON " ++ containerName container
      ++ " from a unicode string"
  | misused misuse => misuse.message
  | ended status => String.ofList (Text.decimal status)
  | invalid _ => none

/-- The problems that are listed. -/
def problems : Error → List Problem
  | invalid problems => problems
  | _ => []

/-- The error that is reported, in which halves of characters stand for themselves. -/
def report (error : Error) : LoadError :=
  { kind := error.kind
    text := error.message.map Text.restored
    refusals := error.problems.map fun problem =>
      { place := problem.place, code := problem.reason.code, text := problem.reason.message } }

end Error

/-- A value that cannot be used so, as an error. -/
def unusable {α : Type} (use : Use) (kind : String) : Except Error α :=
  .error (.misused (.unusable use kind))

end ScanAccess.Loader
