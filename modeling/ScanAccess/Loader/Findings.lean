import ScanAccess.Json.Reader
import ScanAccess.Loader.Options

/-! # What sources give

Values of settings are found in arguments, in a JSON object, in the environment and
in a settings file. What one source gives is a dictionary: the values of settings
under the names of the settings, and perhaps values that no setting uses.
-/

namespace ScanAccess.Loader

open ScanAccess.Settings

/-- The values that a source gives, by their names. -/
abbrev Findings : Type := List (String × Node)

namespace Findings

/-- The settings that have a value, in their order. -/
def ofGiven (given : Given) : Findings :=
  Field.all.filterMap fun field => (given field).map fun value => (field.variable, value)

/-- Takes the value of each setting from the first of some sources that has one. -/
def given (sources : List Findings) : Given :=
  fun field => sources.findSome? fun found => Dictionary.get? found field.variable

end Findings

/-- How many containers of JSON may stand inside one another in a source. Any source but the
environment takes one off. -/
def maxNesting (options : Options) (source : Source) : Nat :=
  options.room - (if source = .environment then 0 else 1)

/-- The JSON of a text. Null counts as no value. -/
def jsonValue (options : Options) (field : String) (source : Source) (text : String) :
    Except Error (Option Node) :=
  match (Json.read (maxNesting options source) text).map Node.ofJson with
  | .error .malformed => .error (.obstructed (.unreadable field source))
  | .error (.tooDeep container) => .error (.tooDeep container)
  | .ok .null => .ok none
  | .ok value => .ok (some value)

/-- The value of the list of repositories, of which a text has to be JSON. -/
def repositoriesValue (options : Options) (source : Source) (value : Option Node) :
    Except Error (Option Node) :=
  match value with
  | some (.string text) => jsonValue options Field.repositories.label source text
  | value => .ok value

/-- What arguments give. -/
def fromArguments (options : Options) (arguments : Given) : Except Error Findings := do
  let repositories ← repositoriesValue options .arguments (arguments .repositories)
  return Findings.ofGiven fun field =>
    if field = .repositories then repositories else arguments field

/-- The fields of a JSON object, in which a setting may be named without regard to letter
case, with the names of settings in their own spelling. -/
def renamed (fields : List (String × Node)) : Findings :=
  Dictionary.ofList (fields.map fun (name, value) =>
    let own := Field.all.find? fun field => Text.lower field.variable == Text.lower name
    ((own.map Field.variable).getD name, value))

/-- What the fields of an object give: settings first, and nothing that is an option. -/
def fromFields (fields : Findings) : Findings :=
  let settings := Findings.ofGiven fun field => Dictionary.get? fields field.variable
  let others := fields.filter fun (name, _) =>
    !optionNames.contains name && !Field.all.any fun field => field.variable == name
  settings ++ others

/-- Adds fields to an object, as they are or to an object that is there. -/
def addFields : List (String × Node) → List (String × Node) → List (String × Node)
  | fields, [] => fields
  | fields, (name, value) :: rest =>
    let value := match Dictionary.get? fields name, value with
      | some (.object inner), .object added => .object (addFields inner added)
      | _, value => value
    addFields (Dictionary.put name value fields) rest

/-- The list of repositories given by variables: the JSON of its own variable, or what
the variables for its parts make. Parts are added to an object. -/
def repositoriesBy (options : Options) (source : Source) (counted : Variables) :
    Except Error (Option Node) := do
  let name := Field.repositories.variable
  let own := options.valueOf? counted name
  match own, ← repositoriesValue options source own with
  | some _, some (.object fields) =>
    return some (.object (addFields fields (← options.partsOf counted name)))
  | some _, value => return value
  | none, _ =>
    let parts ← options.partsOf counted name
    return if parts.isEmpty then none else some (.object parts)

/-- What variables that count give. If no names can be formed, the first setting is reported. -/
def fromVariables (options : Options) (source : Source) (counted : Variables) :
    Except Error Findings := do
  if options.opening.isNone then .error (.obstructed (.nameless Field.tokenBytes.label source))
  let repositories ← repositoriesBy options source counted
  return Findings.ofGiven fun field =>
    if field = .repositories then repositories else options.valueOf? counted field.variable

/-- What the environment gives. -/
def fromEnvironment (options : Options) (env : Environment) : Except Error Findings :=
  fromVariables options .environment
    (options.counted (env.map fun (name, value) => (name, some value)))

/-- Whether a variable has the name of a setting, or of a part of the list of repositories. -/
def isUsed (options : Options) (name : String) : Bool :=
  Field.all.any fun field =>
    let own := options.nameKey (options.variableName field.variable)
    name == own || (field == .repositories && options.nestingMark.any fun mark =>
      (own ++ mark.text).toList.isPrefixOf name.toList)

/-- Adds what is left over in a settings file, which is what no setting uses. A value that is
left over stands under its name with the given opening cut off, or under its whole name
if that begins otherwise; a name that has a value keeps it. Where there is an opening,
the names of settings in reports are passed over. -/
def addLeftOver (options : Options) : Variables → Findings → Except Error Findings
  | [], found => .ok found
  | (name, value) :: rest, found =>
    match value with
    | none | some "" => addLeftOver options rest found
    | some text =>
      let isLabel := Field.all.any fun field => field.label == name
      if (Dictionary.get? found name).isSome || isUsed options name
          || (options.isOpened && isLabel) then
        addLeftOver options rest found
      else
        match options.givenOpening with
        | .error kind => unusable .beginning kind
        | .ok opening =>
          let opening := (options.nameKey opening).toList
          let plain :=
            if opening.isPrefixOf name.toList then
              String.ofList (name.toList.drop opening.length)
            else name
          addLeftOver options rest (Dictionary.put plain (.string text) found)

/-- What a settings file gives. The given opening has to be a text, unless letter case
matters. -/
def fromFile (options : Options) (bindings : Variables) : Except Error Findings := do
  let counted := options.counted bindings
  let found ← fromVariables options .file counted
  match options.givenOpening with
  | .error kind => if options.exactNames then pure () else .error (.misused (.lacking kind "lower"))
  | .ok _ => pure ()
  addLeftOver options counted found

end ScanAccess.Loader
