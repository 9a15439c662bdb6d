import ScanAccess.Loader.FileReading
import ScanAccess.Loader.Findings
import ScanAccess.Settings.Library

/-! # Loading settings

Values are looked for in up to four places: in arguments, in the JSON object of the
variable `TOKEN`, in the environment, and in a settings file. The first place that
has a value counts, but all of them have to be readable. Letter case in names does
not matter, and of two names that differ in nothing else the last counts. The
object may hold options that give the arguments and change how the environment and
the file are searched. Where that is asked for, what each place gives is logged.

This is one library of settings, which is there so that programs can run.
-/

namespace ScanAccess.Loader

open ScanAccess.Settings

/-- What each source gives, in the order in which they count. -/
abbrev Sources : Type := List (Source × Findings)

/-- What loading comes to, what was noticed while files were read, and what the sources
give, if all of them could be read. -/
structure Loaded where
  result : Except Error TokenSettings
  notices : List Notice := []
  sources : Option Sources := none

/-- What all sources give. Options that cannot be used are noticed in the order in which
they are needed. -/
def readSources (options : Options) (initial : Findings) (env : Environment) (hasFile : Bool)
    (read : FilesRead) : Except Error Sources := do
  if let some error := read.error then .error error
  let arguments ← match ← options.arguments with
    | some arguments => pure [(Source.arguments, ← fromArguments options arguments)]
    | none => pure []
  let environment ← fromEnvironment options env
  let file ← fromFile options read.bindings
  let secretsInFile ← options.secretsInFile.mapError Error.misused
  if hasFile && secretsInFile then .error (.obstructed .secretsInFile)
  return arguments ++ [(.initial, initial), (.environment, environment), (.file, file),
    (.secrets, []), (.defaults, [])]

/-- The settings for tokens that sources give. -/
def checkSources (sources : Sources) : Except Error TokenSettings :=
  (check (Findings.given (sources.map Prod.snd))).mapError Error.invalid

/-- Loads the settings for tokens, with the values in `initial` before those of the
environment and the file. -/
def loadTokenSettings (options : Options) (initial : Findings) (env : Environment)
    (file : Option String) : Loaded :=
  match options.unusable with
  | some misuse => { result := .error (.misused misuse) }
  | none =>
    let read := readFiles options env file options.steps
    match readSources options initial env file.isSome read with
    | .error error => { result := .error error, notices := read.notices }
    | .ok sources =>
      { result := checkSources sources, notices := read.notices, sources := some sources }

/-- The settings for tokens from the environment and the file alone. -/
def tokenSettings (room : Nat) (env : Environment) (file : Option String) : Loaded :=
  loadTokenSettings { room } [] env file

/-- The settings that are loaded if a value is given in place of the sources: a pair, of
which the first part has to be empty, since no source can be given so. -/
def withoutSources (value : Node) : Except Error TokenSettings :=
  match items? value with
  | none => unusable .unpacking (kindName value)
  | some [first, _] =>
    if !isOn first then .ok {}
    else
      match items? first with
      | some (source :: _) => unusable .calling (kindName source)
      | _ => unusable .iterating (kindName first)
  | some items =>
    if items.length < 2 then .error (.obstructed (.tooFewSources items.length))
    else .error (.obstructed .tooManySources)

/-- The same error inside the object of settings: problems are placed there, and so is what
stands in the way of the search, if that can be written. -/
def insideToken : Error → Error
  | .obstructed obstacle =>
    if Text.hasHalf obstacle.message then .unwritable obstacle.message
    else .invalid [⟨[.name tokenField], .obstructed obstacle⟩]
  | .invalid problems =>
    .invalid (problems.map fun problem =>
      { problem with place := .name tokenField :: problem.place })
  | error => error

/-- How many containers may stand inside one another in a JSON text that an instance for tokens
reads in the environment, and by how many calls the reading of an object of settings lies deeper,
and that of the settings inside of it. -/
structure Limits where
  containers : Nat
  objectCalls : Nat
  factoryCalls : Nat

/-- The value of the object of settings, if the environment has one. The names of settings
are in their own spelling. -/
def tokenValue (room : Nat) (env : Environment) : Except Error (Option Node) := do
  let options : Options := { room }
  let counted := options.counted (env.map fun (name, value) => (name, some value))
  match (Dictionary.get? counted tokenField).join with
  | none => return none
  | some text =>
    match ← jsonValue options tokenField .environment text with
    | some (.object fields) => return some (.object (renamed fields))
    | value => return value

/-- The variable with the home directory. -/
def homeVariable : String := "HOME"

/-- The name of a field that must not be there. -/
def reservedName : String := "__pydantic_self__"

/-- Loads the settings for tokens by the fields of the object of settings. -/
def loadByFields (encodings : Encodings) (room : Nat) (env : Environment)
    (file : Option String) (fields : OptionFields) : Loaded :=
  if (Dictionary.get? fields reservedName).isSome then
    { result := .error (.misused (.reservedName reservedName)) }
  else
    match fields.value? "_build_sources" with
    | some sources => { result := withoutSources sources }
    | none =>
      loadTokenSettings (Options.ofFields encodings room (env.value? homeVariable) fields)
        (fromFields fields) env file

/-- Loads the settings for tokens by the object of settings. Without an object there is
nothing but the environment and the file; if there is one, problems are placed inside
it, wherever the values came from. -/
def resolve (encodings : Encodings) (room : Nat) (env : Environment) (file : Option String)
    (value : Option Node) : Loaded :=
  match value with
  | none => tokenSettings room env file
  | some (.object fields) =>
    let loaded := loadByFields encodings room env file fields
    { loaded with result := loaded.result.mapError insideToken }
  | some _ => { result := .error (.invalid [⟨[.name tokenField], .notAnObject⟩]) }

/-- The variable that asks for a log of sources. -/
def sourcesVariable : String := "PYDANTIC_SETTINGS_DEBUG"

/-- The words that ask for a log of sources. -/
def sourcesWords : List String := ["1", "true", "yes", "on"]

/-- Whether a log of sources is asked for. -/
def logsSources (env : Environment) : Bool :=
  (env.value? sourcesVariable).any fun value =>
    let word := String.ofList (Text.trimWhile Text.isBlank value.toList)
    sourcesWords.contains (Text.lower word)

/-- The event of what the sources of some settings give. -/
def sourcesEvent (owner : String) (sources : Sources) : Log.Event :=
  let line (entry : Source × Findings) :=
    "\n  " ++ entry.1.label ++ ": " ++ (Node.object entry.2).shown
  { logger := "pydantic_settings"
    level := Log.Level.debug
    message := "Resolving settings for '" ++ owner
      ++ "' (sources in priority order, highest first):" ++ String.join (sources.map line) }

/-- The sources of all settings: nothing but the environment gives an object of settings. -/
def tokenSources (value : Option Node) : Sources :=
  [(.initial, []), (.environment, (value.map fun value => (tokenField, value)).toList),
   (.file, []), (.secrets, []), (.defaults, [])]

/-- What the sources of some settings give, as an event if a log of sources is asked for. -/
def sourcesEvents (env : Environment) (owner : String) (sources : Option Sources) :
    List Log.Event :=
  if logsSources env then (sources.map (sourcesEvent owner)).toList else []

/-- What was noticed while files were read, and what the sources give, as events. -/
def Loaded.events (env : Environment) (loaded : Loaded) : List Log.Event :=
  loaded.notices.filterMap (Notice.event? (logsSources env))
    ++ sourcesEvents env "TokenSettings" loaded.sources

/-- Makes an instance for tokens so many calls deep. -/
def buildTokens (limits : Limits) (calls : Nat) (env : Environment) (file : Option String) :
    Built TokenSettings :=
  let loaded := tokenSettings (limits.containers - calls) env file
  { result := loaded.result.mapError Error.report, events := loaded.events env }

/-- Makes an instance of all settings so many calls deep. -/
def buildAll (encodings : Encodings) (limits : Limits) (calls : Nat) (env : Environment)
    (file : Option String) : Built AllSettings :=
  match tokenValue (limits.containers - (calls + limits.objectCalls)) env with
  | .error error => { result := .error error.report }
  | .ok value =>
    let loaded :=
      resolve encodings (limits.containers - (calls + limits.factoryCalls)) env file value
    { result := (loaded.result.mapError Error.report).map AllSettings.mk
      events := sourcesEvents env "Settings" (some (tokenSources value)) ++ loaded.events env }

/-- The node of a given value. -/
def nodeOf : GivenValue → Node
  | .text text => .string text
  | .json value => .ofJson value

/-- What the value of a node is converted to. -/
def convert (field : Field) (value : Node) : Conversion :=
  match field with
  | .tokenBytes =>
    match integerBetween 16 256 value with
    | .ok n => .value (some (.number n))
    | .error _ => .refused
  | .maxAgeSeconds =>
    match positiveIfAny value with
    | .ok seconds => .value (seconds.map .number)
    | .error _ => .refused
  | .repositories =>
    match textList [] value with
    | .ok texts => .value (some (.texts (texts.map Text.restored)))
    | .error _ => .refused

/-- The source that an origin is. -/
def sourceOf : Origin → Source
  | .environment => .environment
  | .file => .file

/-- The library of settings with such encodings and limits. -/
def library (encodings : Encodings) (limits : Limits) : Library where
  assignments text := (DotEnv.read text.toList).assignments
  nesting origin calls := maxNesting { room := limits.containers - calls } (sourceOf origin)
  unreadable origin field := (Error.obstructed (.unreadable field.label (sourceOf origin))).report
  convert field value := convert field (nodeOf value)
  validate given :=
    (check fun field => (given field).map nodeOf).mapError fun problems =>
      (Error.invalid problems).report
  buildTokens := buildTokens limits
  buildAll := buildAll encodings limits
  factoryCalls := limits.factoryCalls
  spelling := spellAll

end ScanAccess.Loader
