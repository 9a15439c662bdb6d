import ScanAccess.Json.Reader
import ScanAccess.Log.Record
import ScanAccess.Log.Spelling
import ScanAccess.Settings.Template
import ScanAccess.Settings.TokenSettings
import ScanAccess.Text.LowerCase

/-! # The library of settings

The classes of settings are declared here and made instances of by a library, which is not part of
this one. So it is a parameter: what a settings file assigns, what values are converted to and which
of them are accepted, and the two constructors. What is known of it is what it documents. An
instance is made from what the environment and the settings file give for its fields, in this
order; a field is looked up by its name without regard to letter case; the text that is found for a
collection is JSON; and a field that nothing is given for has its default value.
-/

namespace ScanAccess.Settings

/-- An instance or why there is none, and what the library logged on the way. -/
structure Built (α : Type) where
  result : Except LoadError α
  events : List Log.Event := []

/-- Where the texts of settings are looked for. -/
inductive Origin where
  | environment
  | file
  deriving DecidableEq, Repr

/-- What is given for a setting: a text, or the JSON that it is if the setting is a collection. -/
inductive GivenValue where
  | text (text : String)
  | json (value : Json)

/-- What a given value is converted to: a value of its setting, which may be none, or nothing that
the setting can be. -/
inductive Conversion where
  | value (value : Option FieldValue)
  | refused
  deriving DecidableEq, Repr

/-- A library of settings. Instances are made some calls deep, in an environment and with the text
of the settings file, if there is one. `nesting` says how many containers may stand inside one
another in a JSON text that is read so many calls deep, and `factoryCalls` by how many calls the
making of an instance for a field lies deeper. -/
structure Library where
  assignments : String → List Assignment
  nesting : Origin → Nat → Nat
  unreadable : Origin → Field → LoadError
  convert : Field → GivenValue → Conversion
  validate : (Field → Option GivenValue) → Except LoadError TokenSettings
  buildTokens : Nat → Environment → Option String → Built TokenSettings
  buildAll : Nat → Environment → Option String → Built AllSettings
  factoryCalls : Nat
  spelling : AllSettings → String

/-! ## Sources -/

/-- The variables of an environment. -/
def variablesOf (env : Environment) : Variables :=
  env.map fun (name, value) => (name, some value)

/-- The text of the last variable with a name. Letter case does not matter. -/
def textOf? (vars : Variables) (name : String) : Option String :=
  ((vars.filter fun entry => Text.lower entry.1 == Text.lower name).getLast?).bind Prod.snd

/-- The error of a JSON text in which a container lies too deep. -/
def tooDeep (container : Json.Container) : LoadError :=
  let name := match container with
    | .array => "array"
    | .object => "object"
  { kind := .recursion
    text := some ("maximum recursion depth exceeded while decoding a JSON " ++ name
      ++ " from a unicode string" : String) }

namespace Library

/-- The variables that the settings file sets, if there is one. -/
def fileVariables (library : Library) (env : Environment) (file : Option String) : Variables :=
  match file with
  | some text => expand env (library.assignments text)
  | none => []

/-- What a text gives for a setting. The text for a collection is read as JSON, of which null gives
nothing; any other text is given as it is. -/
def givenBy (library : Library) (calls : Nat) (origin : Origin) (field : Field) (text : String) :
    Except LoadError (Option GivenValue) :=
  if field.isCollection then
    match Json.read (library.nesting origin calls) text with
    | .ok .null => .ok none
    | .ok value => .ok (some (.json value))
    | .error .malformed => .error (library.unreadable origin field)
    | .error (.tooDeep container) => .error (tooDeep container)
  else .ok (some (.text text))

/-- What variables give for a setting: nothing if none has its name. -/
def found (library : Library) (calls : Nat) (origin : Origin) (vars : Variables) (field : Field) :
    Except LoadError (Option GivenValue) :=
  match textOf? vars field.variable with
  | some text => library.givenBy calls origin field text
  | none => .ok none

/-- What variables give for some settings, which are looked for in their order. -/
def gather (library : Library) (calls : Nat) (origin : Origin) (vars : Variables) :
    List Field → Except LoadError (Field → Option GivenValue)
  | [] => .ok fun _ => none
  | field :: rest => do
    let value ← library.found calls origin vars field
    let others ← library.gather calls origin vars rest
    return fun other => if other = field then value else others other

/-- The instance that two sources make, of which the environment counts before the file. -/
def fromSources (library : Library) (calls : Nat) (env file : Variables) :
    Except LoadError TokenSettings := do
  let inEnvironment ← library.gather calls .environment env Field.all
  let inFile ← library.gather calls .file file Field.all
  library.validate fun field => (inEnvironment field).or (inFile field)

end Library

/-! ## Spellings -/

/-- The settings for tokens as an expression. -/
def spellTokens (settings : TokenSettings) : List Char :=
  let age := match settings.maxAgeSeconds with
    | none => "None".toList
    | some seconds => Text.signedDecimal seconds
  "TokenSettings(token_bytes=".toList ++ Text.signedDecimal settings.tokenBytes
    ++ ", token_max_age_seconds=".toList ++ age
    ++ ", registered_repositories=".toList
    ++ Log.Shape.tuple.spell (settings.repositories.map fun url => Text.quote url) ++ [')']

/-- All settings as an expression. -/
def spellAll (settings : AllSettings) : String :=
  String.ofList ("Settings(token=".toList ++ spellTokens settings.token ++ [')'])

/-! ## What is documented -/

/-- Each number is within the bounds that its setting is declared with. -/
def WithinBounds (settings : TokenSettings) : Prop :=
  ∀ field n, valueOf settings field = some (.number n) →
    ∀ bound ∈ field.bounds, bound.holds n = true

/-- A library does what it documents.

An instance for tokens comes from its two sources. An accepted setting is what the value is
converted to that was given for it, or its default value, and it is within its bounds, also in an
instance inside of another one. A field of all settings that no variable is called like is made by
its class, some calls deeper, and what goes wrong there goes wrong for the whole. More calls leave
no more room to read JSON. Instances are spelled like calls that would make them. -/
structure Library.Documented (library : Library) : Prop where
  sources : ∀ {calls env file}, (library.buildTokens calls env file).result =
    library.fromSources calls (variablesOf env) (library.fileVariables env file)
  values : ∀ {given settings}, library.validate given = .ok settings → ∀ field,
    match given field with
    | some value => library.convert field value = .value (valueOf settings field)
    | none => valueOf settings field = valueOf {} field
  bounds : ∀ {calls env file settings},
    (library.buildAll calls env file).result = .ok settings → WithinBounds settings.token
  factory : ∀ {calls env file}, textOf? (variablesOf env) tokenField = none →
    (library.buildAll calls env file).result =
      (library.buildTokens (calls + library.factoryCalls) env file).result.map AllSettings.mk
  nesting_le : ∀ {origin calls more},
    library.nesting origin (calls + more) ≤ library.nesting origin calls
  spelling : ∀ settings, library.spelling settings = spellAll settings

end ScanAccess.Settings
