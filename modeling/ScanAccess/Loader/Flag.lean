import ScanAccess.Loader.Node
import ScanAccess.Loader.OptionValue
import ScanAccess.Loader.Problem
import ScanAccess.Settings.TokenSettings
import ScanAccess.Text.DecimalDigit
import ScanAccess.Text.LowerCase
import ScanAccess.Text.WordCharacter

/-! # Flags

Arguments give settings after flags. A flag is a name with marks in front: one mark
before a name of one letter, and all of them twice before any other. A setting has a
flag of its own name and may have more, and two flags ask for help.
-/

namespace ScanAccess.Loader

open ScanAccess.Settings

/-- A flag with all its spellings. It gives a setting, or else asks for help. -/
structure Flag where
  spellings : List String
  setting : Option Field
  deriving DecidableEq, Repr

/-- The name of a flag in reports. -/
def Flag.label (flag : Flag) : String :=
  String.intercalate "/" flag.spellings

/-- How flags are formed. They begin with characters of `marks`, then comes `opening`. The
letter case of names matters if they are `exactNames`, their parts are separated by
dashes if they are `dashed`, and `shortcuts` are other names for them. What is said
about a setting that may be null needs the text for null. -/
structure FlagStyle where
  marks : String := "-"
  opening : String := ""
  exactNames : Bool := false
  dashed : Bool := false
  shortcuts : Except Misuse (List (String × Node)) := .ok []
  nullText : Except Misuse (Option String) := .ok (some "null")

namespace FlagStyle

/-- The marks, twice. -/
def doubled (style : FlagStyle) : List Char :=
  style.marks.toList ++ style.marks.toList

/-- The flag for a name. -/
def spell (style : FlagStyle) (name : String) : String :=
  let marks := if name.length = 1 then style.doubled.take 1 else style.doubled
  String.ofList (marks ++ name.toList)

/-- The name of a setting as arguments give it. -/
def settingName (style : FlagStyle) (field : Field) : String :=
  if style.exactNames then field.variable else Text.lower field.variable

/-- The name from which the flag of a setting is formed. -/
def flagName (style : FlagStyle) (field : Field) : String :=
  let name := style.opening ++ style.settingName field
  if style.dashed then name.map fun c => if c = '_' then '-' else c else name

/-- The names that a shortcut gives: one for a text, or those of a list. -/
def shortcutNames (value : Node) : Except Error (List String) :=
  match value with
  | .string name => .ok [name]
  | value =>
    match listItems? value with
    | none => unusable .iterating (kindName value)
    | some items => items.mapM fun item =>
      match item with
      | .string name => .ok name
      | item => unusable .measuring (kindName item)

/-- The names in a list with the shortcuts to them, of those that are not `taken`. A
shortcut may lead to one that stands before it. -/
def withShortcuts (taken : List String) :
    List (String × Node) → List String → Except Error (List String)
  | [], names => .ok names
  | (target, value) :: rest, names =>
    if names.contains target then do
      let added := (← shortcutNames value).filter fun name => !taken.contains name
      withShortcuts taken rest (names ++ added)
    else withShortcuts taken rest names

/-- The flags that ask for help. Neither has more than two marks. -/
def helpFlag (style : FlagStyle) : Flag :=
  let short := String.ofList (style.doubled.take 1 ++ ['h'])
  let long := String.ofList (style.doubled.take 2 ++ "help".toList)
  { spellings := [short, long], setting := none }

/-- Adds the flags of settings to those that are there. The maximal age may be null. Names
that were taken by a setting before are passed over, and so is a setting whose name was
taken. -/
def addFlags (style : FlagStyle) : List Field → List String → List Flag → Except Error (List Flag)
  | [], _, flags => .ok flags
  | field :: rest, taken, flags => do
    if field = .maxAgeSeconds then let _ ← style.nullText.mapError Error.misused
    let shortcuts ← style.shortcuts.mapError Error.misused
    let own := [style.flagName field].filter fun name => !taken.contains name
    let names ← withShortcuts taken shortcuts own
    if names.isEmpty || taken.contains (style.settingName field) then
      addFlags style rest taken flags
    else
      let flag : Flag := { spellings := names.map style.spell, setting := some field }
      let used := flag.spellings.filter fun text =>
        flags.any fun other => other.spellings.contains text
      if used.isEmpty then addFlags style rest (taken ++ names) (flags ++ [flag])
      else .error (.misused (.takenFlags flag.label used))

/-- All flags. -/
def flags (style : FlagStyle) : Except Error (List Flag) :=
  addFlags style Field.all [] [style.helpFlag]

end FlagStyle

end ScanAccess.Loader
