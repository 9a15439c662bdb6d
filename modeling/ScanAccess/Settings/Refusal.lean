import ScanAccess.Fault

/-! # Refused settings

Settings are refused with an error: it has a kind, most have a text, and one that is about values
lists what is wrong with each of them.
-/

namespace ScanAccess.Settings

/-- One step on the way to a value: a name or a position. -/
inductive Step where
  | name (text : String)
  | position (index : Nat)
  deriving DecidableEq, Repr

/-- What is wrong with a value: where the value stands, and the code and the text of the reason. -/
structure Refusal where
  place : List Step
  code : String
  text : String
  deriving DecidableEq, Repr

/-- Why settings are refused. An error about values has no text of its own. -/
structure LoadError where
  kind : Fault.Kind
  text : Option RawText := none
  refusals : List Refusal := []
  deriving DecidableEq, Repr

end ScanAccess.Settings
