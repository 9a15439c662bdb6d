import ScanAccess.Dictionary

/-! # The environment

The variables that a process is given, each name once, in their order.
-/

namespace ScanAccess

/-- Names of variables with their values. -/
abbrev Environment := List (String × String)

namespace Environment

/-- The value of a variable; letter case matters. -/
def value? (env : Environment) (name : String) : Option String :=
  Dictionary.get? env name

/-- Whether a variable has a value that is not empty. -/
def isSet (env : Environment) (name : String) : Bool :=
  match env.value? name with
  | some value => !value.isEmpty
  | none => false

end Environment

end ScanAccess
