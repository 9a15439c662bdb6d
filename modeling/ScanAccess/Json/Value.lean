import ScanAccess.Dictionary
import ScanAccess.Number.Binary64
import ScanAccess.Text.RawText

/-! # JSON values

Numbers are either integers or binary64 numbers, and the two stay apart. The fields
of an object stand in the order in which they were put there.
-/

namespace ScanAccess

/-- A JSON value. -/
inductive Json where
  | null
  | bool (value : Bool)
  | int (value : Int)
  | float (value : Binary64)
  | string (value : RawText)
  | array (items : List Json)
  | object (fields : List (RawText × Json))
  deriving Repr

namespace Json

/-- The two kinds of values that hold others. -/
inductive Container where
  | array
  | object
  deriving DecidableEq, Repr

/-- The value of a field, if this is an object that has it. -/
def field? (json : Json) (name : RawText) : Option Json :=
  match json with
  | .object fields => Dictionary.get? fields name
  | _ => none

end Json

end ScanAccess
