import ScanAccess.Loader.Node

/-! # Values of options

Options are given as JSON. What kind of value is expected differs from one option
to the next, and what is reported about a wrong one names the kind of the value.
-/

namespace ScanAccess.Loader

/-- The name of the kind of a value. -/
def kindName : Node → String
  | .null => "NoneType"
  | .bool _ => "bool"
  | .int _ => "int"
  | .float _ => "float"
  | .string _ => "str"
  | .array _ => "list"
  | .object _ => "dict"

/-- Whether a value switches an option on: whether it is true, not zero, or not empty. -/
def isOn : Node → Bool
  | .null => false
  | .bool value => value
  | .int value => value != 0
  | .float value => !value.isZero
  | .string text => !text.isEmpty
  | .array items => !items.isEmpty
  | .object fields => !fields.isEmpty

/-- Whether a value is a number that is zero, or false. -/
def isZero : Node → Bool
  | .bool value => !value
  | .int value => value == 0
  | .float value => value.isZero
  | _ => false

/-- The items of a value where a list is expected; the items of an object are its names. -/
def listItems? : Node → Option (List Node)
  | .array items => some items
  | .object fields => some (fields.map fun (name, _) => .string name)
  | _ => none

/-- The items of a value as `listItems?` has them; the items of a text are its characters. -/
def items? : Node → Option (List Node)
  | .string text =>
    some (text.toList.map fun c => .string (String.singleton c))
  | value => listItems? value

/-- The fields of options by their names. -/
abbrev OptionFields : Type := List (String × Node)

namespace OptionFields

/-- The value of a field, if it has one that is not null. -/
def value? (fields : OptionFields) (name : String) : Option Node :=
  match Dictionary.get? fields name with
  | some .null => none
  | value => value

/-- The text that a field gives, if it gives one. -/
def text? (fields : OptionFields) (name : String) : Option String :=
  match fields.value? name with
  | some (.string text) => some text
  | _ => none

/-- Whether a field switches an option on. -/
def isOn (fields : OptionFields) (name : String) : Bool :=
  (fields.value? name).any Loader.isOn

end OptionFields

end ScanAccess.Loader
