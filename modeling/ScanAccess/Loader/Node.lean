import ScanAccess.Json.Value
import ScanAccess.Number.Shortest
import ScanAccess.Text.Half

/-! # Nodes

A node is a JSON value as the search for settings works with it: its texts are strings, in which
halves of characters have their stand-ins. A node is spelled as the expression that would make it:
names and texts stand between quotes, the fields of an object in the order in which they are
there, and the truth values and null begin with a capital letter.
-/

namespace ScanAccess.Loader

open ScanAccess.Text

/-- A JSON value with strings for texts. -/
inductive Node where
  | null
  | bool (value : Bool)
  | int (value : Int)
  | float (value : Binary64)
  | string (value : String)
  | array (items : List Node)
  | object (fields : List (String × Node))
  deriving Repr

namespace Node

mutual

/-- The node of a JSON value. -/
def ofJson : Json → Node
  | .null => .null
  | .bool value => .bool value
  | .int value => .int value
  | .float value => .float value
  | .string text => .string (standIn text)
  | .array items => .array (ofItems items)
  | .object fields => .object (ofFields fields)

/-- The nodes of the items of an array. -/
def ofItems : List Json → List Node
  | [] => []
  | item :: rest => ofJson item :: ofItems rest

/-- The nodes of the fields of an object. -/
def ofFields : List (RawText × Json) → List (String × Node)
  | [] => []
  | (name, value) :: rest => (standIn name, ofJson value) :: ofFields rest

end

/-- Expressions with a comma and a space between them. -/
def commaSpaced (texts : List (List Char)) : List Char :=
  List.intercalate [',', ' '] texts

mutual

/-- A node as an expression. -/
def spelling : Node → List Char
  | .null => ['N', 'o', 'n', 'e']
  | .bool true => ['T', 'r', 'u', 'e']
  | .bool false => ['F', 'a', 'l', 's', 'e']
  | .int n => signedDecimal n
  | .float x => x.text
  | .string s => quote (restored s)
  | .array items => '[' :: commaSpaced (itemSpellings items) ++ [']']
  | .object fields => '\x7b' :: commaSpaced (fieldSpellings fields) ++ ['\x7d']

/-- The items of an array as expressions. -/
def itemSpellings : List Node → List (List Char)
  | [] => []
  | item :: rest => spelling item :: itemSpellings rest

/-- The fields of an object as expressions. -/
def fieldSpellings : List (String × Node) → List (List Char)
  | [] => []
  | (name, value) :: rest =>
    (quote (restored name) ++ ':' :: ' ' :: spelling value) :: fieldSpellings rest

end

/-- The text that stands for a node: a string itself, and any other node as an expression. -/
def shown (node : Node) : String :=
  match node with
  | .string s => s
  | node => String.ofList node.spelling

end Node

end ScanAccess.Loader
