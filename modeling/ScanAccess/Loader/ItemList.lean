import ScanAccess.Number.Reading
import ScanAccess.Loader.Problem
import ScanAccess.Text.Blank

/-! # Lists of items in texts

A list may be given by several texts. Each holds items with commas between them, and
may stand in brackets. An item is an object, an array, one of the words of JSON, or a
text with or without quotes. All of them make one text of JSON, which
need not be well formed: what stands between the commas is not looked into.
-/

namespace ScanAccess.Loader.ItemList

open ScanAccess.Text

/-- Cuts an object or an array off the front of what follows its first bracket, where
`depth` brackets are open. Brackets between quotes do not count, and a quote after a
backslash is none. Only the last bracket has to be the `closing` one. -/
def spanContainer (closing : Char) :
    Int → Bool → Char → List Char → Option (List Char × List Char)
  | _, _, _, [] => none
  | depth, quoted, last, c :: rest =>
    let goOn (depth : Int) (quoted : Bool) :=
      (spanContainer closing depth quoted c rest).map fun (cs, after) => (c :: cs, after)
    if c = '\x22' ∧ last ≠ '\\' then goOn depth !quoted
    else if quoted then goOn depth quoted
    else if c = '\x7b' ∨ c = '[' then goOn (depth + 1) quoted
    else if c = '\x7d' ∨ c = ']' then
      if c = closing ∧ depth = 1 then some ([c], rest) else goOn (depth - 1) quoted
    else goOn depth quoted

/-- Cuts an item off the front, up to a comma that is not between quotes. -/
def spanWord (quoted : Bool) (last : Char) : List Char → Option (List Char × List Char)
  | [] => if quoted then none else some ([], [])
  | c :: rest =>
    let quoted := if c = '\x22' ∧ last ≠ '\\' then !quoted else quoted
    if c = ',' ∧ !quoted then some ([], c :: rest)
    else (spanWord quoted c rest).map fun (cs, after) => (c :: cs, after)

/-- The words that stand for themselves. -/
def words : List (List Char) :=
  [['t', 'r', 'u', 'e'], ['f', 'a', 'l', 's', 'e'], ['n', 'u', 'l', 'l']]

/-- The JSON of an item that is no object and no array. It is a text between quotes, in which
a backslash is written twice, unless it is a word or begins with a quote. The text for
null is null, if it is no number. -/
def wordText (nullText : Option String) (word : List Char) : List Char :=
  let word := word.flatMap fun c => if c = '\\' then [c, c] else [c]
  let isNull := nullText = some (String.ofList word) && !readsAsNumber word
  let word := if isNull then ['n', 'u', 'l', 'l'] else word
  if words.contains word || word.head? == some '\x22' then word
  else '\x22' :: word ++ ['\x22']

/-- The JSON of an empty text. -/
def emptyText : List Char := ['\x22', '\x22']

/-- Cuts an item that is no comma off the front, and gives its JSON. -/
def spanItem (nullText : Option String) (cs : List Char) :
    Except ListProblem (List Char × List Char) :=
  let container (first closing : Char) (rest : List Char) :=
    match spanContainer closing 1 false first rest with
    | some (item, after) => .ok (first :: item, after)
    | none => .error (.openBracket closing)
  match cs with
  | '\x7b' :: rest => container '\x7b' '\x7d' rest
  | '[' :: rest => container '[' ']' rest
  | cs =>
    match spanWord false ' ' cs with
    | some (word, after) => .ok (wordText nullText (trimWhile isBlank word), after)
    | none => .error .openQuote

/-- The JSON of the items of a text, and whether an item came last. A comma without an item
before it stands after an empty text. `fuel` bounds the steps. -/
def items (nullText : Option String) :
    Nat → Bool → List Char → Except ListProblem (List (List Char) × Bool)
  | 0, afterItem, _ | _, afterItem, [] => .ok ([], afterItem)
  | fuel + 1, afterItem, cs =>
    match trimWhile isBlank cs with
    | ',' :: rest => do
      let (others, last) ← items nullText fuel false rest
      return (if afterItem then others else emptyText :: others, last)
    | cs => do
      let (item, rest) ← spanItem nullText cs
      let (others, last) ← items nullText fuel true rest
      return (item :: others, last)

/-- What stands between the brackets around a text, if it has brackets. -/
def insideBrackets? (cs : List Char) : Option (List Char) :=
  match cs with
  | '[' :: rest => if rest.getLast? = some ']' then some (trimWhile isBlank rest.dropLast) else none
  | _ => none

/-- The JSON of the items of some values, up to the first that is no text. A text that does
not end with an item has an empty text at its end, unless it is a list without items. -/
def allItems (nullText : Option String) :
    Bool → List Node → Except ListProblem (List (List Char))
  | afterItem, value :: rest =>
    match value with
    | .string text => do
      let cs := trimWhile isBlank text.toList
      let inner := insideBrackets? cs
      if inner = some [] then allItems nullText afterItem rest
      else
        let cs := inner.getD cs
        let (first, last) ← items nullText cs.length afterItem cs
        let others ← allItems nullText last rest
        return if last then first ++ others else first ++ emptyText :: others
    | _ => .ok []
  | _, [] => .ok []

/-- The text of the list that some values make. -/
def merge (nullText : Option String) (values : List Node) : Except ListProblem String := do
  let items ← allItems nullText false values
  return String.ofList ('[' :: List.intercalate [','] items ++ [']'])

end ScanAccess.Loader.ItemList
