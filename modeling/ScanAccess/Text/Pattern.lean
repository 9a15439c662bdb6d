/-! # Regular patterns

A pattern describes a set of texts. Whether a whole text belongs to it is decided
by derivatives: reading a character leaves a pattern for what may follow.
-/

namespace ScanAccess.Text

/-- A regular pattern over characters. -/
inductive Pattern where
  | nothing
  | empty
  | one (accepts : Char → Bool)
  | seq (first second : Pattern)
  | either (left right : Pattern)
  | many (pattern : Pattern)

namespace Pattern

/-- The given character. -/
def char (c : Char) : Pattern :=
  one (· == c)

/-- The given characters one after the other. -/
def literal : List Char → Pattern
  | [] => empty
  | [c] => char c
  | c :: rest => seq (char c) (literal rest)

/-- The pattern or nothing at all. -/
def optional (pattern : Pattern) : Pattern :=
  either pattern empty

/-- The pattern once or more often. -/
def oneOrMore (pattern : Pattern) : Pattern :=
  seq pattern (many pattern)

/-- Whether the empty text belongs to a pattern. -/
def acceptsEmpty : Pattern → Bool
  | nothing => false
  | empty => true
  | one _ => false
  | seq first second => first.acceptsEmpty && second.acceptsEmpty
  | either left right => left.acceptsEmpty || right.acceptsEmpty
  | many _ => true

/-- One pattern after the other, left out where there is nothing to add. -/
def andThen : Pattern → Pattern → Pattern
  | nothing, _ => nothing
  | empty, second => second
  | first, second => seq first second

/-- One pattern or the other, left out where there is nothing to choose. -/
def orElse : Pattern → Pattern → Pattern
  | nothing, right => right
  | left, nothing => left
  | left, right => either left right

/-- What may follow a character that was read. -/
def derivative (c : Char) : Pattern → Pattern
  | nothing => nothing
  | empty => nothing
  | one accepts => if accepts c then empty else nothing
  | seq first second =>
    if first.acceptsEmpty then
      orElse (andThen (first.derivative c) second) (second.derivative c)
    else andThen (first.derivative c) second
  | either left right => orElse (left.derivative c) (right.derivative c)
  | many pattern => andThen (pattern.derivative c) (many pattern)

/-- Whether a whole text belongs to a pattern. -/
def accepts (pattern : Pattern) (text : List Char) : Bool :=
  (text.foldl (fun pattern c => pattern.derivative c) pattern).acceptsEmpty

end Pattern

end ScanAccess.Text
