import ScanAccess.Environment

/-! # Values that refer to names

A settings file assigns values to names, one after the other. A value may refer to the values of
names: to what the file assigned before, else to what the environment has, and else there may be a
text to be taken instead.
-/

namespace ScanAccess.Settings

/-- A piece of a value: a character, or a reference to a name, with what stands for a value
that the name does not have. -/
inductive Piece where
  | char (c : Char)
  | reference (name : String) (other : String)
  deriving DecidableEq, Repr

/-- A value as it is written. -/
abbrev Template : Type := List Piece

/-- A name with the value that is assigned to it, if there is one. -/
structure Assignment where
  name : String
  value : Option Template
  deriving DecidableEq, Repr

/-- Names with values, some of which may be missing. -/
abbrev Variables : Type := List (String × Option String)

/-- What a piece stands for, given what is found for names. A name that is known and has no value
leaves nothing. -/
def Piece.fill (lookUp : String → Option (Option String)) : Piece → List Char
  | char c => [c]
  | reference name other =>
    match lookUp name with
    | some value => (value.getD "").toList
    | none => other.toList

/-- What a value stands for. -/
def Template.fill (lookUp : String → Option (Option String)) (template : Template) : String :=
  String.ofList (template.flatMap (Piece.fill lookUp))

/-- What a name stands for behind some assignments. -/
def meaning (env : Environment) (before : Variables) (name : String) : Option (Option String) :=
  (Dictionary.get? before name).orElse fun _ => (env.value? name).map some

/-- Adds an assignment to those that came before. A name that is assigned again keeps
its place and gets the new value. -/
def assign (env : Environment) (before : Variables) (assignment : Assignment) : Variables :=
  Dictionary.put assignment.name (assignment.value.map (Template.fill (meaning env before))) before

/-- What names stand for behind all assignments of a file. -/
def expand (env : Environment) (assignments : List Assignment) : Variables :=
  assignments.foldl (assign env) []

end ScanAccess.Settings
