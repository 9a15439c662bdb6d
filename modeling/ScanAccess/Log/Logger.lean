import ScanAccess.Dictionary
import ScanAccess.Log.Level

/-! # Loggers

Loggers have names of parts with dots between them, and a name lies below those
that are left when parts are dropped from its end. The root lies above all of
them. A record belongs to one logger; it is printed by the handlers of that logger
and of the loggers above it that are there, as far up as its way leads.
-/

namespace ScanAccess.Log

/-- The name of the logger above all loggers of this library. -/
def packageLogger : String := "huskyci_token"

/-- The name of the logger above all loggers. -/
def rootLogger : String := "root"

/-- The settings of a logger: a level of its own or none, the handlers that print
its records, and whether its records go on to the loggers above. -/
structure Logger where
  level : Level := Level.unset
  handlers : List String := []
  propagates : Bool := true
  deriving DecidableEq, Repr

/-- The loggers that are there: the root, and others by their names. Each logger keeps the
`answers` that it gave, by the levels that it was asked about. -/
structure Hierarchy where
  root : Logger
  named : List (String × Logger)
  answers : List ((String × Level) × Bool) := []
  deriving Repr

/-- The loggers above a name, which is written backwards, the nearest first. `find`
says which names have loggers. A dot is followed by the name of a possible logger,
and the character that this name ends with can be another dot only if the logger
is there. -/
def loggersAbove (find : List Char → Option Logger) : List Char → List Logger
  | [] => []
  | '.' :: c :: rest =>
    match find (c :: rest) with
    | some logger => logger :: loggersAbove find (c :: rest)
    | none => loggersAbove find rest
  | _ :: rest => loggersAbove find rest

/-- The names of handlers met on a way up: a logger that does not propagate ends it. -/
def handlersAlong : List Logger → List String
  | [] => []
  | logger :: above =>
    logger.handlers ++ if logger.propagates then handlersAlong above else []

namespace Hierarchy

/-- The settings of a named logger, if it is there. -/
def get? (loggers : Hierarchy) (name : String) : Option Logger :=
  Dictionary.get? loggers.named name

/-- A logger that is used is there from then on, with the settings that loggers start
with. The root is there anyway. -/
def use (loggers : Hierarchy) (name : String) : Hierarchy :=
  if name = rootLogger ∨ (loggers.get? name).isSome then loggers
  else { loggers with named := loggers.named ++ [(name, {})] }

/-- The loggers from a name up to the root. -/
def wayUp (loggers : Hierarchy) (name : String) : List Logger :=
  (loggers.get? name).toList
    ++ loggersAbove (fun above => loggers.get? (String.ofList above.reverse)) name.toList.reverse
    ++ [loggers.root]

/-- The level that counts for a name: the nearest one that is set on the way up. -/
def effectiveLevel (loggers : Hierarchy) (name : String) : Level :=
  (((loggers.wayUp name).map Logger.level).find? (· != Level.unset)).getD Level.unset

/-- Whether a level is positive and reaches the level that counts for a name. -/
def admits (loggers : Hierarchy) (name : String) (level : Level) : Bool :=
  0 < level && loggers.effectiveLevel name ≤ level

/-- Whether records of a logger are printed. The logger gives the same answer for a level as
the first time, even if the level that counts has changed with loggers that came in between. -/
def isEnabled (loggers : Hierarchy) (name : String) (level : Level) : Bool :=
  (Dictionary.get? loggers.answers (name, level)).getD (loggers.admits name level)

/-- Uses a logger for a record: it is there from then on, and so is its answer. -/
def note (loggers : Hierarchy) (name : String) (level : Level) : Hierarchy :=
  let loggers := loggers.use name
  let answer := loggers.isEnabled name level
  { loggers with answers := Dictionary.put (name, level) answer loggers.answers }

/-- The handlers that print a record of a logger, if it is printed. -/
def handlersFor (loggers : Hierarchy) (name : String) (level : Level) : List String :=
  if loggers.isEnabled name level then handlersAlong (loggers.wayUp name) else []

end Hierarchy

end ScanAccess.Log
