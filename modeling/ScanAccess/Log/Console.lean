import ScanAccess.Environment
import ScanAccess.Log.Format
import ScanAccess.Log.Logger

/-! # The console

All records end up on one console, which hangs on the root and on the logger of
this library. Which records are printed is decided by the levels of these two.
-/

namespace ScanAccess.Log

/-- Whether records are written as lines of JSON: under a serverless runner or in a cluster. -/
def jsonLinesEnabled (env : Environment) : Bool :=
  env.isSet "K_SERVICE" || env.isSet "KUBERNETES_SERVICE_HOST"

/-- A configuration of the console by the names of levels. -/
structure Config where
  rootLevel : String
  packageLevel : String
  deriving DecidableEq, Repr

namespace Config

/-- The variable that sets the package's level. -/
def packageVariable : String := "HUSKYCI_TOKEN_LOG_LEVEL"

/-- Reads the configuration: the root's level from the variable named or by default, the
package's level from its own variable or from the root's. -/
def ofEnvironment (env : Environment) (levelVariable other : String) : Config :=
  let rootLevel := Text.upper ((env.value? levelVariable).getD other)
  { rootLevel
    packageLevel := Text.upper ((env.value? packageVariable).getD rootLevel) }

/-- The variable that sets the root's level, unless another is named. -/
def rootVariable : String := "LOG_LEVEL"

/-- The root's level where no variable sets it. -/
def rootDefault : String := "INFO"

/-- The configuration under the usual names. -/
def default (env : Environment) : Config :=
  ofEnvironment env rootVariable rootDefault

/-- The name of the only formatter's class. -/
def formatterClass : String := "ExtrasFormatter"

/-- The handlers of each of the two loggers. -/
def handlers : List String := ["console"]

/-- Whether the package's records go on to the root's handlers. They do not, or
they would be printed twice. -/
def propagates : Bool := false

/-- The loggers that a configuration describes. The package's level is looked at first. -/
def loggers (config : Config) : Except Failure Hierarchy :=
  match Level.ofName? config.packageLevel with
  | none => .error .unknownPackageLevel
  | some package =>
    match Level.ofName? config.rootLevel with
    | none => .error .unknownRootLevel
    | some root =>
      .ok {
        root := { level := root, handlers }
        named := [(packageLogger, { level := package, handlers, propagates })] }

/-- The full description of a configuration: one formatter, one handler, and the two loggers. -/
def toJson (config : Config) : Json :=
  let handlers := Json.array (handlers.map fun (name : String) => Json.string name)
  .object [
    ("version", .int 1),
    ("disable_existing_loggers", .bool false),
    ("formatters", .object [("console", .object [
      ("()", .string formatterClass),
      ("format", .string (Layout.template Layout.console)),
      ("datefmt", .string Layout.timeTemplate)])]),
    ("handlers", .object [("console", .object [
      ("class", .string "logging.StreamHandler"),
      ("formatter", .string "console"),
      ("stream", .string "ext://sys.stdout")])]),
    ("root", .object [("level", .string config.rootLevel), ("handlers", handlers)]),
    ("loggers", .object [(packageLogger, .object [
      ("level", .string config.packageLevel),
      ("handlers", handlers),
      ("propagate", .bool propagates)])])]

end Config

/-- The event that follows a configuration of the console. -/
def configuredEvent : Event :=
  { logger := "huskyci_token.observability.logging"
    level := Level.debug
    message := "configured logging" }

/-- Where events are printed: by which loggers, in which layout and mode, and on which host. -/
structure Console where
  host : Host
  layout : Layout
  loggers : Hierarchy
  jsonLines : Bool

namespace Console

/-- The console before any configuration: a plain layout, and `level` for the
package. The root has no handler yet, only the level that loggers start with. -/
def unconfigured (host : Host) (env : Environment) (level : Level) : Console :=
  { host
    layout := Layout.plain
    loggers := {
      root := { level := Level.warning }
      named := [(packageLogger,
        { level, handlers := Config.handlers, propagates := Config.propagates })] }
    jsonLines := jsonLinesEnabled env }

/-- The console that a configuration read from the environment sets up. -/
def configure (host : Host) (env : Environment) : Except Failure Console :=
  (Config.default env).loggers.map fun loggers =>
    { host, layout := Layout.console, loggers, jsonLines := jsonLinesEnabled env }

/-- Gives the logger without a name the name of the root. -/
def nameRoot (event : Event) : Event :=
  if event.logger.isEmpty then { event with logger := rootLogger } else event

/-- The console after an event has used its logger. -/
def noting (console : Console) (event : Event) : Console :=
  { console with loggers := console.loggers.note event.logger event.level }

/-- What an event prints at a time: its text, once for every handler that prints it. -/
def print (console : Console) (now : Timestamp) (event : Event) : List String :=
  (console.loggers.handlersFor event.logger event.level).filterMap fun _ =>
    ((event.at now).format console.host console.jsonLines console.layout).toOption

/-- What events print at a time, in their order. -/
def printAll (console : Console) (now : Timestamp) : List Event → List String
  | [] => []
  | event :: rest =>
    let event := nameRoot event
    let console := console.noting event
    console.print now event ++ printAll console now rest

/-- The lines that events print at a time, in their order. -/
def lines (console : Console) (now : Timestamp) (events : List Event) : List String :=
  (console.printAll now events).flatMap fun text => text.splitOn "\n"

end Console

end ScanAccess.Log
