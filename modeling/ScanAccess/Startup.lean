import ScanAccess.Desk
import ScanAccess.Log.Console
import ScanAccess.Settings.Load
import ScanAccess.TokenGenerator

/-! # Starting up

Starting up loads the settings, opens a desk by them, and may set up the console
before. Settings that were accepted can still be refused by the desk: if one of
the repositories has no canonical form, or if the maximal age is out of range.
-/

namespace ScanAccess.Startup

/-- The rules of a desk that is opened by settings. -/
def rules : Desk.Rules TokenSource :=
  { generateToken := TokenSource.next }

/-- The event of an opened desk. -/
def readyEvent (settings : TokenSettings) : Log.Event :=
  let age := match settings.maxAgeSeconds with
    | none => .none
    | some seconds => .int seconds
  { logger := "huskyci_token.runtime"
    level := Log.Level.info
    message := "token runtime ready"
    data := some (Log.Payload.ofFields [
      ("registered_repositories", .int settings.repositories.length),
      ("token_bytes", .int settings.tokenBytes),
      ("token_max_age_seconds", age)]) }

/-- Opens a desk: first the registry, then the store, then the generator. -/
def openDesk (settings : TokenSettings) (clock : Timestamp) (entropy : Entropy) :
    Logged (Desk TokenSource) := do
  let registry ← Registry.ofUrls rules.registerUrl settings.repositories
  let maxAge ← Logged.ofExcept settings.maxAge
  let store ← Logged.ofExcept (Store.create maxAge)
  let generator ← Logged.ofExcept (TokenGenerator.ofSize settings.tokenBytes)
  { result := .ok { store, registry, clock, source := .generated generator entropy }
    events := [readyEvent settings] }

/-- Everything that starting up depends on: the library of settings, the host, the `calls` inside
of which it takes place, and what is there at the time. With `configure` the console is set
up, and with `preload` the settings are loaded before that. -/
structure Conditions where
  library : Settings.Library
  host : Log.Host
  calls : Nat
  env : Environment
  file : Option String
  level : Log.Level
  clock : Timestamp
  entropy : Entropy
  configure : Bool
  preload : Bool

/-- What is there after starting up. -/
structure Running where
  settings : AllSettings
  desk : Desk TokenSource
  console : Log.Console

/-- What starting up comes to, and the lines it printed. -/
structure Report where
  result : Except Failure Running
  lines : List String

/-- Starts up. Settings that are not there yet are loaded by it, one call deeper. Events are
printed on the console as it is at the moment. -/
def start (conditions : Conditions) : Report :=
  let { library, host, calls, env, file, level, clock, entropy, configure, preload } := conditions
  let before := Log.Console.unconfigured host env level
  let preloaded := if preload then some (Settings.load library calls env file) else none
  let early := match preloaded with
    | some loaded => before.lines clock loaded.events
    | none => []
  match preloaded.map Logged.result with
  | some (.error failure) => { result := .error failure, lines := early }
  | _ =>
    match if configure then Log.Console.configure host env else .ok before with
    | .error failure => { result := .error failure, lines := early }
    | .ok console =>
      let announced := if configure then [Log.configuredEvent] else []
      let opened : Logged Running := do
        let settings ← match preloaded with
          | some loaded => Logged.ofExcept loaded.result
          | none => Settings.load library (calls + 1) env file
        let desk ← openDesk settings.token clock entropy
        return { settings, desk, console }
      { result := opened.result
        lines := early ++ console.lines clock (announced ++ opened.events) }

end ScanAccess.Startup
