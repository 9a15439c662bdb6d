import ScanAccess.Dictionary
import ScanAccess.Services

/-! # Services that follow a script

The script says what each service answers, or with which fault it fails. Every
call is noted, and the accepted records are counted.
-/

namespace ScanAccess

/-- A call of one of the services. -/
inductive ServiceCall where
  | validateUrl (url : RawText)
  | generateToken
  | now
  | storeToken (record : AccessToken)
  | findToken (token url : RawText)
  | findRepository (url : RawText)
  deriving DecidableEq, Repr

/-- The services by name. -/
inductive Service where
  | validateUrl
  | generateToken
  | now
  | storeToken
  | findToken
  | findRepository
  deriving DecidableEq, Repr

/-- The service that a call is for. -/
def ServiceCall.service : ServiceCall → Service
  | validateUrl _ => .validateUrl
  | generateToken => .generateToken
  | now => .now
  | storeToken _ => .storeToken
  | findToken _ _ => .findToken
  | findRepository _ => .findRepository

/-- The answers of the services, and the faults of those that fail. -/
structure ServiceScript where
  url : RawText
  token : RawText
  record : AccessToken
  faults : List (Service × Fault)

/-- The state of scripted services: the script, the clock, the calls so far and the
number of records accepted so far. -/
structure ScriptedServices where
  script : ServiceScript
  clock : Timestamp
  calls : List ServiceCall := []
  stored : Nat := 0

namespace ScriptedServices

/-- Notes a call, then fails with the script's fault or goes on to the answer. -/
def respond {α : Type} (call : ServiceCall) (answer : ScriptedServices → α) :
    Action ScriptedServices α :=
  fun state =>
    let state := { state with calls := state.calls ++ [call] }
    match Dictionary.get? state.script.faults call.service with
    | some fault => { result := .error (.foreign fault), state }
    | none => { result := .ok (answer state), state }

/-- The services that follow the script. -/
def services : Services ScriptedServices where
  validateUrl url := respond (.validateUrl url) fun state => state.script.url
  generateToken := respond .generateToken fun state => state.script.token
  now := respond .now fun state => state.clock
  storeToken record := do
    respond (.storeToken record) fun _ => ()
    Action.modify fun state => { state with stored := state.stored + 1 }
  findToken token url := respond (.findToken token url) fun state => state.script.record
  findRepository url := respond (.findRepository url) fun _ => ()

/-- Moves the clock on by a duration. -/
def advance (d : Duration) : Action ScriptedServices Unit :=
  fun state =>
    match state.clock.advance? d with
    | some clock => { result := .ok (), state := { state with clock } }
    | none => { result := .error .timeOutOfRange, state }

end ScriptedServices

end ScanAccess
