import ScanAccess.Registry
import ScanAccess.RepositoryUrl
import ScanAccess.Services
import ScanAccess.Store

/-! # The desk

A desk offers all services by itself: it has a store, a registry, a clock and a
source of tokens, and rules for URLs.
-/

namespace ScanAccess

/-- The state of a desk. `γ` is the state of its source of tokens. -/
structure Desk (γ : Type) where
  store : Store
  registry : Registry
  clock : Timestamp
  source : γ

/-- The rules of a desk: the canonical forms of URLs for requests and for the
registry, where tokens come from, and the time that is put on issued tokens if it
is not the clock's. -/
structure Desk.Rules (γ : Type) where
  validateUrl : Registry.Canonicalize := RepositoryUrl.canonicalize
  registerUrl : Registry.Canonicalize := RepositoryUrl.canonicalize
  generateToken : Action γ RawText
  issueTime : Option Timestamp := none

namespace Desk

variable {γ α : Type}

/-- Runs an action of the store. -/
def onStore (x : Action Store α) : Action (Desk γ) α :=
  Action.within Desk.store (fun desk store => { desk with store }) x

/-- Runs an action of the registry. -/
def onRegistry (x : Action Registry α) : Action (Desk γ) α :=
  Action.within Desk.registry (fun desk registry => { desk with registry }) x

/-- Runs an action of the source of tokens. -/
def onSource (x : Action γ α) : Action (Desk γ) α :=
  Action.within Desk.source (fun desk source => { desk with source }) x

/-- Runs an action of the store that depends on the clock. -/
def atClock (x : Timestamp → Action Store α) : Action (Desk γ) α :=
  fun desk => onStore (x desk.clock) desk

/-- Finds a record by a token and a URL in any form. -/
def findToken (rules : Desk.Rules γ) (token url : RawText) : Action (Desk γ) AccessToken := do
  let canonical ← Action.lift (rules.validateUrl url)
  atClock fun now => Store.find now token canonical

/-- The time for issued tokens. -/
def issueTime (rules : Desk.Rules γ) : Action (Desk γ) Timestamp :=
  fun desk => { result := .ok (rules.issueTime.getD desk.clock), state := desk }

/-- The services of a desk. -/
def services (rules : Desk.Rules γ) : Services (Desk γ) where
  validateUrl url := Action.lift (rules.validateUrl url)
  generateToken := onSource rules.generateToken
  now := issueTime rules
  storeToken record := atClock fun now => Store.insert now record
  findToken := findToken rules
  findRepository url := onRegistry (Registry.find url)

/-- Moves the clock on by a duration. -/
def advance (d : Duration) : Action (Desk γ) Unit :=
  fun desk =>
    match desk.clock.advance? d with
    | some clock => { result := .ok (), state := { desk with clock } }
    | none => { result := .error .timeOutOfRange, state := desk }

end Desk

/-- What can be asked of a desk. -/
inductive DeskRequest where
  | issue (request : TokenRequest)
  | check (token url : RawText)
  | verify (url : RawText)
  | validateUrl (url : RawText)
  | generateToken
  | now
  | storeToken (record : AccessToken)
  | findToken (token url : RawText)
  | findRepository (url : RawText)
  | lookUp (token url : RawText)
  | revoke (token url : RawText)
  | register (url : RawText)
  | unregister (url : RawText)
  | contains (url : Option RawText)
  | setClock (time : Timestamp)
  | advance (duration : Duration)

/-- What a desk answers. -/
inductive DeskReply where
  | done
  | record (record : AccessToken)
  | text (text : RawText)
  | truth (value : Bool)
  | time (time : Timestamp)

namespace Desk

variable {γ : Type}

/-- Answers a request. `findToken` takes a URL in any form, `lookUp` only in
canonical form; `contains` may be asked about something that is no URL at all. -/
def answer (rules : Desk.Rules γ) : DeskRequest → Action (Desk γ) DeskReply
  | .issue request => do return .record (← (services rules).issue request)
  | .check token url => do
    (services rules).check token url
    return .done
  | .verify url => do
    (services rules).verify url
    return .done
  | .validateUrl url => do return .text (← (services rules).validateUrl url)
  | .generateToken => do return .text (← (services rules).generateToken)
  | .now => do return .time (← (services rules).now)
  | .storeToken record => do
    (services rules).storeToken record
    return .done
  | .findToken token url => do return .record (← (services rules).findToken token url)
  | .findRepository url => do
    (services rules).findRepository url
    return .done
  | .lookUp token url => do
    return .record (← atClock fun now => Store.find now token url)
  | .revoke token url => do return .record (← onStore (Store.revoke token url))
  | .register url => do return .text (← onRegistry (Registry.register rules.registerUrl url))
  | .unregister url => do
    onRegistry (Registry.unregister rules.registerUrl url)
    return .done
  | .contains url => do
    let desk ← Action.get
    return .truth (url.any desk.registry.contains)
  | .setClock time => do
    Action.modify fun desk => { desk with clock := time }
    return .done
  | .advance duration => do
    Desk.advance duration
    return .done

end Desk

end ScanAccess
