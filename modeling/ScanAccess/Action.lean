import ScanAccess.Log.Record

/-! # Actions

An action works on a state and ends with a value or a failure. Whichever it is,
the changes to the state and the events logged so far stay: nothing is undone by
a failure that comes later.
-/

namespace ScanAccess

/-- A result with the events that were logged on the way, oldest first. -/
structure Logged (α : Type) where
  result : Except Failure α
  events : List Log.Event := []

/-- The result of an action, the events it logged, and the state it left. -/
structure Outcome (σ α : Type) extends Logged α where
  state : σ

/-- A computation on a state that may fail and may log. -/
def Action (σ α : Type) : Type :=
  σ → Outcome σ α

namespace Logged

/-- A value, without events. -/
def ok {α : Type} (value : α) : Logged α :=
  { result := .ok value }

/-- A failure, without events. -/
def fail {α : Type} (failure : Failure) : Logged α :=
  { result := .error failure }

/-- A result that is already decided, without events. -/
def ofExcept {α : Type} (result : Except Failure α) : Logged α :=
  { result }

/-- Goes on with the value, if there is one; the events of both parts follow one another. -/
def bind {α β : Type} (x : Logged α) (f : α → Logged β) : Logged β :=
  match x.result with
  | .error failure => { result := .error failure, events := x.events }
  | .ok value =>
    let y := f value
    { result := y.result, events := x.events ++ y.events }

instance : Monad Logged where
  pure := ok
  bind := bind

end Logged

namespace Action

variable {σ τ α β : Type}

/-- Ends with a value. -/
def pure (value : α) : Action σ α :=
  fun state => { result := .ok value, state }

/-- Ends with a failure. -/
def fail (failure : Failure) : Action σ α :=
  fun state => { result := .error failure, state }

/-- Goes on with the value of the first action, if there is one, on the state it left. -/
def bind (x : Action σ α) (f : α → Action σ β) : Action σ β :=
  fun state =>
    let first := x state
    match first.result with
    | .error failure =>
      { result := .error failure, events := first.events, state := first.state }
    | .ok value =>
      let second := f value first.state
      { result := second.result, events := first.events ++ second.events, state := second.state }

instance : Monad (Action σ) where
  pure := Action.pure
  bind := Action.bind

/-- Ends as a stateless computation does. -/
def lift (x : Logged α) : Action σ α :=
  fun state => { toLogged := x, state }

/-- The state. -/
def get : Action σ σ :=
  fun state => { result := .ok state, state }

/-- Changes the state. -/
def modify (f : σ → σ) : Action σ Unit :=
  fun state => { result := .ok (), state := f state }

/-- Logs an event. -/
def log (event : Log.Event) : Action σ Unit :=
  fun state => { result := .ok (), events := [event], state }

/-- Runs an action on a part of a larger state. -/
def within (part : σ → τ) (replace : σ → τ → σ) (x : Action τ α) : Action σ α :=
  fun state =>
    let outcome := x (part state)
    { toLogged := outcome.toLogged, state := replace state outcome.state }

/-- Runs actions one after the other, each on the state that the one before left. A
failure of one does not keep the next from running. -/
def runEach : List (Action σ α) → σ → List (Outcome σ α)
  | [], _ => []
  | x :: rest, state =>
    let outcome := x state
    outcome :: runEach rest outcome.state

end Action

end ScanAccess
