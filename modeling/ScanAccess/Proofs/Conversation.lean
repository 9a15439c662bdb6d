import Mathlib.Data.List.Basic
import ScanAccess.ScriptedServices
import ScanAccess.Proofs.Chains
import ScanAccess.Proofs.History
import ScanAccess.Proofs.Twins

/-! # Conversations with the services

Services may answer what they like, change their minds between calls, and fail at any
call. Whoever listens to them hears which calls a request makes, in which order and with
which replies, and disturbs nothing. What is heard is the request's plan up to its end or
up to the first call that failed, and that failure is then the request's own.
-/

namespace ScanAccess

open ScanAccess.Action

/-- A call of a service with the service's reply. -/
inductive Exchange where
  | validateUrl (url : RawText) (reply : Except Failure RawText)
  | generateToken (reply : Except Failure RawText)
  | now (reply : Except Failure Timestamp)
  | storeToken (record : AccessToken) (reply : Except Failure Unit)
  | findToken (token url : RawText) (reply : Except Failure AccessToken)
  | findRepository (url : RawText) (reply : Except Failure Unit)

namespace Exchange

/-- The call, without the reply. -/
def call : Exchange → ServiceCall
  | validateUrl url _ => .validateUrl url
  | generateToken _ => .generateToken
  | now _ => .now
  | storeToken record _ => .storeToken record
  | findToken token url _ => .findToken token url
  | findRepository url _ => .findRepository url

/-- The failure that a service replied with. -/
def failure? : Exchange → Option Failure
  | validateUrl _ (.error failure) | generateToken (.error failure) | now (.error failure)
  | storeToken _ (.error failure) | findToken _ _ (.error failure)
  | findRepository _ (.error failure) => some failure
  | _ => none

/-- The record that a service stored. -/
def accepted? : Exchange → Option AccessToken
  | storeToken record (.ok _) => some record
  | _ => none

end Exchange

/-! ## Listening -/

/-- The state of services that are listened to, with the exchanges heard so far. -/
structure Overheard (σ : Type) where
  state : σ
  exchanges : List Exchange := []

variable {σ τ α β : Type}

/-- Notes an exchange when a service has replied. -/
def Overheard.hear (exchange : Except Failure α → Exchange) (x : Action σ α) :
    Action (Overheard σ) α :=
  fun heard =>
    let outcome := x heard.state
    { toLogged := outcome.toLogged
      state :=
        { state := outcome.state
          exchanges := heard.exchanges ++ [exchange outcome.result] } }

/-- Services whose exchanges are noted, one after the other. -/
def Services.overheard (services : Services σ) : Services (Overheard σ) where
  validateUrl url := Overheard.hear (.validateUrl url) (services.validateUrl url)
  generateToken := Overheard.hear .generateToken services.generateToken
  now := Overheard.hear .now services.now
  storeToken record := Overheard.hear (.storeToken record) (services.storeToken record)
  findToken token url := Overheard.hear (.findToken token url) (services.findToken token url)
  findRepository url := Overheard.hear (.findRepository url) (services.findRepository url)

/-- What is requested of services. -/
inductive ServiceRequest where
  | issue (request : TokenRequest)
  | check (token url : RawText)
  | verify (url : RawText)

/-- Serves a request; only issuing has something to return. -/
def Services.serve (services : Services σ) : ServiceRequest → Action σ (Option AccessToken)
  | .issue request => do return some (← services.issue request)
  | .check token url => do
    services.check token url
    return none
  | .verify url => do
    services.verify url
    return none

namespace Services

/-! ## Listening disturbs nothing -/

/-- Services that are twins call by call. -/
structure Alike (states : σ → τ → Prop) (services : Services σ) (others : Services τ) :
    Prop where
  validateUrl : ∀ url, Twins states Eq (services.validateUrl url) (others.validateUrl url)
  generateToken : Twins states Eq services.generateToken others.generateToken
  now : Twins states Eq services.now others.now
  storeToken : ∀ record, Twins states Eq (services.storeToken record) (others.storeToken record)
  findToken : ∀ token url,
    Twins states Eq (services.findToken token url) (others.findToken token url)
  findRepository : ∀ url,
    Twins states Eq (services.findRepository url) (others.findRepository url)

/-- Twin services serve every request alike. -/
theorem Alike.serve {states : σ → τ → Prop} {services : Services σ} {others : Services τ}
    (h : Alike states services others) (request : ServiceRequest) :
    Twins states Eq (services.serve request) (others.serve request) := by
  cases request with
  | issue request =>
      refine Twins.map ?_ some
      refine (h.validateUrl request.url).bind ?_
      rintro url - rfl
      refine h.generateToken.bind ?_
      rintro token - rfl
      refine h.now.bind ?_
      rintro time - rfl
      exact (h.storeToken _).map fun _ => _
  | check token url =>
      refine Twins.map ?_ fun _ => none
      refine (h.findToken token url).bind ?_
      rintro record - rfl
      cases hvalid : record.isValid with
      | true => simpa [hvalid] using Twins.pure rfl
      | false => simpa [hvalid] using Twins.fail .tokenInvalid
  | verify url =>
      refine Twins.map ?_ fun _ => none
      refine (h.validateUrl url).bind ?_
      rintro canonical - rfl
      exact h.findRepository canonical

/-- A service and the same service overheard. -/
theorem twins_hear (exchange : Except Failure α → Exchange) (x : Action σ α) :
    Twins (fun state heard => heard.state = state) Eq x (Overheard.hear exchange x) := by
  rintro state heard rfl
  exact ⟨rfl, .refl _, rfl⟩

/-- Listening does not depend on what was heard before. -/
theorem alike_later (services : Services σ) (earlier : List Exchange) :
    Alike (fun fresh heard => heard.state = fresh.state ∧
        heard.exchanges = earlier ++ fresh.exchanges)
      services.overheard services.overheard := by
  have htwins {α : Type} (exchange : Except Failure α → Exchange) (x : Action σ α) :
      Twins (fun fresh heard => heard.state = fresh.state ∧
          heard.exchanges = earlier ++ fresh.exchanges) Eq
        (Overheard.hear exchange x) (Overheard.hear exchange x) := by
    rintro fresh ⟨state, exchanges⟩ ⟨rfl, rfl⟩
    exact ⟨rfl, .refl _, rfl, List.append_assoc _ _ _⟩
  exact
    { validateUrl := fun _ => htwins _ _
      generateToken := htwins _ _
      now := htwins _ _
      storeToken := fun _ => htwins _ _
      findToken := fun _ _ => htwins _ _
      findRepository := fun _ => htwins _ _ }

theorem alike_overheard (services : Services σ) :
    Alike (fun state heard => heard.state = state) services services.overheard where
  validateUrl _ := twins_hear _ _
  generateToken := twins_hear _ _
  now := twins_hear _ _
  storeToken _ := twins_hear _ _
  findToken _ _ := twins_hear _ _
  findRepository _ := twins_hear _ _

/-- A request served by overheard services comes to the same, and leaves the same state. -/
theorem serve_overheard (services : Services σ) (request : ServiceRequest) (heard : Overheard σ) :
    (services.overheard.serve request heard).result =
        (services.serve request heard.state).result ∧
      (services.overheard.serve request heard).events =
        (services.serve request heard.state).events ∧
      (services.overheard.serve request heard).state.state =
        (services.serve request heard.state).state := by
  obtain ⟨hevents, hresult, hstate⟩ :=
    (alike_overheard services).serve request heard.state heard rfl
  exact ⟨hresult.eq.symm, hevents, hstate⟩

theorem exchanges_serve (services : Services σ) (request : ServiceRequest)
    (heard : Overheard σ) :
    (services.overheard.serve request heard).state.exchanges = heard.exchanges ++
      (services.overheard.serve request { state := heard.state }).state.exchanges :=
  ((alike_later services heard.exchanges).serve request { state := heard.state } heard
    ⟨rfl, (List.append_nil _).symm⟩).state.2

end Services

/-! ## Plans -/

/-- The exchanges of a request when every service answers, and what the request then
comes to. The answers are the services' to choose; the calls follow from them. -/
inductive Plan : ServiceRequest → List Exchange → Except Failure (Option AccessToken) → Prop where
  | issue (request : TokenRequest) (url token : RawText) (time : Timestamp) :
      Plan (.issue request)
        [.validateUrl request.url (.ok url), .generateToken (.ok token), .now (.ok time),
          .storeToken { token, url, isValid := true, createdAt := time } (.ok ())]
        (.ok (some { token, url, isValid := true, createdAt := time }))
  | check (token url : RawText) (record : AccessToken) :
      Plan (.check token url) [.findToken token url (.ok record)]
        (if record.isValid = false then .error .tokenInvalid else .ok none)
  | verify (url canonical : RawText) :
      Plan (.verify url)
        [.validateUrl url (.ok canonical), .findRepository canonical (.ok ())] (.ok none)

/-- Exchanges that carry a plan out until it ends or a call fails. -/
structure CarriesOut (plan : List Exchange) (outcome : Except Failure α)
    (exchanges : List Exchange) (result : Except Failure α) : Prop where
  /-- The calls are those of the plan from the first one on. -/
  calls : exchanges.map Exchange.call <+: plan.map Exchange.call
  started : exchanges ≠ []
  /-- All calls but the last were answered as the plan has it. -/
  answered : exchanges.dropLast <+: plan
  /-- No call was made after one that failed. -/
  stopped : ∀ exchange ∈ exchanges.dropLast, exchange.failure? = none
  /-- A failed call fails the whole. -/
  failed : ∀ exchange ∈ exchanges, ∀ failure,
    exchange.failure? = some failure → result = .error failure
  /-- Without a failed call the plan was carried out to its end. -/
  completed : (∀ exchange ∈ exchanges, exchange.failure? = none) →
    exchanges = plan ∧ result = outcome

namespace CarriesOut

variable {plan exchanges : List Exchange} {outcome result : Except Failure α}
  {next failed : Exchange}

theorem last (h : next.failure? = none) : CarriesOut [next] outcome [next] outcome where
  calls := List.prefix_rfl
  started := List.cons_ne_nil _ _
  answered := List.nil_prefix
  stopped := by simp
  failed := by simp [h]
  completed _ := ⟨rfl, rfl⟩

theorem interrupted (failure : Failure) (hcall : failed.call = next.call)
    (h : failed.failure? = some failure) :
    CarriesOut (next :: plan) outcome [failed] (.error failure) where
  calls := by simp [hcall]
  started := List.cons_ne_nil _ _
  answered := List.nil_prefix
  stopped := by simp
  failed := by simp [h]
  completed := by simp [h]

theorem cons (h : next.failure? = none) (hrest : CarriesOut plan outcome exchanges result) :
    CarriesOut (next :: plan) outcome (next :: exchanges) result where
  calls := by simpa using hrest.calls
  started := List.cons_ne_nil _ _
  answered := by
    rw [List.dropLast_cons_of_ne_nil hrest.started]
    exact List.cons_prefix_cons.mpr ⟨rfl, hrest.answered⟩
  stopped := by
    rw [List.dropLast_cons_of_ne_nil hrest.started]
    exact List.forall_mem_cons.mpr ⟨h, hrest.stopped⟩
  failed := by
    refine List.forall_mem_cons.mpr ⟨?_, hrest.failed⟩
    intro failure hfailure
    rw [h] at hfailure
    cases hfailure
  completed hall := by
    obtain ⟨-, hall⟩ := List.forall_mem_cons.mp hall
    obtain ⟨rfl, hresult⟩ := hrest.completed hall
    exact ⟨rfl, hresult⟩

end CarriesOut

/-! ## One conversation -/

/-- The record that an issue request came back with. -/
def ServiceRequest.returned? : ServiceRequest × Except Failure (Option AccessToken) →
    Option AccessToken
  | (.issue _, .ok record) => record
  | _ => none

/-- A request, what was exchanged with the services to serve it, and what it came to. -/
structure Conversation where
  request : ServiceRequest
  exchanges : List Exchange
  result : Except Failure (Option AccessToken)

namespace Conversation

/-- The request with its result, as a history has it. -/
def entry (conversation : Conversation) :
    ServiceRequest × Except Failure (Option AccessToken) :=
  (conversation.request, conversation.result)

/-- The conversation carried out a plan of its request. -/
def Relays (conversation : Conversation) : Prop :=
  ∃ plan outcome, Plan conversation.request plan outcome ∧
    CarriesOut plan outcome conversation.exchanges conversation.result

/-- The records that the services accepted in a conversation. -/
def accepted (conversation : Conversation) : List AccessToken :=
  conversation.exchanges.filterMap Exchange.accepted?

/-- The conversation has a plan of its request, and stored just what it returned. -/
structure Faithful (conversation : Conversation) : Prop where
  relays : conversation.Relays
  accepted : conversation.accepted = (ServiceRequest.returned? conversation.entry).toList

end Conversation

/-- Whatever was heard before, an action adds exchanges that go with its result. -/
def Converses (good : List Exchange → Except Failure α → Prop) (x : Action (Overheard σ) α) :
    Prop :=
  ∀ heard, ∃ exchanges, (x heard).state.exchanges = heard.exchanges ++ exchanges ∧
    good exchanges (x heard).result

namespace Converses

variable {good : List Exchange → Except Failure β → Prop}

theorem pure {value : β} (h : good [] (.ok value)) :
    Converses good (Pure.pure value : Action (Overheard σ) β) :=
  fun _ => ⟨[], (List.append_nil _).symm, h⟩

theorem fail {failure : Failure} (h : good [] (.error failure)) :
    Converses good (Action.fail failure : Action (Overheard σ) β) :=
  fun _ => ⟨[], (List.append_nil _).symm, h⟩

/-- A call, and nothing after it. -/
theorem hear {exchange : Except Failure β → Exchange} {x : Action σ β}
    (h : ∀ reply, good [exchange reply] reply) : Converses good (Overheard.hear exchange x) :=
  fun heard => ⟨[exchange (x heard.state).result], rfl, h _⟩

/-- A call comes first, and the rest goes on only if it was answered. -/
theorem hear_bind {exchange : Except Failure α → Exchange} {x : Action σ α}
    {f : α → Action (Overheard σ) β}
    (herror : ∀ failure, good [exchange (.error failure)] (.error failure))
    (hok : ∀ value, Converses
      (fun exchanges result => good (exchange (.ok value) :: exchanges) result) (f value)) :
    Converses good (Overheard.hear exchange x >>= f) := by
  intro heard
  cases hresult : (x heard.state).result with
  | error failure =>
      have hheard : (Overheard.hear exchange x heard).result = .error failure := hresult
      refine ⟨[exchange (.error failure)], ?_, ?_⟩
      · rw [state_bind_of_error hheard, ← hresult]
        rfl
      · rw [result_bind_of_error hheard]
        exact herror failure
  | ok value =>
      have hheard : (Overheard.hear exchange x heard).result = .ok value := hresult
      obtain ⟨exchanges, hexchanges, hgood⟩ := hok value (Overheard.hear exchange x heard).state
      refine ⟨exchange (.ok value) :: exchanges, ?_, ?_⟩
      · rw [state_bind_of_ok hheard, hexchanges, List.append_cons, ← hresult]
        rfl
      · rw [result_bind_of_ok hheard]
        exact hgood

theorem map {x : Action (Overheard σ) α} (f : α → β)
    (h : Converses (fun exchanges result => good exchanges (result.map f)) x) :
    Converses good (x >>= fun value => Pure.pure (f value)) := by
  intro heard
  obtain ⟨exchanges, hexchanges, hgood⟩ := h heard
  refine ⟨exchanges, ?_, ?_⟩
  · rw [state_bind_pure, hexchanges]
  · rw [result_bind_pure]
    exact hgood

end Converses

namespace Services

/-- Every conversation with services is faithful. The answers of a plan that were never given
may be any. -/
theorem serve_converses (services : Services σ) (request : ServiceRequest) :
    Converses (fun exchanges result => Conversation.Faithful ⟨request, exchanges, result⟩)
      (services.overheard.serve request) := by
  -- Each call is a case: it fails and ends the plan, or the plan goes on from its answer.
  cases request with
  | issue request =>
      refine Converses.map some ?_
      apply Converses.hear_bind
      · intro failure
        exact ⟨⟨_, _, .issue request "" "" ⟨0, none, none⟩, .interrupted failure rfl rfl⟩, rfl⟩
      intro url
      apply Converses.hear_bind
      · intro failure
        refine ⟨⟨_, _, .issue request url "" ⟨0, none, none⟩, .cons rfl ?_⟩, rfl⟩
        exact .interrupted failure rfl rfl
      intro token
      apply Converses.hear_bind
      · intro failure
        refine ⟨⟨_, _, .issue request url token ⟨0, none, none⟩, .cons rfl (.cons rfl ?_)⟩, rfl⟩
        exact .interrupted failure rfl rfl
      intro time
      apply Converses.hear_bind
      · intro failure
        refine ⟨⟨_, _, .issue request url token time, .cons rfl (.cons rfl (.cons rfl ?_))⟩, rfl⟩
        exact .interrupted failure rfl rfl
      rintro ⟨⟩
      apply Converses.pure
      exact ⟨⟨_, _, .issue request url token time, .cons rfl (.cons rfl (.cons rfl (.last rfl)))⟩,
        rfl⟩
  | check token url =>
      refine Converses.map (fun _ => none) ?_
      apply Converses.hear_bind
      · intro failure
        exact ⟨⟨_, _, .check token url ⟨token, url, true, ⟨0, none, none⟩⟩,
          .interrupted failure rfl rfl⟩, rfl⟩
      intro record
      have hplan := Plan.check token url record
      -- An invalid record is no failed call, so the plan itself comes to a failure.
      cases hvalid : record.isValid with
      | true =>
          rw [hvalid] at hplan
          exact Converses.pure ⟨⟨_, _, hplan, .last rfl⟩, rfl⟩
      | false =>
          rw [hvalid] at hplan
          exact Converses.fail ⟨⟨_, _, hplan, .last rfl⟩, rfl⟩
  | verify url =>
      refine Converses.map (fun _ => none) ?_
      apply Converses.hear_bind
      · intro failure
        exact ⟨⟨_, _, .verify url "", .interrupted failure rfl rfl⟩, rfl⟩
      intro canonical
      refine Converses.hear fun reply => ?_
      have hplan := Plan.verify url canonical
      cases reply with
      | error failure => exact ⟨⟨_, _, hplan, .cons rfl (.interrupted failure rfl rfl)⟩, rfl⟩
      | ok done => exact ⟨⟨_, _, hplan, .cons rfl (.last rfl)⟩, rfl⟩

/-! ## Sequences of requests -/

/-- The conversations of a run, each heard from its own beginning. -/
def transcript (services : Services σ) : List ServiceRequest → σ → List Conversation
  | [], _ => []
  | request :: rest, state =>
    let outcome := services.overheard.serve request { state }
    ⟨request, outcome.state.exchanges, outcome.result⟩
      :: services.transcript rest outcome.state.state

theorem transcript_entries (services : Services σ) (requests : List ServiceRequest) (state : σ) :
    (services.transcript requests state).map Conversation.entry =
      history services.serve requests state := by
  induction requests generalizing state with
  | nil => rfl
  | cons request rest ih =>
      obtain ⟨hresult, -, hstate⟩ := serve_overheard services request { state }
      rw [history_cons, transcript, List.map_cons, ih, hstate]
      exact congrArg (fun result => (request, result) :: _) hresult

theorem faithful_of_mem_transcript (services : Services σ) {requests : List ServiceRequest}
    {state : σ} {conversation : Conversation}
    (h : conversation ∈ services.transcript requests state) : conversation.Faithful := by
  induction requests generalizing state with
  | nil => cases h
  | cons request rest ih =>
      rcases List.mem_cons.mp h with rfl | hrest
      · obtain ⟨exchanges, hexchanges, hfaithful⟩ := serve_converses services request { state }
        rw [List.nil_append] at hexchanges
        rw [hexchanges]
        exact hfaithful
      · exact ih hrest

/-- Listening through a whole run hears its conversations one after the other. -/
theorem stateAfter_overheard (services : Services σ) (requests : List ServiceRequest)
    (heard : Overheard σ) :
    stateAfter services.overheard.serve requests heard =
      { state := stateAfter services.serve requests heard.state
        exchanges := heard.exchanges ++
          (services.transcript requests heard.state).flatMap Conversation.exchanges } := by
  -- The later requests are heard from where the first one left off, hence from any beginning.
  induction requests generalizing heard with
  | nil => simp [stateAfter, transcript]
  | cons request rest ih =>
      obtain ⟨-, -, hstate⟩ := serve_overheard services request heard
      obtain ⟨-, -, hfresh⟩ := serve_overheard services request { state := heard.state }
      have hlater := exchanges_serve services request heard
      simp only [stateAfter, transcript, ih, List.flatMap_cons, hlater, hstate, hfresh,
        List.append_assoc]

/-- Serving is transparent over any services. A run comes to what its conversations come to,
listening to it changes nothing, each conversation carries out a plan of its request as far as the
services answer, and the records that were accepted are those that issuing returned, in order. -/
theorem serve_transparent (services : Services σ) (requests : List ServiceRequest) (state : σ) :
    let conversations := services.transcript requests state
    conversations.map Conversation.entry = history services.serve requests state ∧
    stateAfter services.overheard.serve requests { state } =
      { state := stateAfter services.serve requests state
        exchanges := conversations.flatMap Conversation.exchanges } ∧
    (∀ conversation ∈ conversations, conversation.Relays) ∧
    (conversations.flatMap Conversation.exchanges).filterMap Exchange.accepted? =
      (history services.serve requests state).filterMap ServiceRequest.returned? := by
  intro conversations
  refine ⟨transcript_entries services requests state, ?_, ?_, ?_⟩
  · exact stateAfter_overheard services requests { state }
  · intro conversation hmem
    exact (faithful_of_mem_transcript services hmem).relays
  · rw [← transcript_entries, List.filterMap_flatMap, List.filterMap_map,
      List.filterMap_eq_flatMap_toList]
    refine List.flatMap_congr fun conversation hmem => ?_
    exact (faithful_of_mem_transcript services hmem).accepted

end Services

end ScanAccess
