import ScanAccess.Desk
import ScanAccess.TokenGenerator
import ScanAccess.Proofs.StoreRun

/-! # Where failures and events come from

An action is confined to some failures and some events if it ends with no other failure and
logs no other event. What a desk can fail with and what it can log is said once, for all
requests: it comes from the rules, from the store, from the registry or from the clock.
-/

namespace ScanAccess

/-- A computation that fails only with such failures and logs only such events. -/
structure Logged.Confined {α : Type} (failures : Failure → Prop) (events : Log.Event → Prop)
    (x : Logged α) : Prop where
  fails : ∀ failure, x.result = .error failure → failures failure
  logs : ∀ event ∈ x.events, events event

variable {σ τ α β : Type} {failures : Failure → Prop} {events : Log.Event → Prop}

namespace Logged.Confined

theorem logged (value : α) {logged : List Log.Event} (h : ∀ event ∈ logged, events event) :
    Confined failures events { result := .ok value, events := logged } where
  fails := by simp
  logs := h

theorem failed {failure : Failure} {logged : List Log.Event} (hfailure : failures failure)
    (h : ∀ event ∈ logged, events event) :
    Confined failures events ({ result := .error failure, events := logged } : Logged α) where
  fails := by
    rintro _ ⟨⟩
    exact hfailure
  logs := h

theorem ok (value : α) : Confined failures events (Logged.ok value) :=
  .logged value (by simp)

theorem fail {failure : Failure} (h : failures failure) :
    Confined failures events (Logged.fail failure : Logged α) :=
  .failed h (by simp)

theorem ofExcept {result : Except Failure α}
    (h : ∀ failure, result = .error failure → failures failure) :
    Confined failures events (Logged.ofExcept result) where
  fails := h
  logs := by simp [Logged.ofExcept]

theorem bind {x : Logged α} {f : α → Logged β} (hx : Confined failures events x)
    (hf : ∀ value, x.result = .ok value → Confined failures events (f value)) :
    Confined failures events (x.bind f) := by
  unfold Logged.bind
  cases hresult : x.result with
  | error failure => exact .failed (hx.fails failure hresult) hx.logs
  | ok value =>
      have hnext := hf value hresult
      refine ⟨hnext.fails, fun event hmem => ?_⟩
      rcases List.mem_append.mp hmem with hfirst | hsecond
      · exact hx.logs event hfirst
      · exact hnext.logs event hsecond

theorem mono {x : Logged α} {failures' : Failure → Prop} {events' : Log.Event → Prop}
    (hfailures : ∀ failure, failures failure → failures' failure)
    (hevents : ∀ event, events event → events' event) (h : Confined failures events x) :
    Confined failures' events' x where
  fails failure hresult := hfailures failure (h.fails failure hresult)
  logs event hmem := hevents event (h.logs event hmem)

end Logged.Confined

namespace Action

/-- An action that fails only with such failures and logs only such events, on any state. -/
def Confined (failures : Failure → Prop) (events : Log.Event → Prop) (x : Action σ α) : Prop :=
  ∀ state, (x state).toLogged.Confined failures events

namespace Confined

theorem pure (value : α) : Confined failures events (Pure.pure value : Action σ α) :=
  fun _ => .ok value

theorem fail {failure : Failure} (h : failures failure) :
    Confined failures events (Action.fail failure : Action σ α) :=
  fun _ => .fail h

theorem lift {x : Logged α} (h : x.Confined failures events) :
    Confined failures events (Action.lift x : Action σ α) :=
  fun _ => h

theorem get : Confined failures events (Action.get : Action σ σ) :=
  fun state => .ok state

theorem modify (f : σ → σ) : Confined failures events (Action.modify f) :=
  fun _ => .ok ()

theorem log {event : Log.Event} (h : events event) :
    Confined failures events (Action.log event : Action σ Unit) :=
  fun _ => .logged () (by simpa using h)

theorem mono {x : Action σ α} {failures' : Failure → Prop} {events' : Log.Event → Prop}
    (hfailures : ∀ failure, failures failure → failures' failure)
    (hevents : ∀ event, events event → events' event) (h : Confined failures events x) :
    Confined failures' events' x :=
  fun state => (h state).mono hfailures hevents

theorem within {part : σ → τ} {replace : σ → τ → σ} {x : Action τ α}
    (h : Confined failures events x) : Confined failures events (Action.within part replace x) :=
  fun state => h (part state)

theorem bind {x : Action σ α} {f : α → Action σ β} (hx : Confined failures events x)
    (hf : ∀ value, Confined failures events (f value)) : Confined failures events (x >>= f) := by
  intro state
  -- Apart from the state, an action goes on as what it logs and results in.
  have hbind : ((x >>= f) state).toLogged =
      (x state).toLogged.bind fun value => (f value (x state).state).toLogged := by
    change (Action.bind x f state).toLogged = _
    unfold Action.bind Logged.bind
    dsimp only
    split <;> rfl
  rw [hbind]
  exact (hx state).bind fun value _ => hf value (x state).state

end Confined

end Action

/-! ## URLs, registries, tokens and records -/

namespace RepositoryUrl

/-- What refusing a URL logs. -/
inductive Logging : Log.Event → Prop where
  | rejected (candidate : RawText) : Logging (refusal "rejected repository url" candidate)
  | unmatched (candidate : RawText) : Logging (refusal "repository url does not match" candidate)

theorem confined_validate (url : String) :
    (validate url).Confined (fun failure => failure = .malformedUrl) Logging := by
  unfold validate
  dsimp only
  split
  · exact .failed rfl (List.forall_mem_singleton.mpr (.rejected _))
  · split
    · exact .ok _
    · exact .failed rfl (List.forall_mem_singleton.mpr (.unmatched _))

theorem confined_canonicalize (url : RawText) :
    (canonicalize url).Confined (fun failure => failure = .malformedUrl) Logging := by
  unfold canonicalize
  split
  · exact (confined_validate _).bind fun canonical _ => .ok _
  · dsimp only
    split
    · exact .failed rfl (List.forall_mem_singleton.mpr (.rejected _))
    · exact .failed rfl (List.forall_mem_singleton.mpr (.unmatched _))

end RepositoryUrl

namespace Registry

/-- Making a registry of URLs fails and logs as bringing them into canonical form does. -/
theorem confined_ofUrls {canonicalize : Canonicalize}
    (h : ∀ url, (canonicalize url).Confined failures events) (urls : List RawText) :
    (ofUrls canonicalize urls).Confined failures events := by
  induction urls with
  | nil => exact .ok _
  | cons url rest ih => exact (h url).bind fun canonical _ => ih.bind fun registry _ => .ok _

/-- Registering a URL logs its canonical form besides. -/
theorem confined_register {canonicalize : Canonicalize} {url : RawText}
    (h : (canonicalize url).Confined failures events)
    (hregistered : ∀ canonical, events (registered canonical)) :
    Action.Confined failures events (register canonicalize url) := by
  refine (Action.Confined.lift h).bind fun canonical => ?_
  refine (Action.Confined.modify _).bind fun _ => ?_
  exact (Action.Confined.log (hregistered canonical)).bind fun _ => .pure _

end Registry

namespace TokenGenerator

/-- What generating a token can fail with. -/
inductive Failing : Failure → Prop where
  | generation : Failing .generationFailed
  | foreign (fault : Fault) : Failing (.foreign fault)

/-- What generating a token can log. -/
inductive Logging (size : Nat) : Log.Event → Prop where
  | unavailable (fault : Fault) : Logging size (unavailable size fault)
  | generated (print : String) : Logging size (generated print)

theorem confined_generate (generator : TokenGenerator) (draw : RandomBytes σ) :
    Action.Confined Failing (Logging generator.size) (generator.generate draw) := by
  intro source
  change (generator.tokenFrom (draw generator.size source).1).Confined _ _
  cases (draw generator.size source).1 with
  | error fault =>
      rw [tokenFrom]
      split
      · exact .failed .generation (List.forall_mem_singleton.mpr (.unavailable _))
      · exact .fail (.foreign _)
  | ok bytes =>
      by_cases hsize : bytes.length = generator.size
      · rw [tokenFrom_of_length hsize]
        exact .logged _ (List.forall_mem_singleton.mpr (.generated _))
      · rw [tokenFrom, if_neg hsize]
        exact .fail .generation

end TokenGenerator

namespace TokenSource

theorem confined_next : Action.Confined TokenGenerator.Failing
    (fun event => ∃ size, TokenGenerator.Logging size event) next := by
  intro source
  cases source with
  | generated generator entropy =>
      refine ((generator.confined_generate Entropy.draw entropy).mono (fun _ h => h) ?_).bind
        fun token _ => .ok _
      exact fun event h => ⟨generator.size, h⟩
  | prepared tokens last =>
      cases tokens with
      | nil => exact .logged _ (by simp)
      | cons token rest => exact .logged _ (by simp)

end TokenSource

namespace Store

open ScanAccess.Action

/-- What a store can fail with. -/
inductive Failing : Failure → Prop where
  | alreadyRegistered : Failing .alreadyRegistered
  | tokenNotFound : Failing .tokenNotFound
  | mixedOffsets : Failing .mixedOffsets
  | unencodable (report : String) : Failing (.unencodable report)

/-- What a store can log. -/
inductive Logging : Log.Event → Prop where
  | stored (print : String) (url : RawText) :
      Logging (event Log.Level.info "stored access token" print url)
  | missed (print : String) (url : RawText) :
      Logging (event Log.Level.debug "access token lookup missed" print url)
  | revoked (print : String) (url : RawText) :
      Logging (event Log.Level.info "revoked access token" print url)

/-- A report of the store logs its event, or fails for want of a fingerprint. -/
theorem confined_report {level : Log.Level} {message : String} {token url : RawText}
    (h : ∀ print, Logging (event level message print url)) :
    (report level message token url).Confined Failing Logging := by
  rw [report, fingerprint]
  cases token.encode with
  | ok bytes => exact .logged () (List.forall_mem_singleton.mpr (h _))
  | error text => exact .fail (.unencodable text)

theorem failing_current {store : Store} {now : Timestamp} {record : AccessToken}
    {failure : Failure} (h : store.current now record = .error failure) : Failing failure := by
  rw [eq_mixedOffsets_of_current_eq_error h]
  exact .mixedOffsets

theorem confined_insert (now : Timestamp) (record : AccessToken) :
    Confined Failing Logging (insert now record) := by
  intro store
  unfold insert
  dsimp only
  split
  case h_1 failure hblocked =>
    -- The failure is one of looking at the record that is there already.
    refine .failed ?_ (by simp)
    split at hblocked
    · cases hblocked
    · cases hcurrent : store.current now _ with
      | error other =>
          rw [hcurrent] at hblocked
          cases hblocked
          exact failing_current hcurrent
      | ok found =>
          rw [hcurrent] at hblocked
          cases hblocked
  case h_2 => exact .failed .alreadyRegistered (by simp)
  case h_3 => exact confined_report fun print => .stored print _

theorem confined_find (now : Timestamp) (token url : RawText) :
    Confined Failing Logging (find now token url) := by
  intro store
  unfold find
  split
  case h_1 =>
    exact (confined_report fun print => .missed print _).bind fun _ _ => .fail .tokenNotFound
  case h_2 => exact .ofExcept fun failure => failing_current

theorem confined_revoke (token url : RawText) :
    Confined Failing Logging (revoke token url) := by
  intro store
  unfold revoke
  split
  case h_1 => exact .failed .tokenNotFound (by simp)
  case h_2 => exact (confined_report fun print => .revoked print _).bind fun _ _ => .ok _

end Store

/-! ## Desks -/

namespace Desk

open ScanAccess.Action

variable {γ : Type}

/-- What a request to a desk can fail with. -/
inductive Failing (rules : Rules γ) : Failure → Prop where
  | url {url : RawText} {failure : Failure}
      (h : (rules.validateUrl url).result = .error failure) : Failing rules failure
  | registration {url : RawText} {failure : Failure}
      (h : (rules.registerUrl url).result = .error failure) : Failing rules failure
  | token {source : γ} {failure : Failure}
      (h : (rules.generateToken source).result = .error failure) : Failing rules failure
  | store {failure : Failure} (h : Store.Failing failure) : Failing rules failure
  | tokenInvalid : Failing rules .tokenInvalid
  | repositoryNotFound : Failing rules .repositoryNotFound
  | timeOutOfRange : Failing rules .timeOutOfRange

/-- What a request to a desk can log. -/
inductive Logging (rules : Rules γ) : Log.Event → Prop where
  | url {url : RawText} {event : Log.Event} (h : event ∈ (rules.validateUrl url).events) :
      Logging rules event
  | registration {url : RawText} {event : Log.Event}
      (h : event ∈ (rules.registerUrl url).events) : Logging rules event
  | token {source : γ} {event : Log.Event} (h : event ∈ (rules.generateToken source).events) :
      Logging rules event
  | store {event : Log.Event} (h : Store.Logging event) : Logging rules event
  | registered (url : RawText) : Logging rules (Registry.registered url)

section Requests

variable (rules : Rules γ)

theorem confined_validateUrl (url : RawText) :
    (rules.validateUrl url).Confined (Failing rules) (Logging rules) where
  fails _ h := .url h
  logs _ h := .url h

theorem confined_registerUrl (url : RawText) :
    (rules.registerUrl url).Confined (Failing rules) (Logging rules) where
  fails _ h := .registration h
  logs _ h := .registration h

theorem confined_generateToken :
    Confined (Failing rules) (Logging rules) rules.generateToken :=
  fun _ => ⟨fun _ h => .token h, fun _ h => .token h⟩

theorem confined_findRepository (url : RawText) :
    Confined (Failing rules) (Logging rules) (Registry.find url) := by
  intro registry
  unfold Registry.find
  split
  · exact .logged () (by simp)
  · exact .failed .repositoryNotFound (by simp)

theorem confined_atClock {α : Type} {x : Timestamp → Action Store α}
    (h : ∀ now, Confined Store.Failing Store.Logging (x now)) :
    Confined (Failing rules) (Logging rules) (atClock (γ := γ) x) :=
  fun desk => (h desk.clock desk.store).mono (fun _ => .store) (fun _ => .store)

theorem confined_findToken (token url : RawText) :
    Confined (Failing rules) (Logging rules) (findToken rules token url) := by
  refine (Confined.lift (confined_validateUrl rules url)).bind fun canonical => ?_
  exact confined_atClock rules fun now => Store.confined_find now token canonical

theorem confined_issue (request : TokenRequest) :
    Confined (Failing rules) (Logging rules) ((services rules).issue request) := by
  refine (Confined.lift (confined_validateUrl rules request.url)).bind fun url => ?_
  refine (Confined.within (confined_generateToken rules)).bind fun token => ?_
  refine Confined.bind (fun desk => .ok _) fun now => ?_
  refine Confined.bind ?_ fun _ => .pure _
  exact confined_atClock rules fun now => Store.confined_insert now _

theorem confined_check (token url : RawText) :
    Confined (Failing rules) (Logging rules) ((services rules).check token url) := by
  refine (confined_findToken rules token url).bind fun record => ?_
  cases record.isValid
  · exact .fail .tokenInvalid
  · exact .pure ()

theorem confined_verify (url : RawText) :
    Confined (Failing rules) (Logging rules) ((services rules).verify url) :=
  (Confined.lift (confined_validateUrl rules url)).bind fun canonical =>
    .within (confined_findRepository rules canonical)

theorem confined_advance (d : Duration) :
    Confined (Failing rules) (Logging rules) (advance (γ := γ) d) := by
  intro desk
  unfold advance
  split
  · exact .logged () (by simp)
  · exact .failed .timeOutOfRange (by simp)

/-- Whatever is asked of a desk, its failures and events come from where they are said to. -/
theorem confined_answer (request : DeskRequest) :
    Confined (Failing rules) (Logging rules) (answer rules request) := by
  cases request with
  | issue request => exact (confined_issue rules request).bind fun _ => .pure _
  | check token url => exact (confined_check rules token url).bind fun _ => .pure _
  | verify url => exact (confined_verify rules url).bind fun _ => .pure _
  | validateUrl url =>
      exact (Confined.lift (confined_validateUrl rules url)).bind fun _ => .pure _
  | generateToken =>
      exact (Confined.within (confined_generateToken rules)).bind fun _ => .pure _
  | now => exact Confined.bind (fun desk => .ok _) fun _ => .pure _
  | storeToken record =>
      refine Confined.bind ?_ fun _ => .pure _
      exact confined_atClock rules fun now => Store.confined_insert now record
  | findToken token url => exact (confined_findToken rules token url).bind fun _ => .pure _
  | findRepository url =>
      exact (Confined.within (confined_findRepository rules url)).bind fun _ => .pure _
  | lookUp token url =>
      refine Confined.bind ?_ fun _ => .pure _
      exact confined_atClock rules fun now => Store.confined_find now token url
  | revoke token url =>
      refine Confined.bind (.within ?_) fun _ => .pure _
      exact (Store.confined_revoke token url).mono (fun _ => .store) (fun _ => .store)
  | register url =>
      refine Confined.bind (.within ?_) fun _ => .pure _
      exact Registry.confined_register (confined_registerUrl rules url) .registered
  | unregister url =>
      refine Confined.bind (.within ?_) fun _ => .pure _
      exact (Confined.lift (confined_registerUrl rules url)).bind fun _ => .modify _
  | contains url => exact Confined.get.bind fun _ => .pure _
  | setClock time => exact (Confined.modify _).bind fun _ => .pure _
  | advance duration => exact (confined_advance rules duration).bind fun _ => .pure _

end Requests

end Desk

end ScanAccess
