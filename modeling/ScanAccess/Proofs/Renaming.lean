import Mathlib.Data.List.Forall2
import Mathlib.Logic.Equiv.Basic
import ScanAccess.Log.Console
import ScanAccess.Proofs.DeskRun
import ScanAccess.Proofs.Twins
import ScanAccess.TokenGenerator

/-! # Runs with other tokens

Tokens enter the log as fingerprints only, and nothing depends on a token but which
other tokens are the same. So a run in which every token is renamed, one to one and
with the same fingerprint, prints the same lines and fails where the first one does,
with the same failures.
-/

namespace ScanAccess

open ScanAccess.Action

/-- A renaming of tokens, which keeps different tokens different and all fingerprints. Where there
is no fingerprint it keeps what is said of that. -/
structure Renaming where
  rename : RawText → RawText
  injective : Function.Injective rename
  fingerprint_rename : ∀ token, fingerprint (rename token) = fingerprint token

namespace AccessToken

/-- The record of a renamed token. -/
def rename (ρ : Renaming) (record : AccessToken) : AccessToken :=
  { record with token := ρ.rename record.token }

theorem shown_rename (ρ : Renaming) (maxAge : Option Duration) (now : Timestamp)
    (record : AccessToken) :
    (record.rename ρ).shown maxAge now = (record.shown maxAge now).map (rename ρ) := by
  cases maxAge with
  | none => rfl
  | some age =>
      unfold shown
      dsimp only
      rw [apply_ite (Except.map (rename ρ))]
      rfl

end AccessToken

namespace Store

variable {ρ : Renaming} {store other : Store} {now : Timestamp} {record : AccessToken}
  {token url : RawText}

/-- The age of a record does not depend on its token. -/
theorem current_rename (hage : other.maxAge = store.maxAge) :
    other.current now (record.rename ρ) =
      (store.current now record).map (AccessToken.rename ρ) := by
  rw [current_eq, current_eq, hage, AccessToken.shown_rename,
    apply_ite (Except.map (AccessToken.rename ρ))]
  rfl

/-- A store that has the same records as another, under renamed tokens. -/
structure Renamed (ρ : Renaming) (store other : Store) : Prop where
  maxAge : other.maxAge = store.maxAge
  get? : ∀ token url,
    other.get? (ρ.rename token, url) = (store.get? (token, url)).map (AccessToken.rename ρ)

theorem Renamed.put (h : Renamed ρ store other) (record : AccessToken) :
    Renamed ρ (store.put record) (other.put (record.rename ρ)) := by
  refine ⟨h.maxAge, fun token url => ?_⟩
  have hkey : (record.rename ρ).key = (ρ.rename token, url) ↔ record.key = (token, url) := by
    simp [AccessToken.rename, AccessToken.key, ρ.injective.eq_iff]
  rw [get?_put, get?_put, h.get?]
  by_cases hsame : record.key = (token, url)
  · rw [if_pos hsame, if_pos (hkey.mpr hsame), Option.map_some]
  · rw [if_neg hsame, if_neg (mt hkey.mp hsame)]

theorem report_rename (level : Log.Level) (message : String) :
    report level message (ρ.rename token) url = report level message token url := by
  rw [report, report, ρ.fingerprint_rename]

theorem twins_insert :
    Twins (Renamed ρ) Eq (insert now record) (insert now (record.rename ρ)) := by
  intro store other h
  have hget : other.get? (record.rename ρ).key =
      (store.get? record.key).map (AccessToken.rename ρ) := h.get? record.token record.url
  have hreport (level : Log.Level) (message : String) :
      report level message (record.rename ρ).token (record.rename ρ).url =
        report level message record.token record.url := report_rename level message
  -- Under the key and under the renamed one there are the same records, of the same age, so that
  -- both stores take the same way.
  unfold insert
  rw [hget, hreport]
  cases store.get? record.key with
  | none => exact ⟨rfl, .refl _, h.put record⟩
  | some held =>
      simp only [Option.map_some, current_rename h.maxAge]
      cases store.current now held with
      | error failure => exact ⟨rfl, .error failure, h⟩
      | ok found =>
          obtain ⟨token, url, isValid, createdAt⟩ := found
          cases isValid with
          | true => exact ⟨rfl, .error .alreadyRegistered, h⟩
          | false => exact ⟨rfl, .refl _, h.put record⟩

theorem twins_find :
    Twins (Renamed ρ) (fun found again => again = found.rename ρ) (find now token url)
      (find now (ρ.rename token) url) := by
  intro store other h
  unfold find
  rw [h.get?, report_rename]
  cases store.get? (token, url) with
  | none =>
      refine ⟨rfl, ?_, h⟩
      simp only [Option.map_none, Logged.result_bind, report_result, Logged.fail,
        noted_bind_tokenNotFound]
      exact .error (missed token)
  | some record =>
      simp only [Option.map_some, current_rename h.maxAge]
      cases hfound : store.current now record with
      | error failure => exact ⟨rfl, .error failure, h⟩
      | ok found => exact ⟨rfl, .ok rfl, h⟩

theorem twins_revoke :
    Twins (Renamed ρ) (fun revoked again => again = revoked.rename ρ) (revoke token url)
      (revoke (ρ.rename token) url) := by
  intro store other h
  unfold revoke
  rw [h.get?, report_rename]
  cases store.get? (token, url) with
  | none => exact ⟨rfl, .error .tokenNotFound, h⟩
  | some record =>
      refine ⟨?_, ?_, h.put record.invalidate⟩
      · simp only [Option.map_some, Logged.bind]
        cases (report Log.Level.info "revoked access token" token url).result <;> rfl
      · simp only [Option.map_some, Logged.result_bind, report_result]
        cases noted token with
        | error failure => exact .error failure
        | ok => exact .ok rfl

end Store

namespace TokenGenerator

/-- The token made from what a source returned, as a raw text. -/
def rawFrom (generator : TokenGenerator) (drawn : Except Fault (List UInt8)) : Logged RawText :=
  (generator.tokenFrom drawn).bind fun token => .ok token

/-- A fault is never turned into a token. -/
theorem exists_rawFrom_error_result (generator : TokenGenerator) (fault : Fault) :
    ∃ failure, (generator.rawFrom (.error fault)).result = .error failure := by
  rw [rawFrom, Logged.result_bind]
  by_cases hfault : isUnavailable fault
  · exact ⟨.generationFailed, by simp [tokenFrom, hfault, Except.bind]⟩
  · exact ⟨.foreign fault, by simp [tokenFrom, hfault, Logged.fail, Except.bind]⟩

/-- Random bytes are logged only as the token that was made of them. -/
theorem rawFrom_ok_events (generator : TokenGenerator) (bytes : List UInt8) :
    (generator.rawFrom (.ok bytes)).events =
      match (generator.rawFrom (.ok bytes)).result with
      | .ok token => (fingerprint token).toOption.toList.map generated
      | .error _ => [] := by
  by_cases hsize : bytes.length = generator.size
  · simp [rawFrom, tokenFrom_of_length hsize, Logged.bind, Logged.ok, Except.toOption]
  · simp [rawFrom, tokenFrom, hsize, Logged.fail, Logged.bind]

end TokenGenerator

theorem TokenSource.next_constant (generator : TokenGenerator) (bytes : List UInt8) :
    TokenSource.next (.generated generator (.constant bytes)) =
      { toLogged := generator.rawFrom (.ok bytes)
        state := .generated generator (.constant bytes) } := rfl

/-- What a source of tokens gives, and what another gives in its place: a prepared token and the
renamed one, without a word in the log, the same fault of an entropy source, or random bytes from
which the token and the renamed one are made. -/
inductive Supplied (ρ : Renaming) : Logged RawText → Logged RawText → Prop where
  | prepared (result : Except Failure RawText) :
    Supplied ρ { result } { result := result.map ρ.rename }
  | fault (generator : TokenGenerator) (fault : Fault) :
    Supplied ρ (generator.rawFrom (.error fault)) (generator.rawFrom (.error fault))
  | drawn (generator : TokenGenerator) {bytes others : List UInt8}
    (h : (generator.rawFrom (.ok others)).result =
      (generator.rawFrom (.ok bytes)).result.map ρ.rename) :
    Supplied ρ (generator.rawFrom (.ok bytes)) (generator.rawFrom (.ok others))

namespace Supplied

variable {ρ : Renaming} {first second : Logged RawText}

theorem result (h : Supplied ρ first second) :
    EndAlike (fun token other => other = ρ.rename token) first.result second.result := by
  cases h with
  | prepared result => exact .map ρ.rename result
  | fault generator fault =>
      obtain ⟨failure, hfailure⟩ := generator.exists_rawFrom_error_result fault
      rw [hfailure]
      exact .error failure
  | drawn generator h =>
      rw [h]
      exact .map ρ.rename _

/-- A generator tells the log no more about its tokens than their fingerprints. -/
theorem events (h : Supplied ρ first second) : second.events = first.events := by
  cases h with
  | prepared result => rfl
  | fault generator fault => rfl
  | @drawn generator bytes others h =>
      rw [generator.rawFrom_ok_events, generator.rawFrom_ok_events, h]
      cases (generator.rawFrom (.ok bytes)).result with
      | error failure => rfl
      | ok token => simp only [Except.map, ρ.fingerprint_rename]

end Supplied

/-- The same request about renamed tokens. -/
def DeskRequest.rename (ρ : Renaming) : DeskRequest → DeskRequest
  | check token url => check (ρ.rename token) url
  | storeToken record => storeToken (record.rename ρ)
  | findToken token url => findToken (ρ.rename token) url
  | lookUp token url => lookUp (ρ.rename token) url
  | revoke token url => revoke (ρ.rename token) url
  | request => request

namespace Desk

variable {γ δ : Type} {ρ : Renaming} {sources : γ → δ → Prop}

/-- The same rules, but for another source of tokens, which supplies renamed ones. -/
structure Rules.Renamed (ρ : Renaming) (sources : γ → δ → Prop) (rules : Rules γ)
    (other : Rules δ) : Prop where
  validateUrl : other.validateUrl = rules.validateUrl
  registerUrl : other.registerUrl = rules.registerUrl
  issueTime : other.issueTime = rules.issueTime
  supplied : ∀ source otherSource, sources source otherSource →
    Supplied ρ (rules.generateToken source).toLogged (other.generateToken otherSource).toLogged ∧
      sources (rules.generateToken source).state (other.generateToken otherSource).state

/-- The same desk, but for renamed tokens in its store and a source of its own. -/
structure Renamed (ρ : Renaming) (sources : γ → δ → Prop) (desk : Desk γ) (other : Desk δ) :
    Prop where
  store : Store.Renamed ρ desk.store other.store
  registry : other.registry = desk.registry
  clock : other.clock = desk.clock
  source : sources desk.source other.source

section Parts

variable {α β : Type} {values : α → β → Prop}

theorem twins_onStore {x : Action Store α} {y : Action Store β}
    (h : Twins (Store.Renamed ρ) values x y) :
    Twins (Renamed ρ sources) values (onStore x) (onStore y) :=
  h.within (fun _ _ hdesk => hdesk.store)
    fun _ _ _ _ hdesk hstore => ⟨hstore, hdesk.registry, hdesk.clock, hdesk.source⟩

theorem twins_atClock {x : Timestamp → Action Store α} {y : Timestamp → Action Store β}
    (h : ∀ now, Twins (Store.Renamed ρ) values (x now) (y now)) :
    Twins (Renamed ρ sources) values (atClock x) (atClock y) := by
  intro desk other hdesk
  unfold atClock
  rw [hdesk.clock]
  exact twins_onStore (h desk.clock) desk other hdesk

theorem twins_onRegistry (x : Action Registry α) :
    Twins (Renamed ρ sources) Eq (onRegistry x) (onRegistry x) := by
  have hsame : Twins Eq Eq x x := by
    rintro registry - rfl
    exact ⟨rfl, .refl _, rfl⟩
  refine hsame.within (fun _ _ hdesk => hdesk.registry.symm) ?_
  intro desk other registry otherRegistry hdesk hregistry
  exact ⟨hdesk.store, hregistry.symm, hdesk.clock, hdesk.source⟩

theorem twins_advance (duration : Duration) :
    Twins (Renamed ρ sources) Eq (advance duration) (advance duration) := by
  intro desk other hdesk
  unfold advance
  rw [hdesk.clock]
  cases desk.clock.advance? duration with
  | none => exact ⟨rfl, .error .timeOutOfRange, hdesk⟩
  | some clock => exact ⟨rfl, .ok rfl, hdesk.store, hdesk.registry, rfl, hdesk.source⟩

end Parts

section Services

variable {rules : Rules γ} {other : Rules δ}

theorem twins_storeToken (record : AccessToken) :
    Twins (Renamed ρ sources) Eq ((services rules).storeToken record)
      ((services other).storeToken (record.rename ρ)) := by
  have hinsert : ∀ now, Twins (Store.Renamed ρ) Eq (Store.insert now record)
      (Store.insert now (record.rename ρ)) := fun _ => Store.twins_insert
  exact twins_atClock hinsert

variable (h : Rules.Renamed ρ sources rules other)

include h

theorem twins_validateUrl (url : RawText) :
    Twins (Renamed ρ sources) Eq ((services rules).validateUrl url)
      ((services other).validateUrl url) := by
  have hurl : (services other).validateUrl url = Action.lift (rules.validateUrl url) :=
    congrArg Action.lift (congrFun h.validateUrl url)
  rw [hurl]
  exact Twins.lift (rules.validateUrl url)

theorem twins_generateToken :
    Twins (Renamed ρ sources) (fun token again => again = ρ.rename token)
      (services rules).generateToken (services other).generateToken := by
  have hsource : Twins sources (fun token again => again = ρ.rename token) rules.generateToken
      other.generateToken := by
    intro source otherSource hsources
    obtain ⟨hsupplied, hleft⟩ := h.supplied source otherSource hsources
    exact ⟨hsupplied.events, hsupplied.result, hleft⟩
  exact hsource.within (fun _ _ hdesk => hdesk.source)
    fun _ _ _ _ hdesk hleft => ⟨hdesk.store, hdesk.registry, hdesk.clock, hleft⟩

theorem twins_now :
    Twins (Renamed ρ sources) Eq (services rules).now (services other).now := by
  intro desk otherDesk hdesk
  have htime : other.issueTime.getD otherDesk.clock = rules.issueTime.getD desk.clock := by
    rw [h.issueTime, hdesk.clock]
  exact ⟨rfl, .ok htime.symm, hdesk⟩

theorem twins_findToken (token url : RawText) :
    Twins (Renamed ρ sources) (fun found again => again = found.rename ρ)
      ((services rules).findToken token url) ((services other).findToken (ρ.rename token) url) := by
  refine (twins_validateUrl h url).bind ?_
  rintro canonical - rfl
  exact twins_atClock fun _ => Store.twins_find

theorem twins_issue (request : TokenRequest) :
    Twins (Renamed ρ sources) (fun record again => again = record.rename ρ)
      ((services rules).issue request) ((services other).issue request) := by
  refine (twins_validateUrl h request.url).bind ?_
  rintro url - rfl
  refine (twins_generateToken h).bind ?_
  rintro token - rfl
  refine (twins_now h).bind ?_
  rintro now - rfl
  refine (twins_storeToken { token, url, createdAt := now }).bind fun _ _ _ => ?_
  exact Twins.pure rfl

theorem twins_check (token url : RawText) :
    Twins (Renamed ρ sources) Eq ((services rules).check token url)
      ((services other).check (ρ.rename token) url) := by
  refine (twins_findToken h token url).bind ?_
  rintro record - rfl
  change Twins _ _ _ (if record.isValid then _ else _)
  cases record.isValid with
  | true => exact Twins.pure rfl
  | false => exact Twins.fail .tokenInvalid

theorem twins_verify (url : RawText) :
    Twins (Renamed ρ sources) Eq ((services rules).verify url) ((services other).verify url) := by
  refine (twins_validateUrl h url).bind ?_
  rintro canonical - rfl
  exact twins_onRegistry (Registry.find canonical)

theorem twins_answer (request : DeskRequest) :
    Twins (Renamed ρ sources) (fun _ _ => True) (answer rules request)
      (answer other (request.rename ρ)) := by
  cases request with
  | issue request => exact (twins_issue h request).bind_pure _ _
  | check token url => exact (twins_check h token url).bind_pure _ _
  | verify url => exact (twins_verify h url).bind_pure _ _
  | validateUrl url => exact (twins_validateUrl h url).bind_pure _ _
  | generateToken => exact (twins_generateToken h).bind_pure _ _
  | now => exact (twins_now h).bind_pure _ _
  | storeToken record => exact (twins_storeToken record).bind_pure _ _
  | findToken token url => exact (twins_findToken h token url).bind_pure _ _
  | findRepository url => exact (twins_onRegistry (Registry.find url)).bind_pure _ _
  | lookUp token url =>
      have hfind : ∀ now, Twins (Store.Renamed ρ) _ (Store.find now token url)
          (Store.find now (ρ.rename token) url) := fun _ => Store.twins_find
      exact (twins_atClock hfind).bind_pure _ _
  | revoke token url => exact (twins_onStore Store.twins_revoke).bind_pure _ _
  | register url =>
      change Twins _ _ (answer rules (.register url)) (answer other (.register url))
      rw [answer, answer, h.registerUrl]
      exact (twins_onRegistry (Registry.register rules.registerUrl url)).bind_pure _ _
  | unregister url =>
      change Twins _ _ (answer rules (.unregister url)) (answer other (.unregister url))
      rw [answer, answer, h.registerUrl]
      exact (twins_onRegistry (Registry.unregister rules.registerUrl url)).bind_pure _ _
  | contains url => exact Twins.get.bind_pure _ _
  | setClock time =>
      refine (Twins.modify fun desk otherDesk hdesk => ?_).bind_pure _ _
      exact ⟨hdesk.store, hdesk.registry, rfl, hdesk.source⟩
  | advance duration => exact (twins_advance duration).bind_pure _ _

end Services

/-- The same visit, with a request about renamed tokens and another source of tokens. -/
structure Visit.Renamed (ρ : Renaming) (sources : γ → δ → Prop) (visit : Visit γ)
    (other : Visit δ) : Prop where
  rules : Rules.Renamed ρ sources visit.rules other.rules
  now : other.now = visit.now
  request : other.request = visit.request.rename ρ

/-- What a run shows to the outside: for every visit the lines that it prints on a console, and
the failure with which it ends, if it fails. -/
def transcript (console : Log.Console) (visits : List (Visit γ)) (desk : Desk γ) :
    List (List String × Option Failure) :=
  visits.zipWith
    (fun visit outcome => (console.lines visit.now outcome.events, outcome.failure?))
    (runEach (visits.map serve) desk)

theorem twins_serve {visit : Visit γ} {other : Visit δ} (h : Visit.Renamed ρ sources visit other) :
    Twins (Renamed ρ sources) (fun _ _ => True) (serve visit) (serve other) := by
  intro desk otherDesk hdesk
  unfold serve
  rw [h.request, h.now]
  exact twins_answer h.rules visit.request _ _ ⟨hdesk.store, hdesk.registry, rfl, hdesk.source⟩

/-- A run shows the same if all tokens are renamed, those of its requests, those in the store and
those that its source supplies: on every console, at every level and in both modes it prints the
same lines at every visit, and it fails at the same visits with the same failures. -/
theorem transcript_eq_of_renamed (ρ : Renaming) {visits : List (Visit γ)}
    {others : List (Visit δ)} {desk : Desk γ} {other : Desk δ}
    (hvisits : List.Forall₂ (Visit.Renamed ρ sources) visits others)
    (hdesk : Renamed ρ sources desk other) (console : Log.Console) :
    transcript console others other = transcript console visits desk := by
  induction hvisits generalizing desk other with
  | nil => rfl
  | @cons visit otherVisit visits others hvisit hrest ih =>
      -- The invariant of the run is that the desks stay the same but for renamed tokens.
      have halike := twins_serve hvisit desk other hdesk
      have hrest := ih halike.state
      unfold transcript at hrest ⊢
      rw [List.map_cons, List.map_cons, runEach, runEach, List.zipWith_cons_cons,
        List.zipWith_cons_cons, hrest, halike.events, halike.failure?_eq, hvisit.now]

/-- The renaming that exchanges two tokens with the same fingerprint. -/
def exchange : Renaming where
  rename := Equiv.swap (RawText.ofString "AAAASSpt") (RawText.ofString "AAABq9ir")
  injective := Equiv.injective _
  fingerprint_rename token := by
    rw [Equiv.swap_apply_def]
    split
    next h => rw [h, fingerprint_collision]
    next =>
      split
      next h => rw [h, fingerprint_collision]
      next => rfl

/-- A desk with an empty store, which makes its tokens of the same bytes every time. -/
def drawing (bytes : List UInt8) : Desk TokenSource where
  store := Store.hourly
  registry := .empty
  clock := ⟨0, some 0, none⟩
  source := .generated ⟨6, by decide⟩ (.constant bytes)

/-- A visit of a desk that makes its tokens of six bytes. -/
def visiting (request : DeskRequest) : Visit TokenSource where
  rules := { generateToken := TokenSource.next }
  now := ⟨0, some 0, none⟩
  request

theorem transcript_eq_of_renamed_exchange :
    let first : List UInt8 := [0, 0, 0, 0x49, 0x2a, 0x6d]
    let second : List UInt8 := [0, 0, 1, 0xab, 0xd8, 0xab]
    let console := Log.Console.unconfigured { room := 900 } [] Log.Level.debug
    transcript console
        [visiting (.issue { url := "git:a.git" }), visiting (.check "AAABq9ir" "git:a.git")]
        (drawing second) =
      transcript console
        [visiting (.issue { url := "git:a.git" }), visiting (.check "AAAASSpt" "git:a.git")]
        (drawing first) := by
  intro first second console
  let generator : TokenGenerator := ⟨6, by decide⟩
  let sources : TokenSource → TokenSource → Prop := fun source other =>
    source = .generated generator (.constant first) ∧
      other = .generated generator (.constant second)
  have hfirst : String.ofList (Bytes.Base64.encode first) = "AAAASSpt" := by decide +kernel
  have hsecond : String.ofList (Bytes.Base64.encode second) = "AAABq9ir" := by decide +kernel
  have hrules (request other : DeskRequest) :
      Rules.Renamed exchange sources (visiting request).rules (visiting other).rules := by
    refine ⟨rfl, rfl, rfl, ?_⟩
    rintro - - ⟨rfl, rfl⟩
    simp only [visiting, TokenSource.next_constant]
    refine ⟨.drawn generator ?_, rfl, rfl⟩
    rw [TokenGenerator.rawFrom, TokenGenerator.rawFrom, Logged.result_bind, Logged.result_bind,
      TokenGenerator.tokenFrom_of_length rfl, TokenGenerator.tokenFrom_of_length rfl, hfirst,
      hsecond]
    exact congrArg Except.ok (Equiv.swap_apply_left _ _).symm
  have hnow (request other : DeskRequest) : (visiting other).now = (visiting request).now := rfl
  have hdesk : Renamed exchange sources (drawing first) (drawing second) :=
    ⟨⟨rfl, fun _ _ => rfl⟩, rfl, rfl, rfl, rfl⟩
  have hcheck : DeskRequest.check "AAABq9ir" "git:a.git" =
      (DeskRequest.check "AAAASSpt" "git:a.git").rename exchange := by
    refine congrArg (DeskRequest.check · "git:a.git") ?_
    exact (Equiv.swap_apply_left (RawText.ofString "AAAASSpt") (RawText.ofString "AAABq9ir")).symm
  refine transcript_eq_of_renamed exchange ?_ hdesk console
  exact .cons ⟨hrules _ _, hnow _ _, rfl⟩ (.cons ⟨hrules _ _, hnow _ _, hcheck⟩ .nil)

end Desk

end ScanAccess
