import ScanAccess.Proofs.DeskRun
import ScanAccess.Proofs.Twins

/-! # Runs without the visits that did nothing

A visit that failed, or that was not meant to change anything, leaves a desk's records
and registered repositories as they were. So it can be struck out of a run, and nothing
else in the run notices. Not so a visit that failed because its token cannot be logged:
it did all that it was meant to do.
-/

namespace ScanAccess

namespace Action

variable {ι σ τ α : Type} {act : ι → Action σ α} {keep : ι → Bool}

/-- A run of some of the steps only goes as the whole run does, if the steps that are kept depend
on a part of the state alone, and those that are left out were idle: they left this part as it was.
-/
theorem history_filter (part : σ → τ) (idle : ι × Except Failure α → Prop)
    (hkept : ∀ step, keep step = true →
      Twins (fun state other => part state = part other) Eq (act step) (act step))
    (hidle : ∀ step state, idle (step, (act step state).result) →
      part (act step state).state = part state)
    {steps : List ι} {state other : σ} (hsame : part state = part other)
    (h : ∀ entry ∈ history act steps state, keep entry.1 = false → idle entry) :
    history act (steps.filter keep) other =
        (history act steps state).filter (fun entry => keep entry.1) ∧
      part (stateAfter act (steps.filter keep) other) = part (stateAfter act steps state) := by
  induction steps generalizing state other with
  | nil => exact ⟨rfl, hsame.symm⟩
  | cons step rest ih =>
      rw [history_cons] at h ⊢
      obtain ⟨hfirst, hrest⟩ := List.forall_mem_cons.mp h
      cases hstep : keep step with
      | true =>
          -- The two runs stay in states with the same part, so the step ends alike in both.
          have halike := hkept step hstep state other hsame
          obtain ⟨hhistory, hleft⟩ := ih halike.state hrest
          simp only [List.filter_cons, hstep, if_true]
          rw [history_cons, hhistory, halike.result.eq]
          exact ⟨rfl, hleft⟩
      | false =>
          have hstays : part (act step state).state = part state :=
            hidle step state (hfirst hstep)
          simp only [List.filter_cons, hstep, Bool.false_eq_true, if_false]
          exact ih (hstays.trans hsame) hrest

end Action

namespace Registry

open ScanAccess.Action

variable {canonicalize : Canonicalize} {url : RawText} {registry : Registry} {failure : Failure}

/-- Registering fails only for want of a canonical form, before anything is changed. -/
theorem register_state_of_error
    (h : (register canonicalize url registry).result = .error failure) :
    (register canonicalize url registry).state = registry := by
  cases hurl : (canonicalize url).result with
  | error other => exact state_bind_of_error hurl
  | ok canonical =>
      have hregister : (register canonicalize url registry).result = .ok canonical :=
        result_bind_of_ok hurl
      cases hregister.symm.trans h

theorem unregister_state_of_error
    (h : (unregister canonicalize url registry).result = .error failure) :
    (unregister canonicalize url registry).state = registry := by
  cases hurl : (canonicalize url).result with
  | error other => exact state_bind_of_error hurl
  | ok canonical =>
      have hunregister : (unregister canonicalize url registry).result = .ok () :=
        result_bind_of_ok hurl
      cases hunregister.symm.trans h

end Registry

namespace Desk

open ScanAccess.Action

variable {γ : Type}

/-- Whether a request is meant to change the registered repositories. -/
def writesRegistry : DeskRequest → Bool
  | .register _ | .unregister _ => true
  | _ => false

theorem leaves_registry_onStore {α : Type} (x : Action Store α) :
    Leaves (registry (γ := γ)) (onStore x) :=
  Leaves.within x fun _ _ => rfl

theorem leaves_registry_atClock {α : Type} (x : Timestamp → Action Store α) :
    Leaves (registry (γ := γ)) (atClock x) :=
  fun desk => leaves_registry_onStore (x desk.clock) desk

theorem leaves_registry_advance (d : Duration) : Leaves (registry (γ := γ)) (advance d) := by
  intro desk
  unfold advance
  split <;> rfl

theorem leaves_registry_findToken (rules : Rules γ) (token url : RawText) :
    Leaves registry (findToken rules token url) :=
  (Leaves.lift _).bind fun _ => leaves_registry_atClock _

/-- Looking a repository up leaves everything as it is. -/
theorem findRepository_state (url : RawText) (desk : Desk γ) :
    (onRegistry (Registry.find url) desk).state = desk := by
  unfold onRegistry Action.within Registry.find
  split <;> rfl

/-- All other requests leave the registry as it is. -/
theorem leaves_registry_answer (rules : Rules γ) {request : DeskRequest}
    (h : writesRegistry request = false) : Leaves registry (answer rules request) := by
  cases request with
  | register url => cases h
  | unregister url => cases h
  | issue request =>
      refine Leaves.bind ?_ fun _ => Leaves.pure _
      exact leaves_issue (fun _ _ => rfl) (fun _ _ => rfl) rules request
  | check token url =>
      refine Leaves.bind ?_ fun _ => Leaves.pure _
      refine (leaves_registry_findToken rules token url).bind fun record => ?_
      cases record.isValid
      · exact Leaves.fail _
      · exact Leaves.pure _
  | verify url =>
      refine Leaves.bind ?_ fun _ => Leaves.pure _
      refine (Leaves.lift _).bind fun canonical desk => ?_
      exact congrArg registry (findRepository_state canonical desk)
  | validateUrl url => exact (Leaves.lift _).bind fun _ => Leaves.pure _
  | generateToken => exact Leaves.bind (fun _ => rfl) fun _ => Leaves.pure _
  | now => exact Leaves.bind (fun _ => rfl) fun _ => Leaves.pure _
  | storeToken record => exact (leaves_registry_atClock _).bind fun _ => Leaves.pure _
  | findToken token url =>
      exact (leaves_registry_findToken rules token url).bind fun _ => Leaves.pure _
  | findRepository url =>
      refine Leaves.bind (fun desk => ?_) fun _ => Leaves.pure _
      exact congrArg registry (findRepository_state url desk)
  | lookUp token url => exact (leaves_registry_atClock _).bind fun _ => Leaves.pure _
  | revoke token url => exact (leaves_registry_onStore _).bind fun _ => Leaves.pure _
  | contains url => exact Leaves.get.bind fun _ => Leaves.pure _
  | setClock time => exact Leaves.bind (fun _ => rfl) fun _ => Leaves.pure _
  | advance duration => exact (leaves_registry_advance duration).bind fun _ => Leaves.pure _

/-! ## Failures -/

section Failures

variable {rules : Rules γ} {desk : Desk γ} {failure : Failure}

theorem answer_register_result (url : RawText) :
    (answer rules (.register url) desk).result =
      (Registry.register rules.registerUrl url desk.registry).result.map .text :=
  result_bind_pure (onRegistry (Registry.register rules.registerUrl url)) DeskReply.text desk

theorem answer_register_registry (url : RawText) :
    (answer rules (.register url) desk).state.registry =
      (Registry.register rules.registerUrl url desk.registry).state :=
  congrArg registry <|
    state_bind_pure (onRegistry (Registry.register rules.registerUrl url)) DeskReply.text desk

theorem answer_unregister_result (url : RawText) :
    (answer rules (.unregister url) desk).result =
      (Registry.unregister rules.registerUrl url desk.registry).result.map fun _ => .done :=
  result_bind_pure (onRegistry (Registry.unregister rules.registerUrl url))
    (fun _ => DeskReply.done) desk

theorem answer_unregister_registry (url : RawText) :
    (answer rules (.unregister url) desk).state.registry =
      (Registry.unregister rules.registerUrl url desk.registry).state :=
  congrArg registry <|
    state_bind_pure (onRegistry (Registry.unregister rules.registerUrl url))
      (fun _ => DeskReply.done) desk

/-- Whether the token that a request writes to the store has a form in UTF-8, so that what is
written can be logged. -/
def WritesEncodable (rules : Rules γ) : DeskRequest → Prop
  | .issue _ => ∀ source token, (rules.generateToken source).result = .ok token →
      token.isEncodable = true
  | .storeToken record => record.token.isEncodable = true
  | .revoke token _ => token.isEncodable = true
  | _ => True

/-- A request that fails leaves the store as it was, unless it fails to log what it wrote. -/
theorem answer_store_of_error {request : DeskRequest}
    (h : (answer rules request desk).result = .error failure)
    (hlogged : WritesEncodable rules request ∨ ∀ report, failure ≠ .unencodable report) :
    (answer rules request desk).state.store = desk.store := by
  cases hwrites : writesStore request with
  | false => exact leaves_store_answer rules hwrites desk
  | true =>
      -- What is left to be shown is that the token had a form in UTF-8.
      have hformed {token : RawText} (htoken : WritesEncodable rules request →
          token.isEncodable = true) : ¬ (token.isEncodable = false ∧
            failure = .unencodable token.halfReport) := by
        rintro ⟨hhalf, hfailure⟩
        rcases hlogged with hwritten | hother
        · rw [htoken hwritten] at hhalf
          cases hhalf
        · exact hother _ hfailure
      cases request with
      | issue request =>
          rw [answer_issue_result] at h
          rw [answer_issue_state]
          cases hissue : ((services rules).issue request desk).result with
          | ok record =>
              rw [hissue] at h
              cases h
          | error other =>
              rw [hissue] at h
              cases h
              rcases issue_store_of_error hissue with hstore | ⟨record, hissuable, hhalf, heq, -⟩
              · exact hstore
              · exact absurd ⟨hhalf, heq⟩ (hformed fun hall => hall _ _ hissuable.token)
      | storeToken record =>
          rw [answer_storeToken_result] at h
          rw [answer_storeToken_store]
          cases hinsert : (Store.insert desk.clock record desk.store).result with
          | ok =>
              rw [hinsert] at h
              cases h
          | error other =>
              rw [hinsert] at h
              cases h
              rcases Store.insert_state_of_error hinsert with hstore | ⟨hhalf, heq, -⟩
              · exact hstore
              · exact absurd ⟨hhalf, heq⟩ (hformed id)
      | revoke token url =>
          rw [answer_revoke_result] at h
          rw [answer_revoke_store]
          cases hrevoke : (Store.revoke token url desk.store).result with
          | ok record =>
              rw [hrevoke] at h
              cases h
          | error other =>
              rw [hrevoke] at h
              cases h
              rcases Store.revoke_state_of_error hrevoke with hstore | hhalf
              · exact hstore
              · exact absurd hhalf (hformed id)
      | _ => cases hwrites

/-- A request that fails leaves the registry as it was. -/
theorem answer_registry_of_error {request : DeskRequest}
    (h : (answer rules request desk).result = .error failure) :
    (answer rules request desk).state.registry = desk.registry := by
  cases hwrites : writesRegistry request with
  | false => exact leaves_registry_answer rules hwrites desk
  | true =>
      cases request with
      | register url =>
          rw [answer_register_result] at h
          rw [answer_register_registry]
          cases hregister : (Registry.register rules.registerUrl url desk.registry).result with
          | error other => exact Registry.register_state_of_error hregister
          | ok canonical =>
              rw [hregister] at h
              cases h
      | unregister url =>
          rw [answer_unregister_result] at h
          rw [answer_unregister_registry]
          cases hunregister : (Registry.unregister rules.registerUrl url desk.registry).result with
          | error other => exact Registry.unregister_state_of_error hunregister
          | ok =>
              rw [hunregister] at h
              cases h
      | _ => cases hwrites

end Failures

/-! ## Visits that can be struck out -/

/-- An entry of a history that changed neither records nor repositories: the visit failed, and not
at the log of what it wrote, or its request was not meant to change any. -/
def Idle (entry : Visit γ × Except Failure DeskReply) : Prop :=
  (∃ failure, entry.2 = .error failure ∧
    (WritesEncodable entry.1.rules entry.1.request ∨ ∀ report, failure ≠ .unencodable report)) ∨
    writesStore entry.1.request = false ∧ writesRegistry entry.1.request = false

/-- What a desk has on record: its store and its registry. -/
def holdings (desk : Desk γ) : Store × Registry :=
  (desk.store, desk.registry)

theorem holdings_of_idle {visit : Visit γ} {desk : Desk γ}
    (h : Idle (visit, (serve visit desk).result)) :
    holdings (serve visit desk).state = holdings desk := by
  rcases h with ⟨failure, hfailure, hlogged⟩ | ⟨hstore, hregistry⟩
  · exact Prod.ext (answer_store_of_error hfailure hlogged) (answer_registry_of_error hfailure)
  · exact Prod.ext (leaves_store_answer visit.rules hstore _)
      (leaves_registry_answer visit.rules hregistry _)

/-- Without a source of tokens that lasts, a visit depends on what the desk has on record. -/
theorem serve_eq_of_holdings (visit : Visit Unit) {desk other : Desk Unit}
    (h : holdings desk = holdings other) : serve visit desk = serve visit other := by
  obtain ⟨hstore, hregistry⟩ := Prod.mk.inj h
  unfold serve
  rw [hstore, hregistry]

/-- A visit of a run that is kept or struck out of it. -/
abbrev Marked : Type := Visit Unit × Bool

/-- Serves a visit, kept or not. -/
def serveMarked (marked : Marked) : Action (Desk Unit) DeskReply :=
  serve marked.1

/-- Any visits that failed or were not meant to change anything may be struck out of a run in which
the tokens and the readings of the clocks are given with the visits, except those that failed to
log what they wrote: all other visits are answered as before, and in the end the same records and
repositories are there. A visit that changes nothing is answered in the same way when it is
repeated, and even if it finds an expired record the store stays as it is. -/
theorem idle_visits_leave_no_trace (desk : Desk Unit) :
    (∀ run : List Marked,
      (∀ entry ∈ history serveMarked run desk, entry.1.2 = false → Idle (entry.1.1, entry.2)) →
      history serveMarked (run.filter Prod.snd) desk =
          (history serveMarked run desk).filter (fun entry => entry.1.2) ∧
        (stateAfter serveMarked (run.filter Prod.snd) desk).store =
          (stateAfter serveMarked run desk).store ∧
        (stateAfter serveMarked (run.filter Prod.snd) desk).registry =
          (stateAfter serveMarked run desk).registry) ∧
    ∀ visit : Visit Unit, Idle (visit, (serve visit desk).result) →
      (serve visit desk).state.store = desk.store ∧
        (serve visit desk).state.registry = desk.registry ∧
        (serve visit (serve visit desk).state).result = (serve visit desk).result := by
  constructor
  · intro run hidle
    have hkept : ∀ marked : Marked, marked.2 = true →
        Twins (fun desk other => holdings desk = holdings other) Eq (serveMarked marked)
          (serveMarked marked) := by
      intro marked _ desk other hsame
      rw [serveMarked, serve_eq_of_holdings marked.1 hsame]
      exact ⟨rfl, .refl _, rfl⟩
    obtain ⟨hhistory, hleft⟩ := history_filter holdings (fun entry => Idle (entry.1.1, entry.2))
      hkept (fun _ _ => holdings_of_idle) rfl hidle
    exact ⟨hhistory, congrArg Prod.fst hleft, congrArg Prod.snd hleft⟩
  · intro visit hidle
    have hleft := holdings_of_idle hidle
    refine ⟨congrArg Prod.fst hleft, congrArg Prod.snd hleft, ?_⟩
    rw [serve_eq_of_holdings visit hleft]

/-- The run of a token that is issued, not issued again, found expired and then checked at an
earlier time is as good as one in which it is issued and checked. -/
theorem idle_visits_leave_no_trace_hourly :
    let issued := issuing Logged.ok ⟨0, some 0, none⟩
    let checked : Visit Unit := { issued with request := .check "t" "git:a.git" }
    let run : List Marked := [(issued, true), (issued, false),
      ({ issued with now := ⟨3600000000, some 0, none⟩, request := .lookUp "t" "git:a.git" },
        false),
      (checked, true)]
    history serveMarked [(issued, true), (checked, true)] hourly =
        [((issued, true), .ok (.record (Store.sample ⟨0, some 0, none⟩))),
          ((checked, true), .ok .done)] ∧
      (stateAfter serveMarked run hourly).store.get? ("t", "git:a.git") =
        some (Store.sample ⟨0, some 0, none⟩) ∧
      (serve checked (serve checked hourly).state).result = (serve checked hourly).result := by
  intro issued checked run
  have hhistory : history serveMarked run hourly =
      [((issued, true), .ok (.record (Store.sample ⟨0, some 0, none⟩))),
        ((issued, false), .error .alreadyRegistered),
        (run[2], .ok (.record (Store.sample ⟨0, some 0, none⟩).invalidate)),
        ((checked, true), .ok .done)] := rfl
  have hidle : ∀ entry ∈ history serveMarked run hourly, entry.1.2 = false →
      Idle (entry.1.1, entry.2) := by
    rw [hhistory]
    simp only [List.forall_mem_cons, List.not_mem_nil, false_implies, implies_true, and_true]
    exact ⟨nofun, fun _ => Or.inl ⟨_, rfl, Or.inr nofun⟩, fun _ => Or.inr ⟨rfl, rfl⟩, nofun⟩
  obtain ⟨hruns, hrepeated⟩ := idle_visits_leave_no_trace hourly
  obtain ⟨hkept, hstore, -⟩ := hruns run hidle
  refine ⟨hkept.trans (by rw [hhistory]; rfl), ?_,
    (hrepeated checked (Or.inr ⟨rfl, rfl⟩)).2.2⟩
  rw [← hstore]
  rfl

/-- A token of half of a character is stored by a request that fails, and a search for it notices
when that request is struck out. -/
theorem exists_failed_visit_with_trace :
    let half : RawText := ⟨[.half 0x480]⟩
    let record : AccessToken :=
      { token := half, url := "git:a.git", createdAt := ⟨0, some 0, none⟩ }
    let stored : Visit Unit :=
      { rules := { generateToken := Action.pure half }
        now := ⟨0, some 0, none⟩
        request := .storeToken record }
    let sought : Visit Unit := { stored with request := .lookUp half "git:a.git" }
    history serve [stored, sought] hourly =
        [(stored, .error (.unencodable half.halfReport)), (sought, .ok (.record record))] ∧
      history serve [sought] hourly = [(sought, .error (.unencodable half.halfReport))] :=
  ⟨rfl, rfl⟩

end Desk

end ScanAccess
