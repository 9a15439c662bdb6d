import ScanAccess.Proofs.History
import ScanAccess.Proofs.Issuing

/-! # Runs of a desk

A run of a desk is a list of visits. The rules and the clock may be others at
every visit, so that nothing is assumed of how time goes on or of where tokens
come from. Of all that can be asked of a desk, only issuing, storing and revoking
touch the records of its store. What they do under keys that can be logged is told by
the history; the other keys are written by failures too.
-/

namespace ScanAccess.Desk

open ScanAccess.Action

/-- A request to a desk, with the rules and the reading of the store's clock that hold at that
moment. -/
structure Visit (γ : Type) where
  rules : Rules γ
  now : Timestamp
  request : DeskRequest

variable {γ : Type}

/-- Answers a visit. -/
def serve (visit : Visit γ) : Action (Desk γ) DeskReply :=
  fun desk => answer visit.rules visit.request { desk with clock := visit.now }

/-- An entry of a history in which a record was issued. -/
def Issued (entry : Visit γ × Except Failure DeskReply) (record : AccessToken) : Prop :=
  ∃ request, entry.1.request = .issue request ∧ entry.2 = .ok (.record record)

/-- An entry of a history in which a key was revoked. -/
def Revoked (entry : Visit γ × Except Failure DeskReply) (key : RawText × RawText) : Prop :=
  entry.1.request = .revoke key.1 key.2 ∧ ∃ reply, entry.2 = .ok reply

/-- What an answered visit did to the records: a record was issued or stored as it is, or a key
revoked. -/
def deed (entry : Visit γ × Except Failure DeskReply) : Deed :=
  match entry.1.request, entry.2 with
  | .issue _, .ok (.record record) => .stored record
  | .storeToken record, .ok _ => .stored record
  | .revoke token url, .ok _ => .revoked (token, url)
  | _, _ => .nothing

/-! ## What requests leave alone -/

/-- Whether a request is meant to change the records of the store. -/
def writesStore : DeskRequest → Bool
  | .issue _ | .storeToken _ | .revoke _ _ => true
  | _ => false

theorem leaves_store_onRegistry {α : Type} (x : Action Registry α) :
    Leaves (store (γ := γ)) (onRegistry x) :=
  Leaves.within x fun _ _ => rfl

theorem leaves_store_atClock {α : Type} {x : Timestamp → Action Store α}
    (h : ∀ now, Leaves id (x now)) : Leaves (store (γ := γ)) (atClock x) :=
  fun desk => h desk.clock desk.store

theorem leaves_store_advance (d : Duration) : Leaves (store (γ := γ)) (advance d) := by
  intro desk
  unfold advance
  split <;> rfl

theorem leaves_store_findToken (rules : Rules γ) (token url : RawText) :
    Leaves store (findToken rules token url) :=
  (Leaves.lift _).bind fun _ => leaves_store_atClock fun _ _ => Store.find_state

/-- All other requests leave the store as it is. -/
theorem leaves_store_answer (rules : Rules γ) {request : DeskRequest}
    (h : writesStore request = false) : Leaves store (answer rules request) := by
  cases request with
  | issue request => cases h
  | storeToken record => cases h
  | revoke token url => cases h
  | check token url =>
      refine Leaves.bind ?_ fun _ => Leaves.pure _
      refine (leaves_store_findToken rules token url).bind fun record => ?_
      cases record.isValid
      · exact Leaves.fail _
      · exact Leaves.pure _
  | verify url =>
      refine Leaves.bind ?_ fun _ => Leaves.pure _
      exact (Leaves.lift _).bind fun _ => leaves_store_onRegistry _
  | validateUrl url => exact (Leaves.lift _).bind fun _ => Leaves.pure _
  | generateToken => exact Leaves.bind (fun _ => rfl) fun _ => Leaves.pure _
  | now => exact Leaves.bind (fun _ => rfl) fun _ => Leaves.pure _
  | findToken token url =>
      exact (leaves_store_findToken rules token url).bind fun _ => Leaves.pure _
  | findRepository url => exact (leaves_store_onRegistry _).bind fun _ => Leaves.pure _
  | lookUp token url =>
      exact (leaves_store_atClock fun _ _ => Store.find_state).bind fun _ => Leaves.pure _
  | register url => exact (leaves_store_onRegistry _).bind fun _ => Leaves.pure _
  | unregister url => exact (leaves_store_onRegistry _).bind fun _ => Leaves.pure _
  | contains url => exact Leaves.get.bind fun _ => Leaves.pure _
  | setClock time => exact Leaves.bind (fun _ => rfl) fun _ => Leaves.pure _
  | advance duration => exact (leaves_store_advance duration).bind fun _ => Leaves.pure _

/-! ## Visits -/

section Answers

variable {rules : Rules γ} {desk : Desk γ}

theorem answer_issue_result (request : TokenRequest) :
    (answer rules (.issue request) desk).result =
      ((services rules).issue request desk).result.map .record :=
  result_bind_pure ((services rules).issue request) DeskReply.record desk

theorem answer_issue_result_eq_ok_iff {request : TokenRequest} {record : AccessToken} :
    (answer rules (.issue request) desk).result = .ok (.record record) ↔
      ((services rules).issue request desk).result = .ok record := by
  rw [answer_issue_result]
  cases ((services rules).issue request desk).result <;> simp [Except.map]

theorem answer_issue_state (request : TokenRequest) :
    (answer rules (.issue request) desk).state = ((services rules).issue request desk).state :=
  state_bind_pure ((services rules).issue request) DeskReply.record desk

theorem answer_storeToken_result (record : AccessToken) :
    (answer rules (.storeToken record) desk).result =
      (Store.insert desk.clock record desk.store).result.map fun _ => .done :=
  result_bind_pure ((services rules).storeToken record) (fun _ => DeskReply.done) desk

theorem answer_storeToken_store (record : AccessToken) :
    (answer rules (.storeToken record) desk).state.store =
      (Store.insert desk.clock record desk.store).state :=
  congrArg store
    (state_bind_pure ((services rules).storeToken record) (fun _ => DeskReply.done) desk)

theorem answer_revoke_result (token url : RawText) :
    (answer rules (.revoke token url) desk).result =
      (Store.revoke token url desk.store).result.map .record :=
  result_bind_pure (onStore (Store.revoke token url)) DeskReply.record desk

theorem answer_revoke_store (token url : RawText) :
    (answer rules (.revoke token url) desk).state.store =
      (Store.revoke token url desk.store).state :=
  congrArg store (state_bind_pure (onStore (Store.revoke token url)) DeskReply.record desk)

end Answers

theorem deed_of_not_writesStore {visit : Visit γ} (h : writesStore visit.request = false)
    (result : Except Failure DeskReply) : deed (visit, result) = .nothing := by
  obtain ⟨rules, now, request⟩ := visit
  cases request with
  | issue request => cases h
  | storeToken record => cases h
  | revoke token url => cases h
  | _ => rfl

/-- A record whose token has no form in UTF-8 is under none of the keys that can be logged. -/
theorem key_ne_of_encodable {record : AccessToken} {key : RawText × RawText}
    (hkey : key.1.isEncodable = true) (htoken : record.token.isEncodable = false) :
    record.key ≠ key := by
  rintro rfl
  exact Bool.false_ne_true (htoken.symm.trans hkey)

/-- What a visit does to the records under a key that can be logged is told by its entry in the
history. -/
theorem kept_serve (key : RawText × RawText) (hkey : key.1.isEncodable = true) :
    Ledger.Kept key (serve (γ := γ)) store deed := by
  rintro ⟨rules, now, request⟩ desk
  let desk' : Desk γ := { desk with clock := now }
  change (deed (_, (answer rules request desk').result)).Changes key desk'.store
    (answer rules request desk').state.store
  -- The time of the visit is set before the request is answered, which changes no record.
  cases hwrites : writesStore request with
  | false =>
      rw [deed_of_not_writesStore hwrites, leaves_store_answer rules hwrites desk']
      exact Deed.changes_nothing key desk'.store
  | true =>
      cases request with
      | issue request =>
          rw [answer_issue_result, answer_issue_state]
          cases h : ((services rules).issue request desk').result with
          | ok record =>
              rw [issue_store_of_ok h]
              exact Deed.changes_put key desk'.store record
          | error failure =>
              rcases issue_store_of_error h with hstore | ⟨record, -, htoken, -, hstore⟩
              · rw [hstore]
                exact Deed.changes_nothing key desk'.store
              · rw [hstore]
                exact Deed.changes_put_of_ne (key_ne_of_encodable hkey htoken) desk'.store
      | storeToken record =>
          rw [answer_storeToken_result, answer_storeToken_store]
          cases h : (Store.insert desk'.clock record desk'.store).result with
          | ok =>
              rw [Store.insert_state_of_ok h]
              exact Deed.changes_put key desk'.store record
          | error failure =>
              rcases Store.insert_state_of_error h with hstore | ⟨htoken, -, hstore⟩
              · rw [hstore]
                exact Deed.changes_nothing key desk'.store
              · rw [hstore]
                exact Deed.changes_put_of_ne (key_ne_of_encodable hkey htoken) desk'.store
      | revoke token url =>
          rw [answer_revoke_result, answer_revoke_store, Store.revoke_result, Store.revoke_state]
          cases h : desk'.store.get? (token, url) with
          | none => exact Deed.changes_nothing key desk'.store
          | some record =>
              have hrecord := Store.key_of_get? h
              cases htoken : token.isEncodable with
              | true =>
                  simp only [Store.noted, htoken, if_true]
                  exact Deed.changes_revoke h hrecord key
              | false =>
                  have hheld : record.token = token := congrArg Prod.fst hrecord
                  simp only [Store.noted, htoken, Bool.false_eq_true, if_false]
                  refine Deed.changes_put_of_ne (key_ne_of_encodable hkey ?_) desk'.store
                  exact (congrArg RawText.isEncodable hheld).trans htoken
      | _ => cases hwrites

theorem serve_issue_result_eq_ok_iff (rules : Rules γ) (now : Timestamp) (request : TokenRequest)
    (desk : Desk γ) (record : AccessToken) :
    (serve ⟨rules, now, .issue request⟩ desk).result = .ok (.record record) ↔
      Issuable rules request { desk with clock := now } record ∧
        record.token.isEncodable = true :=
  answer_issue_result_eq_ok_iff.trans issue_result_eq_ok_iff

/-- What was issued is what could be issued then. -/
theorem issuable_of_issued {visit : Visit γ} {desk : Desk γ} {record : AccessToken}
    (h : Issued (visit, (serve visit desk).result) record) :
    record.token.isEncodable = true ∧
      ∃ request, visit.request = .issue request ∧
        Issuable visit.rules request { desk with clock := visit.now } record := by
  obtain ⟨rules, now, request⟩ := visit
  obtain ⟨issued, rfl, hresult⟩ := h
  obtain ⟨hissuable, htoken⟩ :=
    (serve_issue_result_eq_ok_iff rules now issued desk record).mp hresult
  exact ⟨htoken, issued, rfl, hissuable⟩

/-! ## Histories in which records are issued only -/

section Entries

variable {entry : Visit γ × Except Failure DeskReply} {record : AccessToken}
  {key : RawText × RawText}

theorem deed_eq_stored_iff (h : ∀ record, entry.1.request ≠ .storeToken record) :
    deed entry = .stored record ↔ Issued entry record := by
  obtain ⟨⟨rules, now, request⟩, result⟩ := entry
  cases request with
  | issue request =>
      cases result with
      | error failure => simp [deed, Issued]
      | ok reply => cases reply <;> simp [deed, Issued]
  | storeToken record => exact absurd rfl (h record)
  | revoke token url => cases result <;> simp [deed, Issued]
  | _ => simp [deed, Issued]

theorem deed_eq_revoked_iff : deed entry = .revoked key ↔ Revoked entry key := by
  obtain ⟨⟨rules, now, request⟩, result⟩ := entry
  cases request with
  | issue request =>
      cases result with
      | error failure => simp [deed, Revoked]
      | ok reply => cases reply <;> simp [deed, Revoked]
  | storeToken record => cases result <;> simp [deed, Revoked]
  | revoke token url => cases result <;> simp [deed, Revoked, Prod.ext_iff]
  | _ => simp [deed, Revoked]

variable {entries : List (Visit γ × Except Failure DeskReply)}

/-- Where records are only stored by issuing them, none was stored under a key under which none
was issued. -/
theorem neverStored_map_deed_iff
    (h : ∀ entry ∈ entries, ∀ record, entry.1.request ≠ .storeToken record) :
    Ledger.NeverStored key (entries.map deed) ↔
      ∀ entry ∈ entries, ∀ record, Issued entry record → record.key ≠ key := by
  constructor
  · intro hnever entry hmem record hissued
    refine hnever record (List.mem_map.mpr ⟨entry, hmem, ?_⟩)
    exact (deed_eq_stored_iff (h entry hmem)).mpr hissued
  · intro hnever record hstored
    obtain ⟨entry, hmem, hdeed⟩ := List.mem_map.mp hstored
    exact hnever entry hmem record ((deed_eq_stored_iff (h entry hmem)).mp hdeed)

theorem revoked_mem_map_deed_iff :
    Deed.revoked key ∈ entries.map deed ↔ ∃ entry ∈ entries, Revoked entry key := by
  simp [List.mem_map, deed_eq_revoked_iff]

/-- An issued record stays under its key until another one is issued there, and is invalidated if
the key is revoked meanwhile. -/
theorem get?_stateAfter_of_issued {visit : Visit γ} {visits : List (Visit γ)} {desk : Desk γ}
    (hdirect : ∀ other ∈ visit :: visits, ∀ record, other.request ≠ .storeToken record)
    (hissued : Issued (visit, (serve visit desk).result) record)
    (hnone : ∀ entry ∈ history serve visits (serve visit desk).state,
      ∀ other, Issued entry other → other.key ≠ record.key) :
    (stateAfter serve (visit :: visits) desk).store.get? record.key =
      if .revoked record.key ∈ (history serve visits (serve visit desk).state).map deed then
        some record.invalidate
      else some record := by
  have hvisit : deed (visit, (serve visit desk).result) = .stored record :=
    (deed_eq_stored_iff (hdirect visit List.mem_cons_self)).mpr hissued
  have hkept := kept_serve (γ := γ) record.key (issuable_of_issued hissued).1
  have hheld : (serve visit desk).state.store.get? record.key = some record := by
    rw [(hkept visit desk).get?, hvisit, Deed.apply, if_pos rfl]
  have hnever : Ledger.NeverStored record.key
      ((history serve visits (serve visit desk).state).map deed) := by
    refine (neverStored_map_deed_iff fun entry hmem => ?_).mpr hnone
    exact hdirect entry.1 (List.mem_cons_of_mem _ (exists_of_mem_history serve hmem).1)
  rw [stateAfter, hkept.get?_stateAfter visits (serve visit desk).state, hheld,
    hnever.replay_eq, Option.map_some]

end Entries

/-! ## A sample -/

/-- A desk where records are valid for an hour, before its first visit. -/
def hourly : Desk Unit where
  store := Store.hourly
  registry := .empty
  clock := ⟨0, some 0, none⟩
  source := ()

/-- A visit at which a record is issued, with a source that knows one token only. -/
def issuing (validateUrl : Registry.Canonicalize) (now : Timestamp) : Visit Unit where
  rules := { validateUrl, generateToken := Action.pure "t" }
  now
  request := .issue { url := "git:a.git" }

theorem serve_issuing_result {validateUrl : Registry.Canonicalize} (now : Timestamp)
    (hurl : (validateUrl "git:a.git").result = .ok "git:a.git") :
    (serve (issuing validateUrl now) hourly).result = .ok (.record (Store.sample now)) := by
  have hvacant : hourly.store.Vacant now (Store.sample now).key := by
    intro held hheld
    cases hheld
  rw [issuing, serve_issue_result_eq_ok_iff]
  exact ⟨⟨rfl, hurl, rfl, rfl, hvacant⟩, rfl⟩

end ScanAccess.Desk
