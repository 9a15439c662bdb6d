import ScanAccess.Proofs.Chains
import ScanAccess.Proofs.Ledger

/-! # Runs of a store

A run of a store is a list of visits, each with a reading of the clock of its
own, so that nothing is assumed of how time goes on. What a visit answers depends
on what is found under its key; what it does to the records is told by its entry
in the history. A visit logs what it did after it was done, and the log fails for a
token without a fingerprint: such a failure is the trace of a record that was written.
-/

namespace ScanAccess.Store

open ScanAccess.Action

/-- What can be asked of a store. -/
inductive Request where
  | insert (record : AccessToken)
  | find (token url : RawText)
  | revoke (token url : RawText)
  deriving DecidableEq

/-- A request at a reading of the store's clock. -/
structure Visit where
  now : Timestamp
  request : Request
  deriving DecidableEq

/-- The token that a visit is about. -/
def Visit.token : Visit → RawText
  | ⟨_, .insert record⟩ => record.token
  | ⟨_, .find token _⟩ => token
  | ⟨_, .revoke token _⟩ => token

/-- Answers a visit. There is no record to return when one is stored. -/
def serve : Visit → Action Store (Option AccessToken)
  | ⟨now, .insert record⟩ => do
    insert now record
    return none
  | ⟨now, .find token url⟩ => do return some (← find now token url)
  | ⟨_, .revoke token url⟩ => do return some (← revoke token url)

/-- Whether a request that writes got as far as that, by its answer: there is one, or it failed
where it was to be logged. -/
def wrote {α : Type} : Except Failure α → Bool
  | .ok _ => true
  | .error (.unencodable _) => true
  | .error _ => false

/-- What an answered visit did to the records. Finding does nothing to them, nor does a visit
that fails before it writes. -/
def deed : Visit × Except Failure (Option AccessToken) → Deed
  | (⟨_, .insert record⟩, answer) => if wrote answer then .stored record else .nothing
  | (⟨_, .revoke token url⟩, answer) => if wrote answer then .revoked (token, url) else .nothing
  | (⟨_, .find _ _⟩, _) => .nothing

/-- How a log about a token ends: it fails if the token has no form in UTF-8. -/
def noted (token : RawText) : Except Failure Unit :=
  if token.isEncodable then .ok () else .error (.unencodable token.halfReport)

/-- The failure of a search that finds nothing, which is logged before it is reported. -/
def missed (token : RawText) : Failure :=
  if token.isEncodable then .tokenNotFound else .unencodable token.halfReport

/-- What is found under a key at a time. -/
def lookUp (store : Store) (now : Timestamp) (key : RawText × RawText) :
    Except Failure AccessToken :=
  match store.get? key with
  | none => .error .tokenNotFound
  | some record => store.current now record

/-- Whether a record may be stored where this was found: there is none, or it is invalid. -/
def clearance : Except Failure AccessToken → Except Failure Unit
  | .ok found => if found.isValid then .error .alreadyRegistered else .ok ()
  | .error failure => if failure = .tokenNotFound then .ok () else .error failure

theorem clearance_eq_ok_iff {found : Except Failure AccessToken} :
    clearance found = .ok () ↔
      found = .error .tokenNotFound ∨ ∃ record, found = .ok record ∧ record.isValid = false := by
  cases found <;> simp [clearance]

variable {store : Store} {now : Timestamp} {record : AccessToken} {token url : RawText}
  {key : RawText × RawText}

theorem key_of_get? (h : store.get? key = some record) : record.key = key := by
  simpa using List.find?_some h

/-- That a record cannot be shown has one reason only. -/
theorem eq_mixedOffsets_of_current_eq_error {failure : Failure}
    (h : store.current now record = .error failure) : failure = .mixedOffsets := by
  rw [current_eq] at h
  unfold AccessToken.shown at h
  split at h
  · split at h
    · cases h
    · split at h <;> cases h
      rfl
  · cases h

theorem current_ne_tokenNotFound : store.current now record ≠ .error .tokenNotFound := by
  intro h
  cases eq_mixedOffsets_of_current_eq_error h

theorem lookUp_eq_tokenNotFound_iff :
    store.lookUp now key = .error .tokenNotFound ↔ store.get? key = none := by
  rw [lookUp]
  cases store.get? key <;> simp [current_ne_tokenNotFound]

theorem report_result {level : Log.Level} {message : String} :
    (report level message token url).result = noted token := by
  rw [report, noted, fingerprint, RawText.encode, RawText.isEncodable]
  cases token.toString? <;> rfl

theorem noted_bind_tokenNotFound {α : Type} :
    ((noted token).bind fun _ => (.error .tokenNotFound : Except Failure α)) =
      .error (missed token) := by
  unfold noted missed
  split <;> rfl

/-- What is there is found, and a miss is reported after it is logged. -/
theorem find_result :
    (find now token url store).result =
      match store.get? (token, url) with
      | none => .error (missed token)
      | some record => store.current now record := by
  rw [find]
  cases store.get? (token, url) with
  | some record => rfl
  | none =>
      dsimp only
      rw [Logged.result_bind, report_result]
      exact noted_bind_tokenNotFound

@[simp] theorem find_state : (find now token url store).state = store := by
  rw [find]
  cases store.get? (token, url) <;> rfl

/-- For a token that can be logged, a search ends as the look-up does. -/
theorem find_result_of_encodable (h : token.isEncodable = true) :
    (find now token url store).result = store.lookUp now (token, url) := by
  rw [find_result, lookUp, missed, if_pos h]

theorem find_result_of_lookUp_eq_ok (h : store.lookUp now (token, url) = .ok record) :
    (find now token url store).result = .ok record := by
  rw [lookUp] at h
  rw [find_result]
  cases hget : store.get? (token, url) with
  | none =>
      rw [hget] at h
      cases h
  | some held =>
      rw [hget] at h
      exact h

/-- A clearance is refused for a valid record, or for one whose age is unknown. -/
theorem eq_of_clearance_lookUp_eq_error {failure : Failure}
    (h : clearance (store.lookUp now key) = .error failure) :
    failure = .alreadyRegistered ∨ failure = .mixedOffsets := by
  rw [lookUp] at h
  cases hget : store.get? key with
  | none => simp [hget, clearance] at h
  | some held =>
      simp only [hget] at h
      cases hfound : store.current now held with
      | error failure =>
          cases eq_mixedOffsets_of_current_eq_error hfound
          simp only [hfound, clearance, reduceCtorEq, if_false, Except.error.injEq] at h
          exact Or.inr h.symm
      | ok found =>
          simp only [hfound, clearance] at h
          split at h
          · exact Or.inl (Except.error.inj h).symm
          · cases h

/-- A record is put in its place as soon as it is cleared, and logged then. -/
theorem insert_eq :
    insert now record store =
      match clearance (store.lookUp now record.key) with
      | .error failure => { result := .error failure, state := store }
      | .ok _ =>
        { toLogged := report Log.Level.info "stored access token" record.token record.url
          state := store.put record } := by
  rw [insert, lookUp]
  cases store.get? record.key with
  | none => rfl
  | some held =>
      dsimp only
      cases hfound : store.current now held with
      | error failure =>
          cases eq_mixedOffsets_of_current_eq_error hfound
          rfl
      | ok found => cases hvalid : found.isValid <;> simp [clearance, Except.map, hvalid]

/-- Whether a record is stored depends on what is found under its key; then it is logged. -/
theorem insert_result :
    (insert now record store).result =
      (clearance (store.lookUp now record.key)).bind fun _ => noted record.token := by
  rw [insert_eq]
  cases clearance (store.lookUp now record.key) with
  | error failure => rfl
  | ok => exact report_result

theorem wrote_noted : wrote (noted token) = true := by
  unfold noted
  split <;> rfl

/-- Whether a key is free at a time: there is no record under it, or one that is invalid or has
expired. -/
def Vacant (store : Store) (now : Timestamp) (key : RawText × RawText) : Prop :=
  ∀ held, store.get? key = some held → held.isValid = false ∨ held.Expired store.maxAge now

theorem clearance_lookUp_eq_ok_iff :
    clearance (store.lookUp now key) = .ok () ↔ store.Vacant now key := by
  rw [clearance_eq_ok_iff, lookUp, Vacant]
  cases store.get? key with
  | none => simp
  | some held => simp [lapsed_iff, current_ne_tokenNotFound]

/-- Records are written exactly where the key is free. -/
theorem wrote_insert_iff :
    wrote (insert now record store).result = true ↔ store.Vacant now record.key := by
  rw [insert_result, ← clearance_lookUp_eq_ok_iff]
  cases hclear : clearance (store.lookUp now record.key) with
  | ok => simp [Except.bind, wrote_noted]
  | error failure =>
      rcases eq_of_clearance_lookUp_eq_error hclear with rfl | rfl <;> simp [Except.bind, wrote]

/-- What an insertion leaves: the record is there as soon as it was written. -/
theorem insert_state :
    (insert now record store).state =
      if wrote (insert now record store).result then store.put record else store := by
  have hwrote : wrote (insert now record store).result = true ↔ store.Vacant now record.key :=
    wrote_insert_iff
  rw [← clearance_lookUp_eq_ok_iff] at hwrote
  cases hclear : clearance (store.lookUp now record.key) with
  | ok =>
      rw [if_pos (hwrote.mpr hclear), insert_eq, hclear]
  | error failure =>
      rw [if_neg (by simp [hwrote, hclear]), insert_eq, hclear]

theorem insert_state_of_ok (h : (insert now record store).result = .ok ()) :
    (insert now record store).state = store.put record := by
  rw [insert_state, h, wrote, if_pos rfl]

/-- An insertion that fails leaves the store as it was, unless what failed is to log it. -/
theorem insert_state_of_error {failure : Failure}
    (h : (insert now record store).result = .error failure) :
    (insert now record store).state = store ∨
      record.token.isEncodable = false ∧ failure = .unencodable record.token.halfReport ∧
        (insert now record store).state = store.put record := by
  cases hwrote : wrote (insert now record store).result with
  | false =>
      rw [insert_state, hwrote]
      exact Or.inl rfl
  | true =>
      have hclear := clearance_lookUp_eq_ok_iff.mpr (wrote_insert_iff.mp hwrote)
      rw [insert_result, hclear, noted] at h
      cases htoken : record.token.isEncodable with
      | true =>
          rw [htoken] at h
          cases h
      | false =>
          rw [htoken] at h
          cases h
          exact Or.inr ⟨rfl, rfl, by rw [insert_state, hwrote, if_pos rfl]⟩

theorem revoke_result :
    (revoke token url store).result =
      match store.get? (token, url) with
      | none => .error .tokenNotFound
      | some record => (noted token).map fun _ => record.invalidate := by
  rw [revoke]
  cases store.get? (token, url) with
  | none => rfl
  | some record =>
      dsimp only
      rw [Logged.result_bind, report_result]
      cases noted token <;> rfl

theorem revoke_state :
    (revoke token url store).state =
      match store.get? (token, url) with
      | none => store
      | some record => store.put record.invalidate := by
  rw [revoke]
  cases store.get? (token, url) <;> rfl

/-- A revocation that fails leaves the store as it was, unless what failed is to log it. -/
theorem revoke_state_of_error {failure : Failure}
    (h : (revoke token url store).result = .error failure) :
    (revoke token url store).state = store ∨
      token.isEncodable = false ∧ failure = .unencodable token.halfReport := by
  rw [revoke_result] at h
  rw [revoke_state]
  cases hget : store.get? (token, url) with
  | none => exact Or.inl rfl
  | some record =>
      rw [hget, noted] at h
      cases htoken : token.isEncodable with
      | true =>
          rw [htoken] at h
          cases h
      | false =>
          rw [htoken] at h
          cases h
          exact Or.inr ⟨rfl, rfl⟩

/-! ## Visits -/

@[simp] theorem serve_insert_result :
    (serve ⟨now, .insert record⟩ store).result =
      (insert now record store).result.map fun _ => none :=
  result_bind_pure (insert now record) (fun _ => none) store

@[simp] theorem serve_insert_state :
    (serve ⟨now, .insert record⟩ store).state = (insert now record store).state :=
  state_bind_pure (insert now record) (fun _ => (none : Option AccessToken)) store

@[simp] theorem serve_find_result :
    (serve ⟨now, .find token url⟩ store).result = (find now token url store).result.map some :=
  result_bind_pure (find now token url) some store

@[simp] theorem serve_find_state : (serve ⟨now, .find token url⟩ store).state = store :=
  (state_bind_pure (find now token url) some store).trans find_state

@[simp] theorem serve_revoke_result :
    (serve ⟨now, .revoke token url⟩ store).result = (revoke token url store).result.map some :=
  result_bind_pure (revoke token url) some store

@[simp] theorem serve_revoke_state :
    (serve ⟨now, .revoke token url⟩ store).state = (revoke token url store).state :=
  state_bind_pure (revoke token url) some store

@[simp] theorem wrote_map {α β : Type} (f : α → β) (answer : Except Failure α) :
    wrote (answer.map f) = wrote answer := by
  cases answer with
  | ok value => rfl
  | error failure => cases failure <;> rfl

/-- A key is revoked where there is a record under it. -/
theorem wrote_revoke :
    wrote (revoke token url store).result = (store.get? (token, url)).isSome := by
  rw [revoke_result]
  cases store.get? (token, url) with
  | none => rfl
  | some record => exact (wrote_map _ _).trans wrote_noted

/-- What a visit does to the store is told by its entry in the history. -/
theorem kept_serve (key : RawText × RawText) : Ledger.Kept key serve id deed := by
  rintro ⟨now, request⟩ store
  cases request with
  | insert record =>
      rw [serve_insert_state, insert_state, serve_insert_result, deed, wrote_map]
      split
      · exact Deed.changes_put key store record
      · exact Deed.changes_nothing key store
  | find token url =>
      rw [serve_find_state]
      exact Deed.changes_nothing key store
  | revoke token url =>
      rw [serve_revoke_state, revoke_state, serve_revoke_result, deed, wrote_map, wrote_revoke]
      cases h : store.get? (token, url) with
      | none => exact Deed.changes_nothing key store
      | some record => exact Deed.changes_revoke h (key_of_get? h) key

/-- What the visits of a run did to the records, oldest first. -/
def ledger (visits : List Visit) (store : Store) : List Deed :=
  (history serve visits store).map deed

/-- A store that was just created is empty. -/
theorem create_eq_ok {maxAge : Option Duration} (h : create maxAge = .ok store) :
    store.maxAge = maxAge ∧ store.records = [] := by
  unfold create at h
  split at h
  next => cases h; exact ⟨rfl, rfl⟩
  next => cases h

theorem get?_of_create {maxAge : Option Duration} (h : create maxAge = .ok store) :
    store.get? key = none := by
  rw [get?, (create_eq_ok h).2]
  rfl

/-! ## A sample -/

/-- A store in which records are valid for an hour. -/
def hourly : Store where
  maxAge := some ⟨3600000000⟩
  records := []
  distinct := List.nodup_nil
  maxAge_pos := by simp [Duration.isPositive]

theorem create_hourly : create (some ⟨3600000000⟩) = .ok hourly := rfl

/-- A record of one fixed token and URL. -/
def sample (createdAt : Timestamp) : AccessToken :=
  { token := "t", url := "git:a.git", createdAt }

end ScanAccess.Store
