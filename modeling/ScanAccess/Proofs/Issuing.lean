import ScanAccess.Desk
import ScanAccess.Proofs.StoreRun

/-! # Issuing at a desk

Issuing asks for the canonical URL, a token and the time, in this order, and has
the new record stored. It can fail at the URL, at the token and at the store, and
such a failure leaves the records as they were. A token without a form in UTF-8 is
stored all the same, and issuing fails then because it cannot be logged.
-/

namespace ScanAccess.Desk

open ScanAccess.Action

variable {γ : Type}

/-- Issuing leaves all but the store and the source of tokens. -/
theorem leaves_issue {τ : Type} {part : Desk γ → τ}
    (hstore : ∀ desk store, part { desk with store } = part desk)
    (hsource : ∀ desk source, part { desk with source } = part desk) (rules : Rules γ)
    (request : TokenRequest) : Leaves part ((services rules).issue request) := by
  refine (Leaves.lift _).bind fun url => ?_
  refine (Leaves.within _ hsource).bind fun token => ?_
  refine Leaves.bind (fun _ => rfl) fun now => ?_
  exact Leaves.bind (fun desk => hstore desk _) fun _ => Leaves.pure _

/-- The record that issuing makes of a URL and a token. -/
def draft (rules : Rules γ) (clock : Timestamp) (url token : RawText) : AccessToken :=
  { token, url, createdAt := rules.issueTime.getD clock }

/-- Everything that storing a record on issue depends on: the URL, the source of tokens, and whether
the record's key is free in the store. -/
structure Issuable (rules : Rules γ) (request : TokenRequest) (desk : Desk γ)
    (record : AccessToken) : Prop where
  valid : record.isValid = true
  url : (rules.validateUrl request.url).result = .ok record.url
  token : (rules.generateToken desk.source).result = .ok record.token
  createdAt : record.createdAt = rules.issueTime.getD desk.clock
  vacant : desk.store.Vacant desk.clock record.key

theorem Issuable.draft_eq {rules : Rules γ} {request : TokenRequest} {desk : Desk γ}
    {record : AccessToken} (h : Issuable rules request desk record) :
    draft rules desk.clock record.url record.token = record := by
  obtain ⟨token, url, isValid, createdAt⟩ := record
  cases h.valid
  cases h.createdAt
  rfl

/-- There is at most one record that may be issued. -/
theorem Issuable.unique {rules : Rules γ} {request : TokenRequest} {desk : Desk γ}
    {record other : AccessToken} (h : Issuable rules request desk record)
    (hother : Issuable rules request desk other) : record = other := by
  obtain ⟨token, url, isValid, createdAt⟩ := record
  obtain ⟨token', url', isValid', createdAt'⟩ := other
  cases h.valid.trans hother.valid.symm
  cases h.url.symm.trans hother.url
  cases h.token.symm.trans hother.token
  cases h.createdAt.trans hother.createdAt.symm
  rfl

section Issue

variable {rules : Rules γ} {request : TokenRequest} {desk : Desk γ} {url token : RawText}
  {failure : Failure}

theorem issue_of_url_error (hurl : (rules.validateUrl request.url).result = .error failure) :
    ((services rules).issue request desk).result = .error failure ∧
      ((services rules).issue request desk).state = desk := by
  have hvalidate : ((services rules).validateUrl request.url desk).result = .error failure := hurl
  exact ⟨result_bind_of_error hvalidate, state_bind_of_error hvalidate⟩

theorem issue_of_token_error (hurl : (rules.validateUrl request.url).result = .ok url)
    (htoken : (rules.generateToken desk.source).result = .error failure) :
    ((services rules).issue request desk).result = .error failure ∧
      ((services rules).issue request desk).state.store = desk.store := by
  have hvalidate : ((services rules).validateUrl request.url desk).result = .ok url := hurl
  have hdraw : ((services rules).generateToken desk).result = .error failure := htoken
  have hstate : ((services rules).issue request desk).state =
      ((services rules).generateToken desk).state :=
    (state_bind_of_ok hvalidate).trans (state_bind_of_error hdraw)
  refine ⟨(result_bind_of_ok hvalidate).trans (result_bind_of_error hdraw), ?_⟩
  rw [hstate]
  rfl

/-- With a URL and a token, issuing ends as storing the new record does. -/
theorem issue_of_ok (hurl : (rules.validateUrl request.url).result = .ok url)
    (htoken : (rules.generateToken desk.source).result = .ok token) :
    ((services rules).issue request desk).result =
        (Store.insert desk.clock (draft rules desk.clock url token) desk.store).result.map
          (fun _ => draft rules desk.clock url token) ∧
      ((services rules).issue request desk).state.store =
        (Store.insert desk.clock (draft rules desk.clock url token) desk.store).state := by
  let record := draft rules desk.clock url token
  let drawn := ((services rules).generateToken desk).state
  have hvalidate : ((services rules).validateUrl request.url desk).result = .ok url := hurl
  have hdraw : ((services rules).generateToken desk).result = .ok token := htoken
  have hnow : ((services rules).now drawn).result = .ok (rules.issueTime.getD desk.clock) := rfl
  have hstate : ((services rules).issue request desk).state =
      ((services rules).storeToken record drawn).state :=
    (state_bind_of_ok hvalidate).trans <| (state_bind_of_ok hdraw).trans <|
      (state_bind_of_ok hnow).trans <|
        state_bind_pure ((services rules).storeToken record) (fun _ => record) drawn
  constructor
  · exact (result_bind_of_ok hvalidate).trans <| (result_bind_of_ok hdraw).trans <|
      (result_bind_of_ok hnow).trans <|
        result_bind_pure ((services rules).storeToken record) (fun _ => record) drawn
  · rw [hstate]
    rfl

/-- A record that may be issued is put into the store, and returned once it is logged. -/
theorem issue_of_issuable {record : AccessToken} (h : Issuable rules request desk record) :
    ((services rules).issue request desk).result =
        (Store.noted record.token).map (fun _ => record) ∧
      ((services rules).issue request desk).state.store = desk.store.put record := by
  have hwrote := Store.wrote_insert_iff.mpr h.vacant
  have hclear := Store.clearance_lookUp_eq_ok_iff.mpr h.vacant
  obtain ⟨hresult, hstate⟩ := issue_of_ok h.url h.token
  rw [h.draft_eq] at hresult hstate
  refine ⟨hresult.trans ?_, hstate.trans ?_⟩
  · rw [Store.insert_result, hclear]
    rfl
  · rw [Store.insert_state, if_pos hwrote]

/-- Without a record that may be issued, issuing fails and leaves the store as it was. -/
theorem issue_of_not_issuable (h : ∀ record, ¬ Issuable rules request desk record) :
    (∃ failure, ((services rules).issue request desk).result = .error failure) ∧
      ((services rules).issue request desk).state.store = desk.store := by
  cases hurl : (rules.validateUrl request.url).result with
  | error failure =>
      obtain ⟨hresult, hstate⟩ := @issue_of_url_error _ rules request desk _ hurl
      exact ⟨⟨failure, hresult⟩, congrArg store hstate⟩
  | ok url =>
      cases htoken : (rules.generateToken desk.source).result with
      | error failure =>
          obtain ⟨hresult, hstate⟩ := issue_of_token_error hurl htoken
          exact ⟨⟨failure, hresult⟩, hstate⟩
      | ok token =>
          let record := draft rules desk.clock url token
          have hblocked : ¬ Store.wrote (Store.insert desk.clock record desk.store).result := by
            rw [Store.wrote_insert_iff]
            exact fun hvacant => h record ⟨rfl, hurl, htoken, rfl, hvacant⟩
          obtain ⟨hresult, hstate⟩ := issue_of_ok hurl htoken
          cases hinsert : (Store.insert desk.clock record desk.store).result with
          | ok => exact absurd (by rw [hinsert]; rfl) hblocked
          | error failure =>
              rw [hinsert] at hresult
              refine ⟨⟨failure, hresult⟩, hstate.trans ?_⟩
              rw [Store.insert_state, if_neg hblocked]

/-- Issuing returns exactly the record that may be issued, if its token has a form in UTF-8. -/
theorem issue_result_eq_ok_iff {record : AccessToken} :
    ((services rules).issue request desk).result = .ok record ↔
      Issuable rules request desk record ∧ record.token.isEncodable = true := by
  by_cases hsome : ∃ drafted, Issuable rules request desk drafted
  · obtain ⟨drafted, hdrafted⟩ := hsome
    rw [(issue_of_issuable hdrafted).1, Store.noted]
    constructor
    · intro h
      split at h
      next htoken =>
        cases h
        exact ⟨hdrafted, htoken⟩
      next => cases h
    · rintro ⟨hissuable, htoken⟩
      cases hissuable.unique hdrafted
      rw [if_pos htoken]
      rfl
  · have hnone := not_exists.mp hsome
    obtain ⟨failure, hfailure⟩ := (issue_of_not_issuable hnone).1
    rw [hfailure]
    constructor
    · intro h
      cases h
    · rintro ⟨hissuable, -⟩
      exact absurd hissuable (hnone record)

/-- An issued record is put into the store. -/
theorem issue_store_of_ok {record : AccessToken}
    (h : ((services rules).issue request desk).result = .ok record) :
    ((services rules).issue request desk).state.store = desk.store.put record :=
  (issue_of_issuable (issue_result_eq_ok_iff.mp h).1).2

/-- A failure to issue leaves the store as it was, unless it is the failure to log a record that
was put into it. -/
theorem issue_store_of_error
    (h : ((services rules).issue request desk).result = .error failure) :
    ((services rules).issue request desk).state.store = desk.store ∨
      ∃ record, Issuable rules request desk record ∧ record.token.isEncodable = false ∧
        failure = .unencodable record.token.halfReport ∧
        ((services rules).issue request desk).state.store = desk.store.put record := by
  by_cases hsome : ∃ record, Issuable rules request desk record
  · obtain ⟨record, hrecord⟩ := hsome
    obtain ⟨hresult, hstate⟩ := issue_of_issuable hrecord
    rw [hresult, Store.noted] at h
    split at h
    next => cases h
    next htoken =>
      cases h
      exact Or.inr ⟨record, hrecord, Bool.eq_false_iff.mpr htoken, rfl, hstate⟩
  · exact Or.inl (issue_of_not_issuable (not_exists.mp hsome)).2

end Issue

end ScanAccess.Desk
