import Mathlib.Data.List.Dedup
import ScanAccess.Proofs.StoreRun

/-! # The store as its ledger tells it

A store keeps one record under a key and forgets how it came there. The answers
of a run are nevertheless those of a specification that keeps no records at all
and looks everything up in what was done before. What comes of a visit is logged
before it is answered: for a token without a form in UTF-8 the failure of the log
takes the place of the answer, and what was written stays written.
-/

namespace ScanAccess

namespace Ledger

/-- What is found under a key at a time: the record last stored there. It is invalid if it was
stored so or revoked since, else its age decides. -/
def found (maxAge : Option Duration) (now : Timestamp) (key : RawText × RawText)
    (deeds : List Deed) : Except Failure AccessToken :=
  match lastStored key deeds with
  | none => .error .tokenNotFound
  | some record =>
    if record.isValid && !revokedSince key deeds then record.shown maxAge now
    else .ok record.invalidate

/-- What comes of a visit. A record is stored unless one is found valid under its key, and a key
is revoked whatever the time is. -/
def outcome (maxAge : Option Duration) (deeds : List Deed) :
    Store.Visit → Except Failure (Option AccessToken)
  | ⟨now, .insert record⟩ => (Store.clearance (found maxAge now record.key deeds)).map fun _ => none
  | ⟨now, .find token url⟩ => (found maxAge now (token, url) deeds).map some
  | ⟨_, .revoke token url⟩ =>
    match lastStored (token, url) deeds with
    | none => .error .tokenNotFound
    | some record => .ok (some record.invalidate)

/-- Whether what comes of a visit is logged: what was written, and a search without a find. -/
def isLogged : Store.Visit → Except Failure (Option AccessToken) → Bool
  | ⟨_, .find _ _⟩, outcome => outcome == .error .tokenNotFound
  | _, outcome => outcome.isOk

/-- What a visit answers: what came of it, once that is logged. -/
def answer (maxAge : Option Duration) (deeds : List Deed) (visit : Store.Visit) :
    Except Failure (Option AccessToken) :=
  let outcome := outcome maxAge deeds visit
  if isLogged visit outcome then (Store.noted visit.token).bind fun _ => outcome else outcome

section Answers

variable {maxAge : Option Duration} {deeds : List Deed} {visit : Store.Visit}

theorem answer_of_isLogged (h : isLogged visit (outcome maxAge deeds visit) = true) :
    answer maxAge deeds visit =
      (Store.noted visit.token).bind fun _ => outcome maxAge deeds visit :=
  if_pos h

theorem answer_of_not_isLogged (h : isLogged visit (outcome maxAge deeds visit) = false) :
    answer maxAge deeds visit = outcome maxAge deeds visit :=
  if_neg (Bool.eq_false_iff.mp h)

theorem answer_of_encodable (h : visit.token.isEncodable = true) :
    answer maxAge deeds visit = outcome maxAge deeds visit := by
  rw [answer, Store.noted, if_pos h]
  exact ite_self _

end Answers

/-- The keys under which records were stored, each as often as that happened. -/
def storedKeys (deeds : List Deed) : List (RawText × RawText) :=
  deeds.filterMap fun
    | .stored record => some record.key
    | _ => none

theorem mem_storedKeys_iff {key : RawText × RawText} {deeds : List Deed} :
    key ∈ storedKeys deeds ↔ lastStored key deeds ≠ none := by
  rw [ne_eq, lastStored_eq_none_iff, NeverStored, storedKeys, List.mem_filterMap]
  constructor
  · rintro ⟨deed, hmem, hkey⟩ hnever
    cases deed with
    | stored record => exact hnever record hmem (Option.some.inj hkey)
    | revoked other => cases hkey
    | nothing => cases hkey
  · intro hstored
    push Not at hstored
    obtain ⟨record, hmem, hkey⟩ := hstored
    exact ⟨.stored record, hmem, congrArg some hkey⟩

end Ledger

namespace Store

open ScanAccess.Action Ledger

variable {maxAge : Option Duration} {store : Store} {key : RawText × RawText}

/-- What a run leaves under a key is what its ledger tells. -/
theorem get?_of_ledger (hopen : create maxAge = .ok store) (visits : List Visit) :
    (stateAfter serve visits store).get? key =
      (lastStored key (ledger visits store)).map fun record =>
        if revokedSince key (ledger visits store) then record.invalidate else record := by
  have hempty : store.get? key = none := get?_of_create hopen
  rw [← replay_none, ← hempty]
  exact (kept_serve key).get?_stateAfter visits store

theorem mem_keys_iff : key ∈ store.records.map AccessToken.key ↔ store.get? key ≠ none := by
  simp [get?, List.find?_eq_none]

theorem lookUp_of_ledger (hopen : create maxAge = .ok store) (visits : List Visit)
    (now : Timestamp) :
    (stateAfter serve visits store).lookUp now key =
      found maxAge now key (ledger visits store) := by
  have hage : (stateAfter serve visits store).maxAge = maxAge :=
    ((kept_serve key).maxAge_stateAfter visits store).trans (create_eq_ok hopen).1
  rw [lookUp, get?_of_ledger hopen, found]
  cases lastStored key (ledger visits store) with
  | none => rfl
  | some record =>
      simp only [Option.map_some, current_eq, hage]
      cases revokedSince key (ledger visits store) with
      | true => simp
      | false =>
          cases hvalid : record.isValid with
          | true => simp [hvalid]
          | false => simp [hvalid, AccessToken.invalidate_of_not_valid hvalid]

/-- There is one record for every key that was stored. -/
theorem size_of_ledger (hopen : create maxAge = .ok store) (visits : List Visit) :
    (stateAfter serve visits store).size = (storedKeys (ledger visits store)).dedup.length := by
  -- The keys of the records and the stored keys are the same, and each list has them once.
  have hperm : ((stateAfter serve visits store).records.map AccessToken.key).Perm
      (storedKeys (ledger visits store)).dedup := by
    rw [List.perm_ext_iff_of_nodup (stateAfter serve visits store).distinct (List.nodup_dedup _)]
    intro key
    rw [mem_keys_iff, get?_of_ledger hopen, List.mem_dedup, mem_storedKeys_iff, ne_eq,
      Option.map_eq_none_iff]
  rw [size, ← hperm.length_eq, List.length_map]

/-- A record is under a key exactly if one was stored there. -/
theorem get?_eq_none_of_ledger (hopen : create maxAge = .ok store) (visits : List Visit) :
    (stateAfter serve visits store).get? key = none ↔
      lastStored key (ledger visits store) = none := by
  rw [get?_of_ledger hopen, Option.map_eq_none_iff]

/-- Each visit answers as the ledger does. -/
theorem serve_result_of_ledger (hopen : create maxAge = .ok store) (visits : List Visit)
    (visit : Visit) :
    (serve visit (stateAfter serve visits store)).result =
      answer maxAge (ledger visits store) visit := by
  let deeds := ledger visits store
  obtain ⟨now, request⟩ := visit
  cases request with
  | insert record =>
      have houtcome : outcome maxAge deeds ⟨now, .insert record⟩ =
          (clearance (found maxAge now record.key deeds)).map fun _ => none := rfl
      rw [serve_insert_result, insert_result, lookUp_of_ledger hopen]
      cases hclear : clearance (found maxAge now record.key deeds) with
      | error failure =>
          rw [hclear] at houtcome
          rw [answer_of_not_isLogged (by rw [houtcome]; rfl), houtcome]
          rfl
      | ok =>
          rw [hclear] at houtcome
          rw [answer_of_isLogged (by rw [houtcome]; rfl), houtcome, Visit.token]
          cases noted record.token <;> rfl
  | find token url =>
      have houtcome : outcome maxAge deeds ⟨now, .find token url⟩ =
          ((stateAfter serve visits store).lookUp now (token, url)).map some :=
        congrArg (Except.map some) (lookUp_of_ledger hopen visits now).symm
      rw [serve_find_result, find_result]
      rw [lookUp] at houtcome
      cases hget : (stateAfter serve visits store).get? (token, url) with
      | none =>
          rw [hget] at houtcome
          rw [answer_of_isLogged (by rw [houtcome]; rfl), houtcome]
          exact noted_bind_tokenNotFound.symm
      | some held =>
          rw [hget] at houtcome
          dsimp only at houtcome ⊢
          -- What is there is found without a word, whether it is shown or has no age.
          have hquiet : isLogged ⟨now, .find token url⟩
              (((stateAfter serve visits store).current now held).map some) = false := by
            cases hcurrent : (stateAfter serve visits store).current now held with
            | ok found => rfl
            | error failure =>
                cases eq_mixedOffsets_of_current_eq_error hcurrent
                rfl
          rw [answer_of_not_isLogged (by rw [houtcome]; exact hquiet), houtcome]
  | revoke token url =>
      rw [serve_revoke_result, revoke_result, get?_of_ledger hopen]
      cases hlast : lastStored (token, url) deeds with
      | none =>
          have houtcome :
              outcome maxAge deeds ⟨now, .revoke token url⟩ = .error .tokenNotFound := by
            rw [outcome, hlast]
          rw [answer_of_not_isLogged (by rw [houtcome]; rfl), houtcome]
          rfl
      | some record =>
          have houtcome : outcome maxAge deeds ⟨now, .revoke token url⟩ =
              .ok (some record.invalidate) := by
            rw [outcome, hlast]
          rw [answer_of_isLogged (by rw [houtcome]; rfl), houtcome, Visit.token]
          cases revokedSince (token, url) (ledger visits store) <;> cases noted token <;> rfl

/-- A visit of which nothing came leaves the store as it was. -/
theorem serve_state_of_ledger (hopen : create maxAge = .ok store) (visits : List Visit)
    {visit : Visit} {failure : Failure}
    (h : outcome maxAge (ledger visits store) visit = .error failure) :
    (serve visit (stateAfter serve visits store)).state = stateAfter serve visits store := by
  obtain ⟨now, request⟩ := visit
  cases request with
  | insert record =>
      rw [outcome, ← lookUp_of_ledger hopen] at h
      rw [serve_insert_state, insert_eq]
      cases hclear : clearance ((stateAfter serve visits store).lookUp now record.key) with
      | error failure => rfl
      | ok =>
          rw [hclear] at h
          cases h
  | find token url => exact serve_find_state
  | revoke token url =>
      have hnone : (stateAfter serve visits store).get? (token, url) = none := by
        rw [get?_eq_none_of_ledger hopen]
        rw [outcome] at h
        cases hlast : lastStored (token, url) (ledger visits store) with
        | none => rfl
        | some record =>
            rw [hlast] at h
            cases h
      rw [serve_revoke_state, revoke_state, hnone]

/-- The answers of a store are those of its ledger, for every run from an empty store and every
clock, and there are as many records as keys were stored. They are what came of the visits, as long
as the tokens have a form in UTF-8; if nothing came of a visit the store is as before. -/
theorem serve_refines_ledger (hopen : create maxAge = .ok store) (visits : List Visit)
    (visit : Visit) :
    (serve visit (stateAfter serve visits store)).result =
        answer maxAge (ledger visits store) visit ∧
      (visit.token.isEncodable = true →
        answer maxAge (ledger visits store) visit = outcome maxAge (ledger visits store) visit) ∧
      (∀ failure, outcome maxAge (ledger visits store) visit = .error failure →
        (serve visit (stateAfter serve visits store)).state = stateAfter serve visits store) ∧
      (stateAfter serve visits store).size = (storedKeys (ledger visits store)).dedup.length :=
  ⟨serve_result_of_ledger hopen visits visit, answer_of_encodable,
    fun _ => serve_state_of_ledger hopen visits, size_of_ledger hopen visits⟩

theorem serve_refines_ledger_hourly :
    create (some ⟨3600000000⟩) = .ok hourly ∧
      (serve ⟨⟨3600000000, some 0, none⟩, .find "t" "git:a.git"⟩
        (stateAfter serve [⟨⟨0, some 0, none⟩, .insert (sample ⟨0, some 0, none⟩)⟩]
          hourly)).result = .ok (some (sample ⟨0, some 0, none⟩).invalidate) ∧
      (stateAfter serve [⟨⟨0, some 0, none⟩, .insert (sample ⟨0, some 0, none⟩)⟩] hourly).size =
        1 := by
  obtain ⟨hresult, hclaimed, -, hsize⟩ := serve_refines_ledger create_hourly
    [⟨⟨0, some 0, none⟩, .insert (sample ⟨0, some 0, none⟩)⟩]
    ⟨⟨3600000000, some 0, none⟩, .find "t" "git:a.git"⟩
  exact ⟨create_hourly, (hresult.trans (hclaimed rfl)).trans rfl, hsize.trans (by decide)⟩

/-- A token of one half of a character. -/
def torn : RawText :=
  ⟨[.half ⟨0x480, by decide⟩]⟩

/-- A search for a token without a form in UTF-8 fails without saying that there is no record, and
storing one fails although the record is there then. -/
theorem exists_answer_that_is_not_the_outcome :
    let looked : Visit := ⟨⟨0, some 0, none⟩, .find torn "git:a.git"⟩
    let stored : Visit :=
      ⟨⟨0, some 0, none⟩,
        .insert { token := torn, url := "git:a.git", createdAt := ⟨0, some 0, none⟩ }⟩
    create none = .ok ⟨none, [], List.nodup_nil, by simp⟩ ∧
      (serve looked ⟨none, [], List.nodup_nil, by simp⟩).result =
        .error (.unencodable torn.halfReport) ∧
      (serve stored ⟨none, [], List.nodup_nil, by simp⟩).result =
        .error (.unencodable torn.halfReport) ∧
      (stateAfter serve [stored] ⟨none, [], List.nodup_nil, by simp⟩).size = 1 :=
  ⟨rfl, rfl, rfl, rfl⟩

end Store

end ScanAccess
