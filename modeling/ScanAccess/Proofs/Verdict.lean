import ScanAccess.Proofs.CanonicalUrl
import ScanAccess.Proofs.DeskRun

/-! # Checks as the history decides them

Whether a token is valid for a URL can be told from what was answered before. It
does not matter where tokens came from, which way the clocks went, or what was
asked about other tokens and repositories. Tokens without a form in UTF-8 have no
history: none of them is ever issued, although it may be stored.
-/

namespace ScanAccess

namespace Store

/-- If all offsets are known, a record can be shown at any time, and it is shown valid until it is
invalidated or expires. -/
theorem exists_current_eq_ok (store : Store) {now : Timestamp} (record : AccessToken)
    (hnow : now.isAware = true) (hcreated : record.createdAt.isAware = true) :
    ∃ found, store.current now record = .ok found ∧
      (found.isValid = false ↔ record.isValid = false ∨ ∃ age, store.maxAge = some age ∧
        age.microseconds ≤ now.minus record.createdAt) := by
  have hshown : ∃ found, store.current now record = .ok found := by
    rw [current_eq]
    unfold AccessToken.shown
    rw [hnow, hcreated]
    split
    · split <;> exact ⟨_, rfl⟩
    · exact ⟨_, rfl⟩
  obtain ⟨found, hfound⟩ := hshown
  have hexpired : record.Expired store.maxAge now ↔ ∃ age, store.maxAge = some age ∧
      age.microseconds ≤ now.minus record.createdAt := by
    simp [AccessToken.Expired, hnow, hcreated]
  refine ⟨found, hfound, ?_⟩
  rw [← hexpired, lapsed_iff]
  constructor
  · intro hinvalid
    exact ⟨found, hfound, hinvalid⟩
  · rintro ⟨other, hother, hinvalid⟩
    cases hfound.symm.trans hother
    exact hinvalid

end Store

namespace Desk

open ScanAccess.Action

variable {γ : Type}

/-- What a check makes of what it found. -/
def verdict : Except Failure AccessToken → Except Failure DeskReply
  | .error failure => .error failure
  | .ok found => if found.isValid then .ok .done else .error .tokenInvalid

theorem verdict_eq_tokenNotFound_iff {found : Except Failure AccessToken} :
    verdict found = .error .tokenNotFound ↔ found = .error .tokenNotFound := by
  cases found with
  | error failure => simp [verdict]
  | ok found => cases hvalid : found.isValid <;> simp [verdict, hvalid]

theorem verdict_ok_eq_tokenInvalid_iff {found : AccessToken} :
    verdict (.ok found) = .error .tokenInvalid ↔ found.isValid = false := by
  cases hvalid : found.isValid <;> simp [verdict, hvalid]

theorem verdict_ok_eq_done_iff {found : AccessToken} :
    verdict (.ok found) = .ok .done ↔ ¬ found.isValid = false := by
  cases hvalid : found.isValid <;> simp [verdict, hvalid]

/-- What is found has no failure of its own but that its age is unknown. -/
theorem verdict_current_cases (store : Store) (now : Timestamp) (record : AccessToken) :
    verdict (store.current now record) = .error .mixedOffsets ∨
      verdict (store.current now record) = .ok .done ∨
      verdict (store.current now record) = .error .tokenInvalid := by
  cases h : store.current now record with
  | error failure =>
      cases Store.eq_mixedOffsets_of_current_eq_error h
      exact Or.inl rfl
  | ok found => cases hvalid : found.isValid <;> simp [verdict, hvalid]

/-- A URL is not refused once it was brought into canonical form. -/
theorem verdict_find_ne_malformedUrl (store : Store) (now : Timestamp) (token url : RawText) :
    verdict (Store.find now token url store).result ≠ .error .malformedUrl := by
  rw [Store.find_result]
  cases store.get? (token, url) with
  | none =>
      simp only [verdict, Store.missed]
      split <;> simp
  | some record =>
      rcases verdict_current_cases store now record with h | h | h <;> simp [h]

/-- Of a token without a form in UTF-8 it is not said that it was not found. -/
theorem verdict_find_ne_tokenNotFound (store : Store) (now : Timestamp) {token : RawText}
    (htoken : token.isEncodable = false) (url : RawText) :
    verdict (Store.find now token url store).result ≠ .error .tokenNotFound := by
  rw [Store.find_result]
  cases store.get? (token, url) with
  | none => simp [verdict, Store.missed, htoken]
  | some record =>
      rcases verdict_current_cases store now record with h | h | h <;> simp [h]

section Checks

variable {rules : Rules γ} {desk : Desk γ} {token url : RawText}

theorem findToken_result :
    (findToken rules token url desk).result =
      match (rules.validateUrl url).result with
      | .error failure => .error failure
      | .ok canonical => (Store.find desk.clock token canonical desk.store).result := by
  cases hurl : (rules.validateUrl url).result with
  | error failure => exact result_bind_of_error hurl
  | ok canonical => exact result_bind_of_ok hurl

theorem answer_check_result :
    (answer rules (.check token url) desk).result =
      verdict (findToken rules token url desk).result := by
  let check := (services rules).check token url
  have hanswer : (answer rules (.check token url) desk).result =
      (check desk).result.map fun _ => .done :=
    result_bind_pure check (fun _ => DeskReply.done) desk
  rw [hanswer]
  cases hfound : (findToken rules token url desk).result with
  | error failure =>
      have hcheck : (check desk).result = .error failure := result_bind_of_error hfound
      rw [hcheck]
      rfl
  | ok found =>
      have hcheck := result_bind_of_ok (f := fun record : AccessToken =>
        if record.isValid then (return () : Action (Desk γ) Unit) else Action.fail .tokenInvalid)
        hfound
      refine (congrArg (Except.map fun _ => DeskReply.done) hcheck).trans ?_
      cases hvalid : found.isValid <;> simp [verdict, hvalid] <;> rfl

/-- A check finds the record of the canonical URL and judges it. -/
theorem serve_check_result (hrules : rules.validateUrl = RepositoryUrl.canonicalize)
    {now : Timestamp} :
    (serve ⟨rules, now, .check token url⟩ desk).result =
      match RepositoryUrl.canonicalForm? url with
      | none => .error .malformedUrl
      | some canonical => verdict (Store.find now token canonical desk.store).result := by
  rw [serve, answer_check_result, findToken_result, hrules, RepositoryUrl.canonicalize_result]
  cases RepositoryUrl.canonicalForm? url <;> rfl

end Checks

section Runs

variable {maxAge : Option Duration} {visits : List (Visit γ)} {desk : Desk γ} {record : AccessToken}

/-- There is a record under a key that can be logged exactly if one was issued there. -/
theorem get?_stateAfter_eq_none_iff (key : RawText × RawText) (hkey : key.1.isEncodable = true)
    (hopen : Store.create maxAge = .ok desk.store)
    (hdirect : ∀ visit ∈ visits, ∀ record, visit.request ≠ .storeToken record) :
    (stateAfter serve visits desk).store.get? key = none ↔
      ∀ entry ∈ history serve visits desk, ∀ record, Issued entry record → record.key ≠ key := by
  have hempty : desk.store.get? key = none := Store.get?_of_create hopen
  rw [(kept_serve key hkey).get?_stateAfter visits desk, hempty, Ledger.replay_none,
    Option.map_eq_none_iff, Ledger.lastStored_eq_none_iff]
  refine neverStored_map_deed_iff fun entry hmem => ?_
  exact hdirect entry.1 (exists_of_mem_history serve hmem).1

/-- The record that was last issued under a key is found there, and what came after that tells
whether it is found invalid. -/
theorem exists_lookUp_of_last_issued {now : Timestamp} (hnow : now.isAware = true)
    (hdirect : ∀ visit ∈ visits, ∀ record, visit.request ≠ .storeToken record)
    (haware : ∀ visit ∈ visits, (visit.rules.issueTime.getD visit.now).isAware = true)
    {earlier later : List (Visit γ × Except Failure DeskReply)}
    {entry : Visit γ × Except Failure DeskReply}
    (hpast : history serve visits desk = earlier ++ entry :: later)
    (hissued : Issued entry record)
    (hlast : ∀ next ∈ later, ∀ other, Issued next other → other.key ≠ record.key) :
    ∃ found, (stateAfter serve visits desk).store.lookUp now record.key = .ok found ∧
      (found.isValid = false ↔
        (∃ next ∈ later, Revoked next record.key) ∨ ∃ age, desk.store.maxAge = some age ∧
          age.microseconds ≤ now.minus record.createdAt) := by
  obtain ⟨before, visit, after, rfl, -, rfl, rfl⟩ := exists_of_history_eq serve hpast
  have hrest : ∀ other ∈ visit :: after, ∀ record, other.request ≠ .storeToken record :=
    fun other hmem => hdirect other (List.mem_append_right before hmem)
  have hget := get?_stateAfter_of_issued hrest hissued hlast
  obtain ⟨htoken, request, -, hissuable⟩ := issuable_of_issued hissued
  have hcreated : record.createdAt.isAware = true := by
    rw [hissuable.createdAt]
    exact haware visit (List.mem_append_right before List.mem_cons_self)
  let reached := stateAfter serve (before ++ visit :: after) desk
  rw [← stateAfter_append] at hget
  rw [← (kept_serve record.key htoken).maxAge_stateAfter (before ++ visit :: after) desk,
    Store.lookUp, hget, ← revoked_mem_map_deed_iff]
  -- A revocation shows in the record that is found, and expiry only when it is shown.
  by_cases hrevoked : Deed.revoked record.key ∈
      (history serve after (serve visit (stateAfter serve before desk)).state).map deed
  · rw [if_pos hrevoked]
    obtain ⟨found, hfound, hinvalid⟩ :=
      reached.store.exists_current_eq_ok record.invalidate hnow hcreated
    refine ⟨found, hfound, hinvalid.trans ?_⟩
    simp [hrevoked]
  · rw [if_neg hrevoked]
    obtain ⟨found, hfound, hinvalid⟩ := reached.store.exists_current_eq_ok record hnow hcreated
    refine ⟨found, hfound, hinvalid.trans ?_⟩
    simp [hrevoked, hissuable.valid, reached]

/-- No record of a token without a form in UTF-8 is issued. -/
theorem isEncodable_of_issued_mem {entry : Visit γ × Except Failure DeskReply}
    (hmem : entry ∈ history serve visits desk) (hissued : Issued entry record) :
    record.token.isEncodable = true := by
  obtain ⟨-, reached, hresult⟩ := exists_of_mem_history serve hmem
  obtain ⟨visit, result⟩ := entry
  obtain rfl : result = (serve visit reached).result := hresult
  exact (issuable_of_issued hissued).1

/-- What a check answers is decided by the history of the run, which starts with an empty store
and may interleave issuing, checking, revoking and registering as it likes. A malformed URL is
refused, a token that was not issued for the canonical URL is not found, and the one issued last
is invalid if it was revoked after that or has reached the maximal age by the clock of the check.
Offsets are known throughout, but times may go backwards. It is not said of a token without a
form in UTF-8 that it was not found, although none is issued. -/
theorem check_iff_history {rules : Rules γ} {now : Timestamp}
    (hopen : Store.create maxAge = .ok desk.store)
    (hdirect : ∀ visit ∈ visits, ∀ other, visit.request ≠ .storeToken other)
    (haware : ∀ visit ∈ visits, (visit.rules.issueTime.getD visit.now).isAware = true)
    (hrules : rules.validateUrl = RepositoryUrl.canonicalize) (hnow : now.isAware = true)
    (token url : RawText) :
    let past := history serve visits desk
    let result := (serve ⟨rules, now, .check token url⟩ (stateAfter serve visits desk)).result
    (result = .error .malformedUrl ↔ RepositoryUrl.canonicalForm? url = none) ∧
      ∀ canonical, RepositoryUrl.canonicalForm? url = some canonical →
        (token.isEncodable = true →
          (result = .error .tokenNotFound ↔
            ∀ entry ∈ past, ∀ other, Issued entry other → other.key ≠ (token, canonical))) ∧
        (token.isEncodable = false → result ≠ .error .tokenNotFound ∧
          ∀ entry ∈ past, ∀ other, Issued entry other → other.key ≠ (token, canonical)) ∧
        ∀ earlier entry later record, past = earlier ++ entry :: later → Issued entry record →
          record.key = (token, canonical) →
          (∀ next ∈ later, ∀ other, Issued next other → other.key ≠ (token, canonical)) →
          (result = .error .tokenInvalid ↔
            (∃ next ∈ later, Revoked next (token, canonical)) ∨
              ∃ age, maxAge = some age ∧ age.microseconds ≤ now.minus record.createdAt) ∧
          (result = .error .tokenInvalid ∨ result = .ok .done) := by
  intro past result
  have hresult : result = _ := serve_check_result hrules
  cases hurl : RepositoryUrl.canonicalForm? url with
  | none => simp [hresult, hurl]
  | some canonical =>
      rw [hurl] at hresult
      dsimp only at hresult
      refine ⟨?_, fun other hother => ?_⟩
      · simp [hresult, verdict_find_ne_malformedUrl]
      · cases hother
        refine ⟨fun htoken => ?_, fun htoken => ⟨?_, ?_⟩,
          fun earlier entry later record hpast hissued hkey hlast => ?_⟩
        · rw [hresult, Store.find_result_of_encodable htoken, verdict_eq_tokenNotFound_iff,
            Store.lookUp_eq_tokenNotFound_iff]
          exact get?_stateAfter_eq_none_iff (token, canonical) htoken hopen hdirect
        · rw [hresult]
          exact verdict_find_ne_tokenNotFound _ now htoken canonical
        · rintro entry hmem other hissued hkey
          have hother : other.token = token := congrArg Prod.fst hkey
          have hencodable := isEncodable_of_issued_mem hmem hissued
          rw [hother, htoken] at hencodable
          cases hencodable
        · -- Only what came after the record was issued counts, so its own key is looked up.
          obtain ⟨rfl, rfl⟩ := Prod.mk.inj hkey
          obtain ⟨found, hfound, hinvalid⟩ :=
            exists_lookUp_of_last_issued hnow hdirect haware hpast hissued hlast
          rw [(Store.create_eq_ok hopen).1] at hinvalid
          rw [hresult, Store.find_result_of_lookUp_eq_ok hfound, verdict_ok_eq_tokenInvalid_iff,
            verdict_ok_eq_done_iff]
          exact ⟨hinvalid, Classical.em _⟩

theorem check_iff_history_hourly :
    let visit := issuing RepositoryUrl.canonicalize ⟨0, some 0, none⟩
    (serve ⟨visit.rules, ⟨3600000000, some 0, none⟩, .check "t" " git:a.git/"⟩
      (stateAfter serve [visit] hourly)).result = .error .tokenInvalid := by
  intro visit
  have hcanonical : RepositoryUrl.canonical? "git:a.git" = some "git:a.git" := by decide +kernel
  have hurl : (RepositoryUrl.canonicalize "git:a.git").result = .ok "git:a.git" := by
    rw [RepositoryUrl.canonicalize_result, RepositoryUrl.canonicalForm?_ofString, hcanonical]
    rfl
  have hpast : history serve [visit] hourly =
      [] ++ (visit, .ok (.record (Store.sample ⟨0, some 0, none⟩))) :: [] := by
    rw [history_cons, history_nil, serve_issuing_result _ hurl, List.nil_append]
  have hissued : Issued (visit, .ok (.record (Store.sample ⟨0, some 0, none⟩)))
      (Store.sample ⟨0, some 0, none⟩) := ⟨{ url := "git:a.git" }, rfl, rfl⟩
  have hdirect : ∀ other ∈ [visit], ∀ record, other.request ≠ .storeToken record := by
    simp [visit, issuing]
  have haware : ∀ other ∈ [visit], (other.rules.issueTime.getD other.now).isAware = true := by
    simp [visit, issuing, Timestamp.isAware]
  have hnow : Timestamp.isAware ⟨3600000000, some 0, none⟩ = true := rfl
  have hopen : Store.create (some ⟨3600000000⟩) = .ok hourly.store := Store.create_hourly
  have hrules : visit.rules.validateUrl = RepositoryUrl.canonicalize := by simp [visit, issuing]
  have hblanks : RepositoryUrl.canonical? " git:a.git/" = some "git:a.git" := by decide +kernel
  obtain ⟨-, hfound⟩ :=
    check_iff_history hopen hdirect haware hrules hnow "t" " git:a.git/"
  obtain ⟨-, -, hjudged⟩ := hfound "git:a.git" (by
    rw [RepositoryUrl.canonicalForm?_ofString, hblanks, Option.map_some])
  obtain ⟨hinvalid, -⟩ := hjudged [] _ [] _ hpast hissued rfl (by simp)
  exact hinvalid.mpr (Or.inr ⟨⟨3600000000⟩, rfl, by decide⟩)

end Runs

/-- In an empty store there is no record of half of a character, but a check does not say so. -/
theorem exists_token_checked_without_record :
    let half : RawText := ⟨[.half 0x480]⟩
    (serve ⟨{ generateToken := Action.pure "t" }, ⟨0, some 0, none⟩, .check half "git:a.git"⟩
      hourly).result = .error (.unencodable half.halfReport) := by
  intro half
  have hcanonical : RepositoryUrl.canonical? "git:a.git" = some "git:a.git" := by decide +kernel
  rw [serve_check_result (by with_reducible rfl), RepositoryUrl.canonicalForm?_ofString, hcanonical]
  rfl

end Desk

end ScanAccess
