import ScanAccess.Proofs.DeskRun

/-! # Issuing the same token again

A source may give out a token more than once. A desk issues it again for the same
repository only if it is of no use any more, so that no issued record is ever
replaced while it is valid. A failure leaves all records as they were, except the failure
to log a token without a form in UTF-8: its record is in the store by then.
-/

namespace ScanAccess.Desk

open ScanAccess.Action Ledger

variable {γ : Type}

section Visits

variable (rules : Rules γ) (now : Timestamp) (request : TokenRequest) (desk : Desk γ)

/-- Issuing never touches the registry. -/
theorem serve_issue_registry :
    (serve ⟨rules, now, .issue request⟩ desk).state.registry = desk.registry := by
  rw [serve, answer_issue_state]
  exact leaves_issue (fun _ _ => rfl) (fun _ _ => rfl) rules request { desk with clock := now }

/-- An issued record is the only change to the store. A failure is none, unless a record was put
there that cannot be logged. -/
theorem serve_issue_store :
    (∃ failure, (serve ⟨rules, now, .issue request⟩ desk).result = .error failure ∧
      (serve ⟨rules, now, .issue request⟩ desk).state.store = desk.store) ∨
    ∃ record, Issuable rules request { desk with clock := now } record ∧
      (serve ⟨rules, now, .issue request⟩ desk).result =
        (Store.noted record.token).map (fun _ => .record record) ∧
      (serve ⟨rules, now, .issue request⟩ desk).state.store = desk.store.put record := by
  rw [serve, answer_issue_result, answer_issue_state]
  by_cases hsome : ∃ record, Issuable rules request { desk with clock := now } record
  · obtain ⟨record, hissuable⟩ := hsome
    obtain ⟨hresult, hstore⟩ := issue_of_issuable hissuable
    refine Or.inr ⟨record, hissuable, ?_, hstore⟩
    rw [hresult]
    cases Store.noted record.token <;> rfl
  · obtain ⟨⟨failure, hresult⟩, hstore⟩ := issue_of_not_issuable (not_exists.mp hsome)
    exact Or.inl ⟨failure, by rw [hresult]; rfl, hstore⟩

end Visits

section Runs

variable {visits : List (Visit γ)} {desk : Desk γ} {record again : AccessToken}
  {past between future : List (Visit γ × Except Failure DeskReply)}
  {first second : Visit γ × Except Failure DeskReply}

/-- Between two times that a token was issued for a repository, it was revoked, or the earlier
record has expired. -/
theorem revoked_or_expired_of_issued_again
    (hdirect : ∀ visit ∈ visits, ∀ other, visit.request ≠ .storeToken other)
    (hhistory : history serve visits desk = past ++ first :: between ++ second :: future)
    (hfirst : Issued first record) (hsecond : Issued second again) (hkey : again.key = record.key)
    (hnone : ∀ entry ∈ between, ∀ other, Issued entry other → other.key ≠ record.key) :
    (∃ entry ∈ between, Revoked entry record.key) ∨
      record.Expired desk.store.maxAge second.1.now := by
  obtain ⟨before, one, middle, two, after, rfl, -, rfl, rfl, rfl⟩ :=
    exists_of_history_eq_between serve hhistory
  let start := stateAfter serve before desk
  have hmiddle : ∀ visit ∈ one :: middle, ∀ other, visit.request ≠ .storeToken other :=
    fun visit hmem => hdirect visit (by simp at hmem ⊢; tauto)
  have hget := get?_stateAfter_of_issued hmiddle hfirst hnone
  obtain ⟨htoken, request, -, hissuable⟩ := issuable_of_issued hfirst
  obtain ⟨-, requestAgain, -, hissuableAgain⟩ := issuable_of_issued hsecond
  by_cases hrevoked : Deed.revoked record.key ∈
      (history serve middle (serve one start).state).map deed
  · exact Or.inl (revoked_mem_map_deed_iff.mp hrevoked)
  · right
    -- The first record is still there, so that the second was stored over it.
    rw [if_neg hrevoked, ← hkey] at hget
    have hage : (stateAfter serve (one :: middle) start).store.maxAge = desk.store.maxAge :=
      ((kept_serve record.key htoken).maxAge_stateAfter (one :: middle) start).trans
        ((kept_serve record.key htoken).maxAge_stateAfter before desk)
    rcases hissuableAgain.vacant record hget with hinvalid | hexpired
    · rw [hissuable.valid] at hinvalid
      cases hinvalid
    · rwa [← hage]

end Runs

/-- Issuing returns a record exactly if the URL is accepted, a token can be had that has a form in
UTF-8, and there is no live record under this token and the canonical URL. Then that record is all
that changes; if it fails, nothing does, unless all that is wrong is the form of the token: then
the record is there although it is not returned. In a run in which records are stored by issuing
them only, the same token is issued again for the same URL only after it was revoked or has
expired. -/
theorem issue_spares_live_records :
    (∀ (rules : Rules γ) (now : Timestamp) (request : TokenRequest) (desk : Desk γ),
      (∀ record, (serve ⟨rules, now, .issue request⟩ desk).result = .ok (.record record) ↔
        Issuable rules request { desk with clock := now } record ∧
          record.token.isEncodable = true) ∧
      (serve ⟨rules, now, .issue request⟩ desk).state.registry = desk.registry ∧
      ((∃ failure, (serve ⟨rules, now, .issue request⟩ desk).result = .error failure ∧
          (serve ⟨rules, now, .issue request⟩ desk).state.store = desk.store) ∨
        ∃ record, Issuable rules request { desk with clock := now } record ∧
          (serve ⟨rules, now, .issue request⟩ desk).result =
            (if record.token.isEncodable then .ok (.record record)
              else .error (.unencodable record.token.halfReport)) ∧
          ∀ key, (serve ⟨rules, now, .issue request⟩ desk).state.store.get? key =
            if record.key = key then some record else desk.store.get? key)) ∧
    ∀ (visits : List (Visit γ)) (desk : Desk γ)
      (past between future : List (Visit γ × Except Failure DeskReply))
      (first second : Visit γ × Except Failure DeskReply) (record again : AccessToken),
      (∀ visit ∈ visits, ∀ other, visit.request ≠ .storeToken other) →
      history serve visits desk = past ++ first :: between ++ second :: future →
      Issued first record → Issued second again → again.key = record.key →
      (∀ entry ∈ between, ∀ other, Issued entry other → other.key ≠ record.key) →
      (∃ entry ∈ between, Revoked entry record.key) ∨
        record.Expired desk.store.maxAge second.1.now := by
  refine ⟨fun rules now request desk => ⟨?_, ?_, ?_⟩, ?_⟩
  · exact serve_issue_result_eq_ok_iff rules now request desk
  · exact serve_issue_registry rules now request desk
  · rcases serve_issue_store rules now request desk with hfailed | hput
    · exact Or.inl hfailed
    · obtain ⟨record, hissuable, hresult, hstore⟩ := hput
      refine Or.inr ⟨record, hissuable, ?_, fun key => ?_⟩
      · rw [hresult, Store.noted]
        split <;> rfl
      · rw [hstore, Store.get?_put]
  · intro visits desk past between future first second record again hdirect hhistory hfirst
      hsecond hkey hnone
    exact revoked_or_expired_of_issued_again hdirect hhistory hfirst hsecond hkey hnone

theorem issue_spares_live_records_hourly :
    (serve (issuing Logged.ok ⟨0, some 0, none⟩) hourly).state.registry = .empty ∧
      (Store.sample ⟨0, some 0, none⟩).Expired (some ⟨3600000000⟩) ⟨3600000000, some 0, none⟩ := by
  let first := issuing Logged.ok ⟨0, some 0, none⟩
  let second := issuing Logged.ok ⟨3600000000, some 0, none⟩
  have hhistory : history serve [first, second] hourly =
      [] ++ (first, .ok (.record (Store.sample ⟨0, some 0, none⟩))) :: [] ++
        (second, .ok (.record (Store.sample ⟨3600000000, some 0, none⟩))) :: [] := rfl
  have hdirect : ∀ visit ∈ [first, second], ∀ other, visit.request ≠ .storeToken other := by
    intro visit hmem other
    rcases List.mem_cons.mp hmem with rfl | hmem
    · exact nofun
    · cases List.mem_singleton.mp hmem
      exact nofun
  obtain ⟨hissue, hruns⟩ := issue_spares_live_records (γ := Unit)
  constructor
  · exact (hissue first.rules first.now { url := "git:a.git" } hourly).2.1
  · have hgone := hruns [first, second] hourly [] [] [] _ _ _ _ hdirect hhistory ⟨_, rfl, rfl⟩
      ⟨_, rfl, rfl⟩ rfl (by simp)
    rcases hgone with ⟨entry, hentry, -⟩ | hexpired
    · cases hentry
    · exact hexpired

/-- A token of half of a character is stored by a request that fails. -/
theorem exists_failed_issue_that_stores :
    let visit : Visit Unit :=
      { rules := { validateUrl := Logged.ok, generateToken := Action.pure ⟨[.half 0x480]⟩ }
        now := ⟨0, some 0, none⟩
        request := .issue { url := "git:a.git" } }
    (serve visit hourly).result = .error (.unencodable (RawText.mk [.half 0x480]).halfReport) ∧
      hourly.store.size = 0 ∧ (serve visit hourly).state.store.size = 1 :=
  ⟨rfl, rfl, rfl⟩

end ScanAccess.Desk
