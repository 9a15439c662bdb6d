import Mathlib.Data.List.TakeWhile
import ScanAccess.Proofs.CanonicalUrl
import ScanAccess.Proofs.Verdict

/-! # The spellings of a URL

A canonical form is written in two ways, with a slash at its end or without, and with any blanks
around it. No other URL has this canonical form. So it is its own canonical form, a record is
found under the URL that it was stored with, and two URLs that are taken for one differ by blanks
and a slash at most.
-/

namespace ScanAccess

namespace Text

/-- A text with nothing but blanks in it. -/
def IsBlankText (text : String) : Prop :=
  ∀ c ∈ text.toList, isBlank c = true

variable {p : Char → Bool} {cs text before after : List Char}

theorem trimWhile_append (hbefore : ∀ c ∈ before, p c = true) (hafter : ∀ c ∈ after, p c = true)
    (h : ∀ c ∈ text, p c = false) : trimWhile p (before ++ text ++ after) = text := by
  have hend : ∀ c ∈ after.reverse, p c = true := fun c hc => hafter c (List.mem_reverse.mp hc)
  rw [trimWhile, List.append_assoc, List.dropWhile_append_of_pos hbefore]
  cases text with
  | nil =>
      rw [List.nil_append, List.dropWhile_eq_nil_iff.mpr hafter]
      rfl
  | cons c rest =>
      have hfirst : ¬ p c = true := Bool.eq_false_iff.mp (h c List.mem_cons_self)
      have hkept := trimWhile_eq_self h
      rw [trimWhile, List.dropWhile_cons_of_neg hfirst] at hkept
      rw [List.cons_append, List.dropWhile_cons_of_neg hfirst, ← List.cons_append,
        List.reverse_append, List.dropWhile_append_of_pos hend, hkept]

/-- A text without blanks is what is left of those texts that have it between blanks. -/
theorem trim_eq_iff {url text : String} (h : ∀ c ∈ text.toList, isBlank c = false) :
    trim url = text ↔
      ∃ before after, IsBlankText before ∧ IsBlankText after ∧ url = before ++ text ++ after := by
  constructor
  · rintro rfl
    obtain ⟨before, after, hbefore, hafter, heq⟩ := exists_trimWhile_eq isBlank url.toList
    refine ⟨String.ofList before, String.ofList after, ?_, ?_, ?_⟩
    · rwa [IsBlankText, String.toList_ofList]
    · rwa [IsBlankText, String.toList_ofList]
    · rw [← String.toList_inj, String.toList_append, String.toList_append, String.toList_ofList,
        String.toList_ofList, trim, String.toList_ofList]
      exact heq
  · rintro ⟨before, after, hbefore, hafter, rfl⟩
    rw [trim, String.toList_append, String.toList_append, trimWhile_append hbefore hafter h,
      String.ofList_toList]

end Text

namespace RepositoryUrl

open ScanAccess.Text

variable {url other canonical : String}

/-- A URL that is accepted is not logged. -/
theorem validate_eq_ok_of_result (h : (validate url).result = .ok canonical) :
    validate url = .ok canonical := by
  unfold validate at h ⊢
  dsimp only at h ⊢
  split at h
  · cases h
  · split at h
    next haccepts => simp_all [Logged.ok]
    next => cases h

/-- Neither a canonical form nor its spelling with a slash has blanks. -/
theorem IsCanonical.not_isBlank (h : IsCanonical canonical) :
    (∀ c ∈ canonical.toList, isBlank c = false) ∧
      ∀ c ∈ (canonical ++ "/").toList, isBlank c = false := by
  have hcanonical : ∀ c ∈ canonical.toList, isBlank c = false := fun c hc =>
    (Bool.or_eq_false_iff.mp (Bool.eq_false_iff.mpr (List.any_eq_false.mp h.allowed c hc))).2
  refine ⟨hcanonical, ?_⟩
  rw [String.toList_append, List.forall_mem_append]
  exact ⟨hcanonical, List.forall_mem_singleton.mpr (by decide)⟩

theorem IsCanonical.validate_eq_ok_iff (h : IsCanonical canonical) :
    (validate other).result = .ok canonical ↔
      ∃ before after, IsBlankText before ∧ IsBlankText after ∧
        (other = before ++ canonical ++ after ∨ other = before ++ (canonical ++ "/") ++ after) := by
  obtain ⟨hplain, hslash⟩ := h.not_isBlank
  rw [validate_result_eq_ok_iff, canonical?_eq_some_iff, and_iff_right h, trim_eq_iff hplain,
    trim_eq_iff hslash, ← exists_or]
  simp only [← exists_or, and_or_left]

theorem canonicalize_eq_ok_of_validate (h : validate url = .ok canonical) :
    canonicalize url = .ok (canonical : RawText) := by
  rw [canonicalize, RawText.toString?_ofString]
  dsimp only
  rw [h]
  rfl

/-- Among the raw texts, too, nothing but the spellings has a canonical form: these are strings. -/
theorem IsCanonical.canonicalize_eq_ok_iff (h : IsCanonical canonical) {raw : RawText} :
    (canonicalize raw).result = .ok (canonical : RawText) ↔
      ∃ before after, IsBlankText before ∧ IsBlankText after ∧
        (raw = RawText.ofString (before ++ canonical ++ after) ∨
          raw = RawText.ofString (before ++ (canonical ++ "/") ++ after)) := by
  rw [canonicalize_result_eq_ok_iff]
  constructor
  · intro hraw
    obtain ⟨s, t, rfl, ht, hs⟩ := exists_of_canonicalForm? hraw
    rw [RawText.ofString_inj] at ht
    subst ht
    obtain ⟨before, after, hbefore, hafter, hspelling⟩ :=
      h.validate_eq_ok_iff.mp (validate_result_eq_ok_iff.mpr hs)
    exact ⟨before, after, hbefore, hafter,
      hspelling.imp (congrArg RawText.ofString) (congrArg RawText.ofString)⟩
  · rintro ⟨before, after, hbefore, hafter, hspelling⟩
    have hspelled {s : String} (hs : s = before ++ canonical ++ after ∨
        s = before ++ (canonical ++ "/") ++ after) :
        canonicalForm? s = some (canonical : RawText) := by
      rw [canonicalForm?_ofString, validate_result_eq_ok_iff.mp
        (h.validate_eq_ok_iff.mpr ⟨before, after, hbefore, hafter, hs⟩), Option.map_some]
    rcases hspelling with rfl | rfl
    · exact hspelled (.inl rfl)
    · exact hspelled (.inr rfl)

/-- URLs with one canonical form are the same but for blanks and a slash. -/
theorem trim_eq_or_of_canonical?_eq (hurl : canonical? url = some canonical)
    (hother : canonical? other = some canonical) :
    trim other = trim url ∨ trim other = trim url ++ "/" ∨ trim url = trim other ++ "/" := by
  rcases (canonical?_eq_some_iff.mp hurl).2 with hurl | hurl <;>
    rcases (canonical?_eq_some_iff.mp hother).2 with hother | hother
  · exact Or.inl (hother.trans hurl.symm)
  · exact Or.inr (Or.inl (hurl ▸ hother))
  · exact Or.inr (Or.inr (hother ▸ hurl))
  · exact Or.inl (hother.trans hurl.symm)

/-- The URLs with a canonical form are this form itself, with a slash behind it or without, between
blanks; no text that is not a string is among them. So it is its own canonical form, a record that
is stored under it is found by it, and accepted URLs that are not told apart differ by blanks and
one slash at most. -/
theorem spellings_of_canonical_form (h : (validate url).result = .ok canonical) :
    (∀ other, (validate other).result = .ok canonical ↔
      ∃ before after, IsBlankText before ∧ IsBlankText after ∧
        (other = before ++ canonical ++ after ∨ other = before ++ (canonical ++ "/") ++ after)) ∧
    validate canonical = .ok canonical ∧
    (∀ raw : RawText, (canonicalize raw).result = .ok (canonical : RawText) ↔
      ∃ before after, IsBlankText before ∧ IsBlankText after ∧
        (raw = RawText.ofString (before ++ canonical ++ after) ∨
          raw = RawText.ofString (before ++ (canonical ++ "/") ++ after))) ∧
    canonicalize canonical = .ok (canonical : RawText) ∧
    (∀ (γ : Type) (rules : Desk.Rules γ) (desk : Desk γ) (record : AccessToken),
      rules.validateUrl = canonicalize → record.url = canonical →
      desk.store.get? record.key = some record →
      (Desk.findToken rules record.token record.url desk).result =
        desk.store.current desk.clock record) ∧
    ∀ other, (validate other).result = (validate url).result →
      trim other = trim url ∨ trim other = trim url ++ "/" ∨ trim url = trim other ++ "/" := by
  have hurl := validate_result_eq_ok_iff.mp h
  have hcanonical := (canonical?_eq_some_iff.mp hurl).1
  have hself : (validate canonical).result = .ok canonical :=
    validate_result_eq_ok_iff.mpr (canonical?_of_canonical? hurl)
  have hraw : canonicalize canonical = .ok (canonical : RawText) :=
    canonicalize_eq_ok_of_validate (validate_eq_ok_of_result hself)
  refine ⟨fun other => hcanonical.validate_eq_ok_iff, validate_eq_ok_of_result hself,
    fun raw => hcanonical.canonicalize_eq_ok_iff, hraw, ?_, ?_⟩
  · rintro γ rules desk record hrules hurl hstored
    have hkey : desk.store.get? (record.token, record.url) = some record := hstored
    have hrecord : (canonicalize record.url).result = .ok record.url := by rw [hurl, hraw]; rfl
    rw [Desk.findToken_result, hrules, hrecord]
    simp only [Store.find_result, hkey]
  · intro other hother
    exact trim_eq_or_of_canonical?_eq hurl (validate_result_eq_ok_iff.mp (hother.trans h))

theorem spellings_of_canonical_form_slashed :
    let record := Store.sample ⟨0, some 0, none⟩
    let desk := { Desk.hourly with store := Store.hourly.put record }
    (validate "\u3000git:a.git/\n").result = .ok "git:a.git" ∧
      (validate "\x1cgit:a.git/").result = .ok "git:a.git" ∧
      validate "git:a.git" = .ok "git:a.git" ∧
      (Desk.findToken { generateToken := Action.pure "t" } record.token record.url desk).result =
        .ok record ∧
      trim "\x1cgit:a.git/" = trim "\u3000git:a.git/\n" := by
  intro record desk
  have hrules :
      ({ generateToken := Action.pure "t" } : Desk.Rules Unit).validateUrl = canonicalize := by
    with_reducible rfl
  have hvalidate : (validate "\u3000git:a.git/\n").result = .ok "git:a.git" := by decide +kernel
  obtain ⟨hspellings, hself, -, -, hfind, hsame⟩ := spellings_of_canonical_form hvalidate
  have hother : (validate "\x1cgit:a.git/").result = .ok "git:a.git" := by
    refine (hspellings _).mpr ⟨"\x1c", "", ?_, ?_, Or.inr (by decide +kernel)⟩
    · exact List.forall_mem_singleton.mpr (by decide)
    · exact List.forall_mem_nil _
  have hstored : desk.store.get? record.key = some record :=
    (Store.get?_put _ _ _).trans (if_pos rfl)
  have hnow : desk.store.current desk.clock record = .ok record := by decide +kernel
  have htrim : trim "\x1cgit:a.git/" = trim "\u3000git:a.git/\n" := by
    rcases hsame "\x1cgit:a.git/" (hother.trans hvalidate.symm) with h | h | h
    · exact h
    · exact absurd h (by decide +kernel)
    · exact absurd h (by decide +kernel)
  exact ⟨hvalidate, hother, hself, (hfind Unit _ desk record hrules rfl hstored).trans hnow, htrim⟩

end RepositoryUrl

end ScanAccess
