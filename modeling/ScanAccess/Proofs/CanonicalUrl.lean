import Mathlib.Data.List.TakeWhile
import ScanAccess.Proofs.Chains
import ScanAccess.Proofs.PatternLanguage
import ScanAccess.RepositoryUrl

/-! # Canonical URLs

A URL in canonical form is a remote without a slash at its end. The URLs that have it
as their canonical form are those that become it when the blanks around them and one
slash are dropped, and it is one of them itself.
-/

namespace ScanAccess

namespace Text

variable {p : Char → Bool} {cs : List Char}

theorem trimWhile_eq_self (h : ∀ c ∈ cs, p c = false) : trimWhile p cs = cs := by
  have hdrop (text : List Char) (htext : ∀ c ∈ text, p c = false) : text.dropWhile p = text := by
    cases text with
    | nil => rfl
    | cons c rest => exact List.dropWhile_cons_of_neg (by simp [htext c List.mem_cons_self])
  have hreverse : ∀ c ∈ cs.reverse, p c = false := fun c hmem => h c (List.mem_reverse.mp hmem)
  rw [trimWhile, hdrop cs h, hdrop cs.reverse hreverse, List.reverse_reverse]

/-- What is dropped from a text stood around what is left of it. -/
theorem exists_trimWhile_eq {α : Type} (p : α → Bool) (text : List α) :
    ∃ before after, (∀ c ∈ before, p c = true) ∧ (∀ c ∈ after, p c = true) ∧
      text = before ++ trimWhile p text ++ after := by
  refine ⟨text.takeWhile p, ((text.dropWhile p).reverse.takeWhile p).reverse, ?_, ?_, ?_⟩
  · exact fun c hc => List.mem_takeWhile_imp hc
  · exact fun c hc => List.mem_takeWhile_imp (List.mem_reverse.mp hc)
  · rw [trimWhile, List.append_assoc, ← List.reverse_append, List.takeWhile_append_dropWhile,
      List.reverse_reverse, List.takeWhile_append_dropWhile]

theorem trimWhile_map {α β : Type} (f : α → β) (p : β → Bool) (text : List α) :
    trimWhile p (text.map f) = (trimWhile (p ∘ f) text).map f := by
  rw [trimWhile, trimWhile, List.dropWhile_map, ← List.map_reverse, List.dropWhile_map,
    ← List.map_reverse]

theorem trim_eq_self {text : String} (h : ∀ c ∈ text.toList, isBlank c = false) :
    trim text = text := by
  rw [trim, trimWhile_eq_self h, String.ofList_toList]

end Text

namespace RepositoryUrl

open ScanAccess.Text

/-- The remotes that end in `.git`, with no slash after it. -/
def remotes : Language Char :=
  (scheme.either gitUser).language *
    ((Pattern.char ':').seq (Pattern.literal ['/', '/']).optional).language *
    (Pattern.one isPathCharacter).oneOrMore.language *
    (Pattern.literal ['.', 'g', 'i', 't']).language

/-- A remote that ends in `.git` and has no character that is forbidden in URLs. -/
structure IsCanonical (url : String) : Prop where
  remote : url.toList ∈ remotes
  allowed : url.toList.any isForbidden = false

variable {text base : List Char} {url canonical : String}

/-- The pattern accepts a remote, with or without a slash. -/
theorem pattern_accepts_iff :
    pattern.accepts text = true ↔ ∃ base ∈ remotes, text = base ∨ text = base ++ ['/'] := by
  have hlanguage : pattern.language = remotes * (Pattern.char '/').optional.language := by
    simp only [pattern, Pattern.language, remotes, mul_assoc]
  rw [Pattern.accepts_iff, hlanguage, Language.mem_mul]
  constructor
  · rintro ⟨base, hbase, ending, hending, rfl⟩
    refine ⟨base, hbase, ?_⟩
    rcases Pattern.mem_language_optional.mp hending with hslash | rfl
    · rw [Pattern.mem_language_char.mp hslash]
      exact Or.inr rfl
    · exact Or.inl (List.append_nil base)
  · rintro ⟨base, hbase, rfl | rfl⟩
    · exact ⟨text, hbase, [], Pattern.mem_language_optional.mpr (Or.inr rfl), List.append_nil text⟩
    · refine ⟨base, hbase, ['/'], Pattern.mem_language_optional.mpr (Or.inl ?_), rfl⟩
      exact Pattern.mem_language_char.mpr rfl

theorem getLast?_of_mem_remotes (h : text ∈ remotes) : text.getLast? = some 't' := by
  obtain ⟨base, -, ending, hending, rfl⟩ := Language.mem_mul.mp h
  rw [Pattern.mem_language_literal.mp hending]
  simp

/-- Only a slash that follows a remote is dropped. -/
theorem dropSlash_of_ends (hbase : base ∈ remotes) (hends : text = base ∨ text = base ++ ['/']) :
    dropSlash text = base := by
  rcases hends with rfl | rfl
  · rw [dropSlash, getLast?_of_mem_remotes hbase]
    rfl
  · simp [dropSlash]

theorem any_isForbidden_of_ends (hends : text = base ∨ text = base ++ ['/']) :
    text.any isForbidden = base.any isForbidden := by
  have hslash : isForbidden '/' = false := by decide
  rcases hends with rfl | rfl
  · rfl
  · simp [hslash]

/-- What is accepted after trimming loses at most a slash. A URL with nothing but blanks is refused
by the pattern as well. -/
theorem canonical?_eq_some_iff_accepts :
    canonical? url = some canonical ↔
      (trim url).toList.any isForbidden = false ∧ pattern.accepts (trim url).toList = true ∧
        String.ofList (dropSlash (trim url).toList) = canonical := by
  have hempty (h : (trim url).isEmpty = true) : pattern.accepts (trim url).toList = false := by
    rw [String.isEmpty_iff.mp h]
    decide
  unfold canonical? validate
  cases hblank : (trim url).isEmpty with
  | true => simp [hblank, hempty hblank, Except.toOption]
  | false =>
      cases hallowed : (trim url).toList.any isForbidden with
      | true => simp [hblank, hallowed, Except.toOption]
      | false =>
          cases haccepts : pattern.accepts (trim url).toList with
          | true => simp [hblank, hallowed, haccepts, Logged.ok, Except.toOption]
          | false => simp [hblank, hallowed, haccepts, Except.toOption]

/-- A URL is either brought into canonical form or refused as malformed. -/
theorem validate_result (url : String) :
    (validate url).result =
      match canonical? url with
      | none => .error .malformedUrl
      | some canonical => .ok canonical := by
  have hends : (validate url).result = .error .malformedUrl ∨
      ∃ canonical, (validate url).result = .ok canonical := by
    unfold validate
    dsimp only
    split
    · exact Or.inl rfl
    · split
      · exact Or.inr ⟨_, rfl⟩
      · exact Or.inl rfl
  rw [canonical?]
  rcases hends with h | ⟨canonical, h⟩ <;> rw [h] <;> rfl

theorem validate_result_eq_ok_iff {url canonical : String} :
    (validate url).result = .ok canonical ↔ canonical? url = some canonical := by
  rw [validate_result]
  cases canonical? url <;> simp

/-- A canonical URL has no blanks to be trimmed. -/
theorem IsCanonical.trim_eq (h : IsCanonical url) : trim url = url := by
  refine trim_eq_self fun c hmem => ?_
  have hallowed := Bool.eq_false_iff.mpr (List.any_eq_false.mp h.allowed c hmem)
  exact (Bool.or_eq_false_iff.mp hallowed).2

/-- The URLs with a given canonical form. -/
theorem canonical?_eq_some_iff :
    canonical? url = some canonical ↔
      IsCanonical canonical ∧ (trim url = canonical ∨ trim url = canonical ++ "/") := by
  have hends : (trim url = canonical ∨ trim url = canonical ++ "/") ↔
      ((trim url).toList = canonical.toList ∨ (trim url).toList = canonical.toList ++ ['/']) := by
    rw [← String.toList_inj, ← String.toList_inj, String.toList_append]
    rfl
  -- Both sides speak of a remote with or without a slash, which the pattern finds and dropping a
  -- slash forgets.
  rw [canonical?_eq_some_iff_accepts, hends]
  constructor
  · rintro ⟨hallowed, haccepts, rfl⟩
    obtain ⟨base, hbase, hbaseEnds⟩ := pattern_accepts_iff.mp haccepts
    rw [any_isForbidden_of_ends hbaseEnds] at hallowed
    rw [dropSlash_of_ends hbase hbaseEnds, String.toList_ofList]
    refine ⟨⟨?_, ?_⟩, hbaseEnds⟩ <;> rwa [String.toList_ofList]
  · rintro ⟨hcanonical, hbaseEnds⟩
    rw [any_isForbidden_of_ends hbaseEnds, dropSlash_of_ends hcanonical.remote hbaseEnds]
    refine ⟨hcanonical.allowed, ?_, String.ofList_toList⟩
    exact pattern_accepts_iff.mpr ⟨canonical.toList, hcanonical.remote, hbaseEnds⟩

theorem canonical?_eq_self_iff : canonical? url = some url ↔ IsCanonical url := by
  rw [canonical?_eq_some_iff]
  exact ⟨fun h => h.1, fun h => ⟨h, Or.inl h.trim_eq⟩⟩

/-- The canonical form of a URL is its own canonical form. -/
theorem canonical?_of_canonical? (h : canonical? url = some canonical) :
    canonical? canonical = some canonical :=
  canonical?_eq_self_iff.mpr (canonical?_eq_some_iff.mp h).1

/-! ## Raw texts -/

/-- The canonical form of a raw text, if it is accepted: it has that of the string that it is. -/
def canonicalForm? (url : RawText) : Option RawText :=
  url.toString?.bind fun s => (canonical? s).map RawText.ofString

@[simp] theorem canonicalForm?_ofString (s : String) :
    canonicalForm? s = (canonical? s).map RawText.ofString := by
  rw [canonicalForm?, RawText.toString?_ofString, Option.bind_some]

/-- A raw text is either brought into canonical form or refused as malformed. -/
theorem canonicalize_result (url : RawText) :
    (canonicalize url).result =
      match canonicalForm? url with
      | none => .error .malformedUrl
      | some canonical => .ok canonical := by
  rw [canonicalize, canonicalForm?]
  cases url.toString? with
  | none => rfl
  | some s =>
      rw [Option.bind_some]
      dsimp only
      rw [Logged.result_bind, validate_result]
      cases canonical? s <;> rfl

theorem canonicalize_result_eq_ok_iff {url canonical : RawText} :
    (canonicalize url).result = .ok canonical ↔ canonicalForm? url = some canonical := by
  rw [canonicalize_result]
  cases canonicalForm? url <;> simp

/-- A canonical form is a string, and its own canonical form. -/
theorem exists_of_canonicalForm? {url canonical : RawText}
    (h : canonicalForm? url = some canonical) :
    ∃ s t, url = RawText.ofString s ∧ canonical = RawText.ofString t ∧ canonical? s = some t := by
  obtain ⟨s, hs, hcanonical⟩ := Option.bind_eq_some_iff.mp h
  obtain ⟨t, ht, rfl⟩ := Option.map_eq_some_iff.mp hcanonical
  exact ⟨s, t, RawText.eq_ofString_of_toString? hs, rfl, ht⟩

theorem exists_eq_map_of_isBlankPoint {points : List CodePoint}
    (h : ∀ point ∈ points, isBlankPoint point = true) : ∃ cs, points = List.map .char cs := by
  induction points with
  | nil => exact ⟨[], rfl⟩
  | cons point rest ih =>
      obtain ⟨hpoint, hrest⟩ := List.forall_mem_cons.mp h
      obtain ⟨cs, rfl⟩ := ih hrest
      cases point with
      | char c => exact ⟨c :: cs, rfl⟩
      | half index => cases hpoint

/-- Only characters are blank, so a raw text is a string if what stands between its blanks is. -/
theorem exists_of_trimWhile_points {url : RawText} {cs : List Char}
    (h : trimWhile isBlankPoint url.points = cs.map .char) :
    ∃ s, url = RawText.ofString s ∧ (trim s).toList = cs := by
  obtain ⟨before, after, hbefore, hafter, heq⟩ := exists_trimWhile_eq isBlankPoint url.points
  obtain ⟨first, rfl⟩ := exists_eq_map_of_isBlankPoint hbefore
  obtain ⟨last, rfl⟩ := exists_eq_map_of_isBlankPoint hafter
  rw [h, ← List.map_append, ← List.map_append] at heq
  rw [heq, trimWhile_map] at h
  refine ⟨String.ofList (first ++ cs ++ last), ?_, ?_⟩
  · rw [RawText.ofString, String.toList_ofList, RawText.ofList, ← heq]
  · rw [trim, String.toList_ofList, String.toList_ofList]
    exact List.map_injective_iff.mpr (fun _ _ => CodePoint.char.inj) h

theorem trimWhile_points_ofString (s : String) :
    trimWhile isBlankPoint (RawText.ofString s).points = (trim s).toList.map .char := by
  rw [trim, String.toList_ofList]
  exact trimWhile_map _ _ _

theorem canonicalForm?_of_canonicalForm? {url canonical : RawText}
    (h : canonicalForm? url = some canonical) : canonicalForm? canonical = some canonical := by
  obtain ⟨s, t, -, rfl, ht⟩ := exists_of_canonicalForm? h
  rw [canonicalForm?_ofString, canonical?_of_canonical? ht, Option.map_some]

end RepositoryUrl

end ScanAccess
