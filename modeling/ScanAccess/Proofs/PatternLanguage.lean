import Mathlib.Computability.Language
import ScanAccess.Text.Pattern

/-! # The language of a pattern

A pattern denotes a formal language, and a text is accepted exactly if it is a word of
it. Derivatives compute the words that are left after a character, whatever is left out
on the way.
-/

namespace ScanAccess.Text.Pattern

open Computability

/-- The texts that belong to a pattern. -/
def language : Pattern → Language Char
  | nothing => 0
  | empty => 1
  | one accepts => {text | ∃ c, accepts c = true ∧ text = [c]}
  | seq first second => first.language * second.language
  | either left right => left.language + right.language
  | many pattern => pattern.language∗

variable {c : Char} {rest : List Char}

theorem mem_language_one {accepts : Char → Bool} {text : List Char} :
    text ∈ (one accepts).language ↔ ∃ c, accepts c = true ∧ text = [c] :=
  Iff.rfl

theorem mem_language_char {text : List Char} : text ∈ (char c).language ↔ text = [c] := by
  simp [char, mem_language_one]

theorem mem_language_literal {word text : List Char} :
    text ∈ (literal word).language ↔ text = word := by
  induction word using literal.induct generalizing text with
  | case1 => exact Language.mem_one text
  | case2 c => exact mem_language_char
  | case3 c rest hrest ih =>
      rw [literal, language, Language.mem_mul]
      · simp only [mem_language_char, ih, exists_eq_left, List.singleton_append]
        exact eq_comm
      · exact hrest

theorem mem_language_optional {pattern : Pattern} {text : List Char} :
    text ∈ pattern.optional.language ↔ text ∈ pattern.language ∨ text = [] :=
  Iff.rfl

/-! ## Derivatives -/

theorem acceptsEmpty_iff (pattern : Pattern) :
    pattern.acceptsEmpty = true ↔ [] ∈ pattern.language := by
  induction pattern with
  | nothing => simp [acceptsEmpty, language]
  | empty => simp [acceptsEmpty, language]
  | one accepts => simp [acceptsEmpty, mem_language_one]
  | seq first second hfirst hsecond =>
      simp [acceptsEmpty, language, Language.mem_mul, hfirst, hsecond]
  | either left right hleft hright =>
      rw [acceptsEmpty, Bool.or_eq_true, hleft, hright, language, Language.mem_add]
  | many pattern _ => simp [acceptsEmpty, language, Language.nil_mem_kstar]

theorem language_andThen (first second : Pattern) :
    (andThen first second).language = first.language * second.language := by
  unfold andThen
  split
  · exact (zero_mul _).symm
  · exact (one_mul _).symm
  · rfl

theorem language_orElse (left right : Pattern) :
    (orElse left right).language = left.language + right.language := by
  unfold orElse
  split
  · exact (zero_add _).symm
  · exact (add_zero _).symm
  · rfl

/-- A character is read from the first of two parts, or from the second if the first is empty. -/
theorem cons_mem_mul_iff {first second : Language Char} :
    c :: rest ∈ first * second ↔
      (∃ head, c :: head ∈ first ∧ ∃ tail ∈ second, head ++ tail = rest) ∨
        [] ∈ first ∧ c :: rest ∈ second := by
  rw [Language.mem_mul]
  constructor
  · rintro ⟨word, hword, tail, htail, hsplit⟩
    cases word with
    | nil => exact Or.inr ⟨hword, hsplit ▸ htail⟩
    | cons d head =>
        obtain ⟨rfl, rfl⟩ := List.cons.inj hsplit
        exact Or.inl ⟨head, hword, tail, htail, rfl⟩
  · rintro (⟨head, hhead, tail, htail, rfl⟩ | ⟨hempty, hrest⟩)
    · exact ⟨c :: head, hhead, tail, htail, rfl⟩
    · exact ⟨[], hempty, c :: rest, hrest, rfl⟩

/-- A character is read from the first repetition that is not empty. -/
theorem cons_mem_kstar_iff {words : Language Char} :
    c :: rest ∈ words∗ ↔
      ∃ head, c :: head ∈ words ∧ ∃ tail ∈ words∗, head ++ tail = rest := by
  constructor
  · intro h
    obtain ⟨parts, hparts, hmem⟩ := Language.mem_kstar_iff_exists_nonempty.mp h
    cases parts with
    | nil => cases hparts
    | cons part parts =>
        obtain ⟨hpart, hnonempty⟩ := hmem part List.mem_cons_self
        obtain ⟨d, head, rfl⟩ := List.exists_cons_of_ne_nil hnonempty
        obtain ⟨rfl, rfl⟩ := List.cons.inj hparts
        refine ⟨head, hpart, parts.flatten, Language.join_mem_kstar fun other hother => ?_, rfl⟩
        exact (hmem other (List.mem_cons_of_mem _ hother)).1
  · rintro ⟨head, hhead, tail, htail, rfl⟩
    obtain ⟨parts, rfl, hmem⟩ := Language.mem_kstar.mp htail
    refine Language.mem_kstar.mpr ⟨(c :: head) :: parts, rfl, ?_⟩
    exact List.forall_mem_cons.mpr ⟨hhead, hmem⟩

/-- The derivative describes what may follow a character. -/
theorem mem_language_derivative (pattern : Pattern) (c : Char) (rest : List Char) :
    rest ∈ (pattern.derivative c).language ↔ c :: rest ∈ pattern.language := by
  induction pattern generalizing rest with
  | nothing => simp [derivative, language]
  | empty => simp [derivative, language]
  | one accepts =>
      rw [mem_language_one, derivative]
      cases haccepts : accepts c <;> simp [language, haccepts]
  | seq first second hfirst hsecond =>
      have hthen : rest ∈ (andThen (first.derivative c) second).language ↔
          ∃ head, c :: head ∈ first.language ∧
            ∃ tail ∈ second.language, head ++ tail = rest := by
        simp only [language_andThen, Language.mem_mul, hfirst]
      rw [derivative, language, cons_mem_mul_iff, ← acceptsEmpty_iff]
      cases first.acceptsEmpty with
      | true =>
          rw [if_pos rfl, language_orElse, Language.mem_add, hthen, hsecond]
          simp
      | false =>
          rw [if_neg Bool.false_ne_true, hthen]
          simp
  | either left right hleft hright =>
      rw [derivative, language_orElse, Language.mem_add, hleft, hright]
      rfl
  | many pattern ih =>
      rw [derivative, language_andThen, Language.mem_mul, language, cons_mem_kstar_iff]
      simp only [ih]

/-- A text is accepted exactly if it belongs to the pattern. -/
theorem accepts_iff (pattern : Pattern) (text : List Char) :
    pattern.accepts text = true ↔ text ∈ pattern.language := by
  induction text generalizing pattern with
  | nil => exact acceptsEmpty_iff pattern
  | cons c rest ih =>
      exact (ih (pattern.derivative c)).trans (mem_language_derivative pattern c rest)

end ScanAccess.Text.Pattern
