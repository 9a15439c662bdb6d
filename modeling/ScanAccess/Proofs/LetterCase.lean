import ScanAccess.Log.Redaction
import ScanAccess.Text.LowerCase

/-! # Comparing without letter case

Names are compared with ASCII words by folding, which changes only the characters
whose lower case is an ASCII letter. The full mapping to lower case gives the same
answer: where it differs from folding, both leave something that is not ASCII.
-/

namespace ScanAccess

namespace Text

/-- The only run of characters whose lower case is ASCII is the Kelvin sign. All others lie beyond
ASCII, and so do the codes of their lower case, which are all characters. -/
theorem run_is_kelvin_or_beyond : ∀ run ∈ lowerRuns,
    run = (0x212a, 0x212a, 1, 0x6b) ∨
      0x80 ≤ run.1 ∧ 0x80 ≤ run.2.2.2 ∧
        (run.2.2.2 + (run.2.1 - run.1) < 0xd800 ∨
          0xe000 ≤ run.2.2.2 ∧ run.2.2.2 + (run.2.1 - run.1) < 0x110000) := by
  decide +kernel

variable {c : Char}

theorem foldChar_of_capital (h : 0x41 ≤ c.toNat ∧ c.toNat ≤ 0x5a) :
    foldChar c = Char.ofNat (c.toNat + 32) :=
  if_pos h

theorem foldChar_of_not_capital (h : ¬ (0x41 ≤ c.toNat ∧ c.toNat ≤ 0x5a)) (hkelvin : c ≠ '\u212a') :
    foldChar c = c :=
  (if_neg h).trans (if_neg hkelvin)

/-- The lower case of a character is what it folds to if it is ASCII, and else the two characters of
a dotted i, or what its run says, or the character itself. -/
theorem lowerChar_cases (c : Char) :
    (c.toNat < 0x80 ∧ lowerChar c = [foldChar c]) ∨
    (c.toNat = 0x130 ∧ lowerChar c = ['i', '\u0307']) ∨
    (∃ run ∈ lowerRuns, run.1 ≤ c.toNat ∧ c.toNat ≤ run.2.1 ∧
      lowerChar c = [Char.ofNat (run.2.2.2 + (c.toNat - run.1))]) ∨
    (0x80 ≤ c.toNat ∧ c ≠ '\u212a' ∧ lowerChar c = [c]) := by
  by_cases hascii : c.toNat < 0x80
  · refine Or.inl ⟨hascii, ?_⟩
    have hkelvin : c ≠ '\u212a' := by
      rintro rfl
      exact absurd hascii (by decide)
    rw [lowerChar, if_pos hascii]
    by_cases hcapital : 0x41 ≤ c.toNat ∧ c.toNat ≤ 0x5a
    · rw [if_pos hcapital, foldChar_of_capital hcapital]
    · rw [if_neg hcapital, foldChar_of_not_capital hcapital hkelvin]
  · refine Or.inr ?_
    by_cases hdot : c.toNat = 0x130
    · exact Or.inl ⟨hdot, by rw [lowerChar, if_neg hascii, if_pos hdot]⟩
    · refine Or.inr ?_
      unfold lowerChar
      rw [if_neg hascii, if_neg hdot]
      split
      next first last step lower hfind =>
        have hmem := List.mem_of_find?_eq_some hfind
        have hwithin := List.find?_some hfind
        simp only [Bool.and_eq_true, decide_eq_true_eq] at hwithin
        exact Or.inl ⟨_, hmem, hwithin.1.1, hwithin.1.2, rfl⟩
      next hfind =>
        have hoff := List.find?_eq_none.mp hfind
        refine Or.inr ⟨Nat.le_of_not_lt hascii, ?_, rfl⟩
        rintro rfl
        exact hoff (0x212a, 0x212a, 1, 0x6b) (by decide) (by decide)

/-- Folding a character is writing it in lower case, unless neither is ASCII. -/
theorem lowerChar_eq_foldChar_or (c : Char) :
    lowerChar c = [foldChar c] ∨
      0x80 ≤ (foldChar c).toNat ∧ ∃ d ∈ lowerChar c, 0x80 ≤ d.toNat := by
  by_cases hkelvin : c = '\u212a'
  · subst hkelvin
    exact Or.inl (by decide +kernel)
  have hbeyond (h : 0x80 ≤ c.toNat) : foldChar c = c :=
    foldChar_of_not_capital (by omega) hkelvin
  rcases lowerChar_cases c with ⟨-, hlower⟩ | ⟨hdot, hlower⟩ | ⟨run, hrun, hfirst, hlast, hlower⟩ |
    ⟨hfar, -, hlower⟩
  · exact Or.inl hlower
  · rw [hlower, hbeyond (by omega)]
    exact Or.inr ⟨by omega, '\u0307', by simp, by decide⟩
  · rcases run_is_kelvin_or_beyond run hrun with rfl | ⟨hcode, hlow, hvalid⟩
    · have hcode : c.toNat = '\u212a'.toNat := Nat.le_antisymm hlast hfirst
      exact absurd (Char.toNat_inj.mp hcode) hkelvin
    · have hfold : 0x80 ≤ (foldChar c).toNat := by
        rw [hbeyond (by omega)]
        omega
      have hchar : (run.2.2.2 + (c.toNat - run.1)).isValidChar := by
        unfold Nat.isValidChar
        omega
      rw [hlower, Char.ofNat, dif_pos hchar]
      exact Or.inr ⟨hfold, _, List.mem_singleton_self _, Nat.le_add_right_of_le hlow⟩
  · exact Or.inl (by rw [hlower, hbeyond hfar])

/-- The lower case of a text is an ASCII word exactly if the text folds to that word. -/
theorem lowerAfter_eq_iff {before text word : List Char} (hword : ∀ d ∈ word, d.toNat < 0x80) :
    lowerAfter before text = word ↔ text.map foldChar = word := by
  induction text generalizing before word with
  | nil => exact Iff.rfl
  | cons c rest ih =>
      rw [lowerAfter, List.map_cons]
      -- Neither form of a lower sigma is ASCII, so it does not matter which one it is.
      have hlower (final : Prop) [Decidable final] :
          let lower := if c = '\u03a3' then [if final then '\u03c2' else '\u03c3'] else lowerChar c
          lower = [foldChar c] ∨ 0x80 ≤ (foldChar c).toNat ∧ ∃ d ∈ lower, 0x80 ≤ d.toNat := by
        by_cases hsigma : c = '\u03a3'
        · subst hsigma
          refine Or.inr ⟨by decide, _, List.mem_singleton_self _, ?_⟩
          split <;> decide
        · rw [if_neg hsigma]
          exact lowerChar_eq_foldChar_or c
      rcases hlower (meetsCased before && !meetsCased rest) with hfold | ⟨hfold, d, hmem, hbeyond⟩
      · rw [hfold, List.singleton_append]
        cases word with
        | nil => simp
        | cons first word =>
            rw [List.cons.injEq, List.cons.injEq, ih (List.forall_mem_cons.mp hword).2]
      · constructor
        · rintro rfl
          exact absurd (hword d (List.mem_append_left _ hmem)) (by omega)
        · rintro rfl
          exact absurd (hword _ List.mem_cons_self) (by omega)

theorem lower_eq_iff_foldCase_eq {name word : String} (hword : ∀ d ∈ word.toList, d.toNat < 0x80) :
    lower name = word ↔ foldCase name = word := by
  rw [lower, foldCase, ← String.toList_inj, ← String.toList_inj, String.toList_ofList,
    String.toList_ofList, lowerAfter_eq_iff hword]

theorem not_capital_foldChar (c : Char) :
    ¬ (0x41 ≤ (foldChar c).toNat ∧ (foldChar c).toNat ≤ 0x5a) := by
  by_cases hcapital : 0x41 ≤ c.toNat ∧ c.toNat ≤ 0x5a
  · have hchar : (c.toNat + 32).isValidChar := Or.inl (by omega)
    have hfold : (foldChar c).toNat = c.toNat + 32 := by
      rw [foldChar_of_capital hcapital, Char.ofNat, dif_pos hchar]
      rfl
    omega
  · by_cases hkelvin : c = '\u212a'
    · subst hkelvin
      decide
    · rwa [foldChar_of_not_capital hcapital hkelvin]

/-- No text has an ASCII word with a capital letter for its lower case. -/
theorem lower_ne_of_capital {name word : String} (hword : ∀ d ∈ word.toList, d.toNat < 0x80)
    (hcapital : ∃ d ∈ word.toList, 0x41 ≤ d.toNat ∧ d.toNat ≤ 0x5a) : lower name ≠ word := by
  obtain ⟨d, hmem, hcapital⟩ := hcapital
  intro hlower
  rw [← (lower_eq_iff_foldCase_eq hword).mp hlower, foldCase, String.toList_ofList] at hmem
  obtain ⟨c, -, rfl⟩ := List.mem_map.mp hmem
  exact not_capital_foldChar c hcapital

end Text

namespace Log

/-- Texts under a name are secret exactly if the name in lower case is one of the secret names. -/
theorem isSecretName_iff_lower_mem (name : String) :
    isSecretName name = true ↔ Text.lower name ∈ secretNames := by
  have hword : ∀ word ∈ secretNames, ∀ d ∈ word.toList, d.toNat < 0x80 := by
    simp [secretNames]
  rw [isSecretName, RawText.toString?_ofString, Option.any_some, List.contains_iff_mem]
  constructor
  · intro hmem
    rwa [(Text.lower_eq_iff_foldCase_eq (hword _ hmem)).mpr rfl]
  · intro hmem
    rwa [(Text.lower_eq_iff_foldCase_eq (hword _ hmem)).mp rfl]

/-- The lower case of a name is one of the secret names. -/
def NamesSecret (name : RawText) : Prop :=
  ∃ text : String, name = text ∧ Text.lower text ∈ secretNames

/-- No name with half of a character in it is secret. -/
theorem isSecretName_iff (name : RawText) : isSecretName name = true ↔ NamesSecret name := by
  constructor
  · intro h
    obtain ⟨text, htext, -⟩ := (Option.any_eq_true _ _).mp h
    obtain rfl := RawText.eq_ofString_of_toString? htext
    exact ⟨text, rfl, (isSecretName_iff_lower_mem text).mp h⟩
  · rintro ⟨text, rfl, h⟩
    exact (isSecretName_iff_lower_mem text).mpr h

end Log

end ScanAccess
