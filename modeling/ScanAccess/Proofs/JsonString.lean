import Mathlib.Tactic.SplitIfs
import ScanAccess.Proofs.Numerals

/-! # Strings in JSON

What is written between the quotes of a string is ASCII that can be printed, and is read
back as the same string if there are no halves of characters in it. Characters beyond the
first plane are written as the two units that they are in UTF-16, and no other unit of a
character begins or ends a pair.
-/

namespace ScanAccess

namespace Text

theorem toNat_lt_or_ge (c : Char) : c.toNat < 0xd800 ∨ 0xe000 ≤ c.toNat ∧ c.toNat < 0x110000 := by
  have h := c.valid
  simp only [UInt32.isValidChar, Nat.isValidChar] at h
  simp only [Char.toNat]
  omega

theorem toNat_lt (c : Char) : c.toNat < 0x110000 := by
  have := toNat_lt_or_ge c
  omega

theorem isLeadingUnit_iff {unit : Nat} :
    isLeadingUnit unit = true ↔ 0xd800 ≤ unit ∧ unit < 0xdc00 := by
  simp [isLeadingUnit]

theorem isTrailingUnit_iff {unit : Nat} :
    isTrailingUnit unit = true ↔ 0xdc00 ≤ unit ∧ unit < 0xe000 := by
  simp [isTrailingUnit]

/-- A character is the code point with its number. -/
theorem ofCode_toNat (c : Char) : CodePoint.ofCode c.toNat = .char c := by
  have hrange := toNat_lt_or_ge c
  rw [CodePoint.ofCode, dif_neg, Char.ofNat_toNat]
  simp only [CodePoint.firstHalf]
  omega

/-- The code units of a character in UTF-16. -/
def unitsOf (c : Char) : List Nat :=
  if c.toNat < 0x10000 then [c.toNat]
  else [0xd800 + (c.toNat - 0x10000) / 0x400, 0xdc00 + (c.toNat - 0x10000) % 0x400]

theorem unitsOf_of_lt {c : Char} (h : c.toNat < 0x80) : unitsOf c = [c.toNat] := by
  rw [unitsOf, if_pos (by omega)]

/-- A character beyond the first plane is the one that its units make. -/
theorem pairOf_unitsOf {c : Char} (h : 0x10000 ≤ c.toNat) :
    pairOf (0xd800 + (c.toNat - 0x10000) / 0x400) (0xdc00 + (c.toNat - 0x10000) % 0x400) = c := by
  have hnat : 0x10000 + 0x400 * (0xd800 + (c.toNat - 0x10000) / 0x400 - 0xd800) +
      (0xdc00 + (c.toNat - 0x10000) % 0x400 - 0xdc00) = c.toNat := by omega
  rw [pairOf, hnat, Char.ofNat_toNat]

end Text

namespace Json

open ScanAccess.Text

/-- A unit that begins no pair stays alone. -/
theorem joinUnits_cons {unit : Nat} (h : ¬ isLeadingUnit unit = true) (units : List Nat) :
    joinUnits (unit :: units) = .ofCode unit :: joinUnits units := by
  cases units with
  | nil => rfl
  | cons next rest =>
      have hpair : ¬ (isLeadingUnit unit && isTrailingUnit next) = true := by
        rw [Bool.and_eq_true]
        exact fun hboth => h hboth.1
      rw [joinUnits, if_neg hpair]

/-- The units of characters make the same characters. -/
theorem joinUnits_unitsOf (cs : List Char) :
    joinUnits (cs.flatMap unitsOf) = cs.map CodePoint.char := by
  induction cs with
  | nil => rfl
  | cons c rest ih =>
      have hrange := toNat_lt_or_ge c
      rw [List.flatMap_cons, List.map_cons, unitsOf]
      by_cases hplane : c.toNat < 0x10000
      · have hleading : ¬ isLeadingUnit c.toNat = true := by
          rw [isLeadingUnit_iff]
          omega
        rw [if_pos hplane, List.singleton_append, joinUnits_cons hleading, ofCode_toNat, ih]
      · have hleading : isLeadingUnit (0xd800 + (c.toNat - 0x10000) / 0x400) = true := by
          rw [isLeadingUnit_iff]
          omega
        have htrailing : isTrailingUnit (0xdc00 + (c.toNat - 0x10000) % 0x400) = true := by
          rw [isTrailingUnit_iff]
          omega
        rw [if_neg hplane, List.cons_append, List.singleton_append, joinUnits, hleading,
          htrailing, Bool.and_self, if_pos rfl, pairOf_unitsOf (by omega), ih]

theorem isPlain_of_mem_unicodeEscape {c : Char} {unit : Nat} (h : c ∈ unicodeEscape unit) :
    IsPlain c := by
  rcases List.mem_cons.mp h with rfl | h
  · decide
  rcases List.mem_cons.mp h with rfl | h
  · decide
  · exact isPlain_of_mem_hexPadded h

theorem isPlain_of_mem_escapeChar {c d : Char} (h : d ∈ escapeChar c) : IsPlain d := by
  rw [escapeChar] at h
  split at h
  next hmark =>
    rcases hmark with rfl | rfl <;> exact isPlain_of_all (by decide) d h
  next =>
    split_ifs at h with hn hr ht hb hf hplain hplane
    iterate 5 exact isPlain_of_all (by decide) d h
    · rw [List.mem_singleton.mp h]
      exact hplain
    · exact isPlain_of_mem_unicodeEscape h
    · rcases List.mem_append.mp h with h | h
      · exact isPlain_of_mem_unicodeEscape h
      · exact isPlain_of_mem_unicodeEscape h

theorem isPlain_of_mem_escapePoint {c : Char} {point : CodePoint} (h : c ∈ escapePoint point) :
    IsPlain c := by
  cases point with
  | char d => exact isPlain_of_mem_escapeChar h
  | half index => exact isPlain_of_mem_unicodeEscape h

theorem isPlain_of_mem_writeString {c : Char} {text : RawText} (h : c ∈ writeString text) :
    IsPlain c := by
  rw [writeString, List.cons_append, List.mem_cons, List.mem_append, List.mem_flatMap,
    List.mem_singleton] at h
  rcases h with rfl | ⟨point, -, h⟩ | rfl
  · decide
  · exact isPlain_of_mem_escapePoint h
  · decide

theorem readUnits_unicodeEscape {unit : Nat} (h : unit < 0x10000) (rest : List Char) :
    readUnits (unicodeEscape unit ++ rest) =
      (readUnits rest).map fun (units, rest) => (unit :: units, rest) := by
  obtain ⟨a, b, c, d, hescape, hread⟩ := exists_unicodeEscape h
  rw [hescape]
  simp only [List.cons_append, List.nil_append, readUnits, hread]
  cases readUnits rest <;> rfl

theorem readUnits_simpleEscape {c letter : Char} (hletter : letter ≠ 'u')
    (h : simpleEscape? letter = some c.toNat) (rest : List Char) :
    readUnits ('\\' :: letter :: rest) =
      (readUnits rest).map fun (units, rest) => (c.toNat :: units, rest) := by
  rw [readUnits]
  · rw [h]
    cases readUnits rest <;> rfl
  · rintro a b c d rest hu
    simp_all

theorem readUnits_plain {c : Char} (hquote : c ≠ '\x22') (hslash : c ≠ '\\') (h : 0x20 ≤ c.toNat)
    (rest : List Char) :
    readUnits (c :: rest) = (readUnits rest).map fun (units, rest) => (c.toNat :: units, rest) := by
  rw [readUnits]
  · rw [if_neg (by omega)]
    cases readUnits rest <;> rfl
  all_goals simp_all

theorem readUnits_escapeChar (c : Char) (rest : List Char) :
    readUnits (escapeChar c ++ rest) =
      (readUnits rest).map fun (units, rest) => (unitsOf c ++ units, rest) := by
  have hone (letter : Char) (hletter : letter ≠ 'u') (h : simpleEscape? letter = some c.toNat)
      (hc : c.toNat < 0x80) : readUnits (['\\', letter] ++ rest) =
        (readUnits rest).map fun (units, rest) => (unitsOf c ++ units, rest) := by
    rw [unitsOf_of_lt hc]
    exact readUnits_simpleEscape hletter h rest
  rw [escapeChar]
  split
  next hmark =>
    rcases hmark with rfl | rfl
    · exact hone _ (by decide) rfl (by decide)
    · exact hone _ (by decide) rfl (by decide)
  next hmark =>
    obtain ⟨hquote, hslash⟩ := not_or.mp hmark
    split_ifs with hn hr ht hb hf hplain hplane
    · exact hone 'n' (by decide) (hn ▸ rfl) (hn ▸ by decide)
    · exact hone 'r' (by decide) (hr ▸ rfl) (hr ▸ by decide)
    · exact hone 't' (by decide) (ht ▸ rfl) (ht ▸ by decide)
    · exact hone 'b' (by decide) (hb ▸ rfl) (hb ▸ by decide)
    · exact hone 'f' (by decide) (hf ▸ rfl) (hf ▸ by decide)
    · rw [unitsOf_of_lt (by omega)]
      exact readUnits_plain hquote hslash hplain.1 rest
    · rw [unitsOf, if_pos hplane]
      exact readUnits_unicodeEscape hplane rest
    · have hlt := toNat_lt c
      rw [unitsOf, if_neg hplane, List.append_assoc, readUnits_unicodeEscape (by omega),
        readUnits_unicodeEscape (by omega), Option.map_map]
      rfl

theorem readUnits_flatMap (cs rest : List Char) :
    readUnits (cs.flatMap escapeChar ++ '\x22' :: rest) = some (cs.flatMap unitsOf, rest) := by
  induction cs with
  | nil => simp [readUnits]
  | cons c cs ih =>
      rw [List.flatMap_cons, List.append_assoc, readUnits_escapeChar, ih]
      simp

/-- A text without halves is read back up to the quote that closes it. -/
theorem readString_flatMap {text : RawText} (h : text.isEncodable = true) (rest : List Char) :
    readString (text.points.flatMap escapePoint ++ '\x22' :: rest) = .ok (text, rest) := by
  obtain ⟨s, rfl⟩ := RawText.isEncodable_iff.mp h
  have hpoints : (RawText.ofString s).points.flatMap escapePoint = s.toList.flatMap escapeChar := by
    rw [RawText.ofString, RawText.ofList, List.flatMap_map]
    rfl
  rw [hpoints, readString, readUnits_flatMap]
  simp only
  rw [joinUnits_unitsOf]
  rfl

end Json

end ScanAccess
