import ScanAccess.Proofs.JsonGrammar
import ScanAccess.Proofs.JsonText

/-! # Values written in the grammar

The text of a value is in the grammar of JSON exactly if the binary64 numbers in the value are
finite. The shortest text of a finite number other than zero begins with a digit other than zero
or with a zero and a point, and in scientific form it has one digit in front of the point.
-/

namespace ScanAccess

open ScanAccess.Text

namespace Binary64

/-- Neither infinite nor a NaN. -/
def IsFinite (x : Binary64) : Prop :=
  x ≠ .nan ∧ ∀ negative, x ≠ .infinite negative

/-! ## The shortest digits -/

theorem Rounding.lower_pos {mantissa : Nat} (h : mantissa ≠ 0) (exponent : Int) :
    0 < (Rounding.of mantissa exponent).lower := by
  refine Nat.mul_pos ?_ (twoTo_pos _)
  split <;> omega

theorem Rounding.digits_ne_zero_of_contains {r : Rounding} {d : Decimal} (hlower : 0 < r.lower)
    (h : r.contains d = true) : d.digits ≠ 0 := by
  intro hzero
  have hscale : 0 < r.lower * tenTo (-d.exponent).toNat := Nat.mul_pos hlower (tenTo_pos _)
  simp only [contains, hzero, Nat.zero_mul] at h
  split at h
  · exact Nat.not_le_of_lt hscale (of_decide_eq_true (Bool.and_eq_true_iff.mp h).1)
  · exact Nat.not_lt_zero _ (of_decide_eq_true (Bool.and_eq_true_iff.mp h).1)

theorem Rounding.contains_of_withDigits? {r : Rounding} {count : Nat} {d : Decimal}
    (h : r.withDigits? count = some d) : r.contains d = true := by
  simp only [withDigits?] at h
  split_ifs at h with hnearest hdown hup
  · exact Option.some_inj.mp h ▸ hnearest
  · exact Option.some_inj.mp h ▸ hdown
  · exact Option.some_inj.mp h ▸ hup

theorem Decimal.digits_normalize_ne_zero (d : Decimal) (h : d.digits ≠ 0) :
    d.normalize.digits ≠ 0 := by
  induction d using Decimal.normalize.induct with
  | case1 d hzero ih =>
      rw [normalize, dif_pos hzero]
      refine ih ?_
      change d.digits / 10 ≠ 0
      omega
  | case2 d hzero => rwa [normalize, dif_neg hzero]

/-- A number other than zero has a shortest form other than zero. -/
theorem digits_shortest_ne_zero {mantissa : Nat} (h : mantissa ≠ 0) (exponent : Int) :
    (shortest mantissa exponent).digits ≠ 0 := by
  refine Decimal.digits_normalize_ne_zero _ ?_
  -- The digits lie in an interval around the number that does not reach down to zero.
  cases hfound : (List.range 17).findSome? fun i =>
      (Rounding.of mantissa exponent).withDigits? (i + 1) with
  | none => exact h
  | some d =>
      obtain ⟨i, -, hi⟩ := List.exists_of_findSome?_eq_some hfound
      exact Rounding.digits_ne_zero_of_contains (Rounding.lower_pos h exponent)
        (Rounding.contains_of_withDigits? hi)

end Binary64

namespace Json

open Grammar

/-! ## Numbers -/

theorem isWhole_decimal (n : Nat) : IsWhole (decimal n) where
  ne_nil := decimal_ne_nil n
  digits := fun _ => isDigit_of_mem_decimal
  leading := decimal_no_leading_zero n

theorem isDigits_zero : IsDigits ['0'] :=
  ⟨List.cons_ne_nil _ _, List.forall_mem_singleton.mpr rfl⟩

theorem isDigits_padZeros (width : Nat) {digits : List Char} (h : IsDigits digits) :
    IsDigits (padZeros width digits) where
  ne_nil := List.append_ne_nil_of_right_ne_nil _ h.ne_nil
  digits := by
    rw [padZeros, List.forall_mem_append]
    refine ⟨fun c hc => ?_, h.digits⟩
    rw [List.eq_of_mem_replicate hc]
    rfl

theorem isNumber_signedDecimal (n : Int) : IsNumber (signedDecimal n) := by
  have hnumber {sign : List Char} (hsign : sign = [] ∨ sign = ['-']) :
      IsNumber (sign ++ decimal n.natAbs) := by
    have h := IsNumber.mk hsign (isWhole_decimal n.natAbs) .nil .nil
    rwa [List.append_nil, List.append_nil] at h
  rw [signedDecimal]
  split
  · exact hnumber (Or.inr rfl)
  · exact hnumber (Or.inl rfl)

/-- The digits of a number other than zero do not begin with a zero. -/
theorem head?_decimal_ne {n : Nat} (h : n ≠ 0) : (decimal n).head? ≠ some '0' := by
  rcases decimal_no_leading_zero n with hhead | hlength
  · exact hhead
  · intro hhead
    obtain ⟨c, hc⟩ := List.length_eq_one_iff.mp hlength
    rw [hc, List.head?_cons, Option.some_inj] at hhead
    have hvalue := ofDigits_decimal n
    rw [hc, hhead] at hvalue
    exact h hvalue.symm

/-- A number without its sign. -/
inductive IsMagnitude : List Char → Prop where
  | mk {whole fraction exponent : List Char} (hwhole : IsWhole whole)
    (hfraction : IsFraction fraction) (hexponent : IsExponent exponent) :
    IsMagnitude (whole ++ fraction ++ exponent)

theorem IsMagnitude.isNumber {sign text : List Char} (h : IsMagnitude text)
    (hsign : sign = [] ∨ sign = ['-']) : IsNumber (sign ++ text) := by
  obtain ⟨hwhole, hfraction, hexponent⟩ := h
  rw [← List.append_assoc, ← List.append_assoc]
  exact .mk hsign hwhole hfraction hexponent

theorem isMagnitude_positional {d : Binary64.Decimal} (h : d.digits ≠ 0) :
    IsMagnitude d.positional := by
  have hdigits := isWhole_decimal d.digits
  have hpoint {whole fraction : List Char} (hwhole : IsWhole whole)
      (hfraction : IsDigits fraction) : IsMagnitude (whole ++ '.' :: fraction) := by
    have h := IsMagnitude.mk hwhole (.point hfraction) .nil
    rwa [List.append_nil] at h
  simp only [Binary64.Decimal.positional]
  split
  next hexponent =>
    refine hpoint ⟨⟨?_, ?_⟩, Or.inl ?_⟩ isDigits_zero
    · exact List.append_ne_nil_of_left_ne_nil hdigits.ne_nil _
    · rw [List.forall_mem_append]
      refine ⟨hdigits.digits, fun c hc => ?_⟩
      rw [List.eq_of_mem_replicate hc]
      rfl
    · rw [List.head?_append_of_ne_nil _ hdigits.ne_nil]
      exact head?_decimal_ne h
  next hexponent =>
    obtain ⟨places, hplaces⟩ : ∃ places, (-d.exponent).toNat = places + 1 :=
      Nat.exists_eq_add_one.mpr (by omega)
    rw [hplaces]
    have hpadded := isDigits_padZeros (places + 1 + 1) hdigits.toIsDigits
    have hlength : (padZeros (places + 1 + 1) (decimal d.digits)).length =
        max (places + 1 + 1) (decimal d.digits).length := by
      rw [padZeros, List.length_append, List.length_replicate]
      omega
    refine hpoint ⟨⟨?_, fun c hc => hpadded.digits c (List.mem_of_mem_take hc)⟩, ?_⟩
      ⟨?_, fun c hc => hpadded.digits c (List.mem_of_mem_drop hc)⟩
    · rw [ne_eq, ← List.length_eq_zero_iff, List.length_take]
      omega
    · -- One digit stands in front of the point if zeros were filled in, and else the first ones.
      rcases Nat.lt_or_ge (places + 1) (decimal d.digits).length with hlarge | hsmall
      · left
        have hsame : padZeros (places + 1 + 1) (decimal d.digits) = decimal d.digits := by
          rw [padZeros, Nat.sub_eq_zero_of_le hlarge, List.replicate_zero, List.nil_append]
        rw [hsame, List.head?_take, if_neg (by omega)]
        exact head?_decimal_ne h
      · right
        rw [List.length_take]
        omega
    · rw [ne_eq, ← List.length_eq_zero_iff, List.length_drop]
      omega

theorem isMagnitude_scientific (d : Binary64.Decimal) : IsMagnitude d.scientific := by
  have hdigits := (isWhole_decimal d.digits).digits
  obtain ⟨first, rest, hcons⟩ := List.exists_cons_of_ne_nil (decimal_ne_nil d.digits)
  have hexponent (n : Int) : IsExponent
      ('e' :: (if n < 0 then '-' else '+') :: decimalPadded 2 n.natAbs) := by
    have hsign (c : Char) (hc : c = '+' ∨ c = '-') : [c] = [] ∨ [c] = ['+'] ∨ [c] = ['-'] := by
      simpa using hc
    refine .power (Or.inl rfl) (hsign _ ?_) (isDigits_padZeros 2 (isWhole_decimal _).toIsDigits)
    split
    · exact Or.inr rfl
    · exact Or.inl rfl
  rw [hcons, List.forall_mem_cons] at hdigits
  have hfirst : IsWhole [first] :=
    ⟨⟨List.cons_ne_nil _ _, List.forall_mem_singleton.mpr hdigits.1⟩, Or.inr rfl⟩
  simp only [Binary64.Decimal.scientific, hcons]
  cases rest with
  | nil => exact .mk hfirst .nil (hexponent _)
  | cons second rest =>
      exact .mk hfirst (.point ⟨List.cons_ne_nil _ _, hdigits.2⟩) (hexponent _)

/-- The text of a finite number is a number of the grammar. -/
theorem isNumber_writeFloat {x : Binary64} (h : x.IsFinite) : IsNumber (writeFloat x) := by
  cases x with
  | nan => exact absurd rfl h.1
  | infinite negative => exact absurd rfl (h.2 negative)
  | finite negative mantissa exponent =>
      rw [writeFloat, Binary64.text]
      · refine IsMagnitude.isNumber ?_ (by cases negative <;> simp)
        split
        next hzero =>
          have hwhole : IsWhole ['0'] := ⟨isDigits_zero, Or.inr rfl⟩
          exact .mk hwhole (.point isDigits_zero) .nil
        next hzero =>
          rw [Binary64.Decimal.text]
          split
          · exact isMagnitude_positional (Binary64.digits_shortest_ne_zero hzero exponent)
          · exact isMagnitude_scientific _
      all_goals simp

/-! ## Strings -/

theorem Grammar.IsCharacter.isCharacters {text : List Char} (h : IsCharacter text) :
    IsCharacters text := by
  have hcons := IsCharacters.cons h .nil
  rwa [List.append_nil] at hcons

theorem Grammar.IsCharacters.append {text next : List Char} (h : IsCharacters text)
    (hnext : IsCharacters next) : IsCharacters (text ++ next) := by
  induction h with
  | nil => exact hnext
  | cons h hrest ih =>
      rw [List.append_assoc]
      exact .cons h ih

theorem isCharacter_unicodeEscape {unit : Nat} (h : unit < 0x10000) :
    IsCharacter (unicodeEscape unit) := by
  obtain ⟨a, b, c, d, hescape, hread⟩ := exists_unicodeEscape h
  rw [hescape]
  exact .unit (by rw [hread]; rfl)

theorem isCharacters_escapeChar (c : Char) : IsCharacters (escapeChar c) := by
  rw [escapeChar]
  split
  next hmark =>
    refine (IsCharacter.escape ?_).isCharacters
    rcases hmark with rfl | rfl <;> simp
  next hmark =>
    obtain ⟨hquote, hslash⟩ := not_or.mp hmark
    have hletter {letter : Char}
        (h : letter ∈ ['\x22', '\\', '/', 'b', 'f', 'n', 'r', 't']) :
        IsCharacters ['\\', letter] := (IsCharacter.escape h).isCharacters
    split_ifs with hn hr ht hb hf hplain hplane
    iterate 5 exact hletter (by simp)
    · exact (IsCharacter.plain hquote hslash hplain.1).isCharacters
    · exact (isCharacter_unicodeEscape hplane).isCharacters
    · -- A character beyond the first plane is two escapes, each of a unit of its own.
      have hlt := toNat_lt c
      exact (isCharacter_unicodeEscape (by omega)).isCharacters.append
        (isCharacter_unicodeEscape (by omega)).isCharacters

theorem isCharacters_escapePoint (point : CodePoint) : IsCharacters (escapePoint point) := by
  cases point with
  | char c => exact isCharacters_escapeChar c
  | half index =>
      have hlt : CodePoint.firstHalf + (index : Nat) < 0x10000 := by
        have := index.isLt
        rw [CodePoint.firstHalf]
        omega
      exact (isCharacter_unicodeEscape hlt).isCharacters

/-- Any text is written as a string, halves of characters included. -/
theorem isString_writeString (text : RawText) : IsString (writeString text) := by
  obtain ⟨points⟩ := text
  refine .mk ?_
  induction points with
  | nil => exact .nil
  | cons point rest ih =>
      rw [List.flatMap_cons]
      exact (isCharacters_escapePoint point).append ih

/-! ## Values -/

/-- All binary64 numbers in a value are finite. -/
inductive AllFinite : Json → Prop where
  | null : AllFinite .null
  | bool (value : Bool) : AllFinite (.bool value)
  | int (value : Int) : AllFinite (.int value)
  | float {value : Binary64} (h : value.IsFinite) : AllFinite (.float value)
  | string (value : RawText) : AllFinite (.string value)
  | array {items : List Json} (h : ∀ item ∈ items, AllFinite item) : AllFinite (.array items)
  | object {fields : List (RawText × Json)} (h : ∀ field ∈ fields, AllFinite field.2) :
    AllFinite (.object fields)

theorem Grammar.IsValue.isItem {text : List Char} (h : IsValue text) : IsItem text := by
  have hspace : IsSpace [] := List.forall_mem_nil _
  have hitem := IsItem.mk hspace h hspace
  rwa [List.append_nil] at hitem

theorem isMember_writeField {field : RawText × Json} (h : IsValue (write field.2)) :
    IsMember (writeField field) := by
  have hspace : IsSpace [] := List.forall_mem_nil _
  have hmember := IsMember.mk hspace (isString_writeString field.1) hspace h.isItem
  rwa [List.append_nil] at hmember

/-- What holds of single parts, and goes over to one part more with a comma, holds of all of them
with commas between them. -/
theorem commaSeparated_of {Part Row : List Char → Prop} {texts : List (List Char)}
    (hone : ∀ {text}, Part text → Row text)
    (hmore : ∀ {text rest}, Part text → Row rest → Row (text ++ ',' :: rest)) (hne : texts ≠ [])
    (h : ∀ text ∈ texts, Part text) : Row (commaSeparated texts) := by
  induction texts with
  | nil => contradiction
  | cons text rest ih =>
      obtain ⟨htext, hrest⟩ := List.forall_mem_cons.mp h
      cases rest with
      | nil =>
          rw [commaSeparated_singleton]
          exact hone htext
      | cons next rest =>
          rw [commaSeparated_cons_cons]
          exact hmore htext (ih (List.cons_ne_nil _ _) hrest)

theorem isValue_write_array {items : List Json} (h : ∀ item ∈ items, IsValue (write item)) :
    IsValue (write (.array items)) := by
  rw [write_array]
  cases items with
  | nil => exact .emptyArray (List.forall_mem_nil _)
  | cons item rest =>
      refine .array (commaSeparated_of .one .more (List.cons_ne_nil _ _) ?_)
      rw [List.forall_mem_map]
      exact fun item hmem => (h item hmem).isItem

theorem isObject_write_object {fields : List (RawText × Json)}
    (h : ∀ field ∈ fields, IsValue (write field.2)) : IsObject (write (.object fields)) := by
  rw [write_object]
  cases hsorted : byName fields with
  | nil => exact .empty (List.forall_mem_nil _)
  | cons first rest =>
      refine .members (commaSeparated_of .one .more (List.cons_ne_nil _ _) ?_)
      rw [← hsorted, List.forall_mem_map]
      exact fun field hmem => isMember_writeField (h field ((byName_perm fields).mem_iff.mp hmem))

/-- A value with finite numbers is written in the grammar. -/
theorem AllFinite.isValue {json : Json} (h : AllFinite json) : IsValue (write json) := by
  induction h with
  | null => exact .null
  | bool value =>
      cases value with
      | false => exact .false
      | true => exact .true
  | int value => exact .number (isNumber_signedDecimal value)
  | float h => exact .number (isNumber_writeFloat h)
  | string value => exact .string (isString_writeString value)
  | array h ih => exact isValue_write_array ih
  | object h ih => exact .object (isObject_write_object ih)

/-! ## Numbers that are not finite -/

theorem closed_commaSeparated {texts : List (List Char)} (h : ∀ text ∈ texts, Closed text) :
    Closed (commaSeparated texts) := by
  cases texts with
  | nil => exact .of_ne (List.forall_mem_nil _)
  | cons text rest =>
      refine commaSeparated_of id ?_ (List.cons_ne_nil _ _) h
      exact fun htext hrest => htext.append (hrest.cons (by decide))

/-- What stands outside of strings in one text stands there in all of them together. -/
theorem mem_outside_commaSeparated {texts : List (List Char)} (h : ∀ text ∈ texts, Closed text)
    {text : List Char} (hmem : text ∈ texts) {c : Char} (hc : c ∈ outside text) :
    c ∈ outside (commaSeparated texts) := by
  induction texts with
  | nil => cases hmem
  | cons first rest ih =>
      obtain ⟨hfirst, hrest⟩ := List.forall_mem_cons.mp h
      cases rest with
      | nil =>
          rw [commaSeparated_singleton]
          exact List.mem_singleton.mp hmem ▸ hc
      | cons next rest =>
          rw [commaSeparated_cons_cons, hfirst, List.mem_append, outside_cons (by decide)]
          rcases List.mem_cons.mp hmem with rfl | hmem
          · exact Or.inl hc
          · exact Or.inr (List.mem_cons_of_mem _ (ih hrest hmem))

theorem closed_enclosed {first last : Char} (hfirst : first ≠ '\x22') (hlast : last ≠ '\x22')
    {text : List Char} (h : Closed text) : Closed (first :: text ++ [last]) :=
  (h.cons hfirst).append (.of_ne (List.forall_mem_singleton.mpr hlast))

theorem mem_outside_enclosed {first last c : Char} (hfirst : first ≠ '\x22') {text : List Char}
    (h : Closed text) (hc : c ∈ outside text) : c ∈ outside (first :: text ++ [last]) := by
  rw [List.cons_append, outside_cons hfirst, h]
  exact List.mem_cons_of_mem _ (List.mem_append_left _ hc)

theorem closed_writeField {field : RawText × Json} (h : Closed (write field.2)) :
    Closed (writeField field) :=
  (isString_writeString field.1).closed.append (h.cons (by decide))

theorem mem_outside_writeField {field : RawText × Json} {c : Char}
    (hc : c ∈ outside (write field.2)) : c ∈ outside (writeField field) := by
  rw [writeField, fieldText, (isString_writeString field.1).closed, outside_cons (by decide)]
  exact List.mem_append_right _ (List.mem_cons_of_mem _ hc)

theorem closed_writeFloat (x : Binary64) : Closed (writeFloat x) := by
  cases x with
  | nan => exact .of_ne (by simp [writeFloat])
  | infinite negative => cases negative <;> exact .of_ne (by simp [writeFloat])
  | finite negative mantissa exponent =>
      have hfinite : (Binary64.finite negative mantissa exponent).IsFinite := by
        simp [Binary64.IsFinite]
      exact (isNumber_writeFloat hfinite).wordless.closed

theorem closed_write (json : Json) : Closed (write json) := by
  induction json using induction_on with
  | null => exact IsValue.null.wordless.closed
  | bool value => exact (AllFinite.bool value).isValue.wordless.closed
  | int value => exact (AllFinite.int value).isValue.wordless.closed
  | float value => exact closed_writeFloat value
  | string value => exact (isString_writeString value).closed
  | array items ih =>
      rw [write_array]
      refine closed_enclosed (by decide) (by decide) (closed_commaSeparated ?_)
      exact List.forall_mem_map.mpr ih
  | object fields ih =>
      rw [write_object]
      refine closed_enclosed (by decide) (by decide) (closed_commaSeparated ?_)
      rw [List.forall_mem_map]
      exact fun field hmem => closed_writeField (ih field ((byName_perm fields).mem_iff.mp hmem))

theorem isFinite_of_quiet {x : Binary64} (h : ∀ c ∈ outside (writeFloat x), Quiet c) :
    x.IsFinite := by
  cases x with
  | nan => simp [writeFloat, outside, Quiet] at h
  | infinite negative => cases negative <;> simp [writeFloat, outside, Quiet] at h
  | finite negative mantissa exponent => simp [Binary64.IsFinite]

/-- Outside of strings, the text of a number that is not finite shows in the text of a value. -/
theorem allFinite_of_quiet {json : Json} (h : ∀ c ∈ outside (write json), Quiet c) :
    AllFinite json := by
  induction json using induction_on with
  | null => exact .null
  | bool value => exact .bool value
  | int value => exact .int value
  | float value => exact .float (isFinite_of_quiet h)
  | string value => exact .string value
  | array items ih =>
      refine .array fun item hmem => ih item hmem fun c hc => h c ?_
      have hclosed : ∀ text ∈ items.map write, Closed text :=
        List.forall_mem_map.mpr fun item _ => closed_write item
      rw [write_array]
      exact mem_outside_enclosed (by decide) (closed_commaSeparated hclosed)
        (mem_outside_commaSeparated hclosed (List.mem_map_of_mem hmem) hc)
  | object fields ih =>
      refine .object fun field hmem => ih field hmem fun c hc => h c ?_
      have hclosed : ∀ text ∈ (byName fields).map writeField, Closed text :=
        List.forall_mem_map.mpr fun field _ => closed_writeField (closed_write field.2)
      have hsorted := (byName_perm fields).mem_iff.mpr hmem
      rw [write_object]
      exact mem_outside_enclosed (by decide) (closed_commaSeparated hclosed)
        (mem_outside_commaSeparated hclosed (List.mem_map_of_mem hsorted)
          (mem_outside_writeField hc))

/-- An object is written in the grammar exactly if the numbers in it are finite. -/
theorem isObject_write_iff (fields : List (RawText × Json)) :
    IsObject (write (.object fields)) ↔ AllFinite (.object fields) := by
  constructor
  · exact fun h => allFinite_of_quiet h.wordless.quiet
  · intro hfinite
    cases hfinite with
    | object h => exact isObject_write_object fun field hmem => (h field hmem).isValue

end Json

end ScanAccess
