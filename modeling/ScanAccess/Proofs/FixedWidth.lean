import Mathlib.Data.List.Forall2
import ScanAccess.Proofs.Numerals
import ScanAccess.Time.Timestamp

/-! # Numerals of fixed width

A numeral filled up to a width that is enough for its number has exactly that width, is read back
by its width, and stands before another of the same width exactly if its number is smaller. The
same holds of a row of such numerals, each with a mark behind it: the marks stand in the same
places in all rows of one form, so the order of the texts is that of the numbers, compared one
after the other.
-/

namespace ScanAccess

theorem append_lt_append_iff {α : Type} [LT α] [Std.Irrefl fun a b : α => a < b]
    {xs ys rest others : List α} (h : xs.length = ys.length) :
    xs ++ rest < ys ++ others ↔ xs < ys ∨ xs = ys ∧ rest < others := by
  induction xs generalizing ys with
  | nil =>
      cases List.eq_nil_of_length_eq_zero h.symm
      simp
  | cons x xs ih =>
      cases ys with
      | nil => cases h
      | cons y ys =>
          rw [List.cons_append, List.cons_append, List.cons_lt_cons_iff, List.cons_lt_cons_iff,
            ih (Nat.succ.inj h), List.cons.injEq, and_or_left, or_assoc, and_assoc]

namespace Text

/-! ## Rows of digits -/

theorem ofDigits_eq (digits : List Char) : ofDigits digits = Nat.ofDigitChars 10 digits 0 :=
  Nat.ofDigitChars_eq_foldl.symm

theorem ofDigits_cons (c : Char) (digits : List Char) :
    ofDigits (c :: digits) = tenTo digits.length * (c.toNat - '0'.toNat) + ofDigits digits := by
  rw [ofDigits_eq, ofDigits_eq, Nat.ofDigitChars_cons, Nat.ofDigitChars_eq_ofDigitChars_zero,
    Nat.mul_zero, Nat.zero_add]
  rfl

theorem ofDigits_lt {digits : List Char} (h : ∀ c ∈ digits, isDigit c = true) :
    ofDigits digits < tenTo digits.length := by
  induction digits with
  | nil => exact Nat.one_pos
  | cons c digits ih =>
      obtain ⟨hc, hdigits⟩ := List.forall_mem_cons.mp h
      have hzero : '0'.toNat = 0x30 := rfl
      have hdigit := toNat_of_isDigit hc
      have hrest := ih hdigits
      have hle : tenTo digits.length * (c.toNat - '0'.toNat) ≤ tenTo digits.length * 9 :=
        Nat.mul_le_mul_left _ (by omega)
      have hten : tenTo (digits.length + 1) = tenTo digits.length * 10 := rfl
      rw [ofDigits_cons, List.length_cons, hten]
      omega

/-- Numbers with the same number of lower digits are compared by what stands above these first. -/
theorem mul_add_lt_iff {size high high' low low' : Nat} (hlow : low < size) (hlow' : low' < size) :
    size * high + low < size * high' + low' ↔ high < high' ∨ high = high' ∧ low < low' := by
  rcases Nat.lt_trichotomy high high' with hlt | rfl | hlt
  · have hle : size * high + size ≤ size * high' := Nat.mul_le_mul_left size hlt
    omega
  · omega
  · have hle : size * high' + size ≤ size * high := Nat.mul_le_mul_left size hlt
    omega

/-- Of two rows with equally many digits the one with the smaller value comes first. -/
theorem digits_lt_iff {xs ys : List Char} (hxs : ∀ c ∈ xs, isDigit c = true)
    (hys : ∀ c ∈ ys, isDigit c = true) (h : xs.length = ys.length) :
    xs < ys ↔ ofDigits xs < ofDigits ys := by
  induction xs generalizing ys with
  | nil =>
      cases List.eq_nil_of_length_eq_zero h.symm
      simp
  | cons x xs ih =>
      cases ys with
      | nil => cases h
      | cons y ys =>
          have hlength : xs.length = ys.length := Nat.succ.inj h
          obtain ⟨hx, hxs⟩ := List.forall_mem_cons.mp hxs
          obtain ⟨hy, hys⟩ := List.forall_mem_cons.mp hys
          have hx := toNat_of_isDigit hx
          have hy := toNat_of_isDigit hy
          have hzero : '0'.toNat = 0x30 := rfl
          have hlow := ofDigits_lt hxs
          rw [hlength] at hlow
          -- the first digits decide, unless they are the same
          rw [List.cons_lt_cons_iff, ih hxs hys hlength, ofDigits_cons, ofDigits_cons, hlength,
            mul_add_lt_iff hlow (ofDigits_lt hys), Char.lt_def, UInt32.lt_iff_toNat_lt,
            ← Char.toNat_inj]
          change x.toNat < y.toNat ∨ _ ↔ _
          omega

/-! ## Numerals -/

variable {width n : Nat}

theorem isDigit_of_mem_decimalPadded {c : Char} (h : c ∈ decimalPadded width n) :
    isDigit c = true := by
  rcases List.mem_append.mp h with h | h
  · rw [List.eq_of_mem_replicate h]
    rfl
  · exact isDigit_of_mem_decimal h

theorem length_decimalPadded (hwidth : 0 < width) (h : n < tenTo width) :
    (decimalPadded width n).length = width := by
  have hlength : (decimal n).length ≤ width :=
    (Nat.length_toDigits_le_iff (by omega) hwidth).mpr h
  rw [decimalPadded, padZeros, List.length_append, List.length_replicate]
  omega

theorem ofDigits_decimalPadded (width n : Nat) : ofDigits (decimalPadded width n) = n := by
  rw [decimalPadded, padZeros, ofDigits_eq, Nat.ofDigitChars_append,
    Nat.ofDigitChars_replicate_zero, Nat.mul_zero, ← ofDigits_eq, ofDigits_decimal]

theorem lt_length_decimal (hwidth : 0 < width) (h : tenTo width ≤ n) :
    width < (decimal n).length :=
  Nat.not_le.mp fun hle =>
    Nat.not_lt.mpr h ((Nat.length_toDigits_le_iff (by omega) hwidth).mp hle)

/-- A numeral that is long enough is not filled up. -/
theorem decimalPadded_eq_decimal (h : width ≤ (decimal n).length) :
    decimalPadded width n = decimal n := by
  rw [decimalPadded, padZeros, Nat.sub_eq_zero_of_le h, List.replicate_zero, List.nil_append]

theorem signedDecimalPadded_of_nonneg (width : Nat) {n : Int} (h : 0 ≤ n) :
    signedDecimalPadded width n = decimalPadded width n.toNat := by
  have habs : n.natAbs = n.toNat := by omega
  rw [signedDecimalPadded, if_neg (Int.not_lt.mpr h), habs]

theorem decimalPadded_lt_iff {m : Nat} (hwidth : 0 < width) (hm : m < tenTo width)
    (hn : n < tenTo width) : decimalPadded width m < decimalPadded width n ↔ m < n := by
  rw [digits_lt_iff (fun _ => isDigit_of_mem_decimalPadded)
    (fun _ => isDigit_of_mem_decimalPadded), ofDigits_decimalPadded, ofDigits_decimalPadded]
  rw [length_decimalPadded hwidth hm, length_decimalPadded hwidth hn]

theorem decimalPadded_inj {m : Nat} : decimalPadded width m = decimalPadded width n ↔ m = n := by
  constructor
  · intro h
    rw [← ofDigits_decimalPadded width m, h, ofDigits_decimalPadded]
  · rintro rfl
    rfl

theorem readFixed_decimalPadded (hwidth : 0 < width) (h : n < tenTo width) (rest : List Char) :
    Timestamp.readFixed width (decimalPadded width n ++ rest) = some (n, rest) := by
  have hlength := length_decimalPadded hwidth h
  have hdigits : (decimalPadded width n).all isDigit = true :=
    List.all_eq_true.mpr fun _ => isDigit_of_mem_decimalPadded
  rw [Timestamp.readFixed, List.take_left' hlength, List.drop_left' hlength]
  simp only [hlength, hdigits, ofDigits_decimalPadded, and_self, if_true]

/-! ## Rows of numerals -/

/-- Numbers in numerals of given widths, each with its mark behind it. -/
def row : List (Nat × Char) → List Nat → List Char
  | (width, mark) :: form, n :: values => decimalPadded width n ++ mark :: row form values
  | _, _ => []

/-- Cuts the numerals and marks of a row off the front. -/
def readRow : List (Nat × Char) → List Char → Option (List Nat × List Char)
  | [], cs => some ([], cs)
  | (width, mark) :: form, cs => do
    let (n, cs) ← Timestamp.readFixed width cs
    let cs ← Timestamp.readChar mark cs
    let (values, cs) ← readRow form cs
    return (n :: values, cs)

/-- The widths of a form are enough for the numbers. -/
def Fits (form : List (Nat × Char)) (values : List Nat) : Prop :=
  List.Forall₂ (fun field n => 0 < field.1 ∧ n < tenTo field.1) form values

variable {form : List (Nat × Char)} {values others : List Nat}

theorem Fits.readRow_row (h : Fits form values) (rest : List Char) :
    readRow form (row form values ++ rest) = some (values, rest) := by
  induction h with
  | nil => rfl
  | @cons field n form values hfield _ ih =>
      have hmark : Timestamp.readChar field.2 (field.2 :: (row form values ++ rest)) =
          some (row form values ++ rest) := if_pos rfl
      rw [row, List.append_assoc, List.cons_append, readRow,
        readFixed_decimalPadded hfield.1 hfield.2]
      simp only [Option.bind_eq_bind, Option.bind_some, hmark, ih, Option.pure_def]

/-- Rows of one form are in the order of their numbers. -/
theorem Fits.row_lt_iff (h : Fits form values) (hothers : Fits form others) :
    row form values < row form others ↔ values < others := by
  induction h generalizing others with
  | nil =>
      cases hothers
      simp [row]
  | @cons field n form values hfield _ ih =>
      cases hothers with
      | @cons _ m _ others hfield' hothers =>
          have hlength : (decimalPadded field.1 n).length = (decimalPadded field.1 m).length := by
            rw [length_decimalPadded hfield.1 hfield.2, length_decimalPadded hfield'.1 hfield'.2]
          rw [row, row, append_lt_append_iff hlength,
            decimalPadded_lt_iff hfield.1 hfield.2 hfield'.2, decimalPadded_inj,
            List.cons_lt_cons_iff, List.cons_lt_cons_iff, ih hothers]
          simp

/-! ## The form of a text -/

/-- A text with a zero in place of every digit. -/
def shape (text : List Char) : List Char :=
  text.map fun c => if isDigit c then '0' else c

theorem shape_decimalPadded (hwidth : 0 < width) (h : n < tenTo width) :
    shape (decimalPadded width n) = List.replicate width '0' := by
  refine List.eq_replicate_iff.mpr ⟨?_, fun c hc => ?_⟩
  · rw [shape, List.length_map, length_decimalPadded hwidth h]
  · obtain ⟨digit, hdigit, rfl⟩ := List.mem_map.mp hc
    exact if_pos (isDigit_of_mem_decimalPadded hdigit)

/-- All rows of one form look the same but for their digits. -/
theorem Fits.shape_row (h : Fits form values)
    (hmarks : ∀ field ∈ form, isDigit field.2 = false) :
    shape (row form values) =
      form.flatMap fun field => List.replicate field.1 '0' ++ [field.2] := by
  induction h with
  | nil => rfl
  | @cons field n form values hfield _ ih =>
      obtain ⟨hmark, hmarks⟩ := List.forall_mem_cons.mp hmarks
      have hdigits := shape_decimalPadded hfield.1 hfield.2
      have hrow := ih hmarks
      rw [shape] at hdigits hrow
      rw [row, shape, List.map_append, List.map_cons, hdigits, hrow, List.flatMap_cons]
      simp [hmark]

end Text

end ScanAccess
