import ScanAccess.Json.Reader
import ScanAccess.Json.Writer

/-! # Numerals read back

What is written in decimal or hexadecimal digits is read back as the same number.
Decimal digits end where a text goes on with something else, and four hexadecimal
digits are enough for a code unit of UTF-16. Digits are among the plain characters,
the ones of ASCII that can be printed.
-/

namespace ScanAccess

namespace Text

/-- A character of ASCII that can be printed. -/
def IsPlain (c : Char) : Prop :=
  0x20 ≤ c.toNat ∧ c.toNat < 0x7f

instance (c : Char) : Decidable (IsPlain c) :=
  inferInstanceAs (Decidable (_ ∧ _))

/-- A text is plain if a look at each of its characters says so. -/
theorem isPlain_of_all {cs : List Char} (h : cs.all (fun c => decide (IsPlain c)) = true) :
    ∀ c ∈ cs, IsPlain c :=
  fun c hc => of_decide_eq_true (List.all_eq_true.mp h c hc)

/-! ## Decimal digits -/

theorem isDigit_of_mem_decimal {c : Char} {n : Nat} (h : c ∈ decimal n) : isDigit c = true :=
  Nat.isDigit_of_mem_toDigits (by omega) (by omega) h

theorem toNat_of_isDigit {c : Char} (h : isDigit c = true) : 0x30 ≤ c.toNat ∧ c.toNat ≤ 0x39 := by
  simpa [isDigit, Char.le_def, UInt32.le_iff_toNat_le] using h

theorem decimal_ne_nil (n : Nat) : decimal n ≠ [] :=
  Nat.toDigits_ne_nil

theorem ofDigits_decimal (n : Nat) : ofDigits (decimal n) = n := by
  rw [ofDigits, ← Nat.ofDigitChars_eq_foldl]
  exact Nat.ofDigitChars_toDigits (by omega) (by omega)

/-- A number with more than one digit does not begin with a zero. -/
theorem decimal_no_leading_zero (n : Nat) :
    (decimal n).head? ≠ some '0' ∨ (decimal n).length = 1 := by
  induction n using Nat.strongRecOn with
  | ind n ih =>
      rw [decimal, Nat.toDigits_eq_if (by omega)]
      split
      next => exact Or.inr rfl
      next hlarge =>
        -- The leading digits are those of a tenth of the number, which is not zero.
        left
        have hhead : (decimal (n / 10)).head? ≠ some '0' := by
          rcases ih (n / 10) (by omega) with hhead | hlength
          · exact hhead
          · have hdigit : n / 10 < 10 := by
              have hlt := (Nat.length_toDigits_le_iff (by omega) (by omega)).mp
                (Nat.le_of_eq hlength)
              simpa using hlt
            rw [decimal, Nat.toDigits_of_lt_base hdigit, List.head?_cons, ne_eq, Option.some_inj,
              Nat.digitChar_eq_zero]
            omega
        obtain ⟨first, others, hcons⟩ := List.exists_cons_of_ne_nil (decimal_ne_nil (n / 10))
        have hdigits : Nat.toDigits 10 (n / 10) = first :: others := hcons
        rw [hcons] at hhead
        rwa [hdigits, List.cons_append]

/-- A row of digits is cut off where the text goes on with something else. -/
theorem spanDigits_append {digits rest : List Char} (h : ∀ c ∈ digits, isDigit c = true)
    (hrest : ∀ c ∈ rest.head?, isDigit c = false) :
    spanDigits (digits ++ rest) = (digits, rest) := by
  rw [spanDigits, List.takeWhile_append_of_pos h, List.dropWhile_append_of_pos h]
  cases rest with
  | nil => simp
  | cons c rest =>
      have hc : isDigit c = false := hrest c rfl
      simp [hc]

theorem isPlain_of_mem_decimal {c : Char} {n : Nat} (h : c ∈ decimal n) : IsPlain c := by
  have hdigit := toNat_of_isDigit (isDigit_of_mem_decimal h)
  exact ⟨by omega, by omega⟩

theorem isPlain_of_mem_signedDecimal {c : Char} {n : Int} (h : c ∈ signedDecimal n) :
    IsPlain c := by
  rw [signedDecimal] at h
  split at h
  · rcases List.mem_cons.mp h with rfl | h
    · decide
    · exact isPlain_of_mem_decimal h
  · exact isPlain_of_mem_decimal h

theorem isPlain_of_mem_padZeros {c : Char} {width : Nat} {digits : List Char}
    (hdigits : ∀ c ∈ digits, IsPlain c) (h : c ∈ padZeros width digits) : IsPlain c := by
  rcases List.mem_append.mp h with h | h
  · rw [(List.mem_replicate.mp h).2]
    decide
  · exact hdigits c h

/-! ## Hexadecimal digits -/

/-- Four digits stand for a number below `16 ^ 4`. -/
theorem hexPadded_four {n : Nat} (h : n < 0x10000) :
    hexPadded 4 n =
      [(n / 4096).digitChar, (n / 256 % 16).digitChar, (n / 16 % 16).digitChar,
        (n % 16).digitChar] := by
  have hstep (m : Nat) (hm : 16 ≤ m) :
      Nat.toDigits 16 m = Nat.toDigits 16 (m / 16) ++ [(m % 16).digitChar] :=
    Nat.toDigits_of_base_le (by omega) hm
  have hsixteen : n / 16 / 16 = n / 256 := by omega
  have hlast : n / 256 / 16 = n / 4096 := by omega
  rw [hexPadded]
  -- Without zeros in front there are as many digits as the number needs, one in each case more.
  rcases Nat.lt_or_ge n 16 with hn | hn
  · have hzero : n / 4096 = 0 ∧ n / 256 = 0 ∧ n / 16 = 0 ∧ n % 16 = n := by omega
    rw [Nat.toDigits_of_lt_base hn]
    simp [padZeros, hzero, Nat.digitChar]
  rcases Nat.lt_or_ge n 256 with hn' | hn'
  · have hzero : n / 4096 = 0 ∧ n / 256 = 0 ∧ n / 16 % 16 = n / 16 := by omega
    rw [hstep n hn, Nat.toDigits_of_lt_base (by omega)]
    simp [padZeros, hzero, Nat.digitChar]
  rcases Nat.lt_or_ge n 4096 with hn'' | hn''
  · have hzero : n / 4096 = 0 ∧ n / 256 % 16 = n / 256 := by omega
    rw [hstep n hn, hstep (n / 16) (by omega), hsixteen, Nat.toDigits_of_lt_base (by omega)]
    simp [padZeros, hzero, Nat.digitChar]
  · rw [hstep n hn, hstep (n / 16) (by omega), hsixteen, hstep (n / 256) (by omega), hlast,
      Nat.toDigits_of_lt_base (by omega)]
    simp [padZeros]

theorem hexValue?_digitChar {n : Nat} (h : n < 16) : hexValue? n.digitChar = some n := by
  revert n
  decide

theorem isPlain_digitChar {n : Nat} (h : n < 16) : IsPlain n.digitChar := by
  revert n
  decide

theorem isPlain_of_mem_toDigits {c : Char} {n : Nat} (h : c ∈ Nat.toDigits 16 n) : IsPlain c := by
  induction n using Nat.strongRecOn with
  | ind n ih =>
      rw [Nat.toDigits_eq_if (by omega)] at h
      split at h
      next hn =>
        rw [List.mem_singleton.mp h]
        exact isPlain_digitChar hn
      next hn =>
        rcases List.mem_append.mp h with h | h
        · exact ih (n / 16) (by omega) h
        · rw [List.mem_singleton.mp h]
          exact isPlain_digitChar (Nat.mod_lt n (by omega))

theorem isPlain_of_mem_hexPadded {c : Char} {width n : Nat} (h : c ∈ hexPadded width n) :
    IsPlain c :=
  isPlain_of_mem_padZeros (fun _ => isPlain_of_mem_toDigits) h

end Text

namespace Binary64

open ScanAccess.Text

/-! ## Binary64 numbers -/

theorem Decimal.isPlain_positional (d : Decimal) : ∀ c ∈ d.positional, IsPlain c := by
  simp only [positional]
  split
  · rw [List.forall_mem_append, List.forall_mem_append]
    refine ⟨⟨fun c => isPlain_of_mem_decimal, fun c hc => ?_⟩, isPlain_of_all (by decide)⟩
    rw [List.eq_of_mem_replicate hc]
    decide
  · have hdigits : ∀ c ∈ padZeros ((-d.exponent).toNat + 1) (decimal d.digits), IsPlain c :=
      fun c => isPlain_of_mem_padZeros fun _ => isPlain_of_mem_decimal
    rw [List.forall_mem_append, List.forall_mem_cons]
    exact ⟨fun c hc => hdigits c (List.mem_of_mem_take hc), by decide,
      fun c hc => hdigits c (List.mem_of_mem_drop hc)⟩

theorem Decimal.isPlain_scientific (d : Decimal) : ∀ c ∈ d.scientific, IsPlain c := by
  have hdigits : ∀ c ∈ decimal d.digits, IsPlain c := fun c => isPlain_of_mem_decimal
  simp only [scientific, List.forall_mem_append, List.forall_mem_cons]
  refine ⟨?_, by decide, ?_, fun c => isPlain_of_mem_padZeros fun _ => isPlain_of_mem_decimal⟩
  · split
    next => exact List.forall_mem_nil _
    next first hcons => rwa [← hcons]
    next first rest _ hcons =>
      rw [hcons, List.forall_mem_cons] at hdigits
      rw [List.forall_mem_cons, List.forall_mem_cons]
      exact ⟨hdigits.1, by decide, hdigits.2⟩
  · split <;> decide

/-- The text of a number is plain. -/
theorem isPlain_text (x : Binary64) : ∀ c ∈ x.text, IsPlain c := by
  cases x with
  | nan => exact isPlain_of_all (by decide)
  | infinite negative => cases negative <;> exact isPlain_of_all (by decide)
  | finite negative mantissa exponent =>
      simp only [text, List.forall_mem_append]
      refine ⟨by cases negative <;> exact isPlain_of_all (by decide), ?_⟩
      split
      · exact isPlain_of_all (by decide)
      · rw [Decimal.text]
        split
        · exact Decimal.isPlain_positional _
        · exact Decimal.isPlain_scientific _

end Binary64

namespace Json

open ScanAccess.Text

/-- A code unit of UTF-16 is read back from its escape. -/
theorem exists_unicodeEscape {unit : Nat} (h : unit < 0x10000) :
    ∃ a b c d, unicodeEscape unit = ['\\', 'u', a, b, c, d] ∧ readUnit? a b c d = some unit := by
  refine ⟨_, _, _, _, congrArg (fun digits => '\\' :: 'u' :: digits) (hexPadded_four h), ?_⟩
  have h₀ := hexValue?_digitChar (n := unit / 4096) (by omega)
  have h₁ := hexValue?_digitChar (n := unit / 256 % 16) (by omega)
  have h₂ := hexValue?_digitChar (n := unit / 16 % 16) (by omega)
  have h₃ := hexValue?_digitChar (n := unit % 16) (by omega)
  simp only [readUnit?, h₀, h₁, h₂, h₃, Option.bind_eq_bind, Option.bind_some, Option.pure_def,
    Option.some.injEq]
  omega

end Json

end ScanAccess
