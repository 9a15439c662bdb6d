import Mathlib.Tactic.SplitIfs
import ScanAccess.Bytes.Base64

/-! # Base64 read back

The text of some bytes has four characters for every three of them, all from the URL-safe
alphabet but for the signs that fill up the last group. It is read back as these bytes, and it
is the only text that is.
-/

namespace ScanAccess.Bytes.Base64

/-- A character of the URL-safe alphabet: a letter or a digit of ASCII, or one of two marks. -/
def IsUrlSafe (c : Char) : Prop :=
  c.isAlphanum = true ∨ c = '-' ∨ c = '_'

instance (c : Char) : Decidable (IsUrlSafe c) :=
  inferInstanceAs (Decidable (_ ∨ _))

/-! ## Characters and their numbers -/

theorem isUrlSafe_digit {n : Nat} (h : n < 64) : IsUrlSafe (digit n) := by
  revert n
  decide

theorem digit_ne_pad {n : Nat} (h : n < 64) : digit n ≠ '=' := by
  revert n
  decide

theorem value?_digit {n : Nat} (h : n < 64) : value? (digit n) = some n := by
  revert n
  decide

/-- Only the character of a number is read as the number. -/
theorem digit_of_value? {c : Char} {n : Nat} (h : value? c = some n) : n < 64 ∧ digit n = c := by
  have hascii : ∀ code < 0x80, ∀ n ∈ value? (Char.ofNat code),
      n < 64 ∧ digit n = Char.ofNat code := by
    decide +kernel
  have hbelow {last : Char} (hlast : last.toNat < 0x80) (hle : c ≤ last) : c.toNat < 0x80 :=
    Nat.lt_of_le_of_lt (UInt32.le_iff_toNat_le.mp hle) hlast
  -- Characters beyond ASCII have no number.
  have hlt : c.toNat < 0x80 := by
    rw [value?] at h
    split_ifs at h with hupper hlower hdigit hminus hline
    · exact hbelow (by decide) hupper.2
    · exact hbelow (by decide) hlower.2
    · exact hbelow (by decide) hdigit.2
    · exact hminus ▸ by decide
    · exact hline ▸ by decide
  have hnumber := hascii c.toNat hlt n
  rw [Char.ofNat_toNat] at hnumber
  exact hnumber h

/-! ## Reading a text back -/

theorem decode?_group {p q r s : Char} {rest : List Char} (hs : s ≠ '=') :
    decode? (p :: q :: r :: s :: rest) = (do
      let p ← value? p
      let q ← value? q
      let r ← value? r
      let s ← value? s
      let bytes ← decode? rest
      return UInt8.ofNat (p * 4 + q / 16) :: UInt8.ofNat (q % 16 * 16 + r / 4)
        :: UInt8.ofNat (r % 4 * 64 + s) :: bytes) := by
  rw [decode?]
  all_goals simp_all

theorem decode?_two {p q r : Char} (hr : r ≠ '=') :
    decode? [p, q, r, '='] = (do
      let p ← value? p
      let q ← value? q
      let r ← value? r
      if r % 4 = 0 then
        some [UInt8.ofNat (p * 4 + q / 16), UInt8.ofNat (q % 16 * 16 + r / 4)]
      else none) := by
  rw [decode?]
  all_goals simp_all

theorem ofNat_eq_of_toNat_eq {byte : UInt8} {n : Nat} (h : n = byte.toNat) :
    UInt8.ofNat n = byte := by
  rw [h, UInt8.ofNat_toNat]

/-- The bytes are read back from their text. -/
theorem decode?_encode (bytes : List UInt8) : decode? (encode bytes) = some bytes := by
  fun_induction encode bytes with
  | case1 => rfl
  | case2 a x =>
      have hx : x < 256 := a.toNat_lt
      have hp := value?_digit (n := x / 4) (by omega)
      have hq := value?_digit (n := x % 4 * 16) (by omega)
      have ha : UInt8.ofNat (x / 4 * 4 + x % 4 * 16 / 16) = a := ofNat_eq_of_toNat_eq (by omega)
      simp only [decode?, hp, hq, Option.bind_eq_bind, Option.bind_some, ha]
      rw [if_pos (by omega)]
  | case3 a b x y =>
      have hx : x < 256 := a.toNat_lt
      have hy : y < 256 := b.toNat_lt
      have hp := value?_digit (n := x / 4) (by omega)
      have hq := value?_digit (n := x % 4 * 16 + y / 16) (by omega)
      have hr := value?_digit (n := y % 16 * 4) (by omega)
      have ha : UInt8.ofNat (x / 4 * 4 + (x % 4 * 16 + y / 16) / 16) = a :=
        ofNat_eq_of_toNat_eq (by omega)
      have hb : UInt8.ofNat ((x % 4 * 16 + y / 16) % 16 * 16 + y % 16 * 4 / 4) = b :=
        ofNat_eq_of_toNat_eq (by omega)
      rw [decode?_two (digit_ne_pad (by omega))]
      simp only [hp, hq, hr, Option.bind_eq_bind, Option.bind_some, ha, hb]
      rw [if_pos (by omega)]
  | case4 a b c rest x y z ih =>
      have hx : x < 256 := a.toNat_lt
      have hy : y < 256 := b.toNat_lt
      have hz : z < 256 := c.toNat_lt
      have hp := value?_digit (n := x / 4) (by omega)
      have hq := value?_digit (n := x % 4 * 16 + y / 16) (by omega)
      have hr := value?_digit (n := y % 16 * 4 + z / 64) (by omega)
      have hs := value?_digit (n := z % 64) (by omega)
      have ha : UInt8.ofNat (x / 4 * 4 + (x % 4 * 16 + y / 16) / 16) = a :=
        ofNat_eq_of_toNat_eq (by omega)
      have hb : UInt8.ofNat ((x % 4 * 16 + y / 16) % 16 * 16 + (y % 16 * 4 + z / 64) / 4) = b :=
        ofNat_eq_of_toNat_eq (by omega)
      have hc : UInt8.ofNat ((y % 16 * 4 + z / 64) % 4 * 64 + z % 64) = c :=
        ofNat_eq_of_toNat_eq (by omega)
      rw [decode?_group (digit_ne_pad (by omega))]
      simp only [hp, hq, hr, hs, ih, Option.bind_eq_bind, Option.bind_some, ha, hb, hc]
      rfl

/-- A text that is read as some bytes is the text of these bytes. -/
theorem encode_of_decode? {text : List Char} {bytes : List UInt8}
    (h : decode? text = some bytes) : encode bytes = text := by
  have hvalue {byte : Nat} (hlt : byte < 256) : (UInt8.ofNat byte).toNat = byte :=
    UInt8.toNat_ofNat_of_lt' hlt
  fun_induction decode? text generalizing bytes with
  | case1 =>
      cases h
      rfl
  | case2 =>
      simp only [Option.bind_eq_bind, Option.bind_eq_some_iff, Option.ite_none_right_eq_some,
        Option.some.injEq] at h
      obtain ⟨m, hp, n, hq, hzero, rfl⟩ := h
      obtain ⟨hm, rfl⟩ := digit_of_value? hp
      obtain ⟨hn, rfl⟩ := digit_of_value? hq
      have hfirst : (m * 4 + n / 16) / 4 = m := by omega
      have hsecond : (m * 4 + n / 16) % 4 * 16 = n := by omega
      simp only [encode, hvalue (show m * 4 + n / 16 < 256 by omega), hfirst, hsecond]
  | case3 =>
      simp only [Option.bind_eq_bind, Option.bind_eq_some_iff, Option.ite_none_right_eq_some,
        Option.some.injEq] at h
      obtain ⟨m, hp, n, hq, k, hr, hzero, rfl⟩ := h
      obtain ⟨hm, rfl⟩ := digit_of_value? hp
      obtain ⟨hn, rfl⟩ := digit_of_value? hq
      obtain ⟨hk, rfl⟩ := digit_of_value? hr
      have hfirst : (m * 4 + n / 16) / 4 = m := by omega
      have hsecond : (m * 4 + n / 16) % 4 * 16 + (n % 16 * 16 + k / 4) / 16 = n := by omega
      have hthird : (n % 16 * 16 + k / 4) % 16 * 4 = k := by omega
      simp only [encode, hvalue (show m * 4 + n / 16 < 256 by omega),
        hvalue (show n % 16 * 16 + k / 4 < 256 by omega), hfirst, hsecond, hthird]
  | case4 _ _ _ _ _ _ _ ih =>
      simp only [Option.bind_eq_bind, Option.bind_eq_some_iff, Option.pure_def,
        Option.some.injEq] at h
      obtain ⟨m, hp, n, hq, k, hr, l, hs, others, hrest, rfl⟩ := h
      obtain ⟨hm, rfl⟩ := digit_of_value? hp
      obtain ⟨hn, rfl⟩ := digit_of_value? hq
      obtain ⟨hk, rfl⟩ := digit_of_value? hr
      obtain ⟨hl, rfl⟩ := digit_of_value? hs
      have hfirst : (m * 4 + n / 16) / 4 = m := by omega
      have hsecond : (m * 4 + n / 16) % 4 * 16 + (n % 16 * 16 + k / 4) / 16 = n := by omega
      have hthird : (n % 16 * 16 + k / 4) % 16 * 4 + (k % 4 * 64 + l) / 64 = k := by omega
      have hfourth : (k % 4 * 64 + l) % 64 = l := by omega
      simp only [encode, hvalue (show m * 4 + n / 16 < 256 by omega),
        hvalue (show n % 16 * 16 + k / 4 < 256 by omega),
        hvalue (show k % 4 * 64 + l < 256 by omega), hfirst, hsecond, hthird, hfourth, ih hrest]
  | case5 => cases h

/-- A text is read as some bytes exactly if it is the text of these bytes. -/
theorem decode?_eq_some_iff {text : List Char} {bytes : List UInt8} :
    decode? text = some bytes ↔ encode bytes = text := by
  constructor
  · exact encode_of_decode?
  · rintro rfl
    exact decode?_encode bytes

/-! ## The form of a text -/

theorem length_encode (bytes : List UInt8) :
    (encode bytes).length = 4 * ((bytes.length + 2) / 3) := by
  fun_induction encode bytes with
  | case1 => rfl
  | case2 => simp
  | case3 => simp
  | case4 a b c rest x y z ih =>
      simp only [List.length_cons, ih]
      omega

theorem exists_encode_eq (bytes : List UInt8) :
    ∃ body, encode bytes = body ++ List.replicate ((3 - bytes.length % 3) % 3) '=' ∧
      ∀ c ∈ body, IsUrlSafe c := by
  fun_induction encode bytes with
  | case1 => exact ⟨[], rfl, List.forall_mem_nil _⟩
  | case2 a x =>
      have hx : x < 256 := a.toNat_lt
      refine ⟨[digit (x / 4), digit (x % 4 * 16)], rfl, ?_⟩
      simp only [List.forall_mem_cons]
      exact ⟨isUrlSafe_digit (by omega), isUrlSafe_digit (by omega), List.forall_mem_nil _⟩
  | case3 a b x y =>
      have hx : x < 256 := a.toNat_lt
      have hy : y < 256 := b.toNat_lt
      refine ⟨[digit (x / 4), digit (x % 4 * 16 + y / 16), digit (y % 16 * 4)], rfl, ?_⟩
      simp only [List.forall_mem_cons]
      exact ⟨isUrlSafe_digit (by omega), isUrlSafe_digit (by omega), isUrlSafe_digit (by omega),
        List.forall_mem_nil _⟩
  | case4 a b c rest x y z ih =>
      have hx : x < 256 := a.toNat_lt
      have hy : y < 256 := b.toNat_lt
      have hz : z < 256 := c.toNat_lt
      obtain ⟨body, hbody, hsafe⟩ := ih
      have hlength : (a :: b :: c :: rest).length % 3 = rest.length % 3 := by
        simp only [List.length_cons]
        omega
      refine ⟨digit (x / 4) :: digit (x % 4 * 16 + y / 16) :: digit (y % 16 * 4 + z / 64) ::
        digit (z % 64) :: body, ?_, ?_⟩
      · rw [hlength, hbody]
        rfl
      · simp only [List.forall_mem_cons]
        exact ⟨isUrlSafe_digit (by omega), isUrlSafe_digit (by omega), isUrlSafe_digit (by omega),
          isUrlSafe_digit (by omega), hsafe⟩

end ScanAccess.Bytes.Base64
