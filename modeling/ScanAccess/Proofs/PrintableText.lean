import ScanAccess.Log.Spelling
import ScanAccess.Proofs.JsonString

/-! # Printable texts

Numerals, dates and times are printable, and so is every quoted text, since it escapes whatever is
not, and a row of quoted texts. Among the printable characters there are no control characters.
-/

namespace ScanAccess.Text

/-- A text of printable characters. -/
def Printable (cs : List Char) : Prop :=
  ∀ c ∈ cs, isPrintable c = true

instance (cs : List Char) : Decidable (Printable cs) :=
  List.decidableBAll (fun c : Char => isPrintable c = true) cs

theorem IsPlain.isPrintable {c : Char} (h : IsPlain c) : isPrintable c = true :=
  inRanges_eq_true_iff.mpr ⟨(0x20, 0x7e), List.mem_cons_self, h.1, Nat.le_of_lt_succ h.2⟩

theorem printableRanges_bounds : ∀ range ∈ printableRanges, 0x20 ≤ range.1 := by
  decide +kernel

theorem le_of_isPrintable {c : Char} (h : isPrintable c = true) : 0x20 ≤ c.toNat := by
  obtain ⟨range, hmem, hlower, -⟩ := inRanges_eq_true_iff.mp h
  exact Nat.le_trans (printableRanges_bounds range hmem) hlower

namespace Printable

variable {cs ds : List Char} {c : Char}

@[simp] theorem nil : Printable [] :=
  List.forall_mem_nil _

@[simp] theorem cons_iff : Printable (c :: cs) ↔ isPrintable c = true ∧ Printable cs :=
  List.forall_mem_cons

@[simp] theorem append_iff : Printable (cs ++ ds) ↔ Printable cs ∧ Printable ds :=
  List.forall_mem_append

theorem of_isPlain (h : ∀ c ∈ cs, IsPlain c) : Printable cs :=
  fun c hc => (h c hc).isPrintable

theorem flatMap {α : Type} {f : α → List Char} (h : ∀ a, Printable (f a)) (as : List α) :
    Printable (as.flatMap f) := by
  intro c hc
  obtain ⟨a, -, hc⟩ := List.mem_flatMap.mp hc
  exact h a c hc

theorem intercalate {separator : List Char} {texts : List (List Char)}
    (hseparator : Printable separator) (h : ∀ text ∈ texts, Printable text) :
    Printable (separator.intercalate texts) := by
  induction texts with
  | nil => simp
  | cons text texts ih =>
      obtain ⟨htext, htexts⟩ := List.forall_mem_cons.mp h
      cases texts with
      | nil => simpa using htext
      | cons next texts =>
          rw [List.intercalate_cons_cons, append_iff, append_iff]
          exact ⟨⟨htext, hseparator⟩, ih htexts⟩

/-! ## Numerals -/

@[simp] theorem decimal (n : Nat) : Printable (decimal n) :=
  of_isPlain fun _ => isPlain_of_mem_decimal

@[simp] theorem signedDecimal (n : Int) : Printable (signedDecimal n) :=
  of_isPlain fun _ => isPlain_of_mem_signedDecimal

@[simp] theorem hexPadded (width n : Nat) : Printable (hexPadded width n) :=
  of_isPlain fun _ => isPlain_of_mem_hexPadded

theorem replicate (count : Nat) (h : isPrintable c = true) :
    Printable (List.replicate count c) := by
  intro d hd
  rwa [List.eq_of_mem_replicate hd]

theorem padZeros (width : Nat) (h : Printable cs) : Printable (padZeros width cs) :=
  append_iff.mpr ⟨replicate _ (by decide), h⟩

@[simp] theorem decimalPadded (width n : Nat) : Printable (decimalPadded width n) :=
  (decimal n).padZeros width

@[simp] theorem signedDecimalPadded (width : Nat) (n : Int) :
    Printable (signedDecimalPadded width n) := by
  rw [Text.signedDecimalPadded]
  split
  · exact cons_iff.mpr ⟨by decide, decimalPadded _ _⟩
  · exact decimalPadded _ _

end Printable

/-! ## Quoted texts -/

theorem isPrintable_quoteFor (points : List CodePoint) : isPrintable (quoteFor points) = true := by
  rw [quoteFor]
  split <;> decide

theorem printable_hexEscape (letter : Char) (hletter : isPrintable letter = true)
    (width n : Nat) : Printable ('\\' :: letter :: hexPadded width n) := by
  rw [Printable.cons_iff, Printable.cons_iff]
  exact ⟨by decide, hletter, Printable.hexPadded width n⟩

theorem printable_escapeChar {mark : Char} (hmark : isPrintable mark = true) (c : Char) :
    Printable (escapeChar mark c) := by
  rw [escapeChar]
  split_ifs with hc ht hn hr hprintable
  · rcases hc with rfl | rfl
    · simpa using ⟨by decide, hmark⟩
    · decide
  · decide
  · decide
  · decide
  · simpa using hprintable
  · dsimp only
    split_ifs
    · exact printable_hexEscape 'x' (by decide) _ _
    · exact printable_hexEscape 'u' (by decide) _ _
    · exact printable_hexEscape 'U' (by decide) _ _

theorem printable_escapePoint {mark : Char} (hmark : isPrintable mark = true) (point : CodePoint) :
    Printable (escapePoint mark point) := by
  cases point with
  | char c => exact printable_escapeChar hmark c
  | half index => exact printable_hexEscape 'u' (by decide) _ _

@[simp] theorem Printable.quote (text : RawText) : Printable (quote text) := by
  have hmark := isPrintable_quoteFor text.points
  rw [Text.quote, List.cons_append, Printable.cons_iff, Printable.append_iff, Printable.cons_iff]
  exact ⟨hmark, Printable.flatMap (printable_escapePoint hmark) text.points, hmark, Printable.nil⟩

end ScanAccess.Text

namespace ScanAccess

open ScanAccess.Text

/-! ## Dates and times -/

theorem CalendarDate.printable_text (yearWidth : Nat) (date : CalendarDate) :
    Printable (date.text yearWidth) := by
  simp only [text, Printable.append_iff, Printable.cons_iff, Printable.signedDecimalPadded,
    Printable.decimalPadded]
  decide

theorem printable_clockText (seconds : Nat) : Printable (clockText seconds) := by
  simp only [clockText, Printable.append_iff, Printable.cons_iff, Printable.decimalPadded]
  decide

/-! ## Rows of texts -/

namespace Log

theorem printable_listed {texts : List (List Char)} (h : ∀ text ∈ texts, Printable text) :
    Printable (listed texts) :=
  Printable.intercalate (by decide) h

theorem Shape.printable_spell (shape : Shape) {items : List (List Char)}
    (h : ∀ item ∈ items, Printable item) : Printable (shape.spell items) := by
  have hlisted := printable_listed h
  unfold spell
  split <;> simp_all [Printable.append_iff] <;> decide +kernel

end Log

end ScanAccess
