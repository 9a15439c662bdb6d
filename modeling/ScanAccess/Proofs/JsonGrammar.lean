import ScanAccess.Proofs.Numerals

/-! # The grammar of JSON

The texts that every reader of JSON takes. The words for numbers that are not finite are not among
them: outside of strings no text of the grammar has one of their capital letters.
-/

namespace ScanAccess.Json

open ScanAccess.Text

namespace Grammar

/-! ## Numbers and strings -/

/-- What may stand around values: spaces, tabs and line ends. -/
def IsSpace (text : List Char) : Prop :=
  ∀ c ∈ text, c = ' ' ∨ c = '\t' ∨ c = '\n' ∨ c = '\r'

/-- A digit or more. -/
structure IsDigits (text : List Char) : Prop where
  ne_nil : text ≠ []
  digits : ∀ c ∈ text, isDigit c = true

/-- Digits that begin with a zero only if it stands alone. -/
structure IsWhole (text : List Char) : Prop extends IsDigits text where
  leading : text.head? ≠ some '0' ∨ text.length = 1

/-- A point with digits, or nothing. -/
inductive IsFraction : List Char → Prop where
  | nil : IsFraction []
  | point {digits : List Char} (h : IsDigits digits) : IsFraction ('.' :: digits)

/-- A power of ten with a sign or without, or nothing. -/
inductive IsExponent : List Char → Prop where
  | nil : IsExponent []
  | power {mark : Char} {sign digits : List Char} (hmark : mark = 'e' ∨ mark = 'E')
    (hsign : sign = [] ∨ sign = ['+'] ∨ sign = ['-']) (h : IsDigits digits) :
    IsExponent (mark :: sign ++ digits)

/-- A number: a whole one with a minus sign or without, then a fraction and an exponent. -/
inductive IsNumber : List Char → Prop where
  | mk {sign whole fraction exponent : List Char} (hsign : sign = [] ∨ sign = ['-'])
    (hwhole : IsWhole whole) (hfraction : IsFraction fraction) (hexponent : IsExponent exponent) :
    IsNumber (sign ++ whole ++ fraction ++ exponent)

/-- A character inside a string: as it is, or one of the escapes. -/
inductive IsCharacter : List Char → Prop where
  | plain {c : Char} (hquote : c ≠ '\x22') (hslash : c ≠ '\\') (h : 0x20 ≤ c.toNat) :
    IsCharacter [c]
  | escape {letter : Char} (h : letter ∈ ['\x22', '\\', '/', 'b', 'f', 'n', 'r', 't']) :
    IsCharacter ['\\', letter]
  | unit {a b c d : Char} (h : (readUnit? a b c d).isSome = true) :
    IsCharacter ['\\', 'u', a, b, c, d]

/-- Characters one after the other. -/
inductive IsCharacters : List Char → Prop where
  | nil : IsCharacters []
  | cons {first rest : List Char} (h : IsCharacter first) (hrest : IsCharacters rest) :
    IsCharacters (first ++ rest)

/-- Characters between double quotes. -/
inductive IsString : List Char → Prop where
  | mk {text : List Char} (h : IsCharacters text) : IsString ('\x22' :: text ++ ['\x22'])

/-! ## Values -/

mutual

/-- A value. -/
inductive IsValue : List Char → Prop where
  | null : IsValue ['n', 'u', 'l', 'l']
  | true : IsValue ['t', 'r', 'u', 'e']
  | false : IsValue ['f', 'a', 'l', 's', 'e']
  | number {text : List Char} (h : IsNumber text) : IsValue text
  | string {text : List Char} (h : IsString text) : IsValue text
  | emptyArray {space : List Char} (h : IsSpace space) : IsValue ('[' :: space ++ [']'])
  | array {text : List Char} (h : IsItems text) : IsValue ('[' :: text ++ [']'])
  | object {text : List Char} (h : IsObject text) : IsValue text

/-- A value with space around it. -/
inductive IsItem : List Char → Prop where
  | mk {before value after : List Char} (hbefore : IsSpace before) (h : IsValue value)
    (hafter : IsSpace after) : IsItem (before ++ value ++ after)

/-- Values with commas between them. -/
inductive IsItems : List Char → Prop where
  | one {text : List Char} (h : IsItem text) : IsItems text
  | more {text rest : List Char} (h : IsItem text) (hrest : IsItems rest) :
    IsItems (text ++ ',' :: rest)

/-- A string and a value with a colon between them, with space around each. -/
inductive IsMember : List Char → Prop where
  | mk {before name after item : List Char} (hbefore : IsSpace before) (hname : IsString name)
    (hafter : IsSpace after) (h : IsItem item) :
    IsMember (before ++ name ++ after ++ ':' :: item)

/-- Members with commas between them. -/
inductive IsMembers : List Char → Prop where
  | one {text : List Char} (h : IsMember text) : IsMembers text
  | more {text rest : List Char} (h : IsMember text) (hrest : IsMembers rest) :
    IsMembers (text ++ ',' :: rest)

/-- An object: members between braces, or none. -/
inductive IsObject : List Char → Prop where
  | empty {space : List Char} (h : IsSpace space) : IsObject ('\x7b' :: space ++ ['\x7d'])
  | members {text : List Char} (h : IsMembers text) : IsObject ('\x7b' :: text ++ ['\x7d'])

end

end Grammar

/-! ## What stands outside of strings -/

mutual

/-- The characters of a text that do not belong to strings. -/
def outside : List Char → List Char
  | [] => []
  | '\x22' :: rest => inside rest
  | c :: rest => c :: outside rest

/-- The characters of a text, inside of a string at its front, that do not belong to strings. -/
def inside : List Char → List Char
  | [] => []
  | '\x22' :: rest => outside rest
  | '\\' :: _ :: rest => inside rest
  | _ :: rest => inside rest

end

/-- A text in which each string that begins also ends, wherever the text stands. -/
def Closed (text : List Char) : Prop :=
  ∀ rest, outside (text ++ rest) = outside text ++ outside rest

theorem outside_cons {c : Char} (h : c ≠ '\x22') (rest : List Char) :
    outside (c :: rest) = c :: outside rest := by
  rw [outside]
  exact h

theorem outside_append_of_ne {text : List Char} (h : ∀ c ∈ text, c ≠ '\x22') (rest : List Char) :
    outside (text ++ rest) = text ++ outside rest := by
  induction text with
  | nil => rfl
  | cons c text ih =>
      obtain ⟨hc, htext⟩ := List.forall_mem_cons.mp h
      rw [List.cons_append, outside_cons hc, ih htext, List.cons_append]

theorem outside_eq_of_ne {text : List Char} (h : ∀ c ∈ text, c ≠ '\x22') : outside text = text := by
  simpa [outside] using outside_append_of_ne h []

namespace Closed

variable {text next : List Char}

theorem of_ne (h : ∀ c ∈ text, c ≠ '\x22') : Closed text := fun rest => by
  rw [outside_append_of_ne h, outside_eq_of_ne h]

theorem append (h : Closed text) (hnext : Closed next) : Closed (text ++ next) := fun rest => by
  rw [List.append_assoc, h, hnext, h, List.append_assoc]

theorem cons {c : Char} (hc : c ≠ '\x22') (h : Closed text) : Closed (c :: text) := fun rest => by
  rw [List.cons_append, outside_cons hc, outside_cons hc, h, List.cons_append]

end Closed

theorem inside_cons {c : Char} (hquote : c ≠ '\x22') (hslash : c ≠ '\\') (rest : List Char) :
    inside (c :: rest) = inside rest := by
  rw [inside]
  · exact hquote
  · exact fun d others h => absurd h hslash

namespace Grammar

theorem ne_of_hexValue?_isSome {c : Char} (h : (hexValue? c).isSome = true) :
    c ≠ '\x22' ∧ c ≠ '\\' := by
  constructor
  · rintro rfl
    contradiction
  · rintro rfl
    contradiction

theorem IsCharacter.inside_append {text : List Char} (h : IsCharacter text) (rest : List Char) :
    inside (text ++ rest) = inside rest := by
  cases h with
  | plain hquote hslash h => exact inside_cons hquote hslash rest
  | escape h => rfl
  | @unit a b c d h =>
      have hdigits : (hexValue? a).isSome = true ∧ (hexValue? b).isSome = true ∧
          (hexValue? c).isSome = true ∧ (hexValue? d).isSome = true := by
        cases ha : hexValue? a <;> cases hb : hexValue? b <;> cases hc : hexValue? c <;>
          cases hd : hexValue? d <;> simp_all [readUnit?]
      obtain ⟨ha, hb, hc, hd⟩ := hdigits
      have hskip {c : Char} (h : (hexValue? c).isSome = true) (rest : List Char) :
          inside (c :: rest) = inside rest :=
        inside_cons (ne_of_hexValue?_isSome h).1 (ne_of_hexValue?_isSome h).2 rest
      change inside (a :: b :: c :: d :: rest) = inside rest
      rw [hskip ha, hskip hb, hskip hc, hskip hd]

theorem IsCharacters.inside_append {text : List Char} (h : IsCharacters text) (rest : List Char) :
    inside (text ++ rest) = inside rest := by
  induction h with
  | nil => rfl
  | cons h hrest ih => rw [List.append_assoc, h.inside_append, ih]

theorem IsString.outside_append {text : List Char} (h : IsString text) (rest : List Char) :
    outside (text ++ rest) = outside rest := by
  obtain ⟨h⟩ := h
  rw [List.append_assoc, List.cons_append]
  exact h.inside_append _

/-- Nothing of a string stands outside. -/
theorem IsString.outside_eq {text : List Char} (h : IsString text) : outside text = [] := by
  simpa [outside] using h.outside_append []

theorem IsString.closed {text : List Char} (h : IsString text) : Closed text := fun rest => by
  rw [h.outside_append, h.outside_eq, List.nil_append]

end Grammar

/-! ## Words that are not of the grammar -/

/-- A character that neither begins a string nor is a capital letter of a word for a number that is
not finite. -/
def Quiet (c : Char) : Prop :=
  c ≠ '\x22' ∧ c ≠ 'N' ∧ c ≠ 'I'

instance (c : Char) : Decidable (Quiet c) :=
  inferInstanceAs (Decidable (_ ∧ _))

/-- A text in which all that stands outside of strings is quiet. -/
structure Wordless (text : List Char) : Prop where
  closed : Closed text
  quiet : ∀ c ∈ outside text, Quiet c

namespace Wordless

variable {text next : List Char}

theorem of_quiet (h : ∀ c ∈ text, Quiet c) : Wordless text where
  closed := .of_ne fun c hc => (h c hc).1
  quiet := by rwa [outside_eq_of_ne fun c hc => (h c hc).1]

theorem append (h : Wordless text) (hnext : Wordless next) : Wordless (text ++ next) where
  closed := h.closed.append hnext.closed
  quiet := by
    rw [h.closed, List.forall_mem_append]
    exact ⟨h.quiet, hnext.quiet⟩

theorem cons {c : Char} (hc : Quiet c) (h : Wordless text) : Wordless (c :: text) where
  closed := h.closed.cons hc.1
  quiet := by
    rw [outside_cons hc.1, List.forall_mem_cons]
    exact ⟨hc, h.quiet⟩

theorem nil : Wordless [] :=
  of_quiet (List.forall_mem_nil _)

theorem enclosed {first last : Char} (hfirst : Quiet first) (hlast : Quiet last)
    (h : Wordless text) : Wordless (first :: text ++ [last]) :=
  (h.cons hfirst).append (nil.cons hlast)

end Wordless

namespace Grammar

theorem quiet_of_isDigit {c : Char} (h : isDigit c = true) : Quiet c := by
  refine ⟨?_, ?_, ?_⟩
  · rintro rfl
    contradiction
  · rintro rfl
    contradiction
  · rintro rfl
    contradiction

variable {text : List Char}

theorem IsSpace.wordless (h : IsSpace text) : Wordless text :=
  .of_quiet fun c hc => by rcases h c hc with rfl | rfl | rfl | rfl <;> decide

theorem IsDigits.wordless (h : IsDigits text) : Wordless text :=
  .of_quiet fun c hc => quiet_of_isDigit (h.digits c hc)

theorem IsFraction.wordless (h : IsFraction text) : Wordless text := by
  cases h with
  | nil => exact .nil
  | point h => exact h.wordless.cons (by decide)

theorem IsExponent.wordless (h : IsExponent text) : Wordless text := by
  cases h with
  | nil => exact .nil
  | power hmark hsign h =>
      refine .append (.of_quiet (List.forall_mem_cons.mpr ⟨?_, ?_⟩)) h.wordless
      · rcases hmark with rfl | rfl <;> decide
      · rcases hsign with rfl | rfl | rfl <;> simp [Quiet]

theorem IsNumber.wordless (h : IsNumber text) : Wordless text := by
  obtain ⟨hsign, hwhole, hfraction, hexponent⟩ := h
  refine .append (.append (.append (.of_quiet ?_) hwhole.wordless) hfraction.wordless)
    hexponent.wordless
  rcases hsign with rfl | rfl <;> simp [Quiet]

theorem IsString.wordless (h : IsString text) : Wordless text where
  closed := h.closed
  quiet := h.outside_eq ▸ List.forall_mem_nil _

mutual

/-- A text of the grammar has no word for a number that is not finite. -/
theorem IsValue.wordless : ∀ {text : List Char}, IsValue text → Wordless text
  | _, .null | _, .true | _, .false => .of_quiet (by simp [Quiet])
  | _, .number h => h.wordless
  | _, .string h => h.wordless
  | _, .emptyArray h => h.wordless.enclosed (by decide) (by decide)
  | _, .array h => h.wordless.enclosed (by decide) (by decide)
  | _, .object h => h.wordless

theorem IsItem.wordless : ∀ {text : List Char}, IsItem text → Wordless text
  | _, .mk hbefore h hafter => (hbefore.wordless.append h.wordless).append hafter.wordless

theorem IsItems.wordless : ∀ {text : List Char}, IsItems text → Wordless text
  | _, .one h => h.wordless
  | _, .more h hrest => h.wordless.append (hrest.wordless.cons (by decide))

theorem IsMember.wordless : ∀ {text : List Char}, IsMember text → Wordless text
  | _, .mk hbefore hname hafter h =>
    ((hbefore.wordless.append hname.wordless).append hafter.wordless).append
      (h.wordless.cons (by decide))

theorem IsMembers.wordless : ∀ {text : List Char}, IsMembers text → Wordless text
  | _, .one h => h.wordless
  | _, .more h hrest => h.wordless.append (hrest.wordless.cons (by decide))

theorem IsObject.wordless : ∀ {text : List Char}, IsObject text → Wordless text
  | _, .empty h => h.wordless.enclosed (by decide) (by decide)
  | _, .members h => h.wordless.enclosed (by decide) (by decide)

end

end Grammar

end ScanAccess.Json
