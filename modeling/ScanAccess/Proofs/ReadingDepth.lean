import Mathlib.Data.List.Basic
import ScanAccess.Json.Reader

/-! # How deep a text of JSON is read

The limit on containers inside one another changes nothing but whether it is met: under two limits
a text is read to the same, or the lower one is met. It is not met by a text with no more
brackets and braces that open a container than it allows.
-/

namespace ScanAccess

namespace Text

/-! ## What is left over -/

theorem suffix_of_spanDigits {cs digits rest : List Char} (h : spanDigits cs = (digits, rest)) :
    rest <:+ cs := by
  cases h
  exact List.dropWhile_suffix _

theorem readExponent_suffix (cs : List Char) : (readExponent cs).2 <:+ cs := by
  unfold readExponent
  split
  case h_3 => exact List.suffix_rfl
  all_goals
    dsimp only
    split
    next => exact List.suffix_rfl
    next digits after hdigits hspan =>
      refine List.IsSuffix.trans ?_ (List.suffix_cons _ _)
      split at hspan
      · exact (suffix_of_spanDigits hspan).trans (List.suffix_cons _ _)
      · exact (suffix_of_spanDigits hspan).trans (List.suffix_cons _ _)
      · exact suffix_of_spanDigits hspan

theorem readNumeral_suffix (bare : Bool) (cs : List Char) : (readNumeral bare cs).2 <:+ cs := by
  refine (readExponent_suffix _).trans (List.IsSuffix.trans ?_ (List.dropWhile_suffix isDigit))
  dsimp only [spanDigits]
  generalize List.dropWhile isDigit cs = rest
  split
  · split
    · exact List.suffix_rfl
    · exact (List.dropWhile_suffix _).trans (List.suffix_cons _ _)
  · exact List.suffix_rfl

end Text

namespace Json

open ScanAccess.Text

theorem skipSpace_suffix (cs : List Char) : skipSpace cs <:+ cs :=
  List.dropWhile_suffix _

/-- What follows a character behind some space. -/
theorem suffix_of_skipSpace {c : Char} {cs rest after : List Char}
    (h : skipSpace rest = c :: after) (hrest : rest <:+ cs) : after <:+ cs :=
  (List.suffix_cons c after).trans (h ▸ (skipSpace_suffix rest).trans hrest)

theorem readUnits_suffix {cs rest : List Char} {units : List Nat}
    (h : readUnits cs = some (units, rest)) : rest <:+ cs := by
  fun_induction readUnits cs generalizing units with
  | case1 => cases h
  | case2 after =>
      cases h
      exact List.suffix_cons _ _
  | case3 a b c d after ih =>
      obtain ⟨unit, -, h⟩ := Option.bind_eq_some_iff.mp h
      obtain ⟨_, hread, ⟨⟩⟩ := Option.bind_eq_some_iff.mp h
      exact (ih hread).trans (List.suffix_append ['\\', 'u', a, b, c, d] after)
  | case4 c after _ ih =>
      obtain ⟨unit, -, h⟩ := Option.bind_eq_some_iff.mp h
      obtain ⟨_, hread, ⟨⟩⟩ := Option.bind_eq_some_iff.mp h
      exact (ih hread).trans (List.suffix_append ['\\', c] after)
  | case5 => cases h
  | case6 c after _ _ _ _ ih =>
      obtain ⟨_, hread, ⟨⟩⟩ := Option.bind_eq_some_iff.mp h
      exact (ih hread).trans (List.suffix_cons c after)

theorem readString_suffix {cs rest : List Char} {text : RawText}
    (h : readString cs = .ok (text, rest)) : rest <:+ cs := by
  unfold readString at h
  split at h
  next units after hunits =>
    cases h
    exact readUnits_suffix hunits
  next => cases h

theorem readNumber_suffix {cs rest : List Char} {value : Json}
    (h : readNumber cs = .ok (value, rest)) : rest <:+ cs := by
  unfold readNumber at h
  split at h
  next negative body hsign =>
    have hbody : body <:+ cs := by
      split at hsign <;> cases hsign
      · exact List.suffix_cons _ _
      · exact List.suffix_rfl
    refine List.IsSuffix.trans ?_ hbody
    dsimp only at h
    split_ifs at h <;> cases h <;> exact readNumeral_suffix false body

/-- A value that is no container is read without regard to the limit. -/
theorem readValue_of_scalar {cs : List Char} (hbracket : ∀ rest, cs ≠ '[' :: rest)
    (hbrace : ∀ rest, cs ≠ '\x7b' :: rest) (fuel depth : Nat) :
    readValue (fuel + 1) depth cs = readValue 1 0 cs := by
  unfold readValue
  split
  all_goals try rfl
  · exact absurd rfl (hbracket _)
  · exact absurd rfl (hbrace _)

/-! ## The limit is met or makes no difference -/

/-- The reading under the lower limit is that under the higher one, or stops at the limit. -/
def Agrees {α : Type} (lower higher : Except ReadError α) : Prop :=
  lower = higher ∨ ∃ container, lower = .error (.tooDeep container)

namespace Agrees

variable {α β : Type} {lower higher : Except ReadError α}

theorem of_eq (h : lower = higher) : Agrees lower higher :=
  Or.inl h

theorem bind {next next' : α → Except ReadError β} (h : Agrees lower higher)
    (hnext : ∀ value, Agrees (next value) (next' value)) :
    Agrees (lower >>= next) (higher >>= next') := by
  rcases h with rfl | ⟨container, rfl⟩
  · cases lower with
    | error error => exact of_eq rfl
    | ok value => exact hnext value
  · exact Or.inr ⟨container, rfl⟩

theorem map {f : α → β} (h : Agrees lower higher) : Agrees (lower.map f) (higher.map f) := by
  rcases h with rfl | ⟨container, rfl⟩
  · exact of_eq rfl
  · exact Or.inr ⟨container, rfl⟩

end Agrees

theorem agrees_readValue_succ {fuel depth limit : Nat} (hle : depth ≤ limit)
    (hitems : ∀ {depth limit : Nat}, depth ≤ limit → ∀ cs,
      Agrees (readItems fuel depth cs) (readItems fuel limit cs))
    (hfields : ∀ {depth limit : Nat}, depth ≤ limit → ∀ cs,
      Agrees (readFields fuel depth cs) (readFields fuel limit cs)) (cs : List Char) :
    Agrees (readValue (fuel + 1) depth cs) (readValue (fuel + 1) limit cs) := by
  by_cases hbracket : ∃ rest, cs = '[' :: rest
  · obtain ⟨rest, rfl⟩ := hbracket
    cases depth with
    | zero => exact Or.inr ⟨.array, rfl⟩
    | succ depth =>
        obtain ⟨limit, rfl⟩ : ∃ n, limit = n + 1 := ⟨limit - 1, by omega⟩
        rw [readValue, readValue]
        split
        · exact .of_eq rfl
        · exact (hitems (Nat.le_of_succ_le_succ hle) _).map
  · by_cases hbrace : ∃ rest, cs = '\x7b' :: rest
    · obtain ⟨rest, rfl⟩ := hbrace
      cases depth with
      | zero => exact Or.inr ⟨.object, rfl⟩
      | succ depth =>
          obtain ⟨limit, rfl⟩ : ∃ n, limit = n + 1 := ⟨limit - 1, by omega⟩
          rw [readValue, readValue]
          split
          · exact .of_eq rfl
          · exact (hfields (Nat.le_of_succ_le_succ hle) _).map
    · have hscalar := readValue_of_scalar (not_exists.mp hbracket) (not_exists.mp hbrace) fuel
      rw [hscalar depth, hscalar limit]
      exact .of_eq rfl

/-- Under two limits the reader comes to the same, or the lower one is met. The induction is on its
steps; a container takes one off both limits. -/
theorem agrees_read_of_steps (fuel : Nat) : ∀ {depth limit : Nat}, depth ≤ limit → ∀ cs,
    Agrees (readValue fuel depth cs) (readValue fuel limit cs) ∧
      Agrees (readItems fuel depth cs) (readItems fuel limit cs) ∧
        Agrees (readFields fuel depth cs) (readFields fuel limit cs) := by
  induction fuel with
  | zero => exact fun _ _ => ⟨.of_eq rfl, .of_eq rfl, .of_eq rfl⟩
  | succ fuel ih =>
      intro depth limit hle cs
      refine ⟨agrees_readValue_succ hle (fun hle cs => (ih hle cs).2.1)
        (fun hle cs => (ih hle cs).2.2) cs, ?_, ?_⟩
      · unfold readItems
        refine (ih hle cs).1.bind ?_
        rintro ⟨item, rest⟩
        dsimp only
        split
        · exact (ih hle _).2.1.bind fun _ => .of_eq rfl
        · exact .of_eq rfl
        · exact .of_eq rfl
      · unfold readFields
        split
        · refine Agrees.bind (.of_eq rfl) ?_
          rintro ⟨name, rest⟩
          dsimp only
          split
          · refine (ih hle _).1.bind ?_
            rintro ⟨value, rest⟩
            dsimp only
            split
            · exact (ih hle _).2.2.bind fun _ => .of_eq rfl
            · exact .of_eq rfl
            · exact .of_eq rfl
          · exact .of_eq rfl
        · exact .of_eq rfl

theorem agrees_read {depth limit : Nat} (h : depth ≤ limit) (text : String) :
    Agrees (read depth text) (read limit text) :=
  (agrees_read_of_steps _ h _).1.bind fun _ => .of_eq rfl

/-! ## Texts that do not meet the limit -/

/-- A character that opens an array or an object. -/
def isOpening (c : Char) : Bool :=
  c == '[' || c == '\x7b'

/-- How many characters of a text open a container, between quotes or not. -/
def openings (cs : List Char) : Nat :=
  cs.countP isOpening

theorem openings_le_of_suffix {cs rest : List Char} (h : rest <:+ cs) :
    openings rest ≤ openings cs :=
  h.sublist.countP_le

/-- A reading that leaves the end of the text over, and meets the limit only if the text opens more
containers than that. -/
structure Fits {α : Type} (depth : Nat) (cs : List Char)
    (result : Except ReadError (α × List Char)) : Prop where
  suffix : ∀ value rest, result = .ok (value, rest) → rest <:+ cs
  meets : ∀ container, result = .error (.tooDeep container) → depth < openings cs

namespace Fits

variable {α β : Type} {depth : Nat} {cs : List Char}

theorem malformed : Fits (α := α) depth cs (.error .malformed) where
  suffix := by rintro _ _ ⟨⟩
  meets := by rintro _ ⟨⟩

theorem ok {value : α} {rest : List Char} (h : rest <:+ cs) :
    Fits depth cs (.ok (value, rest)) where
  suffix := by
    rintro _ _ ⟨⟩
    exact h
  meets := by rintro _ ⟨⟩

theorem mono {inner : List Char} {result : Except ReadError (α × List Char)}
    (h : Fits depth inner result) (hinner : inner <:+ cs) : Fits depth cs result where
  suffix := fun value rest heq => (h.suffix value rest heq).trans hinner
  meets := fun container heq =>
    Nat.lt_of_lt_of_le (h.meets container heq) (openings_le_of_suffix hinner)

/-- A reading that goes no further fits where it did. -/
theorem error {error : ReadError} (h : Fits (α := α) depth cs (.error error)) :
    Fits (α := β) depth cs (.error error) where
  suffix := by rintro _ _ ⟨⟩
  meets := by
    rintro container ⟨⟩
    exact h.meets container rfl

theorem map {result : Except ReadError (α × List Char)} {f : α → β} (h : Fits depth cs result) :
    Fits depth cs (result.map fun (value, rest) => (f value, rest)) := by
  cases result with
  | error error => exact h.error
  | ok found => exact ok (h.suffix _ _ rfl)

theorem bind {result : Except ReadError (α × List Char)}
    {next : α × List Char → Except ReadError (β × List Char)} (h : Fits depth cs result)
    (hnext : ∀ value rest, rest <:+ cs → Fits depth cs (next (value, rest))) :
    Fits depth cs (result >>= next) := by
  cases result with
  | error error => exact h.error
  | ok found => exact hnext _ _ (h.suffix _ _ rfl)

end Fits

theorem fits_readString (depth : Nat) (cs : List Char) : Fits depth cs (readString cs) where
  suffix := fun _ _ => readString_suffix
  meets := by
    intro container h
    unfold readString at h
    split at h <;> cases h

theorem fits_readNumber (depth : Nat) (cs : List Char) : Fits depth cs (readNumber cs) where
  suffix := fun _ _ => readNumber_suffix
  meets := by
    intro container h
    unfold readNumber at h
    split at h
    dsimp only at h
    split_ifs at h <;> cases h

theorem fits_scalar {cs : List Char} (hbracket : ∀ rest, cs ≠ '[' :: rest)
    (hbrace : ∀ rest, cs ≠ '\x7b' :: rest) (depth : Nat) : Fits depth cs (readValue 1 0 cs) := by
  unfold readValue
  split
  · exact .ok ⟨['n', 'u', 'l', 'l'], rfl⟩
  · exact .ok ⟨['t', 'r', 'u', 'e'], rfl⟩
  · exact .ok ⟨['f', 'a', 'l', 's', 'e'], rfl⟩
  · exact .ok ⟨['N', 'a', 'N'], rfl⟩
  · exact .ok ⟨['I', 'n', 'f', 'i', 'n', 'i', 't', 'y'], rfl⟩
  · exact .ok ⟨['-', 'I', 'n', 'f', 'i', 'n', 'i', 't', 'y'], rfl⟩
  · exact ((fits_readString depth _).map).mono (List.suffix_cons _ _)
  · exact absurd rfl (hbracket _)
  · exact absurd rfl (hbrace _)
  · exact fits_readNumber depth cs

/-- With no container allowed, the first one meets the limit. -/
theorem Fits.met {α : Type} {container : Container} {first : Char} {rest : List Char}
    (hfirst : isOpening first = true) :
    Fits (α := α) 0 (first :: rest) (.error (.tooDeep container)) where
  suffix := by rintro _ _ ⟨⟩
  meets := fun _ _ => List.countP_pos_iff.mpr ⟨first, List.mem_cons_self, hfirst⟩

/-- A container takes one off the limit, and the character that opens it off the text. -/
theorem Fits.container {α β : Type} {depth : Nat} {first : Char} {rest : List Char}
    {result : Except ReadError (α × List Char)} (h : Fits depth rest result)
    (hfirst : isOpening first = true) (f : α → β) :
    Fits (depth + 1) (first :: rest) (result.map fun (value, rest) => (f value, rest)) := by
  refine Fits.map ⟨fun value after heq => ?_, fun container heq => ?_⟩
  · exact (h.suffix value after heq).trans (List.suffix_cons first rest)
  · rw [openings, List.countP_cons_of_pos hfirst]
    exact Nat.succ_lt_succ (h.meets container heq)

theorem fits_readValue_succ {fuel : Nat}
    (hitems : ∀ depth cs, Fits depth cs (readItems fuel depth cs))
    (hfields : ∀ depth cs, Fits depth cs (readFields fuel depth cs)) (depth : Nat)
    (cs : List Char) : Fits depth cs (readValue (fuel + 1) depth cs) := by
  by_cases hbracket : ∃ rest, cs = '[' :: rest
  · obtain ⟨rest, rfl⟩ := hbracket
    cases depth with
    | zero => exact .met (by decide)
    | succ depth =>
        rw [readValue]
        split
        next after heq =>
          exact .ok ((suffix_of_skipSpace heq List.suffix_rfl).trans (List.suffix_cons _ _))
        next =>
          exact ((hitems depth _).mono (skipSpace_suffix rest)).container rfl array
  · by_cases hbrace : ∃ rest, cs = '\x7b' :: rest
    · obtain ⟨rest, rfl⟩ := hbrace
      cases depth with
      | zero => exact .met (by decide)
      | succ depth =>
          rw [readValue]
          split
          next after heq =>
            exact .ok ((suffix_of_skipSpace heq List.suffix_rfl).trans (List.suffix_cons _ _))
          next =>
            exact ((hfields depth _).mono (skipSpace_suffix rest)).container rfl fun fields =>
              object (Dictionary.ofList fields)
    · rw [readValue_of_scalar (not_exists.mp hbracket) (not_exists.mp hbrace)]
      exact fits_scalar (not_exists.mp hbracket) (not_exists.mp hbrace) depth

/-- What the reader leaves over is the end of the text, and it meets the limit only if the text
opens more containers than that. The induction is on its steps. -/
theorem fits_read_of_steps (fuel : Nat) : ∀ depth cs,
    Fits depth cs (readValue fuel depth cs) ∧ Fits depth cs (readItems fuel depth cs) ∧
      Fits depth cs (readFields fuel depth cs) := by
  induction fuel with
  | zero => exact fun _ _ => ⟨.malformed, .malformed, .malformed⟩
  | succ fuel ih =>
      intro depth cs
      refine ⟨fits_readValue_succ (fun depth cs => (ih depth cs).2.1)
        (fun depth cs => (ih depth cs).2.2) depth cs, ?_, ?_⟩
      · unfold readItems
        refine (ih depth cs).1.bind fun item rest hrest => ?_
        dsimp only
        split
        next after heq =>
          have hafter := (skipSpace_suffix after).trans (suffix_of_skipSpace heq hrest)
          exact ((ih depth _).2.1.mono hafter).bind fun items rest hrest => .ok hrest
        next after heq => exact .ok (suffix_of_skipSpace heq hrest)
        next => exact .malformed
      · unfold readFields
        split
        next start =>
          refine ((fits_readString depth start).mono (List.suffix_cons _ _)).bind
            fun name rest hrest => ?_
          dsimp only
          split
          next after heq =>
            have hafter := (skipSpace_suffix after).trans (suffix_of_skipSpace heq hrest)
            refine ((ih depth _).1.mono hafter).bind fun value rest hrest => ?_
            dsimp only
            split
            next after heq =>
              have hafter := (skipSpace_suffix after).trans (suffix_of_skipSpace heq hrest)
              exact ((ih depth _).2.2.mono hafter).bind fun fields rest hrest => .ok hrest
            next after heq => exact .ok (suffix_of_skipSpace heq hrest)
            next => exact .malformed
          next => exact .malformed
        next => exact .malformed

/-- A text that opens no more containers than the limit allows does not meet it. -/
theorem openings_gt_of_read {depth : Nat} {text : String} {container : Container}
    (h : read depth text = .error (.tooDeep container)) : depth < openings text.toList := by
  have hfits := (fits_read_of_steps (2 * text.toList.length + 2) depth (skipSpace text.toList)).1
  refine Nat.lt_of_lt_of_le ?_ (openings_le_of_suffix (skipSpace_suffix text.toList))
  cases hvalue : readValue (2 * text.toList.length + 2) depth (skipSpace text.toList) with
  | error error =>
      rw [read, hvalue] at h
      cases h
      exact hfits.meets container hvalue
  | ok found =>
      rw [read, hvalue] at h
      change (if (skipSpace found.2).isEmpty then _ else _) = _ at h
      split_ifs at h <;> cases h

/-! ## What a text is read to -/

/-- A text is read to a value, under some limit. -/
def Reads (text : String) (json : Json) : Prop :=
  ∃ depth, read depth text = .ok json

/-- What is read under a limit is read under every higher one. -/
theorem read_mono {depth limit : Nat} {text : String} {json : Json}
    (h : read depth text = .ok json) (hle : depth ≤ limit) : read limit text = .ok json := by
  rcases agrees_read hle text with heq | ⟨container, heq⟩
  · rw [← heq, h]
  · rw [h] at heq
    cases heq

theorem Reads.unique {text : String} {json other : Json} (h : Reads text json)
    (hother : Reads text other) : json = other := by
  obtain ⟨depth, hread⟩ := h
  obtain ⟨limit, hother⟩ := hother
  have heq := read_mono hread (Nat.le_max_left depth limit)
  rw [read_mono hother (Nat.le_max_right depth limit)] at heq
  exact (Except.ok.inj heq).symm

/-! ## Brackets inside one another -/

end Json

end ScanAccess
