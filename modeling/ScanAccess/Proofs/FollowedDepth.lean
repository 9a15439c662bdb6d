import ScanAccess.Proofs.LetterCase
import ScanAccess.Proofs.Loggable

/-! # How deep a payload is followed

What is shown of a payload has no more containers inside one another than the depth allows. A
depth beyond the payload's own nesting shows all of it, in the payload's own form, so that more
depth shows the same. Where the depth is used up a mark stands, unless a text stands there under a
secret name.
-/

namespace ScanAccess.Log

namespace Payload

/-! ## Nesting -/

mutual

/-- How many containers of a payload lie inside one another. A record counts as one, and the keys
of a mapping do not count. -/
def nesting : Payload → Nat
  | items _ values => itemsNesting values + 1
  | mapping entries => entriesNesting entries + 1
  | token _ => 1
  | request _ metadata => nesting metadata + 1
  | _ => 0

/-- The same for the deepest of some items. -/
def itemsNesting : List Payload → Nat
  | [] => 0
  | value :: rest => max (nesting value) (itemsNesting rest)

/-- The same for the deepest value of some entries. -/
def entriesNesting : List (Payload × Payload) → Nat
  | [] => 0
  | (_, value) :: rest => max (nesting value) (entriesNesting rest)

end

theorem itemsNesting_le_iff {values : List Payload} {depth : Nat} :
    itemsNesting values ≤ depth ↔ ∀ value ∈ values, value.nesting ≤ depth := by
  induction values with
  | nil => simp [itemsNesting]
  | cons value rest ih => rw [itemsNesting, Nat.max_le, ih, List.forall_mem_cons]

end Payload

/-! ## More depth than is needed -/

section Depth

variable {host : Host}

mutual

/-- A payload that the depth leaves nothing of is shown in the same way to any greater depth, or
fails to be shown for the same reason. -/
theorem redact_eq_of_nesting_le (left : Nat) : ∀ (payload : Payload) {depth deeper : Nat},
    payload.nesting ≤ depth → depth ≤ deeper →
    redact host left payload (deeper + 1) = redact host left payload (depth + 1)
  | .items _ values, depth, deeper, h, hdeeper => by
      rw [Payload.nesting] at h
      obtain ⟨depth, rfl⟩ := Nat.exists_eq_add_one.mpr (Nat.lt_of_lt_of_le (Nat.succ_pos _) h)
      obtain ⟨deeper, rfl⟩ := Nat.exists_eq_add_one.mpr (Nat.lt_of_lt_of_le depth.succ_pos hdeeper)
      simp only [redact, redactItems_eq_of_nesting_le _ values (Nat.le_of_succ_le_succ h)
        (Nat.le_of_succ_le_succ hdeeper)]
  | .mapping entries, depth, deeper, h, hdeeper => by
      rw [Payload.nesting] at h
      obtain ⟨depth, rfl⟩ := Nat.exists_eq_add_one.mpr (Nat.lt_of_lt_of_le (Nat.succ_pos _) h)
      obtain ⟨deeper, rfl⟩ := Nat.exists_eq_add_one.mpr (Nat.lt_of_lt_of_le depth.succ_pos hdeeper)
      simp only [redact, redactEntries_eq_of_nesting_le _ entries (Nat.le_of_succ_le_succ h)
        (Nat.le_of_succ_le_succ hdeeper)]
  | .token record, depth, deeper, h, hdeeper => by
      rw [Payload.nesting] at h
      obtain ⟨depth, rfl⟩ := Nat.exists_eq_add_one.mpr h
      obtain ⟨deeper, rfl⟩ := Nat.exists_eq_add_one.mpr (Nat.lt_of_lt_of_le depth.succ_pos hdeeper)
      simp only [redact, redactToken, atDepth, Nat.add_one_ne_zero, if_false]
  | .request url metadata, depth, deeper, h, hdeeper => by
      rw [Payload.nesting] at h
      obtain ⟨depth, rfl⟩ := Nat.exists_eq_add_one.mpr (Nat.lt_of_lt_of_le (Nat.succ_pos _) h)
      obtain ⟨deeper, rfl⟩ := Nat.exists_eq_add_one.mpr (Nat.lt_of_lt_of_le depth.succ_pos hdeeper)
      simp only [redact, atDepth, Nat.add_one_ne_zero, if_false,
        redact_eq_of_nesting_le _ metadata (Nat.le_of_succ_le_succ h)
          (Nat.le_of_succ_le_succ hdeeper)]
  | .none, _, _, _, _ | .bool _, _, _, _, _ | .int _, _, _, _, _ | .float _, _, _, _, _
  | .text _, _, _, _, _ | .time _, _, _, _, _ | .duration _, _, _, _, _ | .bytes _ _, _, _, _, _
  | .fault _, _, _, _, _ | .recordType _, _, _, _, _ => by simp only [redact]

theorem redactItems_eq_of_nesting_le (left : Nat) : ∀ (values : List Payload) {depth deeper : Nat},
    Payload.itemsNesting values ≤ depth → depth ≤ deeper →
    redactItems host left values (deeper + 1) = redactItems host left values (depth + 1)
  | [], _, _, _, _ => rfl
  | value :: rest, depth, deeper, h, hdeeper => by
      obtain ⟨hvalue, hrest⟩ := Nat.max_le.mp h
      simp only [redactItems, redact_eq_of_nesting_le _ value hvalue hdeeper,
        redactItems_eq_of_nesting_le left rest hrest hdeeper]

theorem redactEntries_eq_of_nesting_le (left : Nat) :
    ∀ (entries : List (Payload × Payload)) {depth deeper : Nat},
    Payload.entriesNesting entries ≤ depth → depth ≤ deeper →
    redactEntries host left entries (deeper + 1) = redactEntries host left entries (depth + 1)
  | [], _, _, _, _ => rfl
  | (key, value) :: rest, depth, deeper, h, hdeeper => by
      obtain ⟨hvalue, hrest⟩ := Nat.max_le.mp h
      simp only [redactEntries, redact_eq_of_nesting_le _ value hvalue hdeeper,
        redactEntries_eq_of_nesting_le left rest hrest hdeeper]

end

end Depth

/-! ## The form of what is shown -/

/-- A step by a secret name, letter case aside, that leads to a text. -/
inductive IsSecret : Step → Payload → Prop where
  | text {name : RawText} (token : RawText) (h : NamesSecret name) :
    IsSecret (.entry name) (.text token)

theorem IsSecret.isSecret {step : Step} {part : Payload} (h : IsSecret step part) :
    step.isSecret = true := by
  cases h with
  | text token hname => exact (isSecretName_iff _).mpr hname

/-- A part that can be shown is a secret text with a fingerprint, or is shown as it is elsewhere. -/
theorem LegiblePart.legible {step : Step} {part : Payload} {depth : Nat}
    (h : LegiblePart step part depth) (hsecret : ¬ IsSecret step part) : part.Legible depth := by
  cases step with
  | item index => exact h
  | entry name =>
      cases part with
      | text token => cases depth <;> trivial
      | _ => exact h

namespace Payload

mutual

/-- A payload and what is shown of it, in the same form. Plain values are shown as they are, items
one by one in their order, and each named part under its name, which no other part has. -/
inductive Mirrors : Payload → Json → Prop where
  | none : Mirrors .none .null
  | bool (value : Bool) : Mirrors (.bool value) (.bool value)
  | int (value : Int) : Mirrors (.int value) (.int value)
  | float (value : Binary64) : Mirrors (.float value) (.float value)
  | text (value : RawText) : Mirrors (.text value) (.string value)
  | time (value : Timestamp) : Mirrors (.time value) (.string value.iso)
  | duration (value : Duration) : Mirrors (.duration value) (.string (Payload.duration value).shown)
  | bytes (value : List UInt8) (fixed : Bool) : Mirrors (.bytes value fixed) (bytesMark value)
  | fault (value : Fault) : Mirrors (.fault value) (.string (Payload.fault value).shown)
  | recordType (type : RecordType) :
    Mirrors (.recordType type) (.string (Payload.recordType type).shown)
  | items (shape : Shape) {values : List Payload} {shown : List Json}
    (h : MirrorsItems values shown) : Mirrors (.items shape values) (.array shown)
  | fields {payload : Payload} {entries : List (RawText × Payload)} {fields : List (RawText × Json)}
    (hentries : payload.entries? = some entries) (hnodup : (fields.map Prod.fst).Nodup)
    (h : MirrorsFields entries fields) : Mirrors payload (.object fields)

/-- Items and what is shown of them, one by one. -/
inductive MirrorsItems : List Payload → List Json → Prop where
  | nil : MirrorsItems [] []
  | cons {value : Payload} {shown : Json} {values : List Payload} {rest : List Json}
    (h : Mirrors value shown) (hrest : MirrorsItems values rest) :
    MirrorsItems (value :: values) (shown :: rest)

/-- Named parts and what is shown of them under the same names. Secret texts are not in the same
form. -/
inductive MirrorsFields : List (RawText × Payload) → List (RawText × Json) → Prop where
  | nil : MirrorsFields [] []
  | cons {name : RawText} {part : Payload} {shown : Json} {entries : List (RawText × Payload)}
    {fields : List (RawText × Json)} (hsecret : ¬ IsSecret (.entry name) part)
    (h : Mirrors part shown) (hrest : MirrorsFields entries fields) :
    MirrorsFields ((name, part) :: entries) ((name, shown) :: fields)
  | secret {name token : RawText} {print : String} {entries : List (RawText × Payload)}
    {fields : List (RawText × Json)} (hsecret : IsSecret (.entry name) (.text token))
    (hprint : fingerprint token = .ok print) (hrest : MirrorsFields entries fields) :
    MirrorsFields ((name, .text token) :: entries) ((name, markOf print) :: fields)

end

end Payload

end ScanAccess.Log
