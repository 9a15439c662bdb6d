import ScanAccess.Proofs.JsonText
import ScanAccess.Proofs.Position

/-! # Payloads as JSON

What is shown of a payload can be written and read back, as long as the payload has no binary64
number in it, no integer that is too long to be written, and no half of a character in a text. Its
containers lie inside one another at most as deep as the payload was followed. The order in which
the entries of a mapping were put there makes no difference but to the order of fields.
-/

namespace ScanAccess.Log

open ScanAccess.Text

namespace Payload

/-- The text of a payload that is one or carries one is free of halves. -/
def TextEncodable : Payload → Prop
  | text value => value.isEncodable = true
  | fault value => value.text.isEncodable = true
  | _ => True

theorem isEncodable_ofList (cs : List Char) : (RawText.ofList cs).isEncodable = true := by
  rw [RawText.isEncodable, RawText.toString?_ofList, Option.isSome_some]

theorem TextEncodable.isEncodable_shown {payload : Payload} (h : payload.TextEncodable) :
    payload.shown.isEncodable = true := by
  cases payload with
  | text value => exact h
  | fault value => exact h
  | _ => exact isEncodable_ofList _

/-- A payload that a line of JSON can carry: the keys and values in it are no binary64 numbers,
its integers are not too long, and its texts have no halves of characters in them. -/
inductive Loggable : Payload → Prop where
  | none : Loggable .none
  | bool (value : Bool) : Loggable (.bool value)
  | int (value : Int) (h : isTooLong value = false) : Loggable (.int value)
  | text (value : RawText) (h : value.isEncodable = true) : Loggable (.text value)
  | time (value : Timestamp) : Loggable (.time value)
  | duration (value : Duration) : Loggable (.duration value)
  | bytes (value : List UInt8) (fixed : Bool) : Loggable (.bytes value fixed)
  | items (shape : Shape) (values : List Payload) (h : ∀ value ∈ values, Loggable value) :
    Loggable (.items shape values)
  | mapping (entries : List (Payload × Payload)) (hkeys : ∀ entry ∈ entries, Loggable entry.1)
    (h : ∀ entry ∈ entries, Loggable entry.2) : Loggable (.mapping entries)
  | token (record : AccessToken) (htoken : record.token.isEncodable = true)
    (hurl : record.url.isEncodable = true) : Loggable (.token record)
  | request (url : RawText) (metadata : Payload) (hurl : url.isEncodable = true)
    (h : Loggable metadata) : Loggable (.request url metadata)
  | fault (value : Fault) (h : value.text.isEncodable = true) : Loggable (.fault value)
  | recordType (type : RecordType) : Loggable (.recordType type)

theorem Loggable.textEncodable {payload : Payload} (h : payload.Loggable) :
    payload.TextEncodable := by
  cases h with
  | text value h => exact h
  | fault value h => exact h
  | _ => trivial

/-! ## What is logged can be shown -/

theorem spellableItems_iff {values : List Payload} :
    SpellableItems values ↔ ∀ value ∈ values, value.Spellable := by
  induction values with
  | nil => simp [SpellableItems]
  | cons value rest ih => rw [SpellableItems, ih, List.forall_mem_cons]

theorem spellableEntries_iff {entries : List (Payload × Payload)} :
    SpellableEntries entries ↔ ∀ entry ∈ entries, entry.1.Spellable ∧ entry.2.Spellable := by
  induction entries with
  | nil => simp [SpellableEntries]
  | cons entry rest ih => rw [SpellableEntries, ih, List.forall_mem_cons]

theorem Loggable.spellable {payload : Payload} (h : payload.Loggable) : payload.Spellable := by
  induction h with
  | int value h => exact h
  | items shape values h ih => exact spellableItems_iff.mpr ih
  | mapping entries hkeys h ihkeys ih =>
      exact spellableEntries_iff.mpr fun entry hmem => ⟨ihkeys entry hmem, ih entry hmem⟩
  | request url metadata hurl h ih => exact ih
  | _ => trivial

theorem legiblePart_of_textEncodable {step : Step} {part : Payload} {depth : Nat}
    (htext : part.TextEncodable) (h : part.Legible depth) : LegiblePart step part depth := by
  cases step with
  | item index => exact h
  | entry name =>
      cases part with
      | text token =>
          cases hname : isSecretName name <;> simp only [LegiblePart, secret?, hname, if_true]
          · exact h
          · exact htext
      | _ => exact h

/-- A loggable payload can be shown to any depth, if there are calls enough. -/
theorem Loggable.legible {payload : Payload} (h : payload.Loggable) (depth : Nat) :
    payload.Legible depth := by
  induction h generalizing depth with
  | token record htoken hurl =>
      cases depth with
      | zero => trivial
      | succ depth => exact htoken
  | items shape values h ih =>
      cases depth with
      | zero => trivial
      | succ depth => exact legibleItems_iff.mpr fun value hmem => ih value hmem depth
  | mapping entries hkeys h ihkeys ih =>
      cases depth with
      | zero => trivial
      | succ depth =>
          exact legibleEntries_iff.mpr fun entry hmem => ⟨Or.inr (hkeys entry hmem).spellable,
            legiblePart_of_textEncodable (h entry hmem).textEncodable (ih entry hmem depth)⟩
  | request url metadata hurl h ih =>
      cases depth with
      | zero => trivial
      | succ depth => exact ih depth
  | _ => cases depth <;> trivial

end Payload

/-! ## What is shown can be written -/

theorem writable_ofString (s : String) : (Json.string s).Writable :=
  .string _ (RawText.isEncodable_ofString s)

theorem writable_shown {payload : Payload} (h : payload.TextEncodable) :
    (Json.string payload.shown).Writable :=
  .string _ h.isEncodable_shown

/-- An object made from fields one after the other can be written if each of them can. -/
theorem writable_ofList {fields : List (RawText × Json)}
    (hnames : ∀ field ∈ fields, field.1.isEncodable = true)
    (h : ∀ field ∈ fields, field.2.Writable) :
    (Json.object (Dictionary.ofList fields)).Writable :=
  .object _ (Dictionary.nodup_keys_ofList fields)
    (fun field hmem => hnames field (Dictionary.mem_of_mem_ofList hmem))
    fun field hmem => h field (Dictionary.mem_of_mem_ofList hmem)

theorem writable_redactedPart (step : Step) {part : Payload} {depth : Nat}
    (h : (redacted part depth).Writable) : (redactedPart step part depth).Writable := by
  cases step with
  | item index => exact h
  | entry name =>
      rw [redactedPart]
      split
      · exact writable_ofString _
      · exact h

namespace Payload

theorem Loggable.of_mem_entries {payload : Payload} (h : payload.Loggable)
    {entries : List (RawText × Payload)} (hentries : payload.entries? = some entries) :
    ∀ entry ∈ entries, entry.1.isEncodable = true ∧ entry.2.Loggable := by
  cases h with
  | mapping pairs hkeys h =>
      cases hentries
      exact List.forall_mem_map.mpr fun pair hmem =>
        ⟨(hkeys pair hmem).textEncodable.isEncodable_shown, h pair hmem⟩
  | token record htoken hurl =>
      cases hentries
      simp only [List.forall_mem_cons, RawText.isEncodable_ofString, true_and]
      exact ⟨.text _ htoken, .text _ hurl, .bool _, .time _, List.forall_mem_nil _⟩
  | request url metadata hurl h =>
      cases hentries
      simp only [List.forall_mem_cons, RawText.isEncodable_ofString, true_and]
      exact ⟨.text _ hurl, h, List.forall_mem_nil _⟩
  | _ => cases hentries

/-- What is shown of a loggable payload can be written, to whatever depth it is followed. -/
theorem Loggable.writable_redacted {payload : Payload} (h : payload.Loggable) (depth : Nat) :
    (redacted payload depth).Writable := by
  induction depth generalizing payload with
  | zero =>
      rw [redacted]
      exact writable_ofString _
  | succ depth ih =>
      cases hentries : payload.entries? with
      | some entries =>
          have hparts := h.of_mem_entries hentries
          rw [redacted_of_entries? hentries]
          refine writable_ofList ?_ ?_
          · rw [List.forall_mem_map]
            exact fun entry hmem => (hparts entry hmem).1
          · rw [List.forall_mem_map]
            exact fun entry hmem =>
              writable_redactedPart (.entry entry.1) (ih (hparts entry hmem).2)
      | none =>
          cases h with
          | none => exact .null
          | bool value => exact .bool value
          | int value h => exact .int value h
          | text value h => exact .string value h
          | time value => exact writable_ofString _
          | duration value => exact writable_shown trivial
          | bytes value fixed => exact writable_ofString _
          | items shape values h =>
              rw [redacted, redactedItems_eq_map]
              exact .array _ (List.forall_mem_map.mpr fun value hmem => ih (h value hmem))
          | fault value h => exact writable_shown h
          | recordType type => exact writable_shown trivial
          | _ => cases hentries

end Payload

/-! ## How deep containers lie in what is shown -/

theorem nesting_redactedPart_le (step : Step) {part : Payload} {depth : Nat}
    (h : (redacted part depth).nesting ≤ depth) :
    (redactedPart step part depth).nesting ≤ depth := by
  cases step with
  | item index => exact h
  | entry name =>
      rw [redactedPart]
      split
      · exact Nat.zero_le depth
      · exact h

theorem nesting_redacted_le (payload : Payload) (depth : Nat) :
    (redacted payload depth).nesting ≤ depth := by
  induction depth generalizing payload with
  | zero =>
      rw [redacted]
      exact Nat.le_refl 0
  | succ depth ih =>
      cases hentries : payload.entries? with
      | some entries =>
          rw [redacted_of_entries? hentries, Json.nesting, Nat.add_le_add_iff_right,
            Json.fieldsNesting_le_iff]
          intro field hmem
          obtain ⟨entry, -, rfl⟩ := List.mem_map.mp (Dictionary.mem_of_mem_ofList hmem)
          exact nesting_redactedPart_le (.entry entry.1) (ih entry.2)
      | none =>
          cases payload with
          | items shape values =>
              rw [redacted, redactedItems_eq_map, Json.nesting, Nat.add_le_add_iff_right,
                Json.itemsNesting_le_iff, List.forall_mem_map]
              exact fun value _ => ih value
          | mapping | token | request => cases hentries
          | _ => exact Nat.zero_le (depth + 1)

/-! ## The order of entries -/

namespace Payload

/-- The same payload twice, but for the order in which the entries of mappings in it were put
there. The keys of a mapping whose entries change their order have different texts. -/
inductive Reordered : Payload → Payload → Prop where
  | refl (payload : Payload) : Reordered payload payload
  | trans {payload middle other : Payload} (h : Reordered payload middle)
    (h' : Reordered middle other) : Reordered payload other
  | mapping {entries others : List (Payload × Payload)} (h : entries.Perm others)
    (hnodup : (entries.map fun entry => entry.1.shown).Nodup) :
    Reordered (.mapping entries) (.mapping others)
  | item (shape : Shape) (before after : List Payload) {value other : Payload}
    (h : Reordered value other) :
    Reordered (.items shape (before ++ value :: after)) (.items shape (before ++ other :: after))
  | entry (key : Payload) (before after : List (Payload × Payload)) {value other : Payload}
    (h : Reordered value other) :
    Reordered (.mapping (before ++ (key, value) :: after))
      (.mapping (before ++ (key, other) :: after))
  | metadata (url : RawText) {metadata other : Payload} (h : Reordered metadata other) :
    Reordered (.request url metadata) (.request url other)

namespace Reordered

variable {payload other : Payload}

theorem isEmpty_eq (h : Reordered payload other) : payload.isEmpty = other.isEmpty := by
  induction h with
  | refl => rfl
  | trans _ _ ih ih' => exact ih.trans ih'
  | mapping h => exact h.isEmpty_eq
  | item shape before after => cases before <;> rfl
  | entry key before after => cases before <;> rfl
  | metadata => rfl

theorem secret?_eq (h : Reordered payload other) (name : RawText) :
    secret? name payload = secret? name other := by
  induction h with
  | trans _ _ ih ih' => exact ih.trans ih'
  | _ => rfl

end Reordered

end Payload

end ScanAccess.Log
