import ScanAccess.Proofs.Redacted

/-! # Positions in payloads

A position is the way from a payload down to one of its parts, through the items of
containers and through entries with names. The records of this library count as
mappings from the names of their fields. What redaction shows at a position depends
on the value there, on the last step of the way and on the depth that is left, and
not on the names further up.
-/

namespace ScanAccess.Log

/-- One step on the way into a value: to an item by its place, or to an entry by its name. -/
inductive Step where
  | item (index : Nat)
  | entry (name : RawText)
  deriving DecidableEq, Repr

namespace Step

/-- Whether a text that this step leads to is secret. -/
def isSecret : Step → Bool
  | item _ => false
  | entry name => isSecretName name

/-- Goes a way from a value, if all its steps lead somewhere. -/
def follow {α : Type} (part? : α → Step → Option α) : α → List Step → Option α
  | value, [] => some value
  | value, step :: rest => (part? value step).bind fun part => follow part? part rest

end Step

namespace Payload

/-- The parts of a payload that have names: the entries of a mapping under the texts of their
keys, and the fields of a record. -/
def entries? : Payload → Option (List (RawText × Payload))
  | mapping entries => some (entries.map fun entry => (entry.1.shown, entry.2))
  | token record => some [
      ("husky_token", .text record.token),
      ("url", .text record.url),
      ("is_valid", .bool record.isValid),
      ("created_at", .time record.createdAt)]
  | request url metadata => some [("repository_url", .text url), ("metadata", metadata)]
  | _ => Option.none

/-- The part that a step leads to. Of entries with the same text for a key the last one counts. -/
def part? : Payload → Step → Option Payload
  | items _ values, .item index => values[index]?
  | _, .item _ => Option.none
  | payload, .entry name =>
    payload.entries?.bind fun entries => Dictionary.get? (Dictionary.ofList entries) name

/-- The part at a position. -/
def at? (payload : Payload) (path : List Step) : Option Payload :=
  Step.follow part? payload path

end Payload

/-- The part of a JSON value that a step leads to. -/
def jsonPart? : Json → Step → Option Json
  | .array items, .item index => items[index]?
  | _, .item _ => none
  | json, .entry name => json.field? name

/-- The part of a JSON value at a position. -/
def jsonAt? (json : Json) (path : List Step) : Option Json :=
  Step.follow jsonPart? json path

/-- What is shown of a part that a step leads to, with the depth that is left for it. -/
def redactedPart (step : Step) (part : Payload) (depth : Nat) : Json :=
  match step with
  | .item _ => redacted part depth
  | .entry name =>
    match secret? name part with
    | some token => shownToken token
    | none => redacted part depth

theorem redactedItems_eq_map (values : List Payload) (depth : Nat) :
    redactedItems values depth = values.map fun value => redacted value depth := by
  induction values with
  | nil => rfl
  | cons value rest ih => rw [redactedItems, ih, List.map_cons]

theorem redactedEntries_eq_map (entries : List (Payload × Payload)) (depth : Nat) :
    redactedEntries entries depth = (entries.map fun entry => (entry.1.shown, entry.2)).map
      fun entry => (entry.1, redactedPart (.entry entry.1) entry.2 depth) := by
  induction entries with
  | nil => rfl
  | cons entry rest ih =>
      obtain ⟨key, value⟩ := entry
      rw [redactedEntries, ih]
      rfl

/-- A text is shown as it is, unless the depth is used up. -/
theorem redacted_text (text : RawText) (depth : Nat) :
    redacted (.text text) depth = atDepth depth (.string text) := by
  cases depth <;> simp [redacted, atDepth]

/-- A text at the end of a step is hidden behind its fingerprint if it is secret, whatever depth
is left. -/
theorem redactedPart_text (step : Step) (text : RawText) (depth : Nat) :
    redactedPart step (.text text) depth =
      if step.isSecret then shownToken text else atDepth depth (.string text) := by
  cases step with
  | item index => exact redacted_text text depth
  | entry name =>
      cases hname : isSecretName name with
      | true => simp [redactedPart, secret?, Step.isSecret, hname]
      | false => simp [redactedPart, secret?, Step.isSecret, hname, redacted_text]

theorem redactedPart_of_isSecret_eq_false {step : Step} (h : step.isSecret = false)
    (part : Payload) (depth : Nat) : redactedPart step part depth = redacted part depth := by
  cases step with
  | item index => rfl
  | entry name =>
      have hname : isSecretName name = false := h
      cases part <;> simp [redactedPart, secret?, hname]

/-- Records are shown as the mappings of their fields. -/
theorem redacted_of_entries? {payload : Payload} {entries : List (RawText × Payload)}
    (h : payload.entries? = some entries) (depth : Nat) :
    redacted payload (depth + 1) = .object (Dictionary.ofList
      (entries.map fun entry => (entry.1, redactedPart (.entry entry.1) entry.2 depth))) := by
  cases payload with
  | mapping pairs =>
      cases h
      rw [redacted, redactedEntries_eq_map]
  | token record =>
      have htoken : (Step.entry "husky_token").isSecret = true := by decide
      have hurl : (Step.entry "url").isSecret = false := by decide
      have hvalid : (Step.entry "is_valid").isSecret = false := by decide
      have hcreated : (Step.entry "created_at").isSecret = false := by decide
      cases h
      cases depth <;>
        simp [redacted, redactedPart_text, redactedPart_of_isSecret_eq_false, htoken, hurl,
          hvalid, hcreated, atDepth, Dictionary.ofList, Dictionary.put]
  | request url metadata =>
      have hurl : (Step.entry "repository_url").isSecret = false := by decide
      have hmetadata : (Step.entry "metadata").isSecret = false := by decide
      cases h
      simp [redacted, redacted_text, redactedPart_of_isSecret_eq_false, hurl, hmetadata,
        Dictionary.ofList, Dictionary.put]
  | _ => cases h

/-- A container that is followed has the same parts as before, each as it is shown there. -/
theorem redacted_part? (payload : Payload) (step : Step) (depth : Nat) :
    jsonPart? (redacted payload (depth + 1)) step =
      (payload.part? step).map fun part => redactedPart step part depth := by
  cases step with
  | item index =>
      cases payload with
      | items shape values =>
          simp [redacted, jsonPart?, Payload.part?, redactedItems_eq_map, redactedPart]
      | _ => simp [redacted, jsonPart?, Payload.part?, redacted, bytesMark]
  | entry name =>
      cases h : payload.entries? with
      | some entries =>
          rw [redacted_of_entries? h, Payload.part?, h, jsonPart?, Json.field?,
            Dictionary.ofList_map fun name part => redactedPart (.entry name) part depth,
            Dictionary.get?_map fun name part => redactedPart (.entry name) part depth]
          rfl
      | none =>
          cases payload <;> simp [Payload.entries?] at h <;>
            simp [redacted, jsonPart?, Payload.part?, Payload.entries?, bytesMark, Json.field?]

/-- Hiding a text hides no parts, since a text has none. -/
theorem redactedPart_part? (step next : Step) (part : Payload) (depth : Nat) :
    jsonPart? (redactedPart step part depth) next = jsonPart? (redacted part depth) next := by
  cases part with
  | text text =>
      rw [redactedPart_text, redacted_text]
      cases step.isSecret <;> cases depth <;> cases next <;> rfl
  | _ => cases step <;> rfl

theorem redactedPart_at? (first : Step) (part : Payload) (depth : Nat) (rest : List Step)
    (last : Step) :
    jsonAt? (redactedPart first part depth) (rest ++ [last]) =
      jsonAt? (redacted part depth) (rest ++ [last]) := by
  cases rest with
  | nil => simp only [jsonAt?, List.nil_append, Step.follow, redactedPart_part?]
  | cons next rest => simp only [jsonAt?, List.cons_append, Step.follow, redactedPart_part?]

/-- What stands at a position within the depth is shown by the last step to it and by what is
left of the depth there. -/
theorem redacted_at?_of_lt {payload : Payload} {depth : Nat} {path : List Step}
    (h : path.length < depth) (last : Step) :
    jsonAt? (redacted payload depth) (path ++ [last]) =
      (payload.at? (path ++ [last])).map fun part =>
        redactedPart last part (depth - path.length - 1) := by
  induction path generalizing payload depth with
  | nil =>
      obtain ⟨depth, rfl⟩ := Nat.exists_eq_add_one.mpr h
      simp [jsonAt?, Payload.at?, Step.follow, redacted_part?]
  | cons first rest ih =>
      obtain ⟨depth, rfl⟩ := Nat.exists_eq_add_one.mpr (Nat.zero_lt_of_lt h)
      have hrest : rest.length < depth := by simpa using h
      have hleft : depth + 1 - (first :: rest).length - 1 = depth - rest.length - 1 := by simp
      rw [hleft, jsonAt?, Payload.at?, List.cons_append, Step.follow, Step.follow, redacted_part?]
      cases payload.part? first with
      | none => rfl
      | some part => exact (redactedPart_at? first part depth rest last).trans (ih hrest)

/-- Beyond the depth nothing is shown at all. -/
theorem redacted_at?_of_le {payload : Payload} {depth : Nat} {path : List Step}
    (h : depth ≤ path.length) (last : Step) :
    jsonAt? (redacted payload depth) (path ++ [last]) = none := by
  induction path generalizing payload depth with
  | nil =>
      obtain rfl : depth = 0 := by simpa using h
      cases last <;> simp [jsonAt?, Step.follow, redacted, depthMark, jsonPart?, Json.field?]
  | cons first rest ih =>
      rw [jsonAt?, List.cons_append, Step.follow]
      cases depth with
      | zero => cases first <;> simp [redacted, depthMark, jsonPart?, Json.field?]
      | succ depth =>
          have hrest : depth ≤ rest.length := by simpa using h
          rw [redacted_part?]
          cases payload.part? first with
          | none => rfl
          | some part => exact (redactedPart_at? first part depth rest last).trans (ih hrest)

/-! ## What has to have a form at a position -/

/-- What a step leads to can be shown with the depth that is left for it. -/
def LegiblePart (step : Step) (part : Payload) (depth : Nat) : Prop :=
  match step with
  | .item _ => part.Legible depth
  | .entry name =>
    match secret? name part with
    | some token => token.isEncodable = true
    | none => part.Legible depth

theorem legibleItems_iff {values : List Payload} {depth : Nat} :
    Payload.LegibleItems values depth ↔ ∀ value ∈ values, value.Legible depth := by
  induction values with
  | nil => simp [Payload.LegibleItems]
  | cons value rest ih => rw [Payload.LegibleItems, ih, List.forall_mem_cons]

theorem legibleEntries_iff {entries : List (Payload × Payload)} {depth : Nat} :
    Payload.LegibleEntries entries depth ↔ ∀ entry ∈ entries,
      (entry.1.isText = true ∨ entry.1.Spellable) ∧
        LegiblePart (.entry entry.1.shown) entry.2 depth := by
  induction entries with
  | nil => simp [Payload.LegibleEntries]
  | cons entry rest ih =>
      rw [Payload.LegibleEntries, ih, List.forall_mem_cons]
      rfl

theorem legiblePart_of_isSecret_eq_false {step : Step} (h : step.isSecret = false) {part : Payload}
    {depth : Nat} : LegiblePart step part depth ↔ part.Legible depth := by
  cases step with
  | item index => rfl
  | entry name =>
      have hname : isSecretName name = false := h
      cases part <;> simp [LegiblePart, secret?, hname]

theorem LegiblePart.legible_of_part? {step next : Step} {part inner : Payload} {depth : Nat}
    (h : LegiblePart step part depth) (hnext : part.part? next = some inner) :
    part.Legible depth := by
  cases part with
  | text text => cases next <;> cases hnext
  | _ => cases step <;> exact h

/-- A container that can be shown has parts that can. -/
theorem legiblePart_of_part? {payload part : Payload} {step : Step} {depth : Nat}
    (h : payload.Legible (depth + 1)) (hpart : payload.part? step = some part) :
    LegiblePart step part depth := by
  cases step with
  | item index =>
      cases payload with
      | items shape values => exact legibleItems_iff.mp h part (List.mem_of_getElem? hpart)
      | _ => cases hpart
  | entry name =>
      rw [Payload.part?] at hpart
      obtain ⟨entries, hentries, hget⟩ := Option.bind_eq_some_iff.mp hpart
      have hmem : (name, part) ∈ entries := Dictionary.mem_of_mem_ofList
        ((Dictionary.get?_eq_some_iff (Dictionary.nodup_keys_ofList entries)).mp hget)
      cases payload with
      | mapping pairs =>
          cases hentries
          obtain ⟨entry, hentry, heq⟩ := List.mem_map.mp hmem
          cases heq
          exact (legibleEntries_iff.mp h entry hentry).2
      | token record =>
          cases hentries
          have hurl : (Step.entry "url").isSecret = false := by decide
          have hvalid : (Step.entry "is_valid").isSecret = false := by decide
          have hcreated : (Step.entry "created_at").isSecret = false := by decide
          simp only [List.mem_cons, Prod.mk.injEq, List.not_mem_nil, or_false] at hmem
          rcases hmem with ⟨rfl, rfl⟩ | ⟨rfl, rfl⟩ | ⟨rfl, rfl⟩ | ⟨rfl, rfl⟩
          · have htoken : isSecretName "husky_token" = true := by decide
            simpa [LegiblePart, secret?, htoken, Payload.Legible] using h
          · rw [legiblePart_of_isSecret_eq_false hurl]
            cases depth <;> trivial
          · rw [legiblePart_of_isSecret_eq_false hvalid]
            cases depth <;> trivial
          · rw [legiblePart_of_isSecret_eq_false hcreated]
            cases depth <;> trivial
      | request url metadata =>
          cases hentries
          have hurl : (Step.entry "repository_url").isSecret = false := by decide
          have hmetadata : (Step.entry "metadata").isSecret = false := by decide
          simp only [List.mem_cons, Prod.mk.injEq, List.not_mem_nil, or_false] at hmem
          rcases hmem with ⟨rfl, rfl⟩ | ⟨rfl, rfl⟩
          · rw [legiblePart_of_isSecret_eq_false hurl]
            cases depth <;> trivial
          · exact (legiblePart_of_isSecret_eq_false hmetadata).mpr h
      | _ => cases hentries

/-- What stands at a position within the depth can be shown if the payload can. -/
theorem legiblePart_of_at? {payload part : Payload} {depth : Nat} {path : List Step} {last : Step}
    (h : payload.Legible depth) (hlt : path.length < depth)
    (hat : payload.at? (path ++ [last]) = some part) :
    LegiblePart last part (depth - path.length - 1) := by
  induction path generalizing payload depth with
  | nil =>
      obtain ⟨depth, rfl⟩ := Nat.exists_eq_add_one.mpr hlt
      obtain ⟨found, hfound, hsame⟩ := Option.bind_eq_some_iff.mp hat
      cases hsame
      exact legiblePart_of_part? h hfound
  | cons first rest ih =>
      obtain ⟨depth, rfl⟩ := Nat.exists_eq_add_one.mpr (Nat.zero_lt_of_lt hlt)
      have hrest : rest.length < depth := by simpa using hlt
      have hleft : depth + 1 - (first :: rest).length - 1 = depth - rest.length - 1 := by simp
      obtain ⟨inner, hinner, hwithin⟩ := Option.bind_eq_some_iff.mp hat
      have hfirst := legiblePart_of_part? h hinner
      obtain ⟨next, hnext⟩ : ∃ next, (inner.part? next).isSome = true := by
        cases rest with
        | nil =>
            exact ⟨last, Option.isSome_of_mem (Option.bind_eq_some_iff.mp hwithin).choose_spec.1⟩
        | cons next rest =>
            exact ⟨next, Option.isSome_of_mem (Option.bind_eq_some_iff.mp hwithin).choose_spec.1⟩
      obtain ⟨deepest, hdeepest⟩ := Option.isSome_iff_exists.mp hnext
      rw [hleft]
      exact ih (hfirst.legible_of_part? hdeepest) hrest hwithin

end ScanAccess.Log
