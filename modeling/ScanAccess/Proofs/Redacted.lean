import Mathlib.Tactic.Tauto
import ScanAccess.Log.Redaction

/-! # What redaction makes of a payload

Redaction fails, or it makes the one form that a payload has at a depth. It succeeds
exactly if there are calls enough for the containers that it follows, if every secret
text that it comes to has a form in UTF-8, and if no key that it comes to has too long an
integer in it.
-/

namespace ScanAccess

theorem bind_eq_ok_iff {ε α β : Type} {first : Except ε α} {next : α → Except ε β} {value : β} :
    (first >>= next) = .ok value ↔ ∃ between, first = .ok between ∧ next between = .ok value := by
  cases first <;> simp [Bind.bind, Except.bind]

theorem ok_bind {ε α β : Type} (value : α) (next : α → Except ε β) :
    (.ok value >>= next) = next value := rfl

theorem seq_eq_ok_iff {ε α : Type} {first : Except ε Unit} {next : Unit → Except ε α} {value : α} :
    (first >>= next) = .ok value ↔ first = .ok () ∧ next () = .ok value := by
  cases first <;> simp [Bind.bind, Except.bind]

theorem exists_of_map_eq_ok {ε α β : Type} {first : Except ε α} {f : α → β} {value : β}
    (h : first.map f = .ok value) : ∃ between, first = .ok between ∧ f between = value := by
  cases first with
  | error error => cases h
  | ok between => exact ⟨between, rfl, Except.ok.inj h⟩

theorem pure_eq_ok_iff {ε α : Type} {value other : α} :
    (pure value : Except ε α) = .ok other ↔ other = value :=
  ⟨fun h => (Except.ok.inj h).symm, fun h => congrArg Except.ok h.symm⟩

namespace Log

theorem enter_eq_ok_iff {calls left rest : Nat} :
    enter calls left = .ok rest ↔ calls ≤ left ∧ rest = left - calls := by
  unfold enter
  split
  next h => simp [h, eq_comm]
  next h => simp [h]

/-! ## Texts of payloads -/

namespace Payload

mutual

/-- How many calls the spelling of a payload takes. -/
def spellingCalls (host : Host) : Payload → Nat
  | items _ values => 1 + spellingsCalls host values
  | mapping entries => 1 + entrySpellingsCalls host entries
  | token _ => 1 + host.spelling
  | request _ metadata => 1 + host.spelling + spellingCalls host metadata
  | _ => 1

/-- The same for the payload that takes most. -/
def spellingsCalls (host : Host) : List Payload → Nat
  | [] => 0
  | value :: rest => max (spellingCalls host value) (spellingsCalls host rest)

/-- The same for the keys and values of a mapping. -/
def entrySpellingsCalls (host : Host) : List (Payload × Payload) → Nat
  | [] => 0
  | (key, value) :: rest =>
    max (max (spellingCalls host key) (spellingCalls host value)) (entrySpellingsCalls host rest)

end

mutual

/-- No integer that is spelled for a payload is too long. -/
def Spellable : Payload → Prop
  | int value => Text.isTooLong value = false
  | items _ values => SpellableItems values
  | mapping entries => SpellableEntries entries
  | request _ metadata => Spellable metadata
  | _ => True

/-- The same for some payloads. -/
def SpellableItems : List Payload → Prop
  | [] => True
  | value :: rest => Spellable value ∧ SpellableItems rest

/-- The same for the keys and values of a mapping. -/
def SpellableEntries : List (Payload × Payload) → Prop
  | [] => True
  | (key, value) :: rest => (Spellable key ∧ Spellable value) ∧ SpellableEntries rest

end

/-- Whether a payload is a text. -/
def isText : Payload → Bool
  | text _ => true
  | _ => false

/-- How many calls the text of a payload takes. A text is there already. -/
def textCalls (host : Host) : Payload → Nat
  | text _ => 0
  | payload => spellingCalls host payload

end Payload

variable {host : Host}

mutual

theorem checkSpelling_eq_ok_iff (left : Nat) : ∀ payload : Payload,
    host.checkSpelling left payload = .ok () ↔
      payload.spellingCalls host ≤ left ∧ payload.Spellable
  | .int value => by
      simp only [Host.checkSpelling, bind_eq_ok_iff, enter_eq_ok_iff, Payload.spellingCalls,
        Payload.Spellable]
      cases Text.isTooLong value <;> simp
  | .items _ values => by
      simp only [Host.checkSpelling, bind_eq_ok_iff, enter_eq_ok_iff, Payload.spellingCalls,
        Payload.Spellable]
      constructor
      · rintro ⟨rest, ⟨hle, rfl⟩, hvalues⟩
        obtain ⟨hcalls, hspell⟩ := (checkSpellings_eq_ok_iff _ values).mp hvalues
        exact ⟨by omega, hspell⟩
      · rintro ⟨hcalls, hspell⟩
        exact ⟨_, ⟨by omega, rfl⟩, (checkSpellings_eq_ok_iff _ values).mpr ⟨by omega, hspell⟩⟩
  | .mapping entries => by
      simp only [Host.checkSpelling, bind_eq_ok_iff, enter_eq_ok_iff, Payload.spellingCalls,
        Payload.Spellable]
      constructor
      · rintro ⟨rest, ⟨hle, rfl⟩, hentries⟩
        obtain ⟨hcalls, hspell⟩ := (checkEntries_eq_ok_iff _ entries).mp hentries
        exact ⟨by omega, hspell⟩
      · rintro ⟨hcalls, hspell⟩
        exact ⟨_, ⟨by omega, rfl⟩, (checkEntries_eq_ok_iff _ entries).mpr ⟨by omega, hspell⟩⟩
  | .token _ => by
      simp [-bind_pure_comp, Host.checkSpelling, bind_eq_ok_iff, enter_eq_ok_iff,
        Payload.spellingCalls, Payload.Spellable, pure_eq_ok_iff]
  | .request _ metadata => by
      simp only [Host.checkSpelling, bind_eq_ok_iff, enter_eq_ok_iff, Payload.spellingCalls,
        Payload.Spellable]
      constructor
      · rintro ⟨rest, ⟨hle, rfl⟩, hmetadata⟩
        obtain ⟨hcalls, hspell⟩ := (checkSpelling_eq_ok_iff _ metadata).mp hmetadata
        exact ⟨by omega, hspell⟩
      · rintro ⟨hcalls, hspell⟩
        exact ⟨_, ⟨by omega, rfl⟩, (checkSpelling_eq_ok_iff _ metadata).mpr ⟨by omega, hspell⟩⟩
  | .none | .bool _ | .float _ | .text _ | .time _ | .duration _ | .bytes _ _ | .fault _
  | .recordType _ => by
      simp [-bind_pure_comp, Host.checkSpelling, bind_eq_ok_iff, enter_eq_ok_iff,
        Payload.spellingCalls, Payload.Spellable, pure_eq_ok_iff]

theorem checkSpellings_eq_ok_iff (left : Nat) : ∀ values : List Payload,
    host.checkSpellings left values = .ok () ↔
      Payload.spellingsCalls host values ≤ left ∧ Payload.SpellableItems values
  | [] => by simp [Host.checkSpellings, Payload.spellingsCalls, Payload.SpellableItems]
  | value :: rest => by
      simp only [Host.checkSpellings, seq_eq_ok_iff, checkSpelling_eq_ok_iff left value,
        checkSpellings_eq_ok_iff left rest, Payload.spellingsCalls, Payload.SpellableItems,
        Nat.max_le]
      tauto

theorem checkEntries_eq_ok_iff (left : Nat) : ∀ entries : List (Payload × Payload),
    host.checkEntries left entries = .ok () ↔
      Payload.entrySpellingsCalls host entries ≤ left ∧ Payload.SpellableEntries entries
  | [] => by simp [Host.checkEntries, Payload.entrySpellingsCalls, Payload.SpellableEntries]
  | (key, value) :: rest => by
      simp only [Host.checkEntries, seq_eq_ok_iff, checkSpelling_eq_ok_iff left key,
        checkSpelling_eq_ok_iff left value, checkEntries_eq_ok_iff left rest,
        Payload.entrySpellingsCalls, Payload.SpellableEntries, Nat.max_le]
      tauto

end

theorem textOf_eq_ok_iff {left : Nat} {payload : Payload} {name : RawText} :
    host.textOf left payload = .ok name ↔
      payload.textCalls host ≤ left ∧ (payload.isText = true ∨ payload.Spellable) ∧
        name = payload.shown := by
  cases payload with
  | text value => simp [Host.textOf, Payload.textCalls, Payload.isText, Payload.shown, eq_comm]
  | _ =>
    simp only [Host.textOf, seq_eq_ok_iff, checkSpelling_eq_ok_iff, pure_eq_ok_iff,
      Payload.textCalls, Payload.isText, Bool.false_eq_true, false_or, and_assoc]

/-! ## The form of a payload -/

/-- The mark of a token with a fingerprint. -/
def shownToken (token : RawText) : Json :=
  markOf ((fingerprint token).toOption.getD "")

theorem shownToken_of_eq_ok {token : RawText} {print : String} (h : fingerprint token = .ok print) :
    shownToken token = markOf print := by
  rw [shownToken, h]
  rfl

theorem exists_fingerprint_of_isEncodable {token : RawText} (h : token.isEncodable = true) :
    ∃ print, fingerprint token = .ok print := by
  obtain ⟨text, rfl⟩ := RawText.isEncodable_iff.mp h
  exact ⟨_, fingerprint_ofString text⟩

theorem tokenMark_eq_ok_iff {left : Nat} {token : RawText} {shown : Json} :
    tokenMark host left token = .ok shown ↔
      1 + host.digesting ≤ left ∧ token.isEncodable = true ∧ shown = shownToken token := by
  simp only [tokenMark, bind_eq_ok_iff, enter_eq_ok_iff, pure_eq_ok_iff, shownToken,
    ← isOk_fingerprint]
  cases fingerprint token with
  | error failure => simp [Except.isOk, Except.toBool]
  | ok print =>
      simp only [Except.isOk, Except.toBool, Except.toOption, Except.ok.injEq, Option.getD_some]
      constructor
      · rintro ⟨inside, ⟨hle, rfl⟩, found, rfl, rest, ⟨hrest, -⟩, rfl⟩
        exact ⟨by omega, trivial, rfl⟩
      · rintro ⟨hle, -, rfl⟩
        exact ⟨_, ⟨by omega, rfl⟩, print, rfl, _, ⟨by omega, rfl⟩, rfl⟩

mutual

/-- A payload as it is shown, followed to a depth. -/
def redacted : Payload → Nat → Json
  | _, 0 => depthMark
  | .none, _ + 1 => .null
  | .bool value, _ + 1 => .bool value
  | .int value, _ + 1 => .int value
  | .float value, _ + 1 => .float value
  | .text value, _ + 1 => .string value
  | .time value, _ + 1 => .string value.iso
  | .bytes value _, _ + 1 => bytesMark value
  | .items _ values, depth + 1 => .array (redactedItems values depth)
  | .mapping entries, depth + 1 => .object (Dictionary.ofList (redactedEntries entries depth))
  | .token record, depth + 1 => .object [
      ("husky_token", shownToken record.token),
      ("url", atDepth depth (.string record.url)),
      ("is_valid", atDepth depth (.bool record.isValid)),
      ("created_at", atDepth depth (.string record.createdAt.iso))]
  | .request url metadata, depth + 1 => .object [
      ("repository_url", atDepth depth (.string url)),
      ("metadata", redacted metadata depth)]
  | payload, _ + 1 => .string payload.shown

/-- The items of a container as they are shown. -/
def redactedItems : List Payload → Nat → List Json
  | [], _ => []
  | value :: rest, depth => redacted value depth :: redactedItems rest depth

/-- The entries of a mapping as they are shown, each under the text of its key. -/
def redactedEntries : List (Payload × Payload) → Nat → List (RawText × Json)
  | [], _ => []
  | (key, value) :: rest, depth =>
    (key.shown,
      match secret? key.shown value with
      | some token => shownToken token
      | none => redacted value depth) :: redactedEntries rest depth

end

/-! ## When a payload is shown -/

namespace Payload

mutual

/-- How many calls it takes to follow a payload to a depth. -/
def calls (host : Host) : Payload → Nat → Nat
  | _, 0 => 0
  | items _ values, depth + 1 => max host.telling (host.building + itemsCalls host values depth)
  | mapping entries, depth + 1 =>
    max host.telling (host.building + entriesCalls host entries depth)
  | token _, _ + 1 => max host.telling (host.building + (2 + host.digesting))
  | request _ metadata, depth + 1 =>
    max host.telling (host.building + (2 + calls host metadata depth))
  | duration _, _ + 1 | fault _, _ + 1 | recordType _, _ + 1 => max host.telling 1
  | _, _ + 1 => 0

/-- The same for the item that takes most. -/
def itemsCalls (host : Host) : List Payload → Nat → Nat
  | [], _ => 0
  | value :: rest, depth => max (1 + calls host value depth) (itemsCalls host rest depth)

/-- The same for the entry that takes most, be it for its key or for its value. -/
def entriesCalls (host : Host) : List (Payload × Payload) → Nat → Nat
  | [], _ => 0
  | (key, value) :: rest, depth =>
    max (max (key.textCalls host)
      (2 + match secret? key.shown value with
        | some _ => host.digesting
        | Option.none => calls host value depth)) (entriesCalls host rest depth)

end

mutual

/-- What is shown of a payload to a depth can be shown: secret texts have a form in UTF-8, and keys
can be spelled. -/
def Legible : Payload → Nat → Prop
  | _, 0 => True
  | items _ values, depth + 1 => LegibleItems values depth
  | mapping entries, depth + 1 => LegibleEntries entries depth
  | token record, _ + 1 => record.token.isEncodable = true
  | request _ metadata, depth + 1 => Legible metadata depth
  | _, _ + 1 => True

/-- The same for the items of a container. -/
def LegibleItems : List Payload → Nat → Prop
  | [], _ => True
  | value :: rest, depth => Legible value depth ∧ LegibleItems rest depth

/-- The same for the entries of a mapping. -/
def LegibleEntries : List (Payload × Payload) → Nat → Prop
  | [], _ => True
  | (key, value) :: rest, depth =>
    ((key.isText = true ∨ key.Spellable) ∧
      match secret? key.shown value with
      | some hidden => hidden.isEncodable = true
      | Option.none => Legible value depth) ∧ LegibleEntries rest depth

end

end Payload

theorem redactToken_eq_ok_iff {left depth : Nat} {record : AccessToken} {json : Json} :
    redactToken host left record depth = .ok json ↔
      2 + host.digesting ≤ left ∧ record.token.isEncodable = true ∧
        json = redacted (.token record) (depth + 1) := by
  simp only [redactToken, bind_eq_ok_iff, enter_eq_ok_iff, tokenMark_eq_ok_iff, pure_eq_ok_iff,
    redacted]
  constructor
  · rintro ⟨field, ⟨hle, rfl⟩, mark, ⟨hmark, htoken, rfl⟩, -, -, rfl⟩
    exact ⟨by omega, htoken, rfl⟩
  · rintro ⟨hle, htoken, rfl⟩
    exact ⟨_, ⟨by omega, rfl⟩, _, ⟨by omega, htoken, rfl⟩, _, ⟨by omega, rfl⟩, rfl⟩

mutual

/-- A payload is shown exactly if there are calls enough and all that is reached can be shown, and
then in its form. -/
theorem redact_eq_ok_iff (left : Nat) : ∀ (payload : Payload) (depth : Nat) (json : Json),
    redact host left payload depth = .ok json ↔
      payload.calls host depth ≤ left ∧ payload.Legible depth ∧ json = redacted payload depth
  | payload, 0, json => by
      cases payload <;> simp [redact, Payload.calls, Payload.Legible, redacted, eq_comm]
  | .items _ values, depth + 1, json => by
      simp only [redact, bind_eq_ok_iff, enter_eq_ok_iff, pure_eq_ok_iff,
        redactItems_eq_ok_iff _ values, Payload.calls, Payload.Legible, redacted]
      constructor
      · rintro ⟨-, ⟨htelling, -⟩, inside, ⟨hbuilding, rfl⟩, items, ⟨hcalls, hlegible, rfl⟩, rfl⟩
        exact ⟨by omega, hlegible, rfl⟩
      · rintro ⟨hcalls, hlegible, rfl⟩
        exact ⟨_, ⟨by omega, rfl⟩, _, ⟨by omega, rfl⟩, _, ⟨by omega, hlegible, rfl⟩, rfl⟩
  | .mapping entries, depth + 1, json => by
      simp only [redact, bind_eq_ok_iff, enter_eq_ok_iff, pure_eq_ok_iff,
        redactEntries_eq_ok_iff _ entries, Payload.calls, Payload.Legible, redacted]
      constructor
      · rintro ⟨-, ⟨htelling, -⟩, inside, ⟨hbuilding, rfl⟩, fields, ⟨hcalls, hlegible, rfl⟩, rfl⟩
        exact ⟨by omega, hlegible, rfl⟩
      · rintro ⟨hcalls, hlegible, rfl⟩
        exact ⟨_, ⟨by omega, rfl⟩, _, ⟨by omega, rfl⟩, _, ⟨by omega, hlegible, rfl⟩, rfl⟩
  | .token record, depth + 1, json => by
      simp only [redact, bind_eq_ok_iff, enter_eq_ok_iff, redactToken_eq_ok_iff, Payload.calls,
        Payload.Legible]
      constructor
      · rintro ⟨-, ⟨htelling, -⟩, inside, ⟨hbuilding, rfl⟩, hcalls, htoken, rfl⟩
        exact ⟨by omega, htoken, rfl⟩
      · rintro ⟨hcalls, htoken, rfl⟩
        exact ⟨_, ⟨by omega, rfl⟩, _, ⟨by omega, rfl⟩, by omega, htoken, rfl⟩
  | .request url metadata, depth + 1, json => by
      simp only [redact, bind_eq_ok_iff, enter_eq_ok_iff, pure_eq_ok_iff,
        redact_eq_ok_iff _ metadata, Payload.calls, Payload.Legible, redacted]
      constructor
      · rintro ⟨-, ⟨htelling, -⟩, inside, ⟨hbuilding, rfl⟩, field, ⟨hfield, rfl⟩, value,
          ⟨hvalue, rfl⟩, shown, ⟨hcalls, hlegible, rfl⟩, rfl⟩
        exact ⟨by omega, hlegible, rfl⟩
      · rintro ⟨hcalls, hlegible, rfl⟩
        exact ⟨_, ⟨by omega, rfl⟩, _, ⟨by omega, rfl⟩, _, ⟨by omega, rfl⟩, _, ⟨by omega, rfl⟩, _,
          ⟨by omega, hlegible, rfl⟩, rfl⟩
  | .duration _, _ + 1, json | .fault _, _ + 1, json | .recordType _, _ + 1, json => by
      simp only [redact, bind_eq_ok_iff, enter_eq_ok_iff, pure_eq_ok_iff, textOf_eq_ok_iff,
        Payload.textCalls, Payload.spellingCalls, Payload.Spellable, Payload.calls, Payload.Legible,
        redacted]
      constructor
      · rintro ⟨-, ⟨htelling, -⟩, name, ⟨hcalls, -, rfl⟩, rfl⟩
        exact ⟨by omega, trivial, rfl⟩
      · rintro ⟨hcalls, -, rfl⟩
        exact ⟨_, ⟨by omega, rfl⟩, _, ⟨by omega, Or.inr trivial, rfl⟩, rfl⟩
  | .none, _ + 1, json | .bool _, _ + 1, json | .int _, _ + 1, json | .float _, _ + 1, json
  | .text _, _ + 1, json | .time _, _ + 1, json | .bytes _ _, _ + 1, json => by
      simp [redact, Payload.calls, Payload.Legible, redacted, eq_comm]

theorem redactItems_eq_ok_iff (left : Nat) :
    ∀ (values : List Payload) (depth : Nat) (items : List Json),
    redactItems host left values depth = .ok items ↔
      Payload.itemsCalls host values depth ≤ left ∧ Payload.LegibleItems values depth ∧
        items = redactedItems values depth
  | [], depth, items => by
      simp [redactItems, Payload.itemsCalls, Payload.LegibleItems, redactedItems, eq_comm]
  | value :: rest, depth, items => by
      simp only [redactItems, bind_eq_ok_iff, enter_eq_ok_iff, pure_eq_ok_iff,
        redact_eq_ok_iff _ value, redactItems_eq_ok_iff left rest, Payload.itemsCalls,
        Payload.LegibleItems, redactedItems]
      constructor
      · rintro ⟨inside, ⟨hle, rfl⟩, item, ⟨hcalls, hlegible, rfl⟩, shown,
          ⟨hrest, hlegibleRest, rfl⟩, rfl⟩
        exact ⟨by omega, ⟨hlegible, hlegibleRest⟩, rfl⟩
      · rintro ⟨hcalls, ⟨hlegible, hlegibleRest⟩, rfl⟩
        exact ⟨_, ⟨by omega, rfl⟩, _, ⟨by omega, hlegible, rfl⟩, _,
          ⟨by omega, hlegibleRest, rfl⟩, rfl⟩

theorem redactEntries_eq_ok_iff (left : Nat) :
    ∀ (entries : List (Payload × Payload)) (depth : Nat) (fields : List (RawText × Json)),
    redactEntries host left entries depth = .ok fields ↔
      Payload.entriesCalls host entries depth ≤ left ∧ Payload.LegibleEntries entries depth ∧
        fields = redactedEntries entries depth
  | [], depth, fields => by
      simp [redactEntries, Payload.entriesCalls, Payload.LegibleEntries, redactedEntries, eq_comm]
  | (key, value) :: rest, depth, fields => by
      simp only [redactEntries, bind_eq_ok_iff, enter_eq_ok_iff, textOf_eq_ok_iff,
        Payload.entriesCalls, Payload.LegibleEntries, redactedEntries]
      -- Which way a value is shown depends on the text of its key.
      cases hsecret : secret? key.shown value with
      | some token =>
          dsimp only
          constructor
          · rintro ⟨name, ⟨hname, hspell, rfl⟩, field, ⟨hfield, rfl⟩, hshown⟩
            rw [hsecret] at hshown
            simp only [bind_eq_ok_iff, tokenMark_eq_ok_iff, redactEntries_eq_ok_iff left rest,
              pure_eq_ok_iff] at hshown
            obtain ⟨shown, ⟨hmark, htoken, rfl⟩, others, ⟨hrest, hlegible, rfl⟩, rfl⟩ := hshown
            exact ⟨by omega, ⟨⟨hspell, htoken⟩, hlegible⟩, rfl⟩
          · rintro ⟨hcalls, ⟨⟨hspell, htoken⟩, hlegible⟩, rfl⟩
            refine ⟨_, ⟨by omega, hspell, rfl⟩, _, ⟨by omega, rfl⟩, ?_⟩
            rw [hsecret]
            simp only [bind_eq_ok_iff, tokenMark_eq_ok_iff, redactEntries_eq_ok_iff left rest,
              pure_eq_ok_iff]
            exact ⟨_, ⟨by omega, htoken, rfl⟩, _, ⟨by omega, hlegible, rfl⟩, rfl⟩
      | none =>
          dsimp only
          constructor
          · rintro ⟨name, ⟨hname, hspell, rfl⟩, field, ⟨hfield, rfl⟩, hshown⟩
            rw [hsecret] at hshown
            simp only [bind_eq_ok_iff, enter_eq_ok_iff, redact_eq_ok_iff _ value,
              redactEntries_eq_ok_iff left rest, pure_eq_ok_iff] at hshown
            obtain ⟨inside, ⟨hinside, rfl⟩, shown, ⟨hvalue, hshown, rfl⟩, others,
              ⟨hrest, hlegible, rfl⟩, rfl⟩ := hshown
            exact ⟨by omega, ⟨⟨hspell, hshown⟩, hlegible⟩, rfl⟩
          · rintro ⟨hcalls, ⟨⟨hspell, hshown⟩, hlegible⟩, rfl⟩
            refine ⟨_, ⟨by omega, hspell, rfl⟩, _, ⟨by omega, rfl⟩, ?_⟩
            rw [hsecret]
            simp only [bind_eq_ok_iff, enter_eq_ok_iff, redact_eq_ok_iff _ value,
              redactEntries_eq_ok_iff left rest, pure_eq_ok_iff]
            exact ⟨_, ⟨by omega, rfl⟩, _, ⟨by omega, hshown, rfl⟩, _,
              ⟨by omega, hlegible, rfl⟩, rfl⟩

end

/-! ## How many calls it takes -/

/-- The calls that following any payload to a depth takes, beside those for the texts of keys. -/
def Host.depthCalls (host : Host) (depth : Nat) : Nat :=
  host.telling + depth * (host.building + 2) + host.digesting

theorem Host.depthCalls_succ (host : Host) (depth : Nat) :
    host.depthCalls (depth + 1) = host.depthCalls depth + (host.building + 2) := by
  rw [depthCalls, depthCalls, Nat.succ_mul]
  omega

theorem Host.telling_le_depthCalls (host : Host) (depth : Nat) :
    host.telling + host.digesting ≤ host.depthCalls depth := by
  rw [depthCalls]
  omega

namespace Payload

mutual

/-- How many calls the text of that key in a payload takes which takes most. -/
def keyCalls (host : Host) : Payload → Nat
  | items _ values => itemsKeyCalls host values
  | mapping entries => entriesKeyCalls host entries
  | request _ metadata => keyCalls host metadata
  | _ => 0

/-- The same for the keys in some items. -/
def itemsKeyCalls (host : Host) : List Payload → Nat
  | [] => 0
  | value :: rest => max (keyCalls host value) (itemsKeyCalls host rest)

/-- The same for the keys of some entries and those in their values. -/
def entriesKeyCalls (host : Host) : List (Payload × Payload) → Nat
  | [] => 0
  | (key, value) :: rest =>
    max (max (key.textCalls host) (keyCalls host value)) (entriesKeyCalls host rest)

end

mutual

/-- However deep a payload is nested, only the depth and the keys count. -/
theorem calls_le : ∀ (payload : Payload) (depth : Nat),
    payload.calls host depth ≤ host.depthCalls depth + payload.keyCalls host
  | payload, 0 => by cases payload <;> exact Nat.zero_le _
  | .items _ values, depth + 1 => by
      have hitems := itemsCalls_le values depth
      have htelling := host.telling_le_depthCalls depth
      simp only [calls, keyCalls, Host.depthCalls_succ]
      omega
  | .mapping entries, depth + 1 => by
      have hentries := entriesCalls_le entries depth
      have htelling := host.telling_le_depthCalls depth
      simp only [calls, keyCalls, Host.depthCalls_succ]
      omega
  | .token _, depth + 1 => by
      have htelling := host.telling_le_depthCalls depth
      simp only [calls, keyCalls, Host.depthCalls_succ]
      omega
  | .request _ metadata, depth + 1 => by
      have hmetadata := calls_le metadata depth
      have htelling := host.telling_le_depthCalls depth
      simp only [calls, keyCalls, Host.depthCalls_succ]
      omega
  | .duration _, depth + 1 | .fault _, depth + 1 | .recordType _, depth + 1 => by
      have htelling := host.telling_le_depthCalls depth
      simp only [calls, keyCalls, Host.depthCalls_succ]
      omega
  | .none, _ + 1 | .bool _, _ + 1 | .int _, _ + 1 | .float _, _ + 1 | .text _, _ + 1
  | .time _, _ + 1 | .bytes _ _, _ + 1 => Nat.zero_le _

theorem itemsCalls_le : ∀ (values : List Payload) (depth : Nat),
    itemsCalls host values depth ≤ 1 + host.depthCalls depth + itemsKeyCalls host values
  | [], _ => Nat.zero_le _
  | value :: rest, depth => by
      have hvalue := calls_le value depth
      have hrest := itemsCalls_le rest depth
      rw [itemsCalls, itemsKeyCalls]
      omega

theorem entriesCalls_le : ∀ (entries : List (Payload × Payload)) (depth : Nat),
    entriesCalls host entries depth ≤ 2 + host.depthCalls depth + entriesKeyCalls host entries
  | [], _ => Nat.zero_le _
  | (key, value) :: rest, depth => by
      have hvalue := calls_le value depth
      have hrest := entriesCalls_le rest depth
      have htelling := host.telling_le_depthCalls depth
      rw [entriesCalls, entriesKeyCalls]
      cases secret? key.shown value <;> dsimp only <;> omega

end

end Payload

/-! ## A host to run on -/

/-- A host with a thousand calls to spare. -/
def roomyHost : Host :=
  { room := 1000 }

theorem redactTo_roomyHost {payload : Payload} {depth : Nat}
    (hcalls : payload.calls roomyHost depth ≤ 1000) (hlegible : payload.Legible depth) :
    redactTo roomyHost depth payload = .ok (redacted payload depth) :=
  (redact_eq_ok_iff 1000 payload depth _).mpr ⟨hcalls, hlegible, rfl⟩

end Log

end ScanAccess
