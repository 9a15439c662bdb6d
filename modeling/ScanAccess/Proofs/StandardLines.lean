import ScanAccess.Proofs.LogLine
import ScanAccess.Proofs.StandardJson

/-! # Lines in the grammar

A record's line is an object of the JSON grammar exactly if the binary64 numbers that the depth
reaches in its payload are finite: a strict reader refuses the words that stand for the others.
-/

namespace ScanAccess

namespace Log

open Json Grammar

namespace Payload

/-- The binary64 numbers at positions within a depth are finite. -/
def FiniteWithin (payload : Payload) (depth : Nat) : Prop :=
  ∀ (path : List Step) (x : Binary64),
    path.length < depth → payload.at? path = some (.float x) → x.IsFinite

theorem finiteWithin_succ_iff {payload : Payload} {depth : Nat} :
    payload.FiniteWithin (depth + 1) ↔ (∀ x, payload = .float x → x.IsFinite) ∧
      ∀ step part, payload.part? step = some part → part.FiniteWithin depth := by
  constructor
  · refine fun h => ⟨fun x hx => ?_, fun step part hpart path x hlength hat => ?_⟩
    · exact h [] x depth.succ_pos (congrArg some hx)
    · refine h (step :: path) x (Nat.succ_lt_succ hlength) ?_
      rw [at?, Step.follow, hpart]
      exact hat
  · rintro ⟨hfloat, hparts⟩ path x hlength hat
    cases path with
    | nil => exact hfloat x (Option.some_inj.mp hat)
    | cons step path =>
        obtain ⟨part, hpart, hat⟩ := Option.bind_eq_some_iff.mp hat
        exact hparts step part hpart path x (Nat.lt_of_succ_lt_succ hlength) hat

/-- The parts of a payload with names are its entries, of each name the last. -/
theorem part?_eq_some_iff {payload : Payload} {entries : List (RawText × Payload)}
    (h : payload.entries? = some entries) {step : Step} {part : Payload} :
    payload.part? step = some part ↔
      ∃ name, step = .entry name ∧ (name, part) ∈ Dictionary.ofList entries := by
  have hnodup := Dictionary.nodup_keys_ofList entries
  cases step with
  | item index =>
      cases payload with
      | items => cases h
      | _ => simp [part?]
  | entry name =>
      rw [part?, h, Option.bind_some, Dictionary.get?_eq_some_iff hnodup]
      simp

end Payload

theorem allFinite_redactedPart_iff (step : Step) (part : Payload) (depth : Nat) :
    AllFinite (redactedPart step part depth) ↔ AllFinite (redacted part depth) := by
  cases part with
  | text text =>
      rw [redactedPart_text, redacted_text]
      have hshown (shown : RawText) : AllFinite (.string shown) := .string shown
      refine iff_of_true ?_ ?_
      · cases step.isSecret <;> cases depth <;> exact hshown _
      · cases depth <;> exact hshown _
  | _ => cases step <;> rfl

theorem allFinite_object_iff {fields : List (RawText × Json)} :
    AllFinite (.object fields) ↔ ∀ field ∈ fields, AllFinite field.2 :=
  ⟨fun h => by cases h with | object h => exact h, .object⟩

theorem allFinite_array_iff {items : List Json} :
    AllFinite (.array items) ↔ ∀ item ∈ items, AllFinite item :=
  ⟨fun h => by cases h with | array h => exact h, .array⟩

/-- The numbers that are shown of a payload are those within the depth. -/
theorem allFinite_redacted_iff (payload : Payload) (depth : Nat) :
    AllFinite (redacted payload depth) ↔ payload.FiniteWithin depth := by
  induction depth generalizing payload with
  | zero =>
      rw [redacted]
      exact iff_of_true (.string _) fun path x hlength => absurd hlength (Nat.not_lt_zero _)
  | succ depth ih =>
      rw [Payload.finiteWithin_succ_iff]
      cases hentries : payload.entries? with
      | some entries =>
          have hfloat : ∀ x, payload = .float x → x.IsFinite := by
            rintro x rfl
            cases hentries
          rw [redacted_of_entries? hentries, and_iff_right hfloat, allFinite_object_iff,
            Dictionary.ofList_map fun name part => redactedPart (.entry name) part depth,
            List.forall_mem_map]
          -- A text that is hidden behind its fingerprint has no numbers, and neither has its mark.
          simp only [allFinite_redactedPart_iff, ih, Payload.part?_eq_some_iff hentries]
          constructor
          · rintro h step part ⟨name, rfl, hmem⟩
            exact h (name, part) hmem
          · exact fun h entry hmem => h (.entry entry.1) entry.2 ⟨entry.1, rfl, hmem⟩
      | none =>
          cases payload with
          | items shape values =>
              rw [redacted, redactedItems_eq_map, allFinite_array_iff, List.forall_mem_map]
              simp only [ih]
              constructor
              · refine fun h => ⟨nofun, fun step part hpart => ?_⟩
                cases step with
                | item index => exact h part (List.mem_of_getElem? hpart)
                | entry name => cases hpart
              · intro h value hmem
                obtain ⟨index, hindex⟩ := List.getElem?_of_mem hmem
                exact h.2 (.item index) value hindex
          | float x =>
              refine ⟨fun h => ⟨fun y hy => ?_, fun step part hpart => ?_⟩, fun h => ?_⟩
              · cases hy
                cases h with
                | float h => exact h
              · cases step <;> cases hpart
              · exact .float (h.1 x rfl)
          | mapping | token | request => cases hentries
          | _ =>
              refine iff_of_true ?_ ⟨nofun, fun step part hpart => ?_⟩
              · constructor
              · cases step <;> cases hpart

theorem Payload.finiteWithin_of_isEmpty {payload : Payload} (h : payload.isEmpty = true)
    (depth : Nat) : payload.FiniteWithin depth := by
  rw [← allFinite_redacted_iff]
  cases depth with
  | zero =>
      rw [redacted]
      exact .string _
  | succ depth =>
      cases payload with
      | float x =>
          cases x with
          | finite negative mantissa exponent => exact .float (by simp [Binary64.IsFinite])
          | nan | infinite => cases h
      | items shape values =>
          cases List.isEmpty_iff.mp h
          exact .array (List.forall_mem_nil _)
      | mapping entries =>
          cases List.isEmpty_iff.mp h
          exact .object (List.forall_mem_nil _)
      | time | token | request | fault | recordType => cases h
      | _ => constructor

namespace Record

variable {record : Record} {message timestamp : String}

theorem allFinite_string (s : String) : AllFinite (.string s) :=
  .string s

/-- Of a record's object only the payload can have numbers that are not finite. -/
theorem allFinite_toJson_iff :
    AllFinite (record.toJson record.shown? message timestamp) ↔
      ∀ payload ∈ record.data, payload.FiniteWithin maxDepth := by
  have hshown : (∀ data ∈ record.shown?, AllFinite data) ↔
      ∀ payload ∈ record.data, payload.FiniteWithin maxDepth := by
    unfold shown?
    cases record.data with
    | none => simp
    | some payload =>
        cases hempty : payload.isEmpty with
        | true => simpa [hempty] using Payload.finiteWithin_of_isEmpty hempty maxDepth
        | false => simpa [hempty] using allFinite_redacted_iff payload maxDepth
  obtain ⟨fields, hfields, hperm⟩ := record.toJson_perm record.shown? message timestamp
  rw [hfields, allFinite_object_iff, ← hshown,
    ← record.forall_fields_iff record.shown? message timestamp allFinite_string]
  simp only [hperm.mem_iff]

theorem isObject_render_toJson_iff :
    IsObject (record.toJson record.shown? message timestamp).render.toList ↔
      ∀ payload ∈ record.data, payload.FiniteWithin maxDepth := by
  obtain ⟨fields, hfields, -⟩ := record.toJson_perm record.shown? message timestamp
  rw [Json.render, String.toList_ofList, ← allFinite_toJson_iff, hfields, isObject_write_iff]

end Record

/-- A record with a message becomes a line exactly if its time can be shown and its payload can be
told, and the line is an object of the JSON grammar exactly if the binary64 numbers at the positions
that the depth reaches in its payload are finite. -/
theorem lines_are_standard_iff (host : Host) (layout : Layout) (record : Record)
    (message : String) (hmessage : record.message.text = .ok message) :
    ((∃ line, record.format host true layout = .ok line) ↔
      (∃ timestamp, record.timestamp = .ok timestamp) ∧ record.Tellable host) ∧
    ∀ line, record.format host true layout = .ok line →
      (IsObject line.toList ↔
        ∀ payload ∈ record.data, ∀ (path : List Step) (x : Binary64),
          path.length < maxDepth → payload.at? path = some (.float x) → x.IsFinite) := by
  refine ⟨⟨?_, ?_⟩, fun line hline => ?_⟩
  · rintro ⟨line, hline⟩
    obtain ⟨_, timestamp, -, htimestamp, htellable, -⟩ := Record.format_eq_ok_iff.mp hline
    exact ⟨⟨timestamp, htimestamp⟩, htellable⟩
  · rintro ⟨⟨timestamp, htimestamp⟩, htellable⟩
    exact ⟨_, Record.format_eq_of_ok hmessage htimestamp htellable layout⟩
  · obtain ⟨_, timestamp, -, -, -, rfl⟩ := Record.format_eq_ok_iff.mp hline
    exact Record.isObject_render_toJson_iff

/-- A record of a start with a ratio in its payload. -/
def startWithRatio (ratio : Binary64) : Record where
  logger := "huskyci_token"
  level := .info
  message := { template := "scan started" }
  data := some (.ofFields [("ratio", .float ratio)])
  created := 1760702400000000
  milliseconds := .ok 0

theorem message_startWithRatio (ratio : Binary64) :
    (startWithRatio ratio).message.text = .ok "scan started" := by
  have hmessage : Message.text ⟨"scan started", []⟩ = .ok "scan started" := by
    decide +kernel
  exact hmessage

theorem tellable_startWithRatio (ratio : Binary64) :
    (startWithRatio ratio).Tellable roomyHost := by
  rintro payload ⟨⟩ -
  refine ⟨?_, ?_, rfl⟩
  · simp [maxDepth, Payload.ofFields, Payload.calls, Payload.entriesCalls, Payload.textCalls,
      secret?, roomyHost]
  · simp [maxDepth, Payload.ofFields, Payload.Legible, Payload.LegibleEntries, Payload.isText,
      secret?]

/-- A ratio that is not a number stands in its line as a word that the grammar does not have. -/
theorem exists_line_outside_grammar :
    ¬ ∀ (record : Record) (message : String) (layout : Layout) (line : String),
      record.message.text = .ok message → record.format roomyHost true layout = .ok line →
        IsObject line.toList := by
  have htimestamp : (startWithRatio .nan).timestamp = .ok "2025-10-17T12:00:00.000Z" := by
    decide +kernel
  have hmessage := message_startWithRatio .nan
  intro h
  have hobject := h _ _ Layout.plain _ hmessage
    (Record.format_eq_of_ok hmessage htimestamp (tellable_startWithRatio .nan) Layout.plain)
  have hfinite := Record.isObject_render_toJson_iff.mp hobject _ rfl
  exact (hfinite [.entry "ratio"] .nan (by decide) rfl).1 rfl

theorem lines_are_standard_iff_of_ratios :
    (∃ line, (startWithRatio .nan).format roomyHost true Layout.plain = .ok line ∧
      ¬ IsObject line.toList) ∧
    ∃ line, (startWithRatio (.finite false (twoTo 52) (-53))).format roomyHost true Layout.plain =
        .ok line ∧
      IsObject line.toList := by
  have htimestamp : (startWithRatio .nan).timestamp = .ok "2025-10-17T12:00:00.000Z" := by
    decide +kernel
  have hhalf : (startWithRatio (.finite false (twoTo 52) (-53))).timestamp =
      .ok "2025-10-17T12:00:00.000Z" := by
    decide +kernel
  have hfinite : (Binary64.finite false (twoTo 52) (-53)).IsFinite := by
    simp [Binary64.IsFinite]
  constructor
  · obtain ⟨hline, hiff⟩ := lines_are_standard_iff roomyHost Layout.plain _ _
      (message_startWithRatio .nan)
    obtain ⟨line, hline⟩ := hline.mpr ⟨⟨_, htimestamp⟩, tellable_startWithRatio _⟩
    refine ⟨line, hline, fun hobject => ?_⟩
    exact ((hiff line hline).mp hobject _ rfl [.entry "ratio"] .nan (by decide) rfl).1 rfl
  · obtain ⟨hline, hiff⟩ := lines_are_standard_iff roomyHost Layout.plain _ _
      (message_startWithRatio (.finite false (twoTo 52) (-53)))
    obtain ⟨line, hline⟩ := hline.mpr ⟨⟨_, hhalf⟩, tellable_startWithRatio _⟩
    refine ⟨line, hline, (hiff line hline).mpr ?_⟩
    rintro payload ⟨⟩
    refine (allFinite_redacted_iff _ maxDepth).mp (.object ?_)
    exact List.forall_mem_singleton.mpr (.float hfinite)

end Log

end ScanAccess
