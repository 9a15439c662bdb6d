import ScanAccess.Log.Format
import ScanAccess.Proofs.Loggable
import ScanAccess.Proofs.Seconds

/-! # Lines of JSON

A record whose message and time can be shown, and whose payload can be, becomes one line of ASCII
that can be printed, and the line read back is the record's object: its logger, message, severity
and timestamp, what is shown of its payload if that is not empty, and the report of its fault if it
announces one. So the line says as much as this object, and the order of entries in the payload is
not in it.
-/

namespace ScanAccess.Log

open ScanAccess.Text

variable {host : Host}

/-! ## What can be told of a payload -/

namespace Payload

/-- A payload can be told on a host: there are calls enough to follow it, all that is reached can be
shown, and no integer in what is shown is too long to be written. -/
structure Tellable (host : Host) (payload : Payload) : Prop where
  calls : payload.calls host maxDepth ≤ host.room
  legible : payload.Legible maxDepth
  numbers : (redacted payload maxDepth).hasLongNumber = false

/-- A payload can be told exactly if it can be redacted and what is shown of it can be written. -/
theorem tellable_iff {payload : Payload} :
    payload.Tellable host ↔
      ∃ data text, redactTo host maxDepth payload = .ok data ∧ data.encode = .ok text := by
  constructor
  · rintro ⟨hcalls, hlegible, hnumbers⟩
    exact ⟨_, _, (redact_eq_ok_iff _ _ _ _).mpr ⟨hcalls, hlegible, rfl⟩,
      Json.encode_eq_ok_iff.mpr ⟨hnumbers, rfl⟩⟩
  · rintro ⟨data, text, hdata, htext⟩
    obtain ⟨hcalls, hlegible, rfl⟩ := (redact_eq_ok_iff _ payload _ _).mp hdata
    exact ⟨hcalls, hlegible, (Json.encode_eq_ok_iff.mp htext).1⟩

/-- A loggable payload can be told if there are calls enough to follow it. -/
theorem Loggable.tellable {payload : Payload} (h : payload.Loggable)
    (hcalls : payload.calls host maxDepth ≤ host.room) : payload.Tellable host :=
  ⟨hcalls, h.legible maxDepth, (h.writable_redacted maxDepth).hasLongNumber_eq_false⟩

end Payload

namespace Record

variable {record other : Record} {message timestamp : String}

/-- What is shown of the payload of a record, unless it is nothing to log. -/
def shown? (record : Record) : Option Json :=
  record.data.bind fun payload =>
    if payload.isEmpty then none else some (redacted payload maxDepth)

/-- A record's payload can be told, or is nothing to log. -/
def Tellable (host : Host) (record : Record) : Prop :=
  ∀ payload ∈ record.data, payload.isEmpty = false → payload.Tellable host

theorem shownData_eq_ok_iff {data : Option Json} :
    record.shownData host = .ok data ↔
      (∀ payload ∈ record.data, payload.isEmpty = false →
        payload.calls host maxDepth ≤ host.room ∧ payload.Legible maxDepth) ∧
      data = record.shown? := by
  rw [shownData, shown?]
  cases record.data with
  | none => exact ⟨fun h => ⟨nofun, (Except.ok.inj h).symm⟩, fun h => congrArg Except.ok h.2.symm⟩
  | some payload =>
      dsimp only
      rw [redactData]
      cases hempty : payload.isEmpty with
      | true => simp [hempty, pure_eq_ok_iff]
      | false =>
          simp [-bind_pure_comp, hempty, bind_eq_ok_iff, pure_eq_ok_iff, redact_eq_ok_iff,
            and_assoc]

theorem hasLongNumber_toJson (record : Record) (data : Option Json) (message timestamp : String) :
    (record.toJson data message timestamp).hasLongNumber =
      data.any Json.hasLongNumber := by
  unfold toJson
  cases data <;> cases record.fault <;> simp [Json.hasLongNumber, Json.anyLongField]

theorem tellable_iff : record.Tellable host ↔
    (∀ payload ∈ record.data, payload.isEmpty = false →
      payload.calls host maxDepth ≤ host.room ∧ payload.Legible maxDepth) ∧
    record.shown?.any Json.hasLongNumber = false := by
  rw [Tellable, shown?]
  cases record.data with
  | none => simp
  | some payload =>
      cases hempty : payload.isEmpty with
      | true => simp [hempty]
      | false =>
          simp only [Option.mem_def, Option.some.injEq, forall_eq', hempty, forall_const,
            Option.bind_some, Bool.false_eq_true, if_false, Option.any_some]
          exact ⟨fun h => ⟨⟨h.calls, h.legible⟩, h.numbers⟩, fun h => ⟨h.1.1, h.1.2, h.2⟩⟩

/-! ## The line of a record -/

/-- A record with a timestamp has a time in seconds. -/
theorem exists_seconds_of_timestamp_eq_ok (h : record.timestamp = .ok timestamp) :
    ∃ seconds, secondsOf record.created = .ok seconds := by
  obtain ⟨time, htime, -⟩ := bind_eq_ok_iff.mp h
  obtain ⟨second, hsecond, -⟩ := bind_eq_ok_iff.mp htime
  obtain ⟨seconds, hseconds, -⟩ := bind_eq_ok_iff.mp hsecond
  exact ⟨seconds, hseconds⟩

/-- A record has a timestamp if its time is not too far away and its milliseconds are known. -/
theorem exists_timestamp_eq_ok (hcreated : record.created.natAbs < twoTo 60) {milliseconds : Int}
    (hmilliseconds : record.milliseconds = .ok milliseconds) :
    ∃ timestamp, record.timestamp = .ok timestamp := by
  obtain ⟨time, htime⟩ := exists_time_eq_ok hcreated
  rw [Record.timestamp, htime, hmilliseconds]
  exact ⟨_, rfl⟩

/-- A record becomes a line if and only if it has a message and a timestamp and its payload can be
told. -/
theorem format_eq_ok_iff {layout : Layout} {line : String} :
    record.format host true layout = .ok line ↔ ∃ message timestamp,
      record.message.text = .ok message ∧ record.timestamp = .ok timestamp ∧
        record.Tellable host ∧ (record.toJson record.shown? message timestamp).render = line := by
  constructor
  · intro h
    obtain ⟨seconds, -, h⟩ := bind_eq_ok_iff.mp h
    obtain ⟨data, hdata, h⟩ := bind_eq_ok_iff.mp h
    obtain ⟨hshown, rfl⟩ := shownData_eq_ok_iff.mp hdata
    cases hmessage : record.message.text with
    | error error =>
        rw [hmessage] at h
        cases h
    | ok message =>
        rw [hmessage] at h
        obtain ⟨timestamp, htimestamp, h⟩ := bind_eq_ok_iff.mp h
        obtain ⟨hnumbers, rfl⟩ := Json.encode_eq_ok_iff.mp h
        rw [hasLongNumber_toJson] at hnumbers
        exact ⟨message, timestamp, rfl, htimestamp, tellable_iff.mpr ⟨hshown, hnumbers⟩, rfl⟩
  · rintro ⟨message, timestamp, hmessage, htimestamp, htellable, rfl⟩
    obtain ⟨hshown, hnumbers⟩ := tellable_iff.mp htellable
    obtain ⟨seconds, hseconds⟩ := exists_seconds_of_timestamp_eq_ok htimestamp
    refine bind_eq_ok_iff.mpr ⟨seconds, hseconds, bind_eq_ok_iff.mpr
      ⟨_, shownData_eq_ok_iff.mpr ⟨hshown, rfl⟩, ?_⟩⟩
    rw [hmessage]
    refine bind_eq_ok_iff.mpr ⟨timestamp, htimestamp, Json.encode_eq_ok_iff.mpr ⟨?_, rfl⟩⟩
    rwa [hasLongNumber_toJson]

theorem format_eq_of_ok (hmessage : record.message.text = .ok message)
    (htimestamp : record.timestamp = .ok timestamp) (htellable : record.Tellable host)
    (layout : Layout) :
    record.format host true layout =
      .ok (record.toJson record.shown? message timestamp).render :=
  format_eq_ok_iff.mpr ⟨message, timestamp, hmessage, htimestamp, htellable, rfl⟩

/-- A record with a message and a timestamp becomes the line of its object, if its payload can be
told. -/
theorem format_eq_ok_iff_of_ok (hmessage : record.message.text = .ok message)
    (htimestamp : record.timestamp = .ok timestamp) {layout : Layout} {line : String} :
    record.format host true layout = .ok line ↔
      record.Tellable host ∧ (record.toJson record.shown? message timestamp).render = line := by
  rw [format_eq_ok_iff]
  constructor
  · rintro ⟨words, time, hwords, htime, hline⟩
    cases hmessage.symm.trans hwords
    cases htimestamp.symm.trans htime
    exact hline
  · exact fun hline => ⟨message, timestamp, hmessage, htimestamp, hline⟩

/-! ## What a record reports -/

/-- What the object of a record has for its payload: the payload redacted, its fields in the order
of their names, or nothing if there is none to log. -/
def reportedData (host : Host) (data : Option Payload) : Option Json :=
  match data with
  | some payload =>
    if payload.isEmpty then none else (redactTo host maxDepth payload).toOption.map Json.sorted
  | none => none

/-- The field for a payload. -/
def dataFields (data : Option Json) : List (RawText × Json) :=
  match data with
  | some data => [("data", data)]
  | none => []

/-- The field for a fault: none if the record announces none. -/
def faultFields (fault : Option String) : List (RawText × Json) :=
  match fault with
  | some report => [("exception", .string (.ofList (dropLineEnds report.toList)))]
  | none => []

/-- The fields that every record has. -/
def commonFields (record : Record) (message timestamp : String) : List (RawText × Json) := [
  ("logger", .string record.logger),
  ("message", .string message),
  ("severity", .string record.level.name),
  ("timestamp", .string timestamp)]

/-- The object that a record's line stands for, its fields in the order of their names. -/
def reported (host : Host) (record : Record) (message timestamp : String) : Json :=
  .object (dataFields (reportedData host record.data) ++ faultFields record.fault ++
    record.commonFields message timestamp)

theorem reportedData_eq (h : record.Tellable host) :
    reportedData host record.data = record.shown?.map Json.sorted := by
  unfold reportedData shown?
  cases hdata : record.data with
  | none => rfl
  | some payload =>
      cases hempty : payload.isEmpty with
      | true => simp [hempty]
      | false =>
          have hredact : redactTo host maxDepth payload = .ok (redacted payload maxDepth) :=
            (redact_eq_ok_iff _ _ _ _).mpr
              ⟨(h payload hdata hempty).calls, (h payload hdata hempty).legible, rfl⟩
          simp [hempty, hredact, Except.toOption]

/-- The fields of an object are the payload's, those that every record has, and the fault's. -/
theorem toJson_perm (record : Record) (data : Option Json) (message timestamp : String) :
    ∃ fields, record.toJson data message timestamp = .object fields ∧
      fields.Perm (dataFields data ++ faultFields record.fault ++
        record.commonFields message timestamp) := by
  unfold toJson
  refine ⟨_, rfl, ?_⟩
  have hhead {message severity logger timestamp : RawText × Json}
      {data fault : List (RawText × Json)} :
      ([message, severity, logger, timestamp] ++ data ++ fault).Perm
        (data ++ fault ++ [logger, message, severity, timestamp]) := by
    rw [List.append_assoc]
    refine List.perm_append_comm.trans (List.Perm.append_left _ ?_)
    -- The logger goes in front of the message and the level.
    exact (List.Perm.cons _ (.swap _ _ _)).trans (.swap _ _ _)
  cases data <;> cases record.fault <;> exact hhead

theorem names_of_fields (record : Record) (data : Option Json) (message timestamp : String) :
    let fields := dataFields data ++ faultFields record.fault ++
      record.commonFields message timestamp
    (fields.Pairwise fun a b => a.1 ≤ b.1) ∧ (fields.map Prod.fst).Nodup ∧
      ∀ field ∈ fields, field.1.isEncodable = true := by
  intro fields
  have hnames (names : List String) (h : fields.map Prod.fst = names.map RawText.ofString)
      (hpairwise : (names.map RawText.ofString).Pairwise fun a b => a ≤ b) (hnodup : names.Nodup) :
      (fields.Pairwise fun a b => a.1 ≤ b.1) ∧ (fields.map Prod.fst).Nodup ∧
        ∀ field ∈ fields, field.1.isEncodable = true := by
    refine ⟨List.pairwise_map.mp (h ▸ hpairwise), h ▸ hnodup.map fun _ _ => RawText.ofString_inj.mp,
      fun field hmem => ?_⟩
    have hname : field.1 ∈ names.map RawText.ofString := h ▸ List.mem_map_of_mem hmem
    obtain ⟨name, -, hname⟩ := List.mem_map.mp hname
    rw [← hname]
    exact RawText.isEncodable_ofString name
  cases hdata : data <;> cases hfault : record.fault
  · exact hnames ["logger", "message", "severity", "timestamp"]
      (by simp [fields, hdata, hfault, dataFields, faultFields, commonFields]) (by decide)
      (by decide)
  · exact hnames ["exception", "logger", "message", "severity", "timestamp"]
      (by simp [fields, hdata, hfault, dataFields, faultFields, commonFields]) (by decide)
      (by decide)
  · exact hnames ["data", "logger", "message", "severity", "timestamp"]
      (by simp [fields, hdata, hfault, dataFields, faultFields, commonFields]) (by decide)
      (by decide)
  · exact hnames ["data", "exception", "logger", "message", "severity", "timestamp"]
      (by simp [fields, hdata, hfault, dataFields, faultFields, commonFields]) (by decide)
      (by decide)

/-- A property of all values in the fields of a record's object. -/
theorem forall_fields_iff {P : Json → Prop} (record : Record) (data : Option Json)
    (message timestamp : String) (hstring : ∀ s : String, P (.string s)) :
    (∀ field ∈ dataFields data ++ faultFields record.fault ++
      record.commonFields message timestamp, P field.2) ↔ ∀ shown ∈ data, P shown := by
  have hcommon : ∀ field ∈ record.commonFields message timestamp, P field.2 := by
    simp [commonFields, hstring]
  have hfault : ∀ field ∈ faultFields record.fault, P field.2 := by
    cases record.fault with
    | none => exact List.forall_mem_nil _
    | some report =>
        have hreport := hstring (String.ofList (dropLineEnds report.toList))
        rw [RawText.ofString, String.toList_ofList] at hreport
        exact List.forall_mem_singleton.mpr hreport
  rw [List.forall_mem_append, List.forall_mem_append, and_iff_left hcommon, and_iff_left hfault]
  cases data <;> simp [dataFields]

/-- A record's object in the order of its names. -/
theorem sorted_toJson_eq (record : Record) (data : Option Json) (message timestamp : String) :
    (record.toJson data message timestamp).sorted =
      .object (dataFields (data.map Json.sorted) ++ faultFields record.fault ++
        record.commonFields message timestamp) := by
  obtain ⟨fields, hfields, hperm⟩ := record.toJson_perm data message timestamp
  obtain ⟨hpairwise, hnodup, -⟩ := record.names_of_fields (data.map Json.sorted) message timestamp
  rw [hfields]
  refine Json.sorted_object_of_perm ((hperm.map _).trans (List.Perm.of_eq ?_)) hpairwise hnodup
  rw [List.map_append, List.map_append]
  cases data <;> cases record.fault <;> rfl

theorem sorted_toJson (h : record.Tellable host) (message timestamp : String) :
    (record.toJson record.shown? message timestamp).sorted =
      record.reported host message timestamp := by
  rw [sorted_toJson_eq, reported, reportedData_eq h]

/-- A record that a line of JSON can carry: its payload is loggable. -/
def Loggable (record : Record) : Prop :=
  ∀ payload ∈ record.data, payload.Loggable

/-- There are calls enough to follow the payload of a record. -/
def Fits (host : Host) (record : Record) : Prop :=
  ∀ payload ∈ record.data, payload.isEmpty = false → payload.calls host maxDepth ≤ host.room

theorem Loggable.tellable_iff (h : record.Loggable) :
    record.Tellable host ↔ record.Fits host :=
  ⟨fun htellable payload hdata hempty => (htellable payload hdata hempty).calls,
    fun hfits payload hdata hempty => (h payload hdata).tellable (hfits payload hdata hempty)⟩

theorem exists_of_shown?_eq_some {data : Json} (h : record.shown? = some data) :
    ∃ payload, record.data = some payload ∧ redacted payload maxDepth = data := by
  obtain ⟨payload, hpayload, hshown⟩ := Option.bind_eq_some_iff.mp h
  split at hshown
  next => cases hshown
  next => exact ⟨payload, hpayload, Option.some_inj.mp hshown⟩

theorem Loggable.writable_toJson (h : record.Loggable) (message timestamp : String) :
    (record.toJson record.shown? message timestamp).Writable := by
  have hdata : ∀ data ∈ record.shown?, data.Writable := by
    intro data hmem
    obtain ⟨payload, hpayload, rfl⟩ := exists_of_shown?_eq_some hmem
    exact (h payload hpayload).writable_redacted maxDepth
  obtain ⟨fields, hfields, hperm⟩ := record.toJson_perm record.shown? message timestamp
  obtain ⟨-, hnodup, hnames⟩ := record.names_of_fields record.shown? message timestamp
  have hvalues := (record.forall_fields_iff record.shown? message timestamp writable_ofString).mpr
    hdata
  rw [hfields]
  exact .object fields ((hperm.map Prod.fst).nodup_iff.mpr hnodup)
    (fun field hmem => hnames field (hperm.mem_iff.mp hmem))
    fun field hmem => hvalues field (hperm.mem_iff.mp hmem)

theorem nesting_toJson_le (record : Record) (message timestamp : String) :
    (record.toJson record.shown? message timestamp).nesting ≤ maxDepth + 1 := by
  have hdata : ∀ data ∈ record.shown?, data.nesting ≤ maxDepth := by
    intro data hmem
    obtain ⟨payload, -, rfl⟩ := exists_of_shown?_eq_some hmem
    exact nesting_redacted_le payload maxDepth
  have hstring (s : String) : (Json.string s).nesting ≤ maxDepth := Nat.zero_le _
  obtain ⟨fields, hfields, hperm⟩ := record.toJson_perm record.shown? message timestamp
  have hvalues := (record.forall_fields_iff record.shown? message timestamp hstring).mpr hdata
  rw [hfields, Json.nesting, Nat.add_le_add_iff_right, Json.fieldsNesting_le_iff]
  exact fun field hmem => hvalues field (hperm.mem_iff.mp hmem)

/-- The line of a record is plain and is read back as the record's object. -/
theorem Loggable.line (h : record.Loggable) (hmessage : record.message.text = .ok message)
    (htimestamp : record.timestamp = .ok timestamp) {layout : Layout} {line : String}
    (hline : record.format host true layout = .ok line) :
    (∀ c ∈ line.toList, IsPlain c) ∧ ∀ depth, maxDepth < depth →
      Json.read depth line = .ok (record.reported host message timestamp) := by
  obtain ⟨found, shown, hfound, hshown, htellable, rfl⟩ := format_eq_ok_iff.mp hline
  obtain rfl : message = found := Except.ok.inj (hmessage.symm.trans hfound)
  obtain rfl : timestamp = shown := Except.ok.inj (htimestamp.symm.trans hshown)
  constructor
  · rw [Json.render, String.toList_ofList]
    exact Json.isPlain_write _
  · intro depth hdepth
    rw [← sorted_toJson htellable]
    exact (h.writable_toJson message timestamp).read_render
      ((record.nesting_toJson_le message timestamp).trans hdepth)

end Record

/-- A record of a start, made at so many microseconds. -/
def startAt (created : Int) : Record where
  logger := "huskyci_token"
  level := .info
  message := { template := "scan %s started", arguments := [.text "\"é\""] }
  data := some (.ofFields [("steps", .items .list [.int 1, .none]), ("dog", .text "🐶")])
  created := created
  milliseconds := .ok (millisecondsOf created)

theorem message_startAt (created : Int) :
    (startAt created).message.text = .ok "scan \"é\" started" := by
  have hmessage : Message.text ⟨"scan %s started", [.text "\"é\""]⟩ = .ok "scan \"é\" started" := by
    decide +kernel
  exact hmessage

theorem loggable_startAt (created : Int) : (startAt created).Loggable := by
  rintro payload ⟨⟩
  have htext (text : String) : (Payload.text text).Loggable :=
    .text text (RawText.isEncodable_ofString text)
  refine .mapping _ ?_ ?_
  · simp only [List.map_cons, List.map_nil, List.forall_mem_cons]
    exact ⟨htext _, htext _, List.forall_mem_nil _⟩
  · simp only [List.map_cons, List.map_nil, List.forall_mem_cons]
    refine ⟨.items _ _ ?_, htext _, List.forall_mem_nil _⟩
    simp only [List.forall_mem_cons]
    exact ⟨.int 1 (by decide), .none, List.forall_mem_nil _⟩

theorem fits_startAt (created : Int) : (startAt created).Fits roomyHost := by
  rintro payload ⟨⟩ -
  decide

end ScanAccess.Log
