import ScanAccess.Proofs.LogLine
import ScanAccess.Proofs.UtcTime
import ScanAccess.Proofs.WholeSeconds

/-! # The times of lines

The timestamp in the line of a record is the text of a time in UTC, as far as the seconds since
the start of 1970 fit into 32 bits: the date and the time of day of the record's second, which
rounding has left alone, and its milliseconds. So it has one form and one length, is read back as
the record's time to the millisecond, and lines sorted by their timestamps are in the order of
the records' times.
-/

namespace ScanAccess

open ScanAccess.Text

namespace UtcTime

/-- The text of a time from the year 1000 on is put together from a date whose year is not filled
up, the time of day and the milliseconds. -/
theorem toList_text {time : UtcTime} (h : 1000 ≤ time.date.year) {clock : Nat}
    (hclock : clock = 3600 * time.hour + 60 * time.minute + time.second) :
    time.text.toList = time.date.text 1 ++ 'T' :: clockText clock ++
      '.' :: decimalPadded 3 time.millisecond ++ ['Z'] := by
  have hyear : signedDecimalPadded 1 time.date.year = decimalPadded 4 time.date.year.toNat := by
    have hdigits : tenTo 3 ≤ time.date.year.toNat := (Int.le_toNat (by omega)).mpr h
    have hlength := lt_length_decimal (by omega) hdigits
    rw [signedDecimalPadded_of_nonneg 1 (by omega), decimalPadded_eq_decimal (by omega),
      decimalPadded_eq_decimal hlength]
  obtain ⟨-, hminute, hsecond, -⟩ := time.clock_lt
  have hhours : clock / 3600 = time.hour := by omega
  have hminutes : clock / 60 % 60 = time.minute := by omega
  have hseconds : clock % 60 = time.second := by omega
  rw [text, String.toList_ofList, CalendarDate.text, hyear, clockText, hhours, hminutes, hseconds]
  simp [fields, form, row]

end UtcTime

namespace Log

/-- A record made at a time whose seconds since the start of 1970 fit into 32 bits, with the
milliseconds of that time. -/
structure Record.IsRecent (record : Record) : Prop where
  nonneg : 0 ≤ record.created
  lt : record.created < twoTo 32 * 1000000
  milliseconds : record.milliseconds = .ok (millisecondsOf record.created)

namespace Record

variable {record : Record}

theorem field?_timestamp_toJson (record : Record) (data : Option Json)
    (message timestamp : String) :
    (record.toJson data message timestamp).field? "timestamp" = some (.string timestamp) := by
  simp [toJson, Json.field?, Dictionary.get?]

/-- The timestamp of a record is the text of the time to which its microseconds come. -/
theorem IsRecent.timestamp_eq (h : record.IsRecent) :
    ∃ time : UtcTime, record.timestamp = .ok time.text ∧
      time.milliseconds = record.created / 1000 := by
  have hnonneg := h.nonneg
  have hlt := h.lt
  have hbits : (twoTo 32 : Int) = 4294967296 ∧ (twoTo 45 : Int) = 35184372088832 ∧
      (twoTo 52 : Int) = 4503599627370496 ∧ Duration.perDay = 86400000000 :=
    ⟨rfl, rfl, rfl, rfl⟩
  have hrange : 0 ≤ record.created ∧ record.created < Duration.perDay * 2932897 := by omega
  refine ⟨.ofMicroseconds record.created hrange, ?_, UtcTime.milliseconds_ofMicroseconds hrange⟩
  have hbelow : record.created < twoTo 52 := by omega
  have hsecond := second_eq ⟨hnonneg, hbelow⟩
  have hyear := UtcTime.year_ofMicroseconds_mem hrange
  rw [Record.timestamp, time_eq_of_second hsecond (by omega), h.milliseconds]
  refine congrArg Except.ok ?_
  rw [← String.toList_inj, UtcTime.toList_text (Int.le_trans (by decide) hyear.1)
    (UtcTime.clock_ofMicroseconds hrange), String.toList_ofList,
    signedDecimalPadded_of_nonneg 3 (by rw [millisecondsOf]; omega)]
  rfl

end Record

/-- The timestamps of records whose seconds since the start of 1970 fit into 32 bits. Every such
record has one, which is the one in its line if the record has a message and its payload can be
told. It has 24 characters, digits where the sample has zeros, and read back it is a time in UTC
that comes after the start of 1970 by the whole milliseconds of the record's time. Timestamps are
in the order of the times: a later record has no smaller one, and one that is not larger is of no
later millisecond. -/
theorem timestamps_read_back_and_sort (host : Host) (layout : Layout) :
    (∀ record : Record, record.IsRecent → ∃ timestamp time,
      record.timestamp = .ok timestamp ∧
      (∀ message line, record.message.text = .ok message →
        (record.format host true layout = .ok line ↔ record.Tellable host ∧
          (record.toJson record.shown? message timestamp).render = line) ∧
        (record.toJson record.shown? message timestamp).field? "timestamp" =
          some (.string timestamp)) ∧
      timestamp.length = 24 ∧
      Text.shape timestamp.toList = "0000-00-00T00:00:00.000Z".toList ∧
      UtcTime.ofText? timestamp = some time ∧
      ∀ milliseconds, time.AfterEpoch milliseconds ↔ milliseconds = record.created / 1000) ∧
    ∀ (record later : Record) (timestamp other : String), record.IsRecent → later.IsRecent →
      record.timestamp = .ok timestamp → later.timestamp = .ok other →
      (record.created ≤ later.created → timestamp ≤ other) ∧
      (timestamp ≤ other → record.created / 1000 ≤ later.created / 1000) := by
  constructor
  · intro record hrecent
    obtain ⟨time, htimestamp, hmilliseconds⟩ := hrecent.timestamp_eq
    refine ⟨time.text, time, htimestamp, fun message line hmessage => ⟨?_, ?_⟩, time.length_text,
      time.shape_text, time.ofText?_text, fun milliseconds => ?_⟩
    · exact Record.format_eq_ok_iff_of_ok hmessage htimestamp
    · exact record.field?_timestamp_toJson record.shown? message time.text
    · rw [UtcTime.afterEpoch_iff, hmilliseconds]
  · intro record later timestamp other hrecord hlater htimestamp hother
    obtain ⟨time, htime, hmilliseconds⟩ := hrecord.timestamp_eq
    obtain ⟨time', htime', hmilliseconds'⟩ := hlater.timestamp_eq
    obtain rfl : time.text = timestamp := Except.ok.inj (htime.symm.trans htimestamp)
    obtain rfl : time'.text = other := Except.ok.inj (htime'.symm.trans hother)
    rw [UtcTime.text_le_iff, hmilliseconds, hmilliseconds']
    exact ⟨fun hle => Int.ediv_le_ediv (by decide) hle, id⟩

/-- The last microsecond of the leap day of the year 2000, and the last one whose seconds fit into
32 bits. -/
theorem timestamps_read_back_and_sort_at_the_ends :
    let ofLeapDay := startAt 951868799999999
    let ofEra := startAt 4294967295999999
    ofLeapDay.format roomyHost true Layout.plain = .ok (ofLeapDay.toJson ofLeapDay.shown?
        "scan \"é\" started" "2000-02-29T23:59:59.999Z").render ∧
      (∃ time, UtcTime.ofText? "2000-02-29T23:59:59.999Z" = some time ∧
        time.AfterEpoch 951868799999) ∧
      ofEra.timestamp = .ok "2106-02-07T06:28:15.999Z" ∧
      "2000-02-29T23:59:59.999Z" ≤ "2106-02-07T06:28:15.999Z" := by
  intro ofLeapDay ofEra
  have hrecent : ofLeapDay.IsRecent := ⟨by decide, by decide, rfl⟩
  have hlater : ofEra.IsRecent := ⟨by decide, by decide, rfl⟩
  have htimestamp : ofLeapDay.timestamp = .ok "2000-02-29T23:59:59.999Z" := by decide +kernel
  have hother : ofEra.timestamp = .ok "2106-02-07T06:28:15.999Z" := by decide +kernel
  obtain ⟨hrecord, hsorted⟩ := timestamps_read_back_and_sort roomyHost Layout.plain
  obtain ⟨timestamp, time, hfound, hline, -, -, hread, hafter⟩ := hrecord ofLeapDay hrecent
  obtain rfl : timestamp = "2000-02-29T23:59:59.999Z" :=
    Except.ok.inj (hfound.symm.trans htimestamp)
  have htellable : ofLeapDay.Tellable roomyHost :=
    (loggable_startAt _).tellable_iff.mpr (fits_startAt _)
  exact ⟨(hline _ _ (message_startAt _)).1.mpr ⟨htellable, rfl⟩,
    ⟨time, hread, (hafter _).mpr (by decide)⟩, hother,
    (hsorted _ _ _ _ hrecent hlater htimestamp hother).1 (by decide)⟩

end Log

end ScanAccess
