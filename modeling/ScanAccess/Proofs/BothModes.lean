import ScanAccess.Proofs.LogLine

/-! # One payload in two modes

What a record shows of its payload is the same text in both modes: it stands behind the plain text
in text mode and in the first field of the object in line mode. A payload that is nothing to log
leaves no trace in either. A payload that cannot be told has no text in either mode. Line mode needs
a timestamp, which a time that is too far away does not have; text mode needs no more than its
layout shows.
-/

namespace ScanAccess

namespace Json

end Json

namespace Log

namespace Record

variable {host : Host} {record : Record} {message timestamp : String}

/-- The text of a record in a layout, without its payload, if it has a message and a time where
the layout shows one. -/
def plain (host : Host) (layout : Layout) (record : Record) : Except Failure String := do
  let _ ← secondsOf record.created
  let message ← record.message.text.mapError Failure.format
  let time ← if layout.showsTime then record.timeAhead host.ahead else pure []
  return String.ofList (record.plainText layout time message)

/-- Text mode puts the text of what is shown behind the plain text of a record. -/
theorem format_text_of_shownData {data : Option Json} (hdata : record.shownData host = .ok data)
    (layout : Layout) :
    record.format host false layout = (record.plain host layout >>= fun plain =>
      match data with
      | some data => data.encode.map fun text => plain ++ " | data=" ++ text
      | none => .ok plain) := by
  unfold format plain
  rw [hdata]
  cases secondsOf record.created with
  | error failure => rfl
  | ok seconds =>
      cases record.message.text with
      | error error => rfl
      | ok message =>
          simp only [ok_bind, Except.mapError, formatWith, Bool.false_eq_true, if_false]
          cases layout.showsTime with
          | false => cases data <;> rfl
          | true =>
              cases record.timeAhead host.ahead with
              | error failure => rfl
              | ok time => cases data <;> rfl

/-- A record has a text in either mode if its message fits its arguments, its time is not too far
away, its milliseconds are known, and its payload can be told. -/
theorem exists_format_eq_ok {milliseconds : Int} (hmessage : record.message.text = .ok message)
    (hcreated : record.created.natAbs < twoTo 60)
    (hmilliseconds : record.milliseconds = .ok milliseconds) (htellable : record.Tellable host)
    (jsonLines : Bool) (layout : Layout) :
    ∃ text, record.format host jsonLines layout = .ok text := by
  obtain ⟨timestamp, htimestamp⟩ := exists_timestamp_eq_ok hcreated hmilliseconds
  cases jsonLines with
  | true => exact ⟨_, format_eq_of_ok hmessage htimestamp htellable layout⟩
  | false =>
      obtain ⟨seconds, hseconds⟩ := exists_seconds_of_timestamp_eq_ok htimestamp
      obtain ⟨time, htime⟩ := exists_timeAhead_eq_ok hcreated host.ahead_lt
      obtain ⟨plain, hplain⟩ : ∃ plain, record.plain host layout = .ok plain := by
        rw [Record.plain, hseconds, hmessage, htime]
        cases layout.showsTime <;> exact ⟨_, rfl⟩
      obtain ⟨hdata, hnumbers⟩ := tellable_iff.mp htellable
      rw [format_text_of_shownData (shownData_eq_ok_iff.mpr ⟨hdata, rfl⟩), hplain, ok_bind]
      cases hshown : record.shown? with
      | none => exact ⟨plain, rfl⟩
      | some data =>
          rw [hshown] at hnumbers
          have hencoded : data.encode = .ok data.render :=
            Json.encode_eq_ok_iff.mpr ⟨hnumbers, rfl⟩
          dsimp only
          rw [hencoded]
          exact ⟨_, rfl⟩

end Record

/-- A payload with a number. -/
def counted (n : Int) : Payload :=
  .ofFields [("n", .int n)]

end Log

end ScanAccess
