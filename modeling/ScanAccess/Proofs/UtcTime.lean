import Mathlib.Data.String.Basic
import ScanAccess.Proofs.DateOfDay
import ScanAccess.Proofs.FixedWidth

/-! # Times in UTC

A time in UTC is a date of a year with four digits and a time of day to the millisecond. It is
written in the form `YYYY-MM-DDTHH:MM:SS.mmmZ`, is read back from its text, and lies as many
milliseconds after the start of 1970 as the calendar and the clock count. Texts are in the order
of their times.
-/

namespace ScanAccess

/-- A valid date in a year from 1 to 9999, and a time of day. -/
structure UtcTime where
  date : CalendarDate
  hour : Nat
  minute : Nat
  second : Nat
  millisecond : Nat
  date_valid : date.isValid = true
  year_mem : 1 ≤ date.year ∧ date.year ≤ 9999
  hour_lt : hour < 24
  minute_lt : minute < 60
  second_lt : second < 60
  millisecond_lt : millisecond < 1000

namespace UtcTime

variable {time later : UtcTime}

/-- The widths of the numerals of a time, and the marks behind them. -/
def form : List (Nat × Char) :=
  [(4, '-'), (2, '-'), (2, 'T'), (2, ':'), (2, ':'), (2, '.'), (3, 'Z')]

/-- The numbers of a time in the order in which they are written. -/
def fields (time : UtcTime) : List Nat :=
  [time.date.year.toNat, time.date.month, time.date.day, time.hour, time.minute, time.second,
    time.millisecond]

/-- The text of a time. -/
def text (time : UtcTime) : String :=
  String.ofList (Text.row form time.fields)

/-- The time with given numbers, if there is one. -/
def ofFields? (fields : List Nat) : Option UtcTime :=
  match fields with
  | [year, month, day, hour, minute, second, millisecond] =>
    let date : CalendarDate := ⟨year, month, day⟩
    if h : date.isValid = true ∧ (1 ≤ date.year ∧ date.year ≤ 9999) ∧ hour < 24 ∧ minute < 60 ∧
        second < 60 ∧ millisecond < 1000 then
      some ⟨date, hour, minute, second, millisecond, h.1, h.2.1, h.2.2.1, h.2.2.2.1, h.2.2.2.2.1,
        h.2.2.2.2.2⟩
    else none
  | _ => none

/-- Reads a time that takes up the whole text. -/
def ofText? (text : String) : Option UtcTime := do
  let (fields, rest) ← Text.readRow form text.toList
  if rest.isEmpty then ofFields? fields else none

/-- From the start of 1970 to a time so many milliseconds go by: those of the days, counted one by
one on the calendar, and those that the clock shows. -/
def AfterEpoch (time : UtcTime) (milliseconds : Int) : Prop :=
  ∃ days, CalendarDate.Apart ⟨1970, 1, 1⟩ time.date days ∧
    milliseconds = 86400000 * days + 3600000 * time.hour + 60000 * time.minute
      + 1000 * time.second + time.millisecond

/-- The milliseconds from the start of 1970 to a time. -/
def milliseconds (time : UtcTime) : Int :=
  86400000 * time.date.toDays + 3600000 * time.hour + 60000 * time.minute
    + 1000 * time.second + time.millisecond

theorem afterEpoch_iff {milliseconds : Int} :
    time.AfterEpoch milliseconds ↔ milliseconds = time.milliseconds := by
  have hepoch : CalendarDate.toDays ⟨1970, 1, 1⟩ = 0 := by decide
  have hdays (days : Int) : CalendarDate.Apart ⟨1970, 1, 1⟩ time.date days ↔ _ :=
    CalendarDate.apart_iff (by decide) time.date_valid
  simp only [AfterEpoch, hdays, exists_eq_left, hepoch, Int.sub_zero, UtcTime.milliseconds]

/-! ## Texts -/

theorem clock_lt (time : UtcTime) :
    time.hour < 24 ∧ time.minute < 60 ∧ time.second < 60 ∧ time.millisecond < 1000 :=
  ⟨time.hour_lt, time.minute_lt, time.second_lt, time.millisecond_lt⟩

theorem fits_fields (time : UtcTime) : Text.Fits form time.fields := by
  obtain ⟨hmonth, -, hday⟩ := CalendarDate.isValid_iff.mp time.date_valid
  have hlength := CalendarDate.monthLength_le (CalendarDate.isLeap time.date.year) time.date.month
  have hyear := time.year_mem
  have hclock := time.clock_lt
  have hten : tenTo 2 = 100 ∧ tenTo 3 = 1000 ∧ tenTo 4 = 10000 := ⟨rfl, rfl, rfl⟩
  simp only [Text.Fits, form, fields, List.forall₂_cons, List.forall₂_nil_left_iff, hten,
    and_true]
  omega

theorem ofFields?_fields (time : UtcTime) : ofFields? time.fields = some time := by
  obtain ⟨⟨year, month, day⟩, hour, minute, second, millisecond, hdate, hyear, hhour, hminute,
    hsecond, hmillisecond⟩ := time
  have hnonneg : 0 ≤ year := Int.le_trans (by decide) hyear.1
  have hcast : (year.toNat : Int) = year := Int.toNat_of_nonneg hnonneg
  simp only [fields, ofFields?, hcast]
  exact dif_pos ⟨hdate, hyear, hhour, hminute, hsecond, hmillisecond⟩

/-- A time is read back from its text. -/
theorem ofText?_text (time : UtcTime) : ofText? time.text = some time := by
  have hread := time.fits_fields.readRow_row []
  rw [List.append_nil] at hread
  rw [ofText?, text, String.toList_ofList, hread]
  exact time.ofFields?_fields

/-- The text of a time has digits where a sample has zeros, and else the sample's characters. -/
theorem shape_text (time : UtcTime) :
    Text.shape time.text.toList = "0000-00-00T00:00:00.000Z".toList := by
  rw [text, String.toList_ofList, time.fits_fields.shape_row (by decide)]
  decide

theorem length_text (time : UtcTime) : time.text.length = 24 := by
  have h := congrArg List.length time.shape_text
  rwa [Text.shape, List.length_map] at h

/-! ## Order -/

/-- The numbers of a time, compared one after the other, are in the order of the times. -/
theorem fields_lt_iff : time.fields < later.fields ↔ time.milliseconds < later.milliseconds := by
  have hbefore := CalendarDate.toDays_lt_iff time.date_valid later.date_valid
  have hafter := CalendarDate.toDays_lt_iff later.date_valid time.date_valid
  have hyear := time.year_mem
  have hyear' := later.year_mem
  have hclock := time.clock_lt
  have hclock' := later.clock_lt
  -- a clock shows less than a day, so the dates decide if they differ
  simp only [fields, milliseconds, List.cons_lt_cons_iff, List.not_lt_nil, and_false, or_false]
  omega

/-- Texts are in the order of their times. -/
theorem text_le_iff : time.text ≤ later.text ↔ time.milliseconds ≤ later.milliseconds := by
  rw [← not_lt, String.lt_iff_toList_lt, text, text, String.toList_ofList, String.toList_ofList,
    later.fits_fields.row_lt_iff time.fits_fields, fields_lt_iff, Int.not_lt]

/-! ## Times by their microseconds -/

variable {created : Int}

theorem year_ofMicroseconds_mem (h : 0 ≤ created ∧ created < Duration.perDay * 2932897) :
    1970 ≤ (CalendarDate.ofDays (created / 1000000 / 86400)).year ∧
      (CalendarDate.ofDays (created / 1000000 / 86400)).year ≤ 9999 := by
  rw [Duration.perDay] at h
  exact CalendarDate.year_ofDays_mem (by omega)

/-- The time so many microseconds after the start of 1970, what is less than a millisecond left
out. -/
def ofMicroseconds (created : Int)
    (h : 0 ≤ created ∧ created < Duration.perDay * 2932897) : UtcTime where
  date := CalendarDate.ofDays (created / 1000000 / 86400)
  hour := (created / 1000000 % 86400).toNat / 3600
  minute := (created / 1000000 % 86400).toNat / 60 % 60
  second := (created / 1000000 % 86400).toNat % 60
  millisecond := (created / 1000 % 1000).toNat
  date_valid := CalendarDate.isValid_ofDays _
  year_mem := ⟨Int.le_trans (by decide) (year_ofMicroseconds_mem h).1,
    (year_ofMicroseconds_mem h).2⟩
  hour_lt := by omega
  minute_lt := by omega
  second_lt := by omega
  millisecond_lt := by omega

theorem clock_ofMicroseconds (h : 0 ≤ created ∧ created < Duration.perDay * 2932897) :
    (created / 1000000 % 86400).toNat = 3600 * (ofMicroseconds created h).hour +
      60 * (ofMicroseconds created h).minute + (ofMicroseconds created h).second := by
  simp only [ofMicroseconds]
  omega

theorem milliseconds_ofMicroseconds (h : 0 ≤ created ∧ created < Duration.perDay * 2932897) :
    (ofMicroseconds created h).milliseconds = created / 1000 := by
  simp only [milliseconds, ofMicroseconds, CalendarDate.toDays_ofDays]
  omega

end UtcTime

end ScanAccess
