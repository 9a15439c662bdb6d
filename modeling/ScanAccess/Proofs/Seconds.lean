import Mathlib.Data.Nat.Log
import ScanAccess.Log.Record

/-! # Times that have a date

A time in microseconds becomes a number of seconds by way of binary64 numbers. Rounding makes
no number much larger than it was, so every time within thirty-six thousand years of 1970 has
a second that 64 bits hold and a date whose year can be shown.
-/

namespace ScanAccess

namespace Binary64

theorem lt_twoTo_log2_succ (n : Nat) : n < twoTo (n.log2 + 1) :=
  Nat.lt_log2_self

theorem twoTo_log2_le {n : Nat} (h : 0 < n) : twoTo n.log2 ≤ n :=
  Nat.log2_self_le (by omega)

theorem twoTo_add (m n : Nat) : twoTo (m + n) = twoTo m * twoTo n :=
  Nat.pow_add 2 m n

theorem twoTo_le_twoTo {m n : Nat} (h : m ≤ n) : twoTo m ≤ twoTo n :=
  Nat.pow_le_pow_right (by omega) h

/-- At a large enough exponent a quotient has a mantissa of 53 bits at most. -/
theorem atScale_lt {num den : Nat} (hden : 0 < den) {exponent : Int}
    (h : (num.log2 : Int) - den.log2 - 52 ≤ exponent) :
    (atScale num den exponent).1 < twoTo 53 * (atScale num den exponent).2 := by
  have hnum := lt_twoTo_log2_succ num
  have hlog := twoTo_log2_le hden
  rw [atScale]
  split
  next hpositive =>
    have hbits : num.log2 + 1 ≤ 53 + (den.log2 + exponent.toNat) := by omega
    calc num < twoTo (num.log2 + 1) := hnum
      _ ≤ twoTo (53 + (den.log2 + exponent.toNat)) := twoTo_le_twoTo hbits
      _ = twoTo 53 * (twoTo den.log2 * twoTo exponent.toNat) := by rw [twoTo_add, twoTo_add]
      _ ≤ twoTo 53 * (den * twoTo exponent.toNat) :=
        Nat.mul_le_mul_left _ (Nat.mul_le_mul_right _ hlog)
  next hnegative =>
    have hbits : num.log2 + 1 + (-exponent).toNat ≤ 53 + den.log2 := by omega
    calc num * twoTo (-exponent).toNat < twoTo (num.log2 + 1) * twoTo (-exponent).toNat :=
          Nat.mul_lt_mul_of_pos_right hnum (twoTo_pos _)
      _ = twoTo (num.log2 + 1 + (-exponent).toNat) := (twoTo_add _ _).symm
      _ ≤ twoTo (53 + den.log2) := twoTo_le_twoTo hbits
      _ = twoTo 53 * twoTo den.log2 := twoTo_add _ _
      _ ≤ twoTo 53 * den := Nat.mul_le_mul_left _ hlog

theorem roundDiv_le {num den bound : Nat} (hden : 0 < den) (h : num < bound * den) :
    roundDiv num den ≤ bound := by
  have hquotient : num / den < bound := (Nat.div_lt_iff_lt_mul hden).mpr h
  simp only [roundDiv]
  split_ifs <;> omega

theorem atScale_pos {num den : Nat} (hden : 0 < den) (exponent : Int) :
    0 < (atScale num den exponent).2 := by
  rw [atScale]
  split
  · exact Nat.mul_pos hden (twoTo_pos _)
  · exact hden

theorem leadingExponent_le (num den : Nat) :
    leadingExponent num den ≤ (num.log2 : Int) - den.log2 - 52 := by
  rw [leadingExponent]
  split <;> omega

theorem atScale_lt_of_leadingExponent_le {num den : Nat} (hden : 0 < den) {exponent : Int}
    (h : leadingExponent num den ≤ exponent) :
    (atScale num den exponent).1 < twoTo 53 * (atScale num den exponent).2 := by
  by_cases hlarge : (num.log2 : Int) - den.log2 - 52 ≤ exponent
  · exact atScale_lt hden hlarge
  · -- The estimate is the exponent itself, and its mantissa has been found to be small enough.
    rw [leadingExponent] at h
    split at h
    next hsmall =>
      have hestimate : exponent = (num.log2 : Int) - den.log2 - 53 := by omega
      rw [← hestimate] at hsmall
      exact (Nat.div_lt_iff_lt_mul (atScale_pos hden exponent)).mp hsmall
    next => omega

/-- A quotient of numbers of moderate size is rounded to a finite number, with not many more bits
than the quotient has. -/
theorem exists_ofRatio_eq_finite {num den : Nat} (hden : 0 < den)
    (h : num.log2 ≤ den.log2 + 1000) (negative : Bool) :
    ∃ mantissa exponent, ofRatio negative num den = .finite negative mantissa exponent ∧
      mantissa ≤ twoTo 53 ∧ exponent ≤ max ((num.log2 : Int) - den.log2 - 51) (-1073) := by
  rw [ofRatio]
  split
  next => exact ⟨0, -1074, rfl, Nat.zero_le _, by omega⟩
  next =>
    have hleading := leadingExponent_le num den
    have hlt := atScale_lt_of_leadingExponent_le hden
      (Int.le_max_left (leadingExponent num den) (-1074))
    have hrounded := roundDiv_le (atScale_pos hden _) hlt
    dsimp only
    rw [if_neg (by split <;> omega)]
    refine ⟨_, _, rfl, ?_, by split <;> omega⟩
    split
    · exact twoTo_le_twoTo (by omega)
    · exact hrounded

/-- The largest integer below a number of so many bits has a bound as well. -/
theorem exists_floor?_eq_some (negative : Bool) {mantissa : Nat} {exponent : Int}
    (hmantissa : mantissa ≤ twoTo 53) (hexponent : exponent ≤ -9) :
    ∃ n, floor? (.finite negative mantissa exponent) = some n ∧
      -(twoTo 44 : Int) ≤ n ∧ n ≤ twoTo 44 := by
  have hwhole : exponent.toNat = 0 := by omega
  have hscale : (twoTo 9 : Int) ≤ twoTo (-exponent).toNat :=
    Int.ofNat_le.mpr (twoTo_le_twoTo (by omega))
  have hbits : (twoTo 53 : Int) = twoTo 44 * twoTo 9 := rfl
  have hbound : (twoTo 53 : Int) ≤ twoTo 44 * twoTo (-exponent).toNat :=
    hbits ▸ Int.mul_le_mul_of_nonneg_left hscale (by decide)
  have hsize : (mantissa : Int) ≤ twoTo 53 := Int.ofNat_le.mpr hmantissa
  have hpositive : (0 : Int) < twoTo (-exponent).toNat := Int.ofNat_lt.mpr (twoTo_pos _)
  have hone : mantissa * twoTo exponent.toNat = mantissa := by
    rw [hwhole]
    exact Nat.mul_one mantissa
  have hnumerator : -(twoTo 53 : Int) ≤ (if negative then -(mantissa : Int) else mantissa) ∧
      (if negative then -(mantissa : Int) else mantissa) ≤ twoTo 53 := by
    split <;> omega
  refine ⟨(if negative then -(mantissa : Int) else mantissa) / twoTo (-exponent).toNat, ?_, ?_, ?_⟩
  · rw [floor?, asFraction?, hone, Option.map_some]
  · refine (Int.le_ediv_iff_mul_le hpositive).mpr ?_
    rw [Int.neg_mul]
    omega
  · refine Int.ediv_le_of_le_mul hpositive ?_
    omega

theorem log2_le_of_lt {n bits : Nat} (h : n < twoTo (bits + 1)) : n.log2 ≤ bits := by
  rcases Nat.eq_zero_or_pos n with rfl | hpos
  · exact Nat.zero_le bits
  · exact Nat.le_of_lt_succ ((Nat.log2_lt hpos.ne').mpr h)

theorem log2_le {n bits : Nat} (h : n ≤ twoTo bits) : n.log2 ≤ bits :=
  log2_le_of_lt (h.trans_lt (Nat.pow_lt_pow_right (by omega) (by omega)))

/-- A million has 20 bits. -/
theorem le_log2_million (scale : Nat) : scale + 19 ≤ (twoTo scale * 1000000).log2 := by
  refine (Nat.le_log2 (Nat.mul_pos (twoTo_pos _) (by omega)).ne').mpr ?_
  exact (twoTo_add _ 19).trans_le (Nat.mul_le_mul_left _ (by decide))

theorem natAbs_signed (negative : Bool) (n : Nat) :
    (if negative then -(n : Int) else n).natAbs = n := by
  split <;> omega

/-- Dividing by a million takes bits off a number. -/
theorem exists_dividedBy?_eq_some (negative : Bool) {mantissa : Nat} {exponent : Int}
    (hmantissa : mantissa ≤ twoTo 53) (hexponent : exponent ≤ 8) :
    ∃ negative' mantissa' exponent',
      dividedBy? (.finite negative mantissa exponent) 1000000 =
        some (.finite negative' mantissa' exponent') ∧
      mantissa' ≤ twoTo 53 ∧ exponent' ≤ -9 := by
  have hsize (numerator : Int) (hnumerator : numerator.natAbs = mantissa * twoTo exponent.toNat) :
      numerator.natAbs.log2 ≤ 53 + exponent.toNat := by
    refine log2_le ?_
    rw [hnumerator, twoTo_add]
    exact Nat.mul_le_mul_right _ hmantissa
  have hden := le_log2_million (-exponent).toNat
  have hpos : 0 < twoTo (-exponent).toNat * 1000000 := Nat.mul_pos (twoTo_pos _) (by omega)
  rw [dividedBy?, asFraction?, Option.map_some]
  have hlog := hsize _ (natAbs_signed negative _)
  obtain ⟨mantissa', exponent', heq, hmantissa', hexponent'⟩ :=
    exists_ofRatio_eq_finite hpos (hlog.trans (by omega)) _
  exact ⟨_, mantissa', exponent', congrArg some heq, hmantissa', by omega⟩

end Binary64

namespace Log

open Binary64

/-- The second of a time that is not too far away, as a number. -/
theorem exists_secondsOf_eq_ok {created : Int} (h : created.natAbs < twoTo 60) :
    ∃ negative mantissa exponent, secondsOf created = .ok (.finite negative mantissa exponent) ∧
      mantissa ≤ twoTo 53 ∧ exponent ≤ -9 := by
  have hlog : created.natAbs.log2 ≤ 59 := log2_le_of_lt h
  have hone : Nat.log2 1 = 0 := by decide
  obtain ⟨mantissa, exponent, hfinite, hmantissa, hexponent⟩ :=
    exists_ofRatio_eq_finite Nat.one_pos (hlog.trans (by omega)) (created < 0)
  obtain ⟨negative', mantissa', exponent', hdivided, hmantissa', hexponent'⟩ :=
    exists_dividedBy?_eq_some (created < 0) hmantissa (hexponent.trans (by omega))
  refine ⟨negative', mantissa', exponent', ?_, hmantissa', hexponent'⟩
  rw [secondsOf, ofInt, hfinite, hdivided]

theorem year_ofDays_bounds {days : Int} (h : -(twoTo 30 : Int) ≤ days ∧ days ≤ twoTo 30) :
    1900 - twoTo 31 ≤ (CalendarDate.ofDays days).year ∧
      (CalendarDate.ofDays days).year < twoTo 31 := by
  have hyear : (CalendarDate.ofDays days).year ≤ 400 * ((days + 719162) / 146097) + 400 ∧
      400 * ((days + 719162) / 146097) ≤ (CalendarDate.ofDays days).year := by
    rw [CalendarDate.ofDays, CalendarDate.epochDays]
    generalize CalendarDate.splitMonths _ _ = month
    obtain ⟨months, day⟩ := month
    dsimp only
    omega
  have hbounds : (twoTo 30 : Int) = 1073741824 ∧ (twoTo 31 : Int) = 2147483648 := ⟨rfl, rfl⟩
  omega

namespace Record

/-- The second of a record is the whole part of its number of seconds, as far as 64 bits go. -/
theorem second_eq_of_floor {record : Record} {seconds : Binary64} {second : Int}
    (hseconds : secondsOf record.created = .ok seconds) (hfloor : seconds.floor? = some second)
    (h : -(twoTo 63 : Int) ≤ second ∧ second < twoTo 63) : record.second = .ok second := by
  rw [Record.second, hseconds]
  simp only [bind, Except.bind, hfloor]
  exact if_pos h

/-- A second within a million years of 1970 has a date. -/
theorem dateOf_eq_ok {second : Int} (h : -(twoTo 45 : Int) ≤ second ∧ second ≤ twoTo 45) :
    dateOf second = .ok (CalendarDate.ofDays (second / 86400)) := by
  have hdays : -(twoTo 30 : Int) ≤ second / 86400 ∧ second / 86400 ≤ twoTo 30 := by
    have hbits : (twoTo 45 : Int) = 35184372088832 ∧ (twoTo 30 : Int) = 1073741824 := ⟨rfl, rfl⟩
    omega
  obtain ⟨hfirst, hlast⟩ := year_ofDays_bounds hdays
  simp only [dateOf]
  rw [if_neg (by omega), if_neg (by omega)]

/-- The time of a record is the date and the time of day of its second, on whatever clock. -/
theorem timeAhead_eq_of_second {record : Record} {ahead : Int → Int} {second : Int}
    (hsecond : record.second = .ok second)
    (h : -(twoTo 45 : Int) ≤ second + ahead second ∧ second + ahead second ≤ twoTo 45) :
    record.timeAhead ahead = .ok ((CalendarDate.ofDays ((second + ahead second) / 86400)).text 1 ++
      'T' :: clockText ((second + ahead second) % 86400).toNat) := by
  rw [Record.timeAhead, hsecond]
  change (dateOf (second + ahead second) >>= fun date => _) = _
  rw [dateOf_eq_ok h]
  rfl

theorem time_eq_of_second {record : Record} {second : Int} (hsecond : record.second = .ok second)
    (h : -(twoTo 45 : Int) ≤ second ∧ second ≤ twoTo 45) :
    record.time = .ok ((CalendarDate.ofDays (second / 86400)).text 1 ++
      'T' :: clockText (second % 86400).toNat) := by
  have hutc : second + 0 = second := Int.add_zero second
  have htime := @timeAhead_eq_of_second record (fun _ => 0) second hsecond (by rwa [hutc])
  rwa [hutc] at htime

/-- A record made within thirty-six thousand years of 1970 has a date and a time on every clock that
is less than a day ahead of UTC or behind it. -/
theorem exists_timeAhead_eq_ok {record : Record} (h : record.created.natAbs < twoTo 60)
    {ahead : Int → Int} (hahead : ∀ second, (ahead second).natAbs < 86400) :
    ∃ time, record.timeAhead ahead = .ok time := by
  obtain ⟨negative, mantissa, exponent, hseconds, hmantissa, hexponent⟩ :=
    exists_secondsOf_eq_ok h
  obtain ⟨second, hfloor, hlower, hupper⟩ := exists_floor?_eq_some negative hmantissa hexponent
  have hbits : (twoTo 44 : Int) < twoTo 63 := by decide
  have hwider : (twoTo 44 : Int) + 86400 ≤ twoTo 45 := by decide
  have hsecond := second_eq_of_floor hseconds hfloor (by omega)
  have hnear := hahead second
  exact ⟨_, timeAhead_eq_of_second hsecond (by omega)⟩

theorem exists_time_eq_ok {record : Record} (h : record.created.natAbs < twoTo 60) :
    ∃ time, record.time = .ok time :=
  exists_timeAhead_eq_ok h fun _ => by decide

end Record

end Log

end ScanAccess
