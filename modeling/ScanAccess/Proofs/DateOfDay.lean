import Mathlib.Algebra.Ring.Nat
import ScanAccess.Proofs.DayCount

/-! # Dates of day numbers

The date that is found for a day number is valid and has that number, so the days before and after
1970-01-01 and the dates of the calendar go with each other one to one. The year is counted off
in cycles, centuries and groups of four, which is the closed form of the days before a year read
backwards; the month is counted off along the lengths of the months.
-/

namespace ScanAccess.CalendarDate

/-- A day of a year falls into one of the months, and together with the months passed over it is
that day of the year. -/
theorem splitMonths_spec (lengths : List Nat) {day : Nat} (h : day < lengths.sum) :
    ∃ length, lengths[(splitMonths lengths day).1]? = some length ∧
      (splitMonths lengths day).2 < length ∧
      (lengths.take (splitMonths lengths day).1).sum + (splitMonths lengths day).2 = day := by
  induction lengths generalizing day with
  | nil => exact absurd h (Nat.not_lt_zero day)
  | cons length rest ih =>
      rw [splitMonths]
      split
      next hwithin => exact ⟨length, rfl, hwithin, Nat.zero_add day⟩
      next hover =>
        rw [List.sum_cons] at h
        have hrest : day - length < rest.sum := by omega
        obtain ⟨found, hfound, hday, hsum⟩ := ih hrest
        refine ⟨found, hfound, hday, ?_⟩
        dsimp only
        rw [List.take_succ_cons, List.sum_cons]
        omega

theorem daysBeforeMonth_eq_sum (leap : Bool) (month : Nat) :
    daysBeforeMonth leap (month + 1) = ((monthLengths leap).take month).sum :=
  List.sum_eq_foldl.symm

theorem yearLength_eq_sum (year : Int) : yearLength year = (monthLengths (isLeap year)).sum := by
  rw [yearLength, daysBeforeMonth_eq_sum]
  rfl

/-! ## Years -/

variable {cycles : Int} {centuries groups years : Nat}

/-- The days before a year that is counted off in cycles, centuries, groups and single years. -/
theorem daysBeforeYear_counted (hcenturies : centuries ≤ 3) (hgroups : groups ≤ 24)
    (hyears : years ≤ 3) :
    daysBeforeYear (400 * cycles + (100 * centuries + 4 * groups + years : Nat) + 1) =
      146097 * cycles + (36524 * centuries + 1461 * groups + 365 * years : Nat) := by
  simp only [daysBeforeYear]
  omega

/-- The last year of a group is a leap year, unless the group is the last one of a century that is
not the last one of its cycle. -/
theorem isLeap_counted (hcenturies : centuries ≤ 3) (hgroups : groups ≤ 24) (hyears : years ≤ 3) :
    isLeap (400 * cycles + (100 * centuries + 4 * groups + years : Nat) + 1) = true ↔
      years = 3 ∧ (groups = 24 → centuries = 3) := by
  simp only [isLeap, Bool.and_eq_true, Bool.or_eq_true, beq_iff_eq, bne_iff_ne]
  omega

/-- The date of a day number has the year in which the day lies, and its month and day are those of
the day of that year. -/
theorem ofDays_eq (days : Int) : ∃ (year : Int) (day : Nat),
    daysBeforeYear year + day = days + epochDays ∧ day < yearLength year ∧
      ofDays days = ⟨year, (splitMonths (monthLengths (isLeap year)) day).1 + 1,
        (splitMonths (monthLengths (isLeap year)) day).2 + 1⟩ := by
  refine ⟨_, _, ?_, ?_, rfl⟩
  · rw [daysBeforeYear_counted (by omega) (by omega) (by omega)]
    omega
  · rw [yearLength_eq]
    -- a day left over in the last year of a group is the last one of a leap year
    split
    next => omega
    next hcommon =>
      rw [isLeap_counted (by omega) (by omega) (by omega)] at hcommon
      omega

/-! ## Dates -/

theorem isValid_ofDays (days : Int) : (ofDays days).isValid = true := by
  obtain ⟨year, day, -, hday, hdate⟩ := ofDays_eq days
  rw [yearLength_eq_sum] at hday
  obtain ⟨length, hlength, hwithin, -⟩ := splitMonths_spec _ hday
  rw [hdate, isValid, Nat.add_sub_cancel, hlength]
  simpa [Nat.succ_le_iff] using hwithin

@[simp] theorem toDays_ofDays (days : Int) : (ofDays days).toDays = days := by
  obtain ⟨year, day, hyear, hday, hdate⟩ := ofDays_eq days
  rw [yearLength_eq_sum] at hday
  obtain ⟨length, -, -, hsum⟩ := splitMonths_spec _ hday
  rw [hdate, toDays, daysBeforeMonth_eq_sum]
  dsimp only
  omega

/-- The days from the start of 1970 to the end of 9999 have years of four digits. -/
theorem year_ofDays_mem {days : Int} (h : 0 ≤ days ∧ days < 2932897) :
    1970 ≤ (ofDays days).year ∧ (ofDays days).year ≤ 9999 := by
  have hvalid := isValid_ofDays days
  have hfirst : isValid ⟨1970, 1, 1⟩ = true ∧ toDays ⟨1970, 1, 1⟩ = 0 := by decide
  have hlast : isValid ⟨9999, 12, 31⟩ = true ∧ toDays ⟨9999, 12, 31⟩ = 2932896 := by decide
  constructor
  · by_contra hearlier
    have hlt := toDays_lt_of_year_lt hvalid hfirst.1 (Int.not_le.mp hearlier)
    rw [toDays_ofDays, hfirst.2] at hlt
    omega
  · by_contra hlater
    have hlt := toDays_lt_of_year_lt hlast.1 hvalid (Int.not_le.mp hlater)
    rw [toDays_ofDays, hlast.2] at hlt
    omega

end ScanAccess.CalendarDate
