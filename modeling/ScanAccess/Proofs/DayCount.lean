import Mathlib.Logic.Function.Iterate
import Mathlib.Data.Int.Order.Basic
import Mathlib.Data.Nat.Basic
import ScanAccess.Time.Calendar

/-! # Counting days

The day number of a date is one more than that of the day before, over the ends of months and of
years, and different dates have different day numbers. So the difference of two day numbers is
the number of days between the dates: how often one has to go on to the next day to come from
one to the other.
-/

namespace ScanAccess.CalendarDate

variable {date other : CalendarDate}

/-- The days of a month; there is none that is not one of the twelve. -/
def monthLength (leap : Bool) (month : Nat) : Nat :=
  (monthLengths leap)[month - 1]?.getD 0

/-- The date of the next day. -/
def next (date : CalendarDate) : CalendarDate :=
  if date.day < monthLength (isLeap date.year) date.month then { date with day := date.day + 1 }
  else if date.month < 12 then ⟨date.year, date.month + 1, 1⟩
  else ⟨date.year + 1, 1, 1⟩

/-- A date is valid if its month is one of the twelve and its day is one of the month's. -/
theorem isValid_iff : date.isValid = true ↔ (1 ≤ date.month ∧ date.month ≤ 12) ∧
    1 ≤ date.day ∧ date.day ≤ monthLength (isLeap date.year) date.month := by
  have htwelve : (monthLengths (isLeap date.year)).length = 12 := rfl
  rw [isValid, monthLength]
  cases hlength : (monthLengths (isLeap date.year))[date.month - 1]? with
  | none =>
      have hmonth := List.getElem?_eq_none_iff.mp hlength
      simp
      omega
  | some length =>
      obtain ⟨hmonth, -⟩ := List.getElem?_eq_some_iff.mp hlength
      simp
      omega

/-! ## Months and years -/

theorem monthLength_pos (leap : Bool) {month : Nat} (h : 1 ≤ month ∧ month ≤ 12) :
    0 < monthLength leap month := by
  have hall : ∀ leap, ∀ month < 13, 1 ≤ month → 0 < monthLength leap month := by decide
  exact hall leap month (by omega) h.1

theorem monthLength_le (leap : Bool) (month : Nat) : monthLength leap month ≤ 31 := by
  have hall : ∀ leap, ∀ length ∈ monthLengths leap, length ≤ 31 := by decide
  rw [monthLength]
  cases hlength : (monthLengths leap)[month - 1]? with
  | none => exact Nat.zero_le 31
  | some length => exact hall leap length (List.mem_of_getElem? hlength)

/-- A month has as many days before it as the month before it, and those of that month. -/
theorem daysBeforeMonth_succ (leap : Bool) {month : Nat} (h : 1 ≤ month ∧ month ≤ 12) :
    daysBeforeMonth leap (month + 1) = daysBeforeMonth leap month + monthLength leap month := by
  have hall : ∀ leap, ∀ month < 13, 1 ≤ month →
      daysBeforeMonth leap (month + 1) = daysBeforeMonth leap month + monthLength leap month := by
    decide
  exact hall leap month (by omega) h.1

theorem daysBeforeMonth_le (leap : Bool) {month later : Nat} (h : month ≤ later)
    (hlater : later ≤ 13) : daysBeforeMonth leap month ≤ daysBeforeMonth leap later := by
  have hall : ∀ leap, ∀ later < 14, ∀ month ≤ later,
      daysBeforeMonth leap month ≤ daysBeforeMonth leap later := by
    decide +kernel
  exact hall leap later (by omega) month h

/-- The end of a month is not after the start of a later one. -/
theorem daysBeforeMonth_succ_le (leap : Bool) {month later : Nat} (h : month < later)
    (hlater : later ≤ 13) :
    daysBeforeMonth leap (month + 1) ≤ daysBeforeMonth leap later :=
  daysBeforeMonth_le leap h hlater

theorem daysBeforeMonth_one (leap : Bool) : daysBeforeMonth leap 1 = 0 := by
  cases leap <;> rfl

/-- The days of a year. -/
def yearLength (year : Int) : Nat :=
  daysBeforeMonth (isLeap year) 13

theorem yearLength_eq (year : Int) : yearLength year = if isLeap year then 366 else 365 := by
  rw [yearLength]
  cases isLeap year <;> rfl

/-- A year has as many days before it as the year before it, and those of that year. -/
theorem daysBeforeYear_succ (year : Int) :
    daysBeforeYear (year + 1) = daysBeforeYear year + yearLength year := by
  have hleap : isLeap year = true ↔ year % 4 = 0 ∧ (year % 100 ≠ 0 ∨ year % 400 = 0) := by
    simp [isLeap]
  -- a quotient grows by one exactly where the divisor divides the year
  have hfour : year / 4 = (year - 1) / 4 + if year % 4 = 0 then 1 else 0 := by split <;> omega
  have hhundred : year / 100 = (year - 1) / 100 + if year % 100 = 0 then 1 else 0 := by
    split <;> omega
  have hcycle : year / 400 = (year - 1) / 400 + if year % 400 = 0 then 1 else 0 := by
    split <;> omega
  simp only [yearLength_eq, daysBeforeYear, Int.add_sub_cancel, hleap, hfour, hhundred, hcycle]
  have hcentury : year % 100 = 0 → year % 4 = 0 := by omega
  have hcycles : year % 400 = 0 → year % 100 = 0 := by omega
  by_cases h4 : year % 4 = 0 <;> by_cases h100 : year % 100 = 0 <;>
    by_cases h400 : year % 400 = 0 <;> simp only [h4, h100, h400] at hcentury hcycles ⊢ <;> grind

theorem daysBeforeYear_le {year later : Int} (h : year ≤ later) :
    daysBeforeYear year ≤ daysBeforeYear later := by
  simp only [daysBeforeYear]
  omega

/-! ## Dates -/

/-- The days of a year up to the end of a date lie within its month. -/
theorem dayOfYear_le (h : date.isValid = true) :
    daysBeforeMonth (isLeap date.year) date.month + date.day ≤
      daysBeforeMonth (isLeap date.year) (date.month + 1) := by
  obtain ⟨hmonth, -, hday⟩ := isValid_iff.mp h
  rw [daysBeforeMonth_succ _ hmonth]
  omega

/-- The day number of a date lies within its year. -/
theorem toDays_bounds (h : date.isValid = true) :
    daysBeforeYear date.year ≤ date.toDays + epochDays ∧
      date.toDays + epochDays < daysBeforeYear (date.year + 1) := by
  obtain ⟨hmonth, hday, -⟩ := isValid_iff.mp h
  have hwithin := dayOfYear_le h
  have hlast : _ ≤ daysBeforeMonth _ 13 :=
    daysBeforeMonth_succ_le (isLeap date.year) (Nat.lt_succ_of_le hmonth.2) Nat.le.refl
  rw [daysBeforeYear_succ, yearLength, toDays]
  omega

theorem isValid_next (h : date.isValid = true) : date.next.isValid = true := by
  obtain ⟨hmonth, hday, hlast⟩ := isValid_iff.mp h
  rw [next]
  split
  next hwithin => exact isValid_iff.mpr ⟨hmonth, Nat.succ_pos _, hwithin⟩
  next =>
    split
    next hnext =>
      have hmonth' : 1 ≤ date.month + 1 ∧ date.month + 1 ≤ 12 := ⟨Nat.succ_pos _, hnext⟩
      exact isValid_iff.mpr ⟨hmonth', Nat.le.refl, monthLength_pos _ hmonth'⟩
    next =>
      have hfirst : 1 ≤ 1 ∧ 1 ≤ 12 := by decide
      exact isValid_iff.mpr ⟨hfirst, Nat.le.refl, monthLength_pos _ hfirst⟩

/-- The next day has the next number. -/
theorem toDays_next (h : date.isValid = true) : date.next.toDays = date.toDays + 1 := by
  obtain ⟨hmonth, hday, hlast⟩ := isValid_iff.mp h
  rw [next]
  split
  next =>
    simp only [toDays]
    omega
  next hover =>
    have hsucc := daysBeforeMonth_succ (isLeap date.year) hmonth
    split
    next =>
      simp only [toDays, hsucc]
      omega
    next hdecember =>
      have htwelve : date.month = 12 := by omega
      have hyear := daysBeforeYear_succ date.year
      rw [htwelve] at hsucc hover hlast
      simp only [toDays, daysBeforeMonth_one, htwelve, hyear, yearLength, hsucc]
      omega

theorem isValid_iterate_next (h : date.isValid = true) (days : Nat) :
    (next^[days] date).isValid = true := by
  induction days with
  | zero => exact h
  | succ days ih =>
      rw [Function.iterate_succ_apply']
      exact isValid_next ih

/-- Day numbers count days. -/
theorem toDays_iterate_next (h : date.isValid = true) (days : Nat) :
    (next^[days] date).toDays = date.toDays + days := by
  induction days with
  | zero => simp
  | succ days ih =>
      rw [Function.iterate_succ_apply', toDays_next (isValid_iterate_next h days), ih]
      omega

/-- A date in an earlier year has the smaller day number. -/
theorem toDays_lt_of_year_lt (h : date.isValid = true) (hother : other.isValid = true)
    (hyear : date.year < other.year) : date.toDays < other.toDays := by
  have hend := (toDays_bounds h).2
  have hstart := (toDays_bounds hother).1
  have hle := daysBeforeYear_le (Int.add_one_le_of_lt hyear)
  omega

/-- Within a year, a date in an earlier month has the smaller day number. -/
theorem toDays_lt_of_month_lt (h : date.isValid = true) (hother : other.isValid = true)
    (hyear : date.year = other.year) (hmonth : date.month < other.month) :
    date.toDays < other.toDays := by
  obtain ⟨hmonth', hday', -⟩ := isValid_iff.mp hother
  have hwithin := dayOfYear_le h
  have hle := daysBeforeMonth_succ_le (isLeap other.year) hmonth (by omega)
  rw [hyear] at hwithin
  rw [toDays, toDays, hyear]
  omega

/-- Of two dates the earlier one has the smaller day number: they are compared by the year, then by
the month, then by the day. -/
theorem toDays_lt_iff (h : date.isValid = true) (hother : other.isValid = true) :
    date.toDays < other.toDays ↔ date.year < other.year ∨
      date.year = other.year ∧ (date.month < other.month ∨
        date.month = other.month ∧ date.day < other.day) := by
  rcases lt_trichotomy date.year other.year with hlt | hyear | hlt
  · have hdays := toDays_lt_of_year_lt h hother hlt
    omega
  · rcases lt_trichotomy date.month other.month with hmonth | hmonth | hmonth
    · have hdays := toDays_lt_of_month_lt h hother hyear hmonth
      omega
    · rw [toDays, toDays, hyear, hmonth]
      omega
    · have hdays := toDays_lt_of_month_lt hother h hyear.symm hmonth
      omega
  · have hdays := toDays_lt_of_year_lt hother h hlt
    omega

/-- Two dates with the same day number are the same. -/
theorem toDays_inj (h : date.isValid = true) (hother : other.isValid = true) :
    date.toDays = other.toDays ↔ date = other := by
  constructor
  · intro hdays
    -- neither of the two is earlier than the other
    have hbefore := mt (toDays_lt_iff h hother).mpr (Int.not_lt.mpr (Int.le_of_eq hdays.symm))
    have hafter := mt (toDays_lt_iff hother h).mpr (Int.not_lt.mpr (Int.le_of_eq hdays))
    obtain ⟨year, month, day⟩ := date
    obtain ⟨year', month', day'⟩ := other
    dsimp only at hbefore hafter
    rw [mk.injEq]
    omega
  · rintro rfl
    rfl

/-- From one date to the other it is so many days, counted forwards or backwards one by one. -/
def Apart (date other : CalendarDate) (days : Int) : Prop :=
  (0 ≤ days ∧ next^[days.toNat] date = other) ∨ (days ≤ 0 ∧ next^[(-days).toNat] other = date)

/-- How many days it is between two dates is the difference of their day numbers. -/
theorem apart_iff (h : date.isValid = true) (hother : other.isValid = true) {days : Int} :
    date.Apart other days ↔ days = other.toDays - date.toDays := by
  -- counting from the earlier date, one comes to the later one at the right count only
  have hcount (start stop : CalendarDate) (hstart : start.isValid = true)
      (hstop : stop.isValid = true) (count : Nat) :
      next^[count] start = stop ↔ start.toDays + count = stop.toDays := by
    rw [← toDays_inj (isValid_iterate_next hstart count) hstop, toDays_iterate_next hstart]
  rw [Apart, hcount date other h hother, hcount other date hother h]
  omega

end ScanAccess.CalendarDate
