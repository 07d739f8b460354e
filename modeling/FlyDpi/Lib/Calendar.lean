import Mathlib.Tactic.Ring
import Mathlib.Tactic.NormNum

/-!
# Calendar — days as dates of the Gregorian calendar

`civilFromDays` computes year, month and day of a day counted from 1 January 1970, in the calendar
extended to all years.  Years are counted from March, which puts the leap day at their end, and split
into periods of 400, 100, 4 and 1 years.  `daysFromCivil` is its inverse.
-/

namespace Lib
namespace Calendar

@[ext] structure CivilDate where
  year : Int
  month : Nat
  day : Nat
  deriving DecidableEq, Repr

/-! ## Days of a period of 400 years -/

/-- A day of the period: its year, as 100, 4 and 1 years, and the day of that year. -/
structure YearDay where
  century : Nat
  olympiad : Nat
  year : Nat
  day : Nat

/-- The last century and the last year of their periods have a day more. -/
def yearDay (n : Nat) : YearDay :=
  let century := n / 36524 - n / 36524 / 4
  let n := n - 36524 * century
  let olympiad := n / 1461
  let n := n - 1461 * olympiad
  let year := n / 365 - n / 365 / 4
  { century := century
    olympiad := olympiad
    year := year
    day := n - 365 * year }

structure YearDay.InRange (y : YearDay) : Prop where
  century : y.century < 4
  olympiad : y.olympiad < 25
  year : y.year < 4
  day : y.day < 366

/-- Days from the start of the period. -/
def YearDay.days (y : YearDay) : Nat :=
  36524 * y.century + 1461 * y.olympiad + 365 * y.year + y.day

theorem yearDay_inRange {n : Nat} (h : n < 146097) : (yearDay n).InRange := by
  constructor
  · simp only [yearDay]
    omega
  · simp only [yearDay]
    omega
  · simp only [yearDay]
    omega
  · simp only [yearDay]
    omega

theorem days_yearDay (n : Nat) : (yearDay n).days = n := by
  simp only [yearDay, YearDay.days]
  omega

/-! ## Months of a year from March -/

def monthOfDay (day : Nat) : Nat :=
  (5 * day + 2) / 153

/-- The day on which a month starts. -/
def monthStart (month : Nat) : Nat :=
  (153 * month + 2) / 5

theorem monthOfDay_lt {day : Nat} (h : day < 366) : monthOfDay day < 12 := by
  unfold monthOfDay
  omega

theorem monthStart_le (day : Nat) : monthStart (monthOfDay day) ≤ day := by
  unfold monthStart monthOfDay
  omega

theorem sub_monthStart_lt (day : Nat) : day - monthStart (monthOfDay day) < 31 := by
  unfold monthStart monthOfDay
  omega

/-! ## Dates -/

/-- The date of a day of a period. -/
def ofYearDay (period : Int) (y : YearDay) : CivilDate :=
  let month := monthOfDay y.day
  let year := 400 * period + (100 * y.century + 4 * y.olympiad + y.year : Nat)
  { year := if month < 10 then year else year + 1
    month := if month < 10 then month + 3 else month - 9
    day := y.day - monthStart month + 1 }

def civilFromDays (days : Int) : CivilDate :=
  -- from 1 March of year 0
  let shifted := days + 719468
  ofYearDay (shifted / 146097) (yearDay (shifted % 146097).toNat)

def daysFromCivil (date : CivilDate) : Int :=
  let year := if date.month < 3 then date.year - 1 else date.year
  let month := if date.month < 3 then date.month + 9 else date.month - 3
  146097 * (year / 400) + 365 * (year % 400) + year % 400 / 4 - year % 400 / 100 +
    ((monthStart month + date.day : Nat) : Int) - 719469

/-- The days before a year of a period: of its centuries, olympiads and years. -/
theorem days_before_year (period : Int) {y : YearDay} (h : y.InRange) (year : Int)
    (hyear : year = 400 * period + (100 * y.century + 4 * y.olympiad + y.year : Nat)) :
    146097 * (year / 400) + 365 * (year % 400) + year % 400 / 4 - year % 400 / 100 =
      146097 * period + (y.days : Int) - y.day := by
  rcases h with ⟨hcentury, holympiad, hlast, _⟩
  have hdiv : year / 400 = period := by
    omega
  have hmod : year % 400 = 100 * y.century + 4 * y.olympiad + y.year := by
    omega
  have hleap : (100 * (y.century : Int) + 4 * y.olympiad + y.year) / 4 =
      25 * y.century + y.olympiad := by
    omega
  have hcommon : (100 * (y.century : Int) + 4 * y.olympiad + y.year) / 100 = y.century := by
    omega
  rw [hdiv, hmod, hleap, hcommon, YearDay.days]
  push_cast
  ring

theorem daysFromCivil_ofYearDay (period : Int) {y : YearDay} (h : y.InRange) :
    daysFromCivil (ofYearDay period y) = 146097 * period + (y.days : Int) - 719468 := by
  have hstart := monthStart_le y.day
  have hmonth := monthOfDay_lt h.day
  simp only [daysFromCivil, ofYearDay]
  by_cases hlate : monthOfDay y.day < 10
  · -- March to December
    have hcal : ¬ monthOfDay y.day + 3 < 3 := by
      omega
    simp only [if_pos hlate, if_neg hcal, Nat.add_sub_cancel]
    rw [days_before_year period h _ rfl]
    omega
  · -- January and February are in the next calendar year
    have hcal : monthOfDay y.day - 9 < 3 := by
      omega
    have hback : monthOfDay y.day - 9 + 9 = monthOfDay y.day := by
      omega
    simp only [if_neg hlate, if_pos hcal, hback]
    rw [days_before_year period h _ (Int.add_sub_cancel _ _)]
    omega

theorem daysFromCivil_civilFromDays (days : Int) : daysFromCivil (civilFromDays days) = days := by
  have hn : ((days + 719468) % 146097).toNat < 146097 := by
    omega
  rw [civilFromDays, daysFromCivil_ofYearDay _ (yearDay_inRange hn), days_yearDay]
  omega

theorem civilFromDays_inj {d d' : Int} : civilFromDays d = civilFromDays d' ↔ d = d' := by
  constructor
  · intro h
    rw [← daysFromCivil_civilFromDays d, h, daysFromCivil_civilFromDays]
  · rintro rfl
    rfl

example : civilFromDays 19782 = ⟨2024, 2, 29⟩ := by
  decide

theorem month_civilFromDays_lt (days : Int) : (civilFromDays days).month < 13 := by
  simp only [civilFromDays, ofYearDay]
  have hn : ((days + 719468) % 146097).toNat < 146097 := by
    omega
  have hmonth := monthOfDay_lt (yearDay_inRange hn).day
  split <;> omega

theorem day_civilFromDays_lt (days : Int) : (civilFromDays days).day < 32 := by
  simp only [civilFromDays, ofYearDay]
  have hday := sub_monthStart_lt (yearDay ((days + 719468) % 146097).toNat).day
  omega

end Calendar
end Lib
