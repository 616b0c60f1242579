import Intake.Calendar
import Mathlib.Tactic.IntervalCases

/-!
# Days and dates

The date of a day is a valid one, and numbering it gives the day back. A day of an era of four
hundred years is told by its century, its leap cycle in that, its year in that and its day in the
year (`EraDay`); only the last day of a leap year is the day 365.
-/
namespace Intake.Calendar

theorem ediv_eq_of_bounds {a b q : Int} (positive : 0 < b) (low : q * b ≤ a)
    (high : a < q * b + b) : a / b = q := (Int.ediv_eq_iff_of_pos positive).mpr ⟨low, high⟩

/-- A day of an era. Its years begin in March. -/
structure EraDay where
  century : Int
  cycle : Int
  year : Int
  day : Int
  century_bounds : 0 ≤ century ∧ century ≤ 3
  cycle_bounds : 0 ≤ cycle ∧ cycle ≤ 24
  year_bounds : 0 ≤ year ∧ year ≤ 3
  day_bounds : 0 ≤ day ∧ day ≤ 365
  leap : day = 365 → year = 3 ∧ (cycle = 24 → century = 3)

namespace EraDay

def yearOfEra (e : EraDay) : Int := 100 * e.century + (4 * e.cycle + e.year)

/-- The number of a day in its century. -/
def dayOfCentury (e : EraDay) : Int := 1461 * e.cycle + 365 * e.year + e.day

/-- The number of a day in its era. -/
def dayOfEra (e : EraDay) : Int := 36524 * e.century + e.dayOfCentury

variable (e : EraDay)

theorem yearOfEra_bounds : 0 ≤ e.yearOfEra ∧ e.yearOfEra ≤ 399 := by
  have := e.century_bounds
  have := e.cycle_bounds
  have := e.year_bounds
  simp only [yearOfEra]
  omega

/-- Only the last century is one day longer than the others. -/
theorem dayOfCentury_bounds :
    0 ≤ e.dayOfCentury ∧ e.dayOfCentury ≤ 36524 ∧ (e.dayOfCentury = 36524 → e.century = 3) := by
  have := e.cycle_bounds
  have := e.year_bounds
  have := e.day_bounds
  have := e.leap
  simp only [dayOfCentury]
  omega

theorem century_eq : e.dayOfEra / 36524 - e.dayOfEra / 146096 = e.century := by
  obtain ⟨low, high, full⟩ := e.dayOfCentury_bounds
  have centuries := e.century_bounds
  rw [dayOfEra]
  generalize e.dayOfCentury = r at *
  by_cases last : 36524 * e.century + r = 146096
  · rw [last]
    omega
  · have whole : (36524 * e.century + r) / 36524 = e.century :=
      ediv_eq_of_bounds (by decide) (by omega) (by omega)
    have part : (36524 * e.century + r) / 146096 = 0 :=
      ediv_eq_of_bounds (by decide) (by omega) (by omega)
    rw [whole, part, Int.sub_zero]

/-- The days of whole leap cycles, counted without their leap days, lag behind by at most one. -/
theorem exists_lag : ∃ lag, e.dayOfEra / 1460 = 25 * e.century + e.cycle + lag ∧
    0 ≤ e.day - lag ∧ e.day - lag ≤ 364 := by
  have centuries := e.century_bounds
  have cycles := e.cycle_bounds
  have years := e.year_bounds
  have days := e.day_bounds
  simp only [dayOfEra, dayOfCentury]
  by_cases early : 24 * e.century + e.cycle + 365 * e.year + e.day < 1460
  · have ordinary : e.day ≤ 364 := by
      have := e.leap
      omega
    exact ⟨0, ediv_eq_of_bounds (by decide) (by omega) (by omega), by omega, by omega⟩
  · have positive : 1 ≤ e.day := by omega
    exact ⟨1, ediv_eq_of_bounds (by decide) (by omega) (by omega), by omega, by omega⟩

/-- The year of a day is computed from its number. -/
theorem yearOfEra_eq :
    (e.dayOfEra - e.dayOfEra / 1460 + e.dayOfEra / 36524 - e.dayOfEra / 146096) / 365 =
      e.yearOfEra := by
  obtain ⟨lag, cycles, low, high⟩ := e.exists_lag
  have centuries := e.century_eq
  have number : e.dayOfEra = 36524 * e.century + (1461 * e.cycle + 365 * e.year + e.day) := rfl
  have year : e.yearOfEra = 100 * e.century + (4 * e.cycle + e.year) := rfl
  exact ediv_eq_of_bounds (by decide) (by omega) (by omega)

/-- The number of a day of an era from its year and its day in the year. -/
theorem dayOfEra_eq :
    e.dayOfEra = 365 * e.yearOfEra + e.yearOfEra / 4 - e.yearOfEra / 100 + e.day := by
  have cycles := e.cycle_bounds
  have years := e.year_bounds
  have fourth : e.yearOfEra / 4 = 25 * e.century + e.cycle :=
    ediv_eq_of_bounds (by decide) (by simp only [yearOfEra]; omega) (by simp only [yearOfEra]; omega)
  have hundredth : e.yearOfEra / 100 = e.century :=
    ediv_eq_of_bounds (by decide) (by simp only [yearOfEra]; omega) (by simp only [yearOfEra]; omega)
  rw [fourth, hundredth]
  simp only [dayOfEra, dayOfCentury, yearOfEra]
  omega

end EraDay

theorem exists_eraDay {n : Int} (low : 0 ≤ n) (high : n < 146097) :
    ∃ e : EraDay, e.dayOfEra = n := by
  obtain ⟨c, r, rfl, centuries, r_bounds⟩ : ∃ c r : Int, n = 36524 * c + r ∧ (0 ≤ c ∧ c ≤ 3) ∧
      (0 ≤ r ∧ r ≤ 36524 ∧ (r = 36524 → c = 3)) := by
    by_cases last : n = 146096
    · exact ⟨3, 36524, by omega⟩
    · exact ⟨n / 36524, n % 36524, by omega⟩
  obtain ⟨k, t, rfl, cycles, t_bounds⟩ : ∃ k t : Int, r = 1461 * k + t ∧ (0 ≤ k ∧ k ≤ 24) ∧
      (0 ≤ t ∧ t ≤ 1460) := ⟨r / 1461, r % 1461, by omega⟩
  by_cases last : t = 1460
  · refine ⟨⟨c, k, 3, 365, centuries, cycles, by decide, by decide, by omega⟩, ?_⟩
    simp only [EraDay.dayOfEra, EraDay.dayOfCentury]
    omega
  · refine ⟨⟨c, k, t / 365, t % 365, centuries, cycles, by omega, by omega, by omega⟩, ?_⟩
    simp only [EraDay.dayOfEra, EraDay.dayOfCentury]
    omega

/-! ### The date of a day -/

/-- The month of a day of the year, counted from March. -/
def marchMonth (day : Int) : Int := (5 * day + 2) / 153

theorem marchMonth_bounds {day : Int} (bounds : 0 ≤ day ∧ day ≤ 365) :
    0 ≤ marchMonth day ∧ marchMonth day ≤ 11 := by
  simp only [marchMonth]
  omega

/-- The month of the calendar of a month counted from March. -/
def calendarMonth (month : Int) : Int := if month < 10 then month + 3 else month - 9

/-- The day with a number. -/
theorem exists_era (n : Int) :
    ∃ (era : Int) (e : EraDay), n = era * 146097 + e.dayOfEra - 719468 := by
  obtain ⟨e, number⟩ := exists_eraDay (n := (n + 719468) % 146097)
    (Int.emod_nonneg _ (by decide)) (Int.emod_lt_of_pos _ (by decide))
  exact ⟨(n + 719468) / 146097, e, by omega⟩

theorem EraDay.dayOfEra_bounds (e : EraDay) : 0 ≤ e.dayOfEra ∧ e.dayOfEra < 146097 := by
  have centuries := e.century_bounds
  have days := e.dayOfCentury_bounds
  simp only [dayOfEra]
  omega

/-- The year of the calendar in which a day of an era falls. -/
def EraDay.calendarYear (era : Int) (e : EraDay) : Int :=
  e.yearOfEra + era * 400 + (if calendarMonth (marchMonth e.day) ≤ 2 then 1 else 0)

theorem dateOf_eq (era : Int) (e : EraDay) :
    dateOf (era * 146097 + e.dayOfEra - 719468) =
      { year := e.calendarYear era
        month := (calendarMonth (marchMonth e.day)).toNat
        day := (e.day - (153 * marchMonth e.day + 2) / 5 + 1).toNat } := by
  obtain ⟨low, high⟩ := e.dayOfEra_bounds
  have whole : (era * 146097 + e.dayOfEra - 719468 + 719468) / 146097 = era := by omega
  have part : (era * 146097 + e.dayOfEra - 719468 + 719468) % 146097 = e.dayOfEra := by omega
  have day : e.dayOfEra - (365 * e.yearOfEra + e.yearOfEra / 4 - e.yearOfEra / 100) = e.day := by
    have number := e.dayOfEra_eq
    omega
  simp only [dateOf, whole, part, e.yearOfEra_eq, day]
  rfl

/-- The first day of a month, counted from March, is not after the day. -/
theorem monthStart_bounds (day : Int) :
    (153 * marchMonth day + 2) / 5 ≤ day ∧ day ≤ (153 * marchMonth day + 2) / 5 + 30 := by
  simp only [marchMonth]
  omega

theorem calendarMonth_bounds {month : Int} (bounds : 0 ≤ month ∧ month ≤ 11) :
    1 ≤ calendarMonth month ∧ calendarMonth month ≤ 12 ∧ (calendarMonth month + 9) % 12 = month := by
  obtain ⟨low, high⟩ := bounds
  simp only [calendarMonth]
  split <;> omega

/-- **Numbering**: the date of a day has the number of the day. -/
theorem dayNumber_dateOf (n : Int) : dayNumber (dateOf n) = n := by
  obtain ⟨era, e, rfl⟩ := exists_era n
  obtain ⟨month_low, month_high, month_back⟩ := calendarMonth_bounds (marchMonth_bounds e.day_bounds)
  obtain ⟨start_low, -⟩ := monthStart_bounds e.day
  obtain ⟨year_low, year_high⟩ := e.yearOfEra_bounds
  have number := e.dayOfEra_eq
  rw [dateOf_eq, EraDay.calendarYear]
  generalize calendarMonth (marchMonth e.day) = month at *
  have month_text : (month.toNat : Int) = month := Int.toNat_of_nonneg (by omega)
  have early : month.toNat ≤ 2 ↔ month ≤ 2 := by omega
  have day_text : ((e.day - (153 * marchMonth e.day + 2) / 5 + 1).toNat : Int) =
      e.day - (153 * marchMonth e.day + 2) / 5 + 1 := Int.toNat_of_nonneg (by omega)
  -- The year that began in March
  have year : (if month.toNat ≤ 2 then
      e.yearOfEra + era * 400 + (if month ≤ 2 then 1 else 0) - 1
      else e.yearOfEra + era * 400 + (if month ≤ 2 then 1 else 0)) = e.yearOfEra + era * 400 := by
    by_cases h : month ≤ 2
    · simp [early.mpr h, h]
    · simp [mt early.mp h, h]
  have whole : (e.yearOfEra + era * 400) / 400 = era := by omega
  have part : (e.yearOfEra + era * 400) % 400 = e.yearOfEra := by omega
  simp only [dayNumber, year, whole, part, month_text, month_back, day_text]
  omega

/-- The day 365 of a year that began in March is a leap day. -/
theorem isLeap_of_day (era : Int) (e : EraDay) (last : e.day = 365) :
    isLeap (e.calendarYear era) = true := by
  obtain ⟨year, century⟩ := e.leap last
  have cycles := e.cycle_bounds
  have month : calendarMonth (marchMonth e.day) = 2 := by
    rw [last]
    decide
  have fourth : e.calendarYear era % 4 = 0 := by
    simp only [EraDay.calendarYear, EraDay.yearOfEra, month]
    omega
  have hundredth : e.calendarYear era % 100 = 0 → e.calendarYear era % 400 = 0 := by
    simp only [EraDay.calendarYear, EraDay.yearOfEra, month]
    omega
  simp only [isLeap, fourth]
  by_cases h : e.calendarYear era % 100 = 0
  · simp [hundredth h]
  · simp [h]

/-- The date of a day is a valid one. -/
theorem isValid_dateOf (n : Int) : (dateOf n).isValid = true := by
  obtain ⟨era, e, rfl⟩ := exists_era n
  rw [dateOf_eq]
  by_cases last : e.day = 365
  · have leap := isLeap_of_day era e last
    rw [last]
    simp [Date.isValid, daysInMonth, marchMonth, calendarMonth, leap]
  · obtain ⟨day_low, day_high⟩ := e.day_bounds
    obtain ⟨month_low, month_high⟩ := marchMonth_bounds e.day_bounds
    have shape : marchMonth e.day = (5 * e.day + 2) / 153 := rfl
    generalize marchMonth e.day = month at *
    interval_cases month
    all_goals simp [Date.isValid, daysInMonth, calendarMonth]
    all_goals omega

theorem bounds_of_isValid {d : Date} (valid : d.isValid = true) :
    (1 ≤ d.month ∧ d.month ≤ 12) ∧ (1 ≤ d.day ∧ d.day ≤ 31) := by
  have length : daysInMonth d.year d.month ≤ 31 := by
    simp only [daysInMonth]
    split
    · split <;> decide
    · split <;> decide
  simp only [Date.isValid, Bool.and_eq_true, decide_eq_true_eq] at valid
  omega

/-- January and February come last in a year that began in March. -/
theorem calendarMonth_le_two {day : Int} (bounds : 0 ≤ day ∧ day ≤ 365) :
    calendarMonth (marchMonth day) ≤ 2 ↔ 306 ≤ day := by
  obtain ⟨low, high⟩ := bounds
  have shape : marchMonth day = (5 * day + 2) / 153 := rfl
  rw [calendarMonth]
  by_cases march : marchMonth day < 10
  · rw [if_pos march]
    omega
  · rw [if_neg march]
    omega

/-- The days of the range of dates fall in its years. -/
theorem year_bounds {n : Int} (low : dayNumber ⟨firstYear, 1, 1⟩ ≤ n)
    (high : n < dayNumber ⟨lastYear + 1, 1, 1⟩) :
    firstYear ≤ (dateOf n).year ∧ (dateOf n).year ≤ lastYear := by
  have first : dayNumber ⟨firstYear, 1, 1⟩ = -96465292 := by decide
  have last : dayNumber ⟨lastYear + 1, 1, 1⟩ = 95026237 := by decide
  obtain ⟨era, e, rfl⟩ := exists_era n
  have early := calendarMonth_le_two e.day_bounds
  obtain ⟨day_low, day_high⟩ := e.day_bounds
  obtain ⟨year_low, year_high⟩ := e.yearOfEra_bounds
  have number := e.dayOfEra_eq
  rw [first, number] at low
  rw [last, number] at high
  rw [dateOf_eq]
  simp only [EraDay.calendarYear, early, firstYear, lastYear]
  generalize e.yearOfEra = year at *
  generalize e.day = day at *
  clear number early
  constructor
  · by_cases h : year + era * 400 ≤ -262145
    · omega
    · by_cases h : year + era * 400 = -262144
      · have : era = -656 := by omega
        split <;> omega
      · split <;> omega
  · by_cases h : 262143 ≤ year + era * 400
    · omega
    · split <;> omega

end Intake.Calendar
