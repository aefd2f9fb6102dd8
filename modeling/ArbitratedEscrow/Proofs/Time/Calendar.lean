import ArbitratedEscrow.Time.Calendar
import Mathlib.Tactic.IntervalCases

/-!
# Days and dates

The date of a day is on the calendar, and to count its days gives the day back.
Both hold for all days, however many years away. Years are counted from March
here: their days run from 0 to 364, and in a leap year, which is the one whose
last day is February 29 of the next year, to 365.
-/

namespace ArbitratedEscrow.Date

def daysBefore (yearOfEra : Int) : Int := yearOfEra * 365 + yearOfEra / 4 - yearOfEra / 100

/-- The date of a day of a year that is counted from March. -/
def ofDayOfYear (year dayOfYear : Int) : Date :=
  let monthOfYear := (5 * dayOfYear + 2) / 153
  let day := dayOfYear - (153 * monthOfYear + 2) / 5 + 1
  if monthOfYear < 10 then ⟨year, (monthOfYear + 3).toNat, day.toNat⟩
  else ⟨year + 1, (monthOfYear - 9).toNat, day.toNat⟩

/-! ### Years of an era -/

section YearOfEra

variable {day year : Int}

/-- The year of a day before the last one of an era; if it has 366 days, a leap year follows. -/
theorem within_year (start : 0 ≤ day) (before_last : day < 146096)
    (falls : year = (day - day / 1460 + day / 36524) / 365) :
    (0 ≤ year ∧ year < 400) ∧ daysBefore year ≤ day ∧ day ≤ daysBefore year + 365 ∧
      (day = daysBefore year + 365 → (year + 1) % 4 = 0 ∧ (year + 1) % 100 ≠ 0) := by
  obtain ⟨fourths, fourths_eq⟩ : ∃ q, q = day / 1460 := ⟨_, rfl⟩
  obtain ⟨century, century_eq⟩ : ∃ c, c = day / 36524 := ⟨_, rfl⟩
  rw [← fourths_eq, ← century_eq] at falls
  have centuries : century = 0 ∨ century = 1 ∨ century = 2 ∨ century = 3 := by omega
  have same_century : year / 100 = century := by
    rcases centuries with rfl | rfl | rfl | rfl <;> omega
  rw [daysBefore, same_century]
  refine ⟨by omega, by omega, by omega, fun last => ?_⟩
  -- the last day of a leap year comes after a further day of four years' count
  have further : year / 4 < fourths := by omega
  have fourth : year % 4 = 3 := by omega
  have leap : (year + 1) % 4 = 0 := by omega
  exact ⟨leap, by omega⟩

end YearOfEra

theorem isLeap_add_eras (year eras : Int) : isLeap (year + eras * 400) = isLeap year := by
  have fourth : (year + eras * 400) % 4 = year % 4 := by omega
  have century : (year + eras * 400) % 100 = year % 100 := by omega
  have era : (year + eras * 400) % 400 = year % 400 := by omega
  rw [isLeap, isLeap, fourth, century, era]

theorem ofDays_eq_ofDayOfYear {days era day year dayOfYear : Int}
    (shifted : days + 719468 = era * 146097 + day) (start : 0 ≤ day) (ends : day < 146097)
    (falls : year = (day - day / 1460 + day / 36524 - day / 146096) / 365)
    (counted : day = daysBefore year + dayOfYear) (first : 0 ≤ dayOfYear)
    (last : dayOfYear ≤ 365) :
    ofDays days = ofDayOfYear (year + era * 400) dayOfYear := by
  have same_era : (days + 719468) / 146097 = era := by omega
  have same_day : (days + 719468) % 146097 = day := by omega
  have same_dayOfYear : day - (365 * year + year / 4 - year / 100) = dayOfYear := by
    rw [daysBefore] at counted
    omega
  simp only [ofDays, ofDayOfYear, same_era, same_day, ← falls, same_dayOfYear]
  by_cases early : (5 * dayOfYear + 2) / 153 < 10
  · have late : ¬ (5 * dayOfYear + 2) / 153 + 3 ≤ 2 := by omega
    simp only [if_pos early, if_neg late]
  · have next : (5 * dayOfYear + 2) / 153 - 9 ≤ 2 := by omega
    simp only [if_neg early, if_pos next, Int.add_right_comm]

/-- Each day falls into a year, which has 366 days only before a February 29. -/
theorem ofDays_eq (days : Int) :
    ∃ year dayOfYear : Int, ofDays days = ofDayOfYear year dayOfYear ∧ 0 ≤ dayOfYear ∧
      dayOfYear ≤ 365 ∧ (dayOfYear = 365 → isLeap (year + 1) = true) ∧
      days = year / 400 * 146097 + daysBefore (year % 400) + dayOfYear - 719468 := by
  obtain ⟨era, day, shifted, start, ends⟩ : ∃ era day : Int,
      days + 719468 = era * 146097 + day ∧ 0 ≤ day ∧ day < 146097 :=
    ⟨(days + 719468) / 146097, (days + 719468) % 146097, by omega, by omega, by omega⟩
  obtain ⟨year, falls⟩ : ∃ y, y = (day - day / 1460 + day / 36524 - day / 146096) / 365 := ⟨_, rfl⟩
  have within : (0 ≤ year ∧ year < 400) ∧ daysBefore year ≤ day ∧ day ≤ daysBefore year + 365 ∧
      (day = daysBefore year + 365 → isLeap (year + 1) = true) := by
    by_cases last : day = 146096
    · subst last
      obtain rfl : year = 399 := falls
      decide
    · obtain ⟨years, from_start, to_end, leap⟩ := within_year start (by omega : day < 146096)
        (by omega : year = (day - day / 1460 + day / 36524) / 365)
      refine ⟨years, from_start, to_end, fun longest => ?_⟩
      simp [isLeap, leap longest]
  obtain ⟨years, from_start, to_end, leap⟩ := within
  have same_era : (year + era * 400) / 400 = era := by omega
  have same_year : (year + era * 400) % 400 = year := by omega
  refine ⟨year + era * 400, day - daysBefore year, ?_, by omega, by omega, fun longest => ?_, ?_⟩
  · exact ofDays_eq_ofDayOfYear shifted start ends falls (by omega) (by omega) (by omega)
  · rw [Int.add_right_comm, isLeap_add_eras]
    exact leap (by omega)
  · rw [same_era, same_year]
    omega

/-! ### Days of a year -/

variable {year dayOfYear : Int}

/-- The month and the day of a month, with months counted from March. -/
theorem ofDayOfYear_eq (year : Int) (start : 0 ≤ dayOfYear) (last : dayOfYear ≤ 365) :
    ∃ month day : Nat, month ≤ 11 ∧ 1 ≤ day ∧ dayOfYear + 1 = (153 * month + 2) / 5 + day ∧
      5 * dayOfYear + 2 < 153 * (month + 1) ∧
      ofDayOfYear year dayOfYear =
        if month < 10 then ⟨year, month + 3, day⟩ else ⟨year + 1, month - 9, day⟩ := by
  obtain ⟨month, month_eq⟩ : ∃ m : Nat, (m : Int) = (5 * dayOfYear + 2) / 153 :=
    ⟨((5 * dayOfYear + 2) / 153).toNat, by omega⟩
  obtain ⟨day, day_eq⟩ : ∃ d : Nat, (d : Int) = dayOfYear - (153 * month + 2) / 5 + 1 :=
    ⟨(dayOfYear - (153 * month + 2) / 5 + 1).toNat, by omega⟩
  refine ⟨month, day, by omega, by omega, by omega, by omega, ?_⟩
  simp only [ofDayOfYear, ← month_eq, ← day_eq]
  by_cases early : month < 10
  · rw [if_pos early, if_pos (by omega)]
    rfl
  · have months : ((month : Int) - 9).toNat = month - 9 := by omega
    rw [if_neg early, if_neg (by omega), months]
    rfl

theorem toDays_ofDayOfYear (start : 0 ≤ dayOfYear) (last : dayOfYear ≤ 365) :
    (ofDayOfYear year dayOfYear).toDays =
      year / 400 * 146097 + daysBefore (year % 400) + dayOfYear - 719468 := by
  obtain ⟨month, day, _, _, counted, _, date⟩ := ofDayOfYear_eq year start last
  rw [date]
  split
  · have late : ¬ month + 3 ≤ 2 := by omega
    simp only [toDays, daysBefore, if_neg late]
    omega
  · have early : month - 9 ≤ 2 := by omega
    simp only [toDays, daysBefore, if_pos early]
    omega

/-- From March to January, the days of a month are those up to its end less those before it. -/
theorem daysIn_eq (year : Int) (month : Nat) (before_february : month < 11) :
    (daysIn year (if month < 10 then month + 3 else month - 9) : Int) =
      (153 * (month + 1) + 2) / 5 - (153 * month + 2) / 5 := by
  interval_cases month <;> rfl

theorem valid_ofDayOfYear (start : 0 ≤ dayOfYear) (last : dayOfYear ≤ 365)
    (leap : dayOfYear = 365 → isLeap (year + 1) = true) : (ofDayOfYear year dayOfYear).Valid := by
  obtain ⟨month, day, _, first, counted, ends, date⟩ := ofDayOfYear_eq year start last
  rw [date]
  split
  · rename_i early
    have days := daysIn_eq year month (by omega)
    rw [if_pos early] at days
    simp only [Valid]
    omega
  · rename_i late
    by_cases february : month = 11
    · subst february
      simp only [Valid, daysIn]
      split
      · omega
      · rename_i common
        have shorter : dayOfYear ≠ 365 := fun longest => common (leap longest)
        omega
    · have days := daysIn_eq (year + 1) month (by omega)
      rw [if_neg late] at days
      simp only [Valid]
      omega

theorem daysIn_le (year : Int) (month : Nat) : daysIn year month ≤ 31 := by
  unfold daysIn
  split
  · split <;> decide
  all_goals decide

/-! ### Days -/

theorem valid_ofDays (days : Int) : (ofDays days).Valid := by
  obtain ⟨year, dayOfYear, date, start, last, leap, _⟩ := ofDays_eq days
  rw [date]
  exact valid_ofDayOfYear start last leap

/-- A day is counted as the day whose date it has. -/
theorem toDays_ofDays (days : Int) : (ofDays days).toDays = days := by
  obtain ⟨year, dayOfYear, date, start, last, _, counted⟩ := ofDays_eq days
  rw [date, toDays_ofDayOfYear start last, ← counted]

end ArbitratedEscrow.Date
