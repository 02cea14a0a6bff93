import InstancedAreas.Instant.Calendar
import Mathlib.Tactic.IntervalCases

/-! Days and their dates. Every count of days has a date of the calendar, and that date
is so many days from the start of 1970. A day lies in an era of 400 years, in a year of
that era that begins with March, in a month of that year, and is a day of that month;
each of them is found by a division, and the date puts them together again. -/
namespace InstancedAreas.Date

/-- Where a day lies: the years of the era and the months of the year, which begins
with March, are counted from zero, the days of the month from one. -/
structure Placed (days era year month day : Int) : Prop where
  count : days + 719468 = era * 146097 + (365 * year + year / 4 - year / 100) +
    ((153 * month + 2) / 5 + day - 1)
  inEra : 0 ≤ year ∧ year < 400
  inYear : 0 ≤ month ∧ month < 12
  inMonth : 1 ≤ day ∧ day ≤ 31
  short : month = 1 ∨ month = 3 ∨ month = 6 ∨ month = 8 → day ≤ 30
  february : month = 11 → day ≤ 28 ∨ day = 29 ∧ isLeapYear (year + 1) = true

/-- A day of an era lies in one of its 400 years, from March on. A year has a day more
where the calendar year that it ends in is a leap year. -/
theorem dayOfEra_split {dayOfEra : Int} (begun : 0 ≤ dayOfEra) (ended : dayOfEra < 146097) :
    ∃ year dayOfYear : Int,
      (dayOfEra - dayOfEra / 1460 + dayOfEra / 36524 - dayOfEra / 146096) / 365 = year ∧
      dayOfEra = 365 * year + year / 4 - year / 100 + dayOfYear ∧
      0 ≤ year ∧ year < 400 ∧ 0 ≤ dayOfYear ∧ dayOfYear ≤ 365 ∧
      (dayOfYear = 365 → isLeapYear (year + 1) = true) := by
  simp only [isLeapYear, Bool.or_eq_true, Bool.and_eq_true, beq_iff_eq, bne_iff_ne]
  by_cases last : dayOfEra = 146096
  · exact ⟨399, 365, by omega⟩
  · -- Centuries and spans of four years all have the same length but the last of each kind.
    obtain ⟨century, dayOfCentury, inCentury⟩ : ∃ century day : Int,
        dayOfEra = 36524 * century + day ∧ 0 ≤ century ∧ century < 4 ∧ 0 ≤ day ∧ day < 36524 :=
      ⟨dayOfEra / 36524, dayOfEra % 36524, by omega⟩
    obtain ⟨span, day, inSpan⟩ : ∃ span day : Int,
        dayOfCentury = 1461 * span + day ∧ 0 ≤ span ∧ span < 25 ∧ 0 ≤ day ∧ day < 1461 :=
      ⟨dayOfCentury / 1461, dayOfCentury % 1461, by omega⟩
    obtain ⟨extra, leapDays, lastDays⟩ : ∃ extra : Int,
        dayOfEra / 1460 = 25 * century + span + extra ∧
        (extra = 0 ∧ day < 1460 ∨ extra = 1 ∧ 1364 ≤ day) :=
      ⟨(24 * century + span + day) / 1460, by omega, by omega⟩
    have centuries : dayOfEra / 36524 = century := by omega
    have eras : dayOfEra / 146096 = 0 := by omega
    obtain ⟨year, years, inYear⟩ : ∃ year : Int,
        (dayOfEra - (25 * century + span + extra) + century - 0) / 365 =
          100 * century + 4 * span + year ∧
        0 ≤ year ∧ year < 4 ∧ 365 * year ≤ day ∧
        (day < 365 * year + 365 ∨ year = 3 ∧ day = 1460) :=
      ⟨(day - extra) / 365, by omega, by omega⟩
    have fourths : (100 * century + 4 * span + year) / 4 = 25 * century + span := by omega
    have hundredths : (100 * century + 4 * span + year) / 100 = century := by omega
    rw [leapDays, centuries, eras]
    exact ⟨_, day - 365 * year, years, by omega⟩

/-- A day of a year lies in one of its twelve months, from March on. -/
theorem dayOfYear_split {dayOfYear : Int} (begun : 0 ≤ dayOfYear) (ended : dayOfYear ≤ 365) :
    ∃ month day : Int, (5 * dayOfYear + 2) / 153 = month ∧
      dayOfYear - (153 * month + 2) / 5 + 1 = day ∧ (0 ≤ month ∧ month < 12) ∧
      (1 ≤ day ∧ day ≤ 31) ∧ (month = 1 ∨ month = 3 ∨ month = 6 ∨ month = 8 → day ≤ 30) ∧
      (month = 11 → day = dayOfYear - 336) :=
  ⟨_, _, rfl, rfl, by omega⟩

/-- The date of a place: what lies behind December belongs to the next year. -/
def ofMarchYear (year month day : Int) : Date :=
  ⟨if month < 10 then year else year + 1, (if month < 10 then month + 3 else month - 9).toNat,
    day.toNat⟩

/-- Every day has a place, and the date of that place. -/
theorem ofDays_placed (days : Int) : ∃ era year month day : Int,
    Placed days era year month day ∧ ofDays days = ofMarchYear (year + era * 400) month day := by
  obtain ⟨year, dayOfYear, years, whole, inEra, upToEra, begun, ended, leap⟩ :=
    @dayOfEra_split (days + 719468 - (days + 719468) / 146097 * 146097) (by omega) (by omega)
  obtain ⟨month, day, months, dayOfMonth, inYear, inMonth, short, february⟩ :=
    dayOfYear_split begun ended
  refine ⟨(days + 719468) / 146097, year, month, day,
    ⟨by omega, ⟨inEra, upToEra⟩, inYear, inMonth, short, fun last => ?_⟩, ?_⟩
  · by_cases extra : dayOfYear = 365
    · exact .inr ⟨by have := february last; omega, leap extra⟩
    · exact .inl (by have := february last; omega)
  · have rest : days + 719468 - (days + 719468) / 146097 * 146097 -
        (365 * year + year / 4 - year / 100) = dayOfYear := by omega
    simp only [ofDays, years, rest, months, dayOfMonth]
    by_cases early : month < 10
    · have late : ¬ month + 3 ≤ 2 := by omega
      simp only [ofMarchYear, early, late, if_true, if_false]
    · have late : month - 9 ≤ 2 := by omega
      simp only [ofMarchYear, early, late, if_true, if_false]

section Placed

variable {days era year month day : Int} (placed : Placed days era year month day)

include placed

/-- Leap years come again after an era, so the month has the day. -/
theorem Placed.valid : (ofMarchYear (year + era * 400) month day).valid = true := by
  have again : isLeapYear (year + era * 400 + 1) = isLeapYear (year + 1) := by
    have fourths : (year + era * 400 + 1) % 4 = (year + 1) % 4 := by omega
    have hundredths : (year + era * 400 + 1) % 100 = (year + 1) % 100 := by omega
    have eras : (year + era * 400 + 1) % 400 = (year + 1) % 400 := by omega
    rw [isLeapYear, fourths, hundredths, eras, isLeapYear]
  obtain ⟨-, -, ⟨begun, ended⟩, ⟨first, last⟩, short, february⟩ := placed
  rw [← again] at february
  by_cases winter : month = 11
  · subst winter
    rcases february rfl with plain | ⟨rfl, leap⟩
    · have fits : day.toNat ≤ if isLeapYear (year + era * 400 + 1) then 29 else 28 := by
        split <;> omega
      have positive : 1 ≤ day.toNat := by omega
      simp [Date.valid, ofMarchYear, daysInMonth, fits, positive]
    · simp [Date.valid, ofMarchYear, daysInMonth, leap]
  · interval_cases month <;> simp [Date.valid, ofMarchYear, daysInMonth] <;> omega

/-- The date of a place is as many days from the start of 1970 as the place says. -/
theorem Placed.daysSinceEpoch :
    (ofMarchYear (year + era * 400) month day).daysSinceEpoch = days := by
  obtain ⟨count, ⟨inEra, upToEra⟩, ⟨begun, ended⟩, ⟨first, last⟩, -, -⟩ := placed
  have number : (day.toNat : Int) = day := by omega
  by_cases early : month < 10
  · have months : ((month + 3).toNat : Int) = month + 3 := by omega
    have late : ¬ (month + 3).toNat ≤ 2 := by omega
    simp only [Date.daysSinceEpoch, ofMarchYear, early, late, if_true, if_false, number, months]
    omega
  · have months : ((month - 9).toNat : Int) = month - 9 := by omega
    have late : (month - 9).toNat ≤ 2 := by omega
    simp only [Date.daysSinceEpoch, ofMarchYear, early, late, if_true, if_false, number, months]
    omega

/-- The days of the calendar lie in its years. -/
theorem Placed.within (earliest : -96465292 ≤ days) (latest : days ≤ 95026236) :
    firstYear ≤ (ofMarchYear (year + era * 400) month day).year ∧
      (ofMarchYear (year + era * 400) month day).year ≤ lastYear := by
  obtain ⟨count, ⟨inEra, upToEra⟩, ⟨begun, ended⟩, ⟨first, last⟩, -, -⟩ := placed
  have eras : -656 ≤ era ∧ era ≤ 655 := by omega
  simp only [ofMarchYear, firstYear, lastYear]
  by_cases outer : era = -656 ∨ era = 655
  · rcases outer with rfl | rfl <;> split <;> omega
  · split <;> omega

end Placed

/-- The date of every day is one of the calendar. -/
theorem valid_ofDays (days : Int) : (ofDays days).valid = true := by
  obtain ⟨era, year, month, day, placed, date⟩ := ofDays_placed days
  rw [date]
  exact placed.valid

/-- The date of a day is that day. -/
theorem daysSinceEpoch_ofDays (days : Int) : (ofDays days).daysSinceEpoch = days := by
  obtain ⟨era, year, month, day, placed, date⟩ := ofDays_placed days
  rw [date]
  exact placed.daysSinceEpoch

/-- The days of the calendar have their dates in its years. -/
theorem ofDays_within {days : Int} (earliest : -96465292 ≤ days) (latest : days ≤ 95026236) :
    firstYear ≤ (ofDays days).year ∧ (ofDays days).year ≤ lastYear := by
  obtain ⟨era, year, month, day, placed, date⟩ := ofDays_placed days
  rw [date]
  exact placed.within earliest latest

end InstancedAreas.Date
