import Mathlib.Tactic.IntervalCases
import OrgAccess.Time.Calendar

/-!
# Days and their dates

A day has one date, and the date gives the day back. The date is found by way of a year that is
counted from March: a day lies in one century of its era, in one group of four years of the century
and in one year of the group, and only the last year of a group has a day 365. Of the centuries only
the last ends with such a group.
-/

namespace OrgAccess.Calendar

/-- A day of an era by its century, its group of four years, its year in the group and its day. -/
theorem exists_position {day : Nat} (inEra : day < 146097) :
    ∃ century group year rest, day = 36524 * century + 1461 * group + 365 * year + rest ∧
      century ≤ 3 ∧ group ≤ 24 ∧ year ≤ 3 ∧ rest ≤ 365 ∧
      (rest = 365 → year = 3 ∧ (group = 24 → century = 3)) := by
  obtain ⟨century, early, isCentury⟩ : ∃ century ≤ 3, 36524 * century ≤ day ∧
      (day - 36524 * century < 36524 ∨ century = 3) := ⟨min (day / 36524) 3, by omega, by omega⟩
  obtain ⟨inCentury, inCentury_eq⟩ : ∃ inCentury, inCentury = day - 36524 * century := ⟨_, rfl⟩
  obtain ⟨inGroup, inGroup_eq⟩ : ∃ inGroup, inGroup = inCentury % 1461 := ⟨_, rfl⟩
  refine ⟨century, inCentury / 1461, min (inGroup / 365) 3, inGroup - 365 * min (inGroup / 365) 3,
    ?_, early, ?_, by omega, by omega, fun isLast => ⟨by omega, fun isLate => ?_⟩⟩
  · omega
  · omega
  · omega

theorem yearOfEra_eq {century group year rest day : Nat} (centuries : century ≤ 3)
    (groups : group ≤ 24) (years : year ≤ 3) (days : rest ≤ 365)
    (leap : rest = 365 → year = 3 ∧ (group = 24 → century = 3))
    (position : day = 36524 * century + 1461 * group + 365 * year + rest) :
    (day - day / 1460 + day / 36524 - day / 146096) / 365 = 100 * century + 4 * group + year := by
  have byGroups : day / 1460 = 25 * century + group +
      (if 1460 ≤ 24 * century + group + 365 * year + rest then 1 else 0) := by
    split <;> omega
  have byCenturies : day / 36524 = century + day / 146096 := by
    have inCentury : day < 36524 * (century + 1) ∨ century = 3 ∧ day = 146096 := by omega
    rcases inCentury with within | ⟨isLast, isEnd⟩
    · have early : day / 146096 = 0 := by omega
      rw [early]
      exact Nat.div_eq_of_lt_le (by omega) (by omega)
    · rw [isLast, isEnd]
  split at byGroups <;> omega

/-- The date of a day in a year that is counted from March. -/
def Date.ofMarch (year : Int) (dayOfYear : Nat) : Date :=
  let monthFromMarch := (5 * dayOfYear + 2) / 153
  let month := if monthFromMarch < 10 then monthFromMarch + 3 else monthFromMarch - 9
  { year := if month ≤ 2 then year + 1 else year
    month := month
    day := dayOfYear - (153 * monthFromMarch + 2) / 5 + 1 }

/-- A day lies in one year of an era, and has a number in it that fits its length. -/
theorem exists_march (days : Int) :
    ∃ (era : Int) (year dayOfYear : Nat), year < 400 ∧ dayOfYear ≤ 365 ∧
      (dayOfYear = 365 → isLeapYear (era * 400 + year + 1) = true) ∧
      days + eraToEpoch =
        era * daysInEra + ((365 * year + year / 4 - year / 100 + dayOfYear : Nat) : Int) ∧
      Date.ofDays days = Date.ofMarch (era * 400 + year) dayOfYear := by
  obtain ⟨era, era_eq⟩ : ∃ era, era = (days + eraToEpoch) / daysInEra := ⟨_, rfl⟩
  obtain ⟨day, day_eq⟩ : ∃ day, day = ((days + eraToEpoch) % daysInEra).toNat := ⟨_, rfl⟩
  have inEra : day < 146097 ∧ days + eraToEpoch = era * daysInEra + day := by
    simp only [daysInEra] at day_eq era_eq ⊢
    omega
  obtain ⟨century, group, year, rest, position, centuries, groups, years, fits, leap⟩ :=
    exists_position inEra.1
  obtain ⟨inYears, inYears_eq⟩ :
      ∃ inYears, inYears = 100 * century + 4 * group + year := ⟨_, rfl⟩
  have before : 365 * inYears + inYears / 4 - inYears / 100 =
      36524 * century + 1461 * group + 365 * year := by
    have leapYears : inYears / 4 = 25 * century + group := by omega
    have hundreds : inYears / 100 = century := by omega
    omega
  have counted : Date.ofDays days = Date.ofMarch (era * 400 + inYears) rest := by
    have found := yearOfEra_eq centuries groups years fits leap position
    have left : day - (365 * inYears + inYears / 4 - inYears / 100) = rest := by
      rw [before, position, Nat.add_sub_cancel_left]
    simp only [Date.ofDays, ← day_eq, ← era_eq, found, ← inYears_eq, left]
    rfl
  have dayNumber : day = 365 * inYears + inYears / 4 - inYears / 100 + rest := by
    rw [before, position]
  refine ⟨era, inYears, rest, by omega, fits, fun isLast => ?_, dayNumber ▸ inEra.2, counted⟩
  obtain ⟨isThird, isFirst⟩ := leap isLast
  simp only [isLeapYear, Bool.and_eq_true, Bool.or_eq_true, beq_iff_eq, bne_iff_ne]
  omega

section March

variable {year : Int} {dayOfYear : Nat}

/-- The months from March on begin where the formula for their first days says. -/
theorem march_cases (inYear : dayOfYear ≤ 365) :
    ∃ index ≤ 11, (5 * dayOfYear + 2) / 153 = index ∧ (153 * index + 2) / 5 ≤ dayOfYear ∧
      dayOfYear < (153 * (index + 1) + 2) / 5 :=
  ⟨(5 * dayOfYear + 2) / 153, by omega, rfl, by omega, by omega⟩

theorem isValid_ofMarch (inYear : dayOfYear ≤ 365)
    (leap : dayOfYear = 365 → isLeapYear (year + 1) = true) :
    (Date.ofMarch year dayOfYear).isValid = true := by
  obtain ⟨index, small, found, first, next⟩ := march_cases inYear
  simp only [Date.ofMarch, found, Date.isValid, daysInMonth]
  interval_cases index
  -- only the last month, February, has a length that depends on the year
  case «11» =>
    have fits : dayOfYear - 337 + 1 ≤ if isLeapYear (year + 1) = true then 29 else 28 := by
      split
      · omega
      · have notLast : dayOfYear ≠ 365 := fun isLast => by simp_all
        omega
    simpa using fits
  all_goals
    simp
    omega

theorem toDays_ofMarch {era : Int} {yearOfEra : Nat} (inEra : yearOfEra < 400)
    (inYear : dayOfYear ≤ 365) :
    (Date.ofMarch (era * 400 + yearOfEra) dayOfYear).toDays =
      era * daysInEra +
        ((365 * yearOfEra + yearOfEra / 4 - yearOfEra / 100 + dayOfYear : Nat) : Int) -
        eraToEpoch := by
  obtain ⟨index, small, found, first, next⟩ := march_cases inYear
  simp only [Date.ofMarch, found, Date.toDays]
  interval_cases index
  all_goals
    simp only [Nat.reduceLT, Nat.reduceLeDiff, Nat.reduceAdd, Nat.reduceSub, Nat.reduceMul,
      Nat.reduceDiv, Nat.reduceMod, ↓reduceIte, daysInEra, eraToEpoch]
    omega

/-- The calendar year begins with the eleventh month from March, on the 307th day. -/
theorem year_ofMarch (inYear : dayOfYear ≤ 365) :
    (Date.ofMarch year dayOfYear).year = if dayOfYear < 306 then year else year + 1 := by
  obtain ⟨index, small, found, first, next⟩ := march_cases inYear
  simp only [Date.ofMarch, found]
  interval_cases index
  all_goals
    simp
    omega

end March

theorem bounds_of_isValid {date : Date} (valid : date.isValid = true) :
    (1 ≤ date.month ∧ date.month ≤ 12) ∧ (1 ≤ date.day ∧ date.day ≤ 31) := by
  have longest : daysInMonth date.year date.month ≤ 31 := by
    unfold daysInMonth
    split
    · split <;> decide
    · split <;> decide
  simp only [Date.isValid, Bool.and_eq_true, decide_eq_true_eq] at valid
  omega

theorem isValid_ofDays (days : Int) : (Date.ofDays days).isValid = true := by
  obtain ⟨era, year, dayOfYear, -, inYear, leap, -, found⟩ := exists_march days
  rw [found]
  exact isValid_ofMarch inYear leap

/-- The date of a day has that day's number. -/
theorem toDays_ofDays (days : Int) : (Date.ofDays days).toDays = days := by
  obtain ⟨era, year, dayOfYear, inEra, inYear, -, counted, found⟩ := exists_march days
  rw [found, toDays_ofMarch inEra inYear, ← counted]
  omega

/-- The days that instants fall on are those of the years that can be read. -/
theorem year_ofDays {days : Int} (inRange : -96465292 ≤ days ∧ days ≤ 95026236) :
    -262143 ≤ (Date.ofDays days).year ∧ (Date.ofDays days).year ≤ 262142 := by
  obtain ⟨era, year, dayOfYear, inEra, inYear, -, counted, found⟩ := exists_march days
  rw [found, year_ofMarch inYear]
  simp only [daysInEra, eraToEpoch] at counted
  have eras : -656 ≤ era ∧ era ≤ 655 := by omega
  have firstYear : era = -656 → 256 ≤ year ∧ (year = 256 → 306 ≤ dayOfYear) := by
    rintro rfl
    constructor <;> omega
  have lastYear : era = 655 → year ≤ 142 ∧ (year = 142 → dayOfYear < 306) := by
    rintro rfl
    constructor <;> omega
  split <;> omega

end OrgAccess.Calendar
