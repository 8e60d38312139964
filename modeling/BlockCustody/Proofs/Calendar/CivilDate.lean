import BlockCustody.Calendar.CivilDate

/-!
Contract: days and dates correspond one to one.

Owns:
- how a day of the 400-year cycle splits into centuries, groups of four years,
  years and days;
- that the date of a day is in the calendar and is the date of that day only.

Does not own: which dates are supported.
-/

namespace BlockCustody.Calendar

/-- A day of the cycle as whole centuries, groups of four years, years and days.
Only the last year of a group has a day number 365, and the last group of a
century only at the end of the cycle. -/
structure CycleDay where
  century : Nat
  group : Nat
  year : Nat
  day : Nat
  century_le : century ≤ 3
  group_le : group ≤ 24
  year_le : year ≤ 3
  day_le : day ≤ 365
  leapDay : day = 365 → year = 3 ∧ (group = 24 → century = 3)

namespace CycleDay

def dayOfCycle (split : CycleDay) : Nat :=
  36524 * split.century + 1461 * split.group + 365 * split.year + split.day

/-- The number of its year in the cycle, years beginning in March. -/
def yearOfCycle (split : CycleDay) : Nat :=
  100 * split.century + 4 * split.group + split.year

theorem exists_dayOfCycle_eq {number : Nat} (inCycle : number < 146097) :
    ∃ split : CycleDay, split.dayOfCycle = number := by
  -- The last century and the last year of a group take one day more.
  let century := min (number / 36524) 3
  let inCentury := number - 36524 * century
  let group := inCentury / 1461
  let inGroup := inCentury - 1461 * group
  let year := min (inGroup / 365) 3
  let day := inGroup - 365 * year
  have centuryBound : inCentury ≤ 36524 ∧ (century < 3 → inCentury < 36524) := by
    omega
  have groupBound : group ≤ 24 ∧ inGroup ≤ 1460 ∧ (group = 24 → century < 3 → inGroup < 1460) := by
    omega
  have dayBound : day ≤ 365 ∧ (day = 365 → inGroup = 1460 ∧ year = 3) := by
    omega
  refine ⟨{ century, group, year, day, century_le := ?_, group_le := groupBound.1,
            year_le := ?_, day_le := dayBound.1, leapDay := ?_ }, ?_⟩
  · omega
  · omega
  · intro last
    omega
  · simp only [dayOfCycle]
    omega

theorem yearOfCycle_lt (split : CycleDay) : split.yearOfCycle < 400 := by
  have bounds := And.intro split.century_le (And.intro split.group_le split.year_le)
  simp only [yearOfCycle]
  omega

theorem daysBefore_eq (split : CycleDay) :
    365 * split.yearOfCycle + split.yearOfCycle / 4 - split.yearOfCycle / 100 =
      36524 * split.century + 1461 * split.group + 365 * split.year := by
  have groupBound := split.group_le
  have yearBound := split.year_le
  have groups : split.yearOfCycle / 4 = 25 * split.century + split.group := by
    simp only [yearOfCycle]
    omega
  have centuries : split.yearOfCycle / 100 = split.century := by
    simp only [yearOfCycle]
    omega
  rw [groups, centuries]
  simp only [yearOfCycle]
  omega

/-- The year of a day of the cycle is found by leaving out the leap days. -/
theorem yearOfCycle_eq (split : CycleDay) :
    (split.dayOfCycle - split.dayOfCycle / 1460 + split.dayOfCycle / 36524 -
        split.dayOfCycle / 146096) / 365 =
      split.yearOfCycle := by
  obtain ⟨century, group, year, day, centuryBound, groupBound, yearBound, dayBound, leapDay⟩ := split
  simp only [dayOfCycle, yearOfCycle]
  -- One leap day too many or too few is counted within a group at most.
  have groups :
      (36524 * century + 1461 * group + 365 * year + day) / 1460 =
        25 * century + group +
          if 1460 ≤ 24 * century + group + 365 * year + day then 1 else 0 := by
    split <;> omega
  by_cases last : 36524 * century + 1461 * group + 365 * year + day = 146096
  · rw [last]
    omega
  · have centuries :
        (36524 * century + 1461 * group + 365 * year + day) / 36524 = century := by
      omega
    have cycles :
        (36524 * century + 1461 * group + 365 * year + day) / 146096 = 0 := by
      omega
    rw [groups, centuries, cycles]
    split <;> omega

end CycleDay

/-! ## Days of a year that begins in March -/

/-- The month of a day, counted from March. -/
def monthFromMarch (day : Nat) : Nat :=
  (5 * day + 2) / 153

def monthOfDay (day : Nat) : Nat :=
  if monthFromMarch day < 10 then monthFromMarch day + 3 else monthFromMarch day - 9

def dayOfMonth (day : Nat) : Nat :=
  day - (153 * monthFromMarch day + 2) / 5 + 1

theorem monthOfDay_bounds {day : Nat} (inYear : day ≤ 365) :
    1 ≤ monthOfDay day ∧ monthOfDay day ≤ 12 := by
  have bound : monthFromMarch day ≤ 11 := by
    simp only [monthFromMarch]
    omega
  unfold monthOfDay
  split <;> omega

/-- Counting from March is undone by counting from January. -/
theorem monthFromMarch_of_monthOfDay {day : Nat} (inYear : day ≤ 365) :
    (monthOfDay day + 9) % 12 = monthFromMarch day := by
  have bound : monthFromMarch day ≤ 11 := by
    simp only [monthFromMarch]
    omega
  unfold monthOfDay
  split <;> omega

theorem dayOfMonth_eq (day : Nat) :
    (153 * monthFromMarch day + 2) / 5 + dayOfMonth day = day + 1 := by
  simp only [dayOfMonth, monthFromMarch]
  omega

/-- No month is overrun, and February is only by the last day of the year. -/
theorem dayOfMonth_le_table :
    ∀ day < 366,
      if monthOfDay day = 2 then dayOfMonth day ≤ 28 ∨ dayOfMonth day = 29 ∧ day = 365
      else dayOfMonth day ≤ daysInMonth 0 (monthOfDay day) := by
  decide +kernel

theorem daysInMonth_of_ne_two {month : Nat} (notFebruary : month ≠ 2) (left right : Int) :
    daysInMonth left month = daysInMonth right month := by
  unfold daysInMonth
  split
  · exact absurd rfl notFebruary
  all_goals rfl

/-- The year that ends with a day number 365 is a leap year. -/
theorem CycleDay.isLeapYear_of_leapDay
    (split : CycleDay)
    (cycle : Int)
    (last : split.day = 365) :
    isLeapYear (cycle * 400 + split.yearOfCycle + 1) = true := by
  obtain ⟨lastYear, lastGroup⟩ := split.leapDay last
  have centuryBound := split.century_le
  have groupBound := split.group_le
  simp only [isLeapYear, yearOfCycle, lastYear, Bool.and_eq_true, Bool.or_eq_true,
    decide_eq_true_eq]
  omega

/-! ## Dates in a cycle -/

/-- The date of a day in a given cycle. January and February belong to the year
after the one that began in March. -/
def CycleDay.date (split : CycleDay) (cycle : Int) : CivilDate :=
  let year := cycle * 400 + split.yearOfCycle
  { year := if monthOfDay split.day ≤ 2 then year + 1 else year
    month := monthOfDay split.day
    day := dayOfMonth split.day }

theorem CycleDay.date_exists (split : CycleDay) (cycle : Int) : (split.date cycle).Exists := by
  have table := dayOfMonth_le_table split.day (Nat.lt_succ_of_le split.day_le)
  obtain ⟨atLeast, atMost⟩ := monthOfDay_bounds split.day_le
  refine ⟨atLeast, atMost, Nat.le_add_left 1 _, ?_⟩
  change dayOfMonth split.day ≤ daysInMonth (split.date cycle).year (monthOfDay split.day)
  by_cases february : monthOfDay split.day = 2
  · have length :
        daysInMonth (split.date cycle).year 2 =
          if isLeapYear (cycle * 400 + split.yearOfCycle + 1) then 29 else 28 := by
      simp [daysInMonth, date, february]
    rw [if_pos february] at table
    rw [february, length]
    rcases table with short | ⟨leapDay, last⟩
    · split <;> omega
    · rw [if_pos (split.isLeapYear_of_leapDay cycle last)]
      exact Nat.le_of_eq leapDay
  · rw [if_neg february] at table
    rwa [daysInMonth_of_ne_two february _ 0]

theorem CycleDay.toDays_date (split : CycleDay) (cycle : Int) :
    (split.date cycle).toDays = cycle * 146097 + split.dayOfCycle - 719468 := by
  have yearBound := split.yearOfCycle_lt
  have daysBefore := split.daysBefore_eq
  have monthBack := monthFromMarch_of_monthOfDay split.day_le
  have dayBack := dayOfMonth_eq split.day
  have yearBack :
      (if (split.date cycle).month ≤ 2 then (split.date cycle).year - 1
        else (split.date cycle).year) = cycle * 400 + split.yearOfCycle := by
    simp only [date]
    split <;> omega
  have cycleBack : (cycle * 400 + (split.yearOfCycle : Int)) / 400 = cycle := by
    omega
  have yearOfCycleBack :
      (cycle * 400 + (split.yearOfCycle : Int)) % 400 = split.yearOfCycle := by
    omega
  simp only [CivilDate.toDays, yearBack, cycleBack, yearOfCycleBack]
  simp only [date, monthBack, dayOfCycle]
  omega

namespace CivilDate

theorem exists_ofDays_eq (days : Int) :
    ∃ (split : CycleDay) (cycle : Int),
      days = cycle * 146097 + split.dayOfCycle - 719468 ∧ ofDays days = split.date cycle := by
  have inCycle : ((days + 719468) % 146097).toNat < 146097 := by
    omega
  obtain ⟨split, isSplit⟩ := CycleDay.exists_dayOfCycle_eq inCycle
  have yearBack := split.yearOfCycle_eq
  have dayBack :
      split.dayOfCycle -
          (365 * split.yearOfCycle + split.yearOfCycle / 4 - split.yearOfCycle / 100) =
        split.day := by
    rw [split.daysBefore_eq]
    simp only [CycleDay.dayOfCycle]
    omega
  refine ⟨split, (days + 719468) / 146097, by omega, ?_⟩
  simp only [ofDays, ← isSplit, yearBack, dayBack]
  rfl

theorem exists_ofDays (days : Int) : (ofDays days).Exists := by
  obtain ⟨split, cycle, _, isDate⟩ := exists_ofDays_eq days
  rw [isDate]
  exact split.date_exists cycle

/-- The date of a day is the date of that day only. -/
theorem toDays_ofDays (days : Int) : (ofDays days).toDays = days := by
  obtain ⟨split, cycle, isDay, isDate⟩ := exists_ofDays_eq days
  rw [isDate, split.toDays_date, isDay]

/-- Years of six digits are enough for a hundred million days in both directions. -/
theorem year_ofDays_bounds
    {days : Int}
    (lower : -100000000 ≤ days)
    (upper : days ≤ 100000000) :
    -300000 ≤ (ofDays days).year ∧ (ofDays days).year ≤ 300000 := by
  obtain ⟨split, cycle, isDay, isDate⟩ := exists_ofDays_eq days
  have yearBound := split.yearOfCycle_lt
  have parts :=
    And.intro split.century_le (And.intro split.group_le (And.intro split.year_le split.day_le))
  simp only [CycleDay.dayOfCycle] at isDay
  rw [isDate]
  simp only [CycleDay.date]
  split <;> omega

end CivilDate

end BlockCustody.Calendar
