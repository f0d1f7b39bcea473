import CardInventory.Instant.Calendar

/-!
# Days and dates

Every number of a day is that of a date, and this date exists. A cycle of four hundred
years has four centuries, a century has cycles of four years, and only the last cycle
of the fourth century keeps the leap day that ends it.
-/

namespace CardInventory.Date

/-- The place of a day in its cycle of four hundred years: its century, the cycle of four
years in it, the year in this cycle and the day of this year. -/
structure Place where
  century : Int
  cycle : Int
  year : Int
  day : Int

namespace Place

/-- The number of a day in its cycle of four hundred years. -/
def dayOfEra (place : Place) : Int :=
  36524 * place.century + 1461 * place.cycle + 365 * place.year + place.day

/-- The year in the cycle of four hundred years. -/
def yearOfEra (place : Place) : Int :=
  100 * place.century + 4 * place.cycle + place.year

/-- A year has 365 days, and one more if the next year, which this day belongs to, has a
leap day. -/
structure Valid (place : Place) : Prop where
  century : 0 ≤ place.century ∧ place.century ≤ 3
  cycle : 0 ≤ place.cycle ∧ place.cycle ≤ 24
  year : 0 ≤ place.year ∧ place.year ≤ 3
  day : 0 ≤ place.day ∧ place.day ≤ 365
  leap : place.day = 365 → place.year = 3 ∧ (place.cycle = 24 → place.century = 3)

variable {place : Place}

/-- The days of the years before a year of the cycle, and the day of this year. -/
theorem Valid.dayOfEra_eq (valid : place.Valid) :
    place.dayOfEra = 365 * place.yearOfEra + place.yearOfEra / 4 - place.yearOfEra / 100 +
      place.day := by
  obtain ⟨century, cycle, year, day⟩ := place
  obtain ⟨centuries, cycles, years, -, -⟩ := valid
  simp only [dayOfEra, yearOfEra] at *
  omega

theorem Valid.yearOfEra_lt (valid : place.Valid) : 0 ≤ place.yearOfEra ∧ place.yearOfEra < 400 := by
  obtain ⟨century, cycle, year, day⟩ := place
  obtain ⟨centuries, cycles, years, -, -⟩ := valid
  simp only [yearOfEra] at *
  omega

/-- Every day of the cycle has a place. -/
theorem exists_valid {number : Int} (within : 0 ≤ number ∧ number < 146097) :
    ∃ place : Place, place.Valid ∧ place.dayOfEra = number := by
  let century := min (number / 36524) 3
  let cycle := (number - 36524 * century) / 1461
  let left := (number - 36524 * century) % 1461
  let year := min (left / 365) 3
  refine ⟨⟨century, cycle, year, left - 365 * year⟩, ⟨?_, ?_, ?_, ?_, ?_⟩, ?_⟩ <;>
    simp only [dayOfEra] <;> omega

/-- The year of the cycle, found from the number of the day. -/
theorem Valid.yearOfEra_eq (valid : place.Valid) :
    (place.dayOfEra - place.dayOfEra / 1460 + place.dayOfEra / 36524 - place.dayOfEra / 146096) /
      365 = place.yearOfEra := by
  obtain ⟨century, cycle, year, day⟩ := place
  obtain ⟨centuries, cycles, years, days, leap⟩ := valid
  simp only [dayOfEra, yearOfEra] at *
  have rest : 1461 * cycle + 365 * year + day < 36524 ∨
      1461 * cycle + 365 * year + day = 36524 ∧ century = 3 := by omega
  generalize numbered : 36524 * century + 1461 * cycle + 365 * year + day = number
  have centuriesPassed : number / 36524 - number / 146096 = century := by
    rcases rest with rest | ⟨rest, rfl⟩
    · have whole : number / 36524 = century :=
        (Int.ediv_eq_iff_of_pos (by decide)).mpr (by omega)
      have none : number / 146096 = 0 := (Int.ediv_eq_iff_of_pos (by decide)).mpr (by omega)
      omega
    · omega
  have cyclesPassed : number / 1460 = 25 * century + cycle +
      (24 * century + cycle + 365 * year + day) / 1460 := by omega
  rw [Int.ediv_eq_iff_of_pos (by decide)]
  omega

theorem Valid.dayOfEra_lt (valid : place.Valid) :
    0 ≤ place.dayOfEra ∧ place.dayOfEra < 146097 := by
  obtain ⟨century, cycle, year, day⟩ := place
  obtain ⟨centuries, cycles, years, days, leap⟩ := valid
  simp only [dayOfEra] at *
  omega

/-- The month of a day, counted from March. -/
def month (place : Place) : Int :=
  (5 * place.day + 2) / 153

/-- The date of a day in one of the cycles of four hundred years. -/
def date (place : Place) (era : Int) : Date where
  year := place.yearOfEra + era * 400 + if place.month < 10 then 0 else 1
  month := (if place.month < 10 then place.month + 3 else place.month - 9).toNat
  day := (place.day - (153 * place.month + 2) / 5 + 1).toNat

theorem Valid.ofDayNumber_eq (valid : place.Valid) (era : Int) :
    ofDayNumber (era * 146097 + place.dayOfEra - 719468) = place.date era := by
  have within := valid.dayOfEra_lt
  have eras : (era * 146097 + place.dayOfEra - 719468 + 719468) / 146097 = era := by omega
  have days : (era * 146097 + place.dayOfEra - 719468 + 719468) % 146097 = place.dayOfEra := by
    omega
  have day : place.dayOfEra -
      (365 * place.yearOfEra + place.yearOfEra / 4 - place.yearOfEra / 100) = place.day := by
    have := valid.dayOfEra_eq
    omega
  simp only [ofDayNumber, eras, days, valid.yearOfEra_eq, day]
  simp only [date, month]
  have := valid.day
  congr 1
  split <;> split <;> omega

theorem Valid.month_cases (valid : place.Valid) : 0 ≤ place.month ∧ place.month < 12 := by
  have := valid.day
  simp only [month]
  omega

/-- The number of a date is that of its day. -/
theorem Valid.dayNumber_date (valid : place.Valid) (era : Int) :
    (place.date era).dayNumber = era * 146097 + place.dayOfEra - 719468 := by
  have years := valid.yearOfEra_lt
  have months := valid.month_cases
  have started : 0 ≤ place.day - (153 * place.month + 2) / 5 := by
    simp only [month]
    omega
  have year : (if (place.date era).month ≤ 2 then (place.date era).year - 1
      else (place.date era).year) = era * 400 + place.yearOfEra := by
    simp only [date]
    split <;> split <;> omega
  have fromMarch : ((((place.date era).month + 9) % 12 : Nat) : Int) = place.month := by
    simp only [date]
    split <;> omega
  have day : ((place.date era).day : Int) = place.day - (153 * place.month + 2) / 5 + 1 := by
    simp only [date]
    omega
  simp only [dayNumber, year, fromMarch, day]
  have eras : (era * 400 + place.yearOfEra) / 400 = era := by omega
  have left : (era * 400 + place.yearOfEra) % 400 = place.yearOfEra := by omega
  rw [eras, left, valid.dayOfEra_eq]
  omega

/-- The leap day ends a year that is followed by a leap year. -/
theorem Valid.isLeap (valid : place.Valid) (era : Int) (last : place.day = 365) :
    isLeap (place.yearOfEra + era * 400 + 1) = true := by
  obtain ⟨year, century⟩ := valid.leap last
  have cycles := valid.cycle
  have centuries := valid.century
  simp only [Date.isLeap, yearOfEra, year, Bool.and_eq_true, Bool.or_eq_true, decide_eq_true_eq]
  omega

theorem Valid.day_date (valid : place.Valid) (era : Int) :
    1 ≤ (place.date era).month ∧ (place.date era).month ≤ 12 ∧ 1 ≤ (place.date era).day ∧
      (place.date era).day ≤ daysIn (place.date era).year (place.date era).month := by
  have months := valid.month_cases
  have days := valid.day
  have leap := valid.isLeap era
  have begun : 153 * place.month ≤ 5 * place.day + 2 ∧
      5 * place.day + 2 < 153 * place.month + 153 := by
    simp only [month]
    omega
  simp only [date]
  generalize place.month = month at months begun
  obtain rfl | earlier : month = 11 ∨ month < 11 := by omega
  · by_cases last : place.day = 365
    · simp [daysIn, last, leap last]
    · simp [daysIn]
      split <;> omega
  · obtain rfl | rfl | rfl | rfl | rfl | rfl | rfl | rfl | rfl | rfl | rfl :
        month = 0 ∨ month = 1 ∨ month = 2 ∨ month = 3 ∨ month = 4 ∨ month = 5 ∨ month = 6 ∨
          month = 7 ∨ month = 8 ∨ month = 9 ∨ month = 10 := by omega
    all_goals
      simp [daysIn]
      omega

end Place

theorem daysIn_le (year : Int) (month : Nat) : daysIn year month ≤ 31 := by
  unfold daysIn
  split
  · split <;> decide
  · split <;> decide

/-- The numbers of a date that exists have two digits. -/
theorem lt_of_exists? {date : Date} (real : date.exists? = true) :
    date.month < 100 ∧ date.day < 100 := by
  simp only [exists?, Bool.and_eq_true, decide_eq_true_eq] at real
  have short := daysIn_le date.year date.month
  omega

/-- Every day has a place in one of the cycles of four hundred years. -/
theorem exists_place (number : Int) :
    ∃ (place : Place) (era : Int), place.Valid ∧
      number = era * 146097 + place.dayOfEra - 719468 := by
  obtain ⟨place, valid, same⟩ := Place.exists_valid
    (show 0 ≤ (number + 719468) % 146097 ∧ (number + 719468) % 146097 < 146097 by omega)
  exact ⟨place, (number + 719468) / 146097, valid, by omega⟩

/-- The date of a day has the number of this day. -/
theorem dayNumber_ofDayNumber (number : Int) : (ofDayNumber number).dayNumber = number := by
  obtain ⟨place, era, valid, rfl⟩ := exists_place number
  rw [valid.ofDayNumber_eq, valid.dayNumber_date]

/-- The date of a day exists if its year lies in the calendar. -/
theorem exists?_ofDayNumber {number : Int}
    (years : firstYear ≤ (ofDayNumber number).year ∧ (ofDayNumber number).year ≤ lastYear) :
    (ofDayNumber number).exists? = true := by
  obtain ⟨place, era, valid, rfl⟩ := exists_place number
  rw [valid.ofDayNumber_eq] at years ⊢
  obtain ⟨firstMonth, lastMonth, firstDay, lastDay⟩ := valid.day_date era
  simp only [exists?, years, firstMonth, lastMonth, firstDay, lastDay, decide_true, Bool.and_self]

end CardInventory.Date
