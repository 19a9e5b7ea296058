import HttpState.Time.Calendar

/-!
# Day numbers and dates

The date of a day number is in the calendar, and its day number is the one it was computed from.

The computation runs through the 400-year era of a day, the year of the era, the day of that year
and the month, in years that begin in March. There is one lemma for each step.

## Key results

- `yearOfEra_spec`: the year of a day of an era, and its day of that year
- `month_spec`: the month of a day of a year, and its day of that month
- `of?_ofDayNumber`, `dayNumber_ofDayNumber`: the two directions between day numbers and dates
-/

namespace HttpState.Time.Date

/-! ## Years of an era -/

/-- The year of a day of an era. -/
def yearOfEra (doe : Int) : Int := (doe - doe / 1460 + doe / 36524 - doe / 146096) / 365

/-- The day of its year of a day of an era. -/
def dayOfYear (doe : Int) : Int :=
  doe - (365 * yearOfEra doe + yearOfEra doe / 4 - yearOfEra doe / 100)

/-- The year of an era is one of 400. Its days are numbered from 0 to 364, and 365 in a year at the
    end of which stands a leap day. -/
theorem yearOfEra_spec {doe : Int} (h0 : 0 ≤ doe) (h1 : doe ≤ 146096) :
    (0 ≤ yearOfEra doe ∧ yearOfEra doe ≤ 399) ∧ (0 ≤ dayOfYear doe ∧ dayOfYear doe ≤ 365) ∧
      (dayOfYear doe = 365 → isLeapYear (yearOfEra doe + 1) = true) := by
  -- The last day of an era is the only one where the last quotient counts.
  by_cases hlast : doe = 146096
  · rw [hlast]
    decide
  · obtain ⟨y, hy⟩ : ∃ y, yearOfEra doe = y := ⟨_, rfl⟩
    rw [dayOfYear, hy]
    have hdef : y = (doe - doe / 1460 + doe / 36524) / 365 := by
      rw [← hy, yearOfEra, show doe / 146096 = 0 by omega, Int.sub_zero]
    have hbounds : 0 ≤ y ∧ y ≤ 399 := by omega
    -- Centuries and four-year cycles of days are those of years, but a cycle may begin a day early.
    have hcentury : (doe / 36524 = 0 ∧ y / 100 = 0) ∨ (doe / 36524 = 1 ∧ y / 100 = 1) ∨
        (doe / 36524 = 2 ∧ y / 100 = 2) ∨ (doe / 36524 = 3 ∧ y / 100 = 3) := by omega
    have hcycle : doe / 1460 = y / 4 ∨ doe / 1460 = y / 4 + 1 := by
      rcases hcentury with h | h | h | h <;> omega
    have hyear : y % 4 = 0 ∨ y % 4 = 1 ∨ y % 4 = 2 ∨ y % 4 = 3 := by omega
    refine ⟨hbounds, ?_⟩
    simp only [isLeapYear, Bool.and_eq_true, Bool.or_eq_true, beq_iff_eq, bne_iff_ne, ne_eq]
    rcases hcentury with h | h | h | h
    all_goals rcases hcycle with h' | h'
    all_goals rcases hyear with h'' | h'' | h'' | h''
    all_goals omega

/-! ## Months of a year -/

/-- The month of a day of a year, counted from March. -/
def monthFromMarch (doy : Int) : Int := (5 * doy + 2) / 153

/-- The day of its month of a day of a year. -/
def dayOfMonth (doy : Int) : Int := doy - (153 * monthFromMarch doy + 2) / 5 + 1

/-- The number of a month that is counted from March. -/
def monthNumber (m : Int) : Int := if m < 10 then m + 3 else m - 9

/-- The month of a day of a year is one of twelve, and its day is one of that month. Only the last
    day of a leap year is a 29 February. -/
theorem month_spec {doy : Int} (h0 : 0 ≤ doy) (h1 : doy ≤ 365) :
    (0 ≤ monthFromMarch doy ∧ monthFromMarch doy ≤ 11) ∧ 1 ≤ dayOfMonth doy ∧
      ∀ year : Int, (doy = 365 → isLeapYear year = true) →
        (dayOfMonth doy).toNat ≤ daysInMonth year (monthNumber (monthFromMarch doy)).toNat := by
  obtain ⟨m, hm⟩ : ∃ m, monthFromMarch doy = m := ⟨_, rfl⟩
  rw [dayOfMonth, hm]
  rw [monthFromMarch] at hm
  refine ⟨by omega, by omega, ?_⟩
  intro year hleap
  obtain ⟨n, hn⟩ : ∃ n, (monthNumber m).toNat = n := ⟨_, rfl⟩
  have hnumber : (m < 10 ∧ m + 3 = n) ∨ (10 ≤ m ∧ m - 9 = n) := by
    unfold monthNumber at hn
    split at hn <;> omega
  rw [hn, daysInMonth]
  split
  · -- February has a 29th day only where the year is a leap year.
    by_cases hday : doy = 365
    · rw [if_pos (hleap hday)]
      omega
    · split <;> omega
  · -- The other months have the same length in every year.
    split <;> omega

/-! ## Day numbers -/

/-- The day of its era of a day number, which counts the days from 1 March of the year 0. -/
def dayOfEra (z : Int) : Int := z - z / 146097 * 146097

/-- The day of an era is below 400 years of days. -/
theorem dayOfEra_bounds (z : Int) : 0 ≤ dayOfEra z ∧ dayOfEra z ≤ 146096 := by
  unfold dayOfEra
  omega

/-- The date of a day number, step by step. -/
theorem ofDayNumber_eq (n : Int) :
    let doe := dayOfEra (n + 719468)
    let year := yearOfEra doe + (n + 719468) / 146097 * 400
    let month := monthNumber (monthFromMarch (dayOfYear doe))
    ofDayNumber n =
      ⟨if month ≤ 2 then year + 1 else year, month.toNat, (dayOfMonth (dayOfYear doe)).toNat⟩ := rfl

/-- The years of an era are leap years in the same places in every era. -/
theorem isLeapYear_add_era (year era : Int) : isLeapYear (year + era * 400) = isLeapYear year := by
  have h4 : (year + era * 400) % 4 = year % 4 := by omega
  have h100 : (year + era * 400) % 100 = year % 100 := by omega
  have h400 : (year + era * 400) % 400 = year % 400 := by omega
  rw [isLeapYear, h4, h100, h400]
  rfl

/-- The date of a day number is in the calendar. -/
theorem of?_ofDayNumber (n : Int) :
    of? (ofDayNumber n).year (ofDayNumber n).month (ofDayNumber n).day = some (ofDayNumber n) := by
  obtain ⟨hdoe0, hdoe1⟩ := dayOfEra_bounds (n + 719468)
  obtain ⟨_, ⟨hdoy0, hdoy1⟩, hleap⟩ := yearOfEra_spec hdoe0 hdoe1
  obtain ⟨hm, hday, hlength⟩ := month_spec hdoy0 hdoy1
  have hdate := ofDayNumber_eq n
  generalize dayOfEra (n + 719468) = doe at *
  generalize (n + 719468) / 146097 = era at *
  simp only at hdate
  have hmonth : 1 ≤ monthNumber (monthFromMarch (dayOfYear doe)) ∧
      monthNumber (monthFromMarch (dayOfYear doe)) ≤ 12 := by
    unfold monthNumber
    split <;> omega
  -- A day 366 stands in February, so the year has been counted up.
  have hyear : dayOfYear doe = 365 → isLeapYear (ofDayNumber n).year = true := by
    intro h
    have hfeb : monthNumber (monthFromMarch (dayOfYear doe)) = 2 := by
      rw [h]
      decide
    rw [hdate]
    simp only [hfeb]
    rw [if_pos (by decide), Int.add_right_comm, isLeapYear_add_era]
    exact hleap h
  have hlast := hlength _ hyear
  rw [of?, if_pos]
  rw [hdate] at hlast ⊢
  simp only at hlast ⊢
  refine ⟨by omega, by omega, by omega, hlast⟩

/-- The day number of the date of a day number is that number. -/
theorem dayNumber_ofDayNumber (n : Int) : (ofDayNumber n).dayNumber = n := by
  obtain ⟨hdoe0, hdoe1⟩ := dayOfEra_bounds (n + 719468)
  obtain ⟨⟨hyoe0, hyoe1⟩, ⟨hdoy0, hdoy1⟩, _⟩ := yearOfEra_spec hdoe0 hdoe1
  obtain ⟨⟨hm0, hm1⟩, hday, _⟩ := month_spec hdoy0 hdoy1
  have hdate := ofDayNumber_eq n
  -- The day is taken apart into era, year and day of the year, month and day of the month.
  have hsplit : n + 719468 = (n + 719468) / 146097 * 146097 + dayOfEra (n + 719468) := by
    unfold dayOfEra
    omega
  have hdoy : dayOfEra (n + 719468) = 365 * yearOfEra (dayOfEra (n + 719468)) +
      yearOfEra (dayOfEra (n + 719468)) / 4 - yearOfEra (dayOfEra (n + 719468)) / 100 +
        dayOfYear (dayOfEra (n + 719468)) := by
    unfold dayOfYear
    omega
  have hdom : dayOfYear (dayOfEra (n + 719468)) =
      (153 * monthFromMarch (dayOfYear (dayOfEra (n + 719468))) + 2) / 5 +
        dayOfMonth (dayOfYear (dayOfEra (n + 719468))) - 1 := by
    unfold dayOfMonth
    omega
  rw [hdate]
  generalize dayOfEra (n + 719468) = doe at *
  generalize (n + 719468) / 146097 = era at *
  generalize dayOfMonth (dayOfYear doe) = day at *
  generalize monthFromMarch (dayOfYear doe) = m at *
  generalize dayOfYear doe = doy at *
  generalize yearOfEra doe = yoe at *
  -- Each part is put back, from the month up to the era.
  have hmonth : 1 ≤ monthNumber m ∧ ((monthNumber m).toNat + 9 : Int) % 12 = m := by
    unfold monthNumber
    split <;> omega
  generalize monthNumber m = month at *
  have hyear : (if month.toNat ≤ 2 then (if month ≤ 2 then yoe + era * 400 + 1 else
      yoe + era * 400) - 1 else if month ≤ 2 then yoe + era * 400 + 1 else yoe + era * 400) =
        yoe + era * 400 := by
    split <;> split <;> omega
  have hera : (yoe + era * 400) / 400 = era := by omega
  simp only [dayNumber]
  rw [hyear, hera, Int.add_sub_cancel, hmonth.2]
  omega

end HttpState.Time.Date
