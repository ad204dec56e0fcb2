import DeviceFleet.Instant.Calendar

/-! Days and dates. The date of every day is in the calendar, the days of that date are the
day again, and it is in the year of the date. Everything rests on the place of a day in its
era: the era is cut into centuries, these into groups of four years, these into years. -/

namespace DeviceFleet.Calendar

/-! ### The place of a day in its era -/

/-- The place of a day in an era of 400 years: day `e` of year `j` of the four years `k`
of the century `c`. The last day is there in leap years only. -/
structure Place (doe c k j e : Int) : Prop where
  sum : doe = 36524 * c + 1461 * k + 365 * j + e
  century : 0 ≤ c ∧ c ≤ 3
  four : 0 ≤ k ∧ k ≤ 24
  year : 0 ≤ j ∧ j ≤ 3
  day : 0 ≤ e ∧ e ≤ 365
  leap : e = 365 → j = 3 ∧ (k < 24 ∨ c = 3)

/-- Every day of an era has a place. -/
theorem exists_place (doe : Int) (h0 : 0 ≤ doe) (h1 : doe < 146097) :
    ∃ c k j e, Place doe c k j e := by
  obtain ⟨c, hc⟩ : ∃ c, c = min (doe / 36524) 3 := ⟨_, rfl⟩
  obtain ⟨r, hr⟩ : ∃ r, r = doe - 36524 * c := ⟨_, rfl⟩
  obtain ⟨k, hk⟩ : ∃ k, k = r / 1461 := ⟨_, rfl⟩
  obtain ⟨s, hs⟩ : ∃ s, s = r - 1461 * k := ⟨_, rfl⟩
  obtain ⟨j, hj⟩ : ∃ j, j = min (s / 365) 3 := ⟨_, rfl⟩
  have hr' : 0 ≤ r ∧ r ≤ 36524 ∧ (c < 3 → r ≤ 36523) := by omega
  have hs' : 0 ≤ s ∧ s ≤ 1460 := by omega
  exact ⟨c, k, j, s - 365 * j, by omega, by omega, by omega, by omega, by omega, by omega⟩

theorem Place.yearOfEra {doe c k j e : Int} (p : Place doe c k j e) :
    (doe - doe / 1460 + doe / 36524 - doe / 146096) / 365 = 100 * c + 4 * k + j := by
  obtain ⟨sum, century, four, year, day, leap⟩ := p
  have h₁ : doe / 36524 = c ∨ doe = 146096 := by omega
  rcases h₁ with h | h
  · have h₂ : doe / 146096 = 0 := by omega
    have h₃ : doe / 1460 = 25 * c + k ∧ e ≤ 364 ∨ doe / 1460 = 25 * c + k + 1 ∧ 1 ≤ e := by omega
    omega
  · omega

/-- The day of the year, counted from the first of March. -/
theorem Place.dayOfYear {doe c k j e : Int} (p : Place doe c k j e) :
    doe - (365 * (100 * c + 4 * k + j) + (100 * c + 4 * k + j) / 4 -
      (100 * c + 4 * k + j) / 100) = e := by
  obtain ⟨sum, century, four, year, day, leap⟩ := p
  have h₁ : (100 * c + 4 * k + j) / 4 = 25 * c + k := by omega
  have h₂ : (100 * c + 4 * k + j) / 100 = c := by omega
  omega

/-! ### Months -/

def monthOf (e : Int) : Nat :=
  (if (5 * e + 2) / 153 < 10 then (5 * e + 2) / 153 + 3 else (5 * e + 2) / 153 - 9).toNat

def dayOf (e : Int) : Nat := (e - (153 * ((5 * e + 2) / 153) + 2) / 5 + 1).toNat

theorem ofDays_of_place {days c k j e : Int} (p : Place ((days + 719468) % 146097) c k j e) :
    ofDays days =
      { year := 100 * c + 4 * k + j + (days + 719468) / 146097 * 400 +
          if monthOf e ≤ 2 then 1 else 0
        month := monthOf e
        day := dayOf e } := by
  simp only [ofDays, p.yearOfEra, p.dayOfYear, monthOf, dayOf]
  rfl

theorem monthOf_cases {e : Int} (h : 0 ≤ e ∧ e ≤ 365) :
    1 ≤ monthOf e ∧ monthOf e ≤ 12 ∧
      (((monthOf e + 9) % 12 : Nat) : Int) = (5 * e + 2) / 153 := by
  simp only [monthOf]
  split <;> omega

theorem toDays_ofDays (days : Int) : toDays (ofDays days) = days := by
  obtain ⟨c, k, j, e, p⟩ := exists_place ((days + 719468) % 146097) (by omega) (by omega)
  obtain ⟨-, -, hm⟩ := monthOf_cases p.day
  have hd : ((dayOf e : Nat) : Int) = e - (153 * ((5 * e + 2) / 153) + 2) / 5 + 1 := by
    have := p.day
    simp only [dayOf]
    omega
  rw [ofDays_of_place p]
  simp only [toDays, hm, hd]
  obtain ⟨sum, century, four, year, day, leap⟩ := p
  obtain ⟨yoe, hyoe⟩ : ∃ yoe, yoe = 100 * c + 4 * k + j := ⟨_, rfl⟩
  have h₁ : yoe / 4 = 25 * c + k := by omega
  have h₂ : yoe / 100 = c := by omega
  rw [← hyoe]
  have hy : (if monthOf e ≤ 2 then yoe + (days + 719468) / 146097 * 400 +
      (if monthOf e ≤ 2 then 1 else 0) - 1 else yoe + (days + 719468) / 146097 * 400 +
      (if monthOf e ≤ 2 then 1 else 0)) = yoe + (days + 719468) / 146097 * 400 := by
    split <;> omega
  rw [hy]
  have h₃ : (yoe + (days + 719468) / 146097 * 400) / 400 = (days + 719468) / 146097 := by omega
  have h₄ : (yoe + (days + 719468) / 146097 * 400) % 400 = yoe := by omega
  rw [h₃, h₄]
  omega

/-- No month of any year is too short for a day before the last of the year. -/
theorem dayOf_le {e : Int} (h : 0 ≤ e ∧ e < 365) (year : Int) :
    dayOf e ≤ monthLength year (monthOf e) := by
  simp only [monthLength]
  split
  · rename_i february
    have : 28 ≤ if isLeap year = true then 29 else 28 := by split <;> omega
    simp only [monthOf, dayOf] at *
    omega
  all_goals
    simp only [monthOf, dayOf] at *
    omega

/-- The last day of a year is the 29th of February, and there is one. -/
theorem Place.leapDay {doe c k j e : Int} (p : Place doe c k j e) (he : e = 365) (era : Int) :
    dayOf e ≤ monthLength (100 * c + 4 * k + j + era * 400 + 1) (monthOf e) := by
  obtain ⟨hj, hk⟩ := p.leap he
  have century := p.century
  have four := p.four
  have leap : isLeap (100 * c + 4 * k + j + era * 400 + 1) = true := by
    simp only [isLeap, Bool.and_eq_true, Bool.or_eq_true, decide_eq_true_eq]
    omega
  have hm : monthOf 365 = 2 := by decide
  have hd : dayOf 365 = 29 := by decide
  rw [he, hm, hd]
  simp only [monthLength, leap, if_true]
  exact Nat.le_refl 29

theorem valid_ofDays (days : Int) : (ofDays days).Valid := by
  obtain ⟨c, k, j, e, p⟩ := exists_place ((days + 719468) % 146097) (by omega) (by omega)
  have day := p.day
  obtain ⟨h₁, h₂, hm⟩ := monthOf_cases day
  rw [ofDays_of_place p]
  refine ⟨h₁, h₂, ?_, ?_⟩
  · simp only [dayOf]
    omega
  · by_cases he : e = 365
    · have hm : monthOf e ≤ 2 := by
        rw [he]
        decide
      simp only [hm, if_true]
      exact p.leapDay he _
    · exact dayOf_le (by omega) _

/-! ### Years -/

/-- The days from the first of March of the year zero to that of another year. -/
def daysBefore (y : Int) : Int := 365 * y + y / 4 - y / 100 + y / 400

theorem toDays_eq (d : Date) :
    toDays d = daysBefore (if d.month ≤ 2 then d.year - 1 else d.year) +
      (153 * (((d.month + 9) % 12 : Nat) : Int) + 2) / 5 + d.day - 719469 := by
  simp only [toDays, daysBefore]
  obtain ⟨y, hy⟩ : ∃ y, y = if d.month ≤ 2 then d.year - 1 else d.year := ⟨_, rfl⟩
  rw [← hy]
  have h₁ : y % 400 / 4 = y / 4 - 100 * (y / 400) := by omega
  have h₂ : y % 400 / 100 = y / 100 - 4 * (y / 400) := by omega
  omega

theorem yearStart_eq (y : Int) : yearStart y = daysBefore (y - 1) - 719162 := by
  rw [yearStart, toDays_eq]
  have march : (153 * (((1 + 9) % 12 : Nat) : Int) + 2) / 5 = 306 := by decide
  simp only [march, show 1 ≤ 2 by decide, if_true]
  omega

theorem daysBefore_add_le {a b : Int} (h : a < b) : daysBefore a + 365 ≤ daysBefore b := by
  simp only [daysBefore]
  omega

theorem yearStart_mono {a b : Int} (h : a ≤ b) : yearStart a ≤ yearStart b := by
  rw [yearStart_eq, yearStart_eq]
  rcases Int.lt_or_eq_of_le h with h | rfl
  · have := daysBefore_add_le (show a - 1 < b - 1 by omega)
    omega
  · omega

theorem monthLength_le (year : Int) (month : Nat) : monthLength year month ≤ 31 := by
  simp only [monthLength]
  split <;> (try split) <;> omega

/-- A date lies between the first day of its year and that of the next. -/
theorem toDays_mem_year {d : Date} (h : d.Valid) :
    yearStart d.year ≤ toDays d ∧ toDays d < yearStart (d.year + 1) := by
  obtain ⟨m₁, m₁₂, d₁, dl⟩ := h
  have d₃₁ := Nat.le_trans dl (monthLength_le d.year d.month)
  have next := daysBefore_add_le (show d.year - 1 < d.year by omega)
  rw [toDays_eq, yearStart_eq, yearStart_eq, show d.year + 1 - 1 = d.year by omega]
  by_cases hm : d.month ≤ 2
  · rw [if_pos hm]
    omega
  · rw [if_neg hm]
    omega

/-- The years of the days from the start of one year to the end of another. -/
theorem year_ofDays {a b days : Int} (h : yearStart a ≤ days ∧ days < yearStart (b + 1)) :
    a ≤ (ofDays days).year ∧ (ofDays days).year ≤ b := by
  obtain ⟨lo, hi⟩ := toDays_mem_year (valid_ofDays days)
  rw [toDays_ofDays] at lo hi
  constructor
  · apply Int.not_lt.1
    intro lt
    have := yearStart_mono (show (ofDays days).year + 1 ≤ a by omega)
    omega
  · apply Int.not_lt.1
    intro lt
    have := yearStart_mono (show b + 1 ≤ (ofDays days).year by omega)
    omega

end DeviceFleet.Calendar
