import Audience.Time.Civil

/-! # Day numbers and dates

Every day number is the day number of its date, and that date is in the calendar. An era of four
hundred years is counted in years that start in March, so the day of an era splits into a year and a
day of that year. Counting days without leap days is monotone, so the bounds of a year need to be
checked at its two ends only.

* **`Civil.toDays_ofDays`** — the date of a day number has that day number.
* **`Civil.isValid_ofDays`** — the date of a day number is in the calendar. -/

namespace Audience.Civil

/-! ## The years of an era -/

/-- The days of an era before its year `y`. -/
def daysBeforeYear (y : Nat) : Nat := 365 * y + y / 4 - y / 100

/-- The days of year `y` of an era. Its last month is the February of the next civil year. -/
def yearLength (y : Nat) : Nat := if isLeap (y + 1 : Nat) then 366 else 365

/-- The days of an era before day `d`, without the leap days among them. -/
def plainDays (d : Nat) : Nat := d - d / 1460 + d / 36524 - d / 146096

/-- The year of an era that its day `d` belongs to. -/
def yearOfDay (d : Nat) : Nat := plainDays d / 365

/-- No later day has fewer days before it. -/
theorem plainDays_mono {a b : Nat} (h : a ≤ b) : plainDays a ≤ plainDays b := by
  induction h with
  | refl => exact Nat.le_refl _
  | step _ ih =>
    refine Nat.le_trans ih ?_
    rw [plainDays, plainDays]
    omega

/-- The first and the last day of a year belong to it. -/
theorem plainDays_year_ends : ∀ y < 400, 365 * y ≤ plainDays (daysBeforeYear y) ∧
    plainDays (daysBeforeYear y + yearLength y - 1) < 365 * (y + 1) := by
  decide +kernel

/-- A year starts when the one before it has ended. -/
theorem daysBeforeYear_succ : ∀ y < 399,
    daysBeforeYear (y + 1) = daysBeforeYear y + yearLength y := by
  decide +kernel

/-- An era has four hundred years. -/
theorem yearOfDay_lt {d : Nat} (h : d < 146097) : yearOfDay d < 400 := by
  have hmono : plainDays d ≤ plainDays 146096 := plainDays_mono (by omega)
  have hlast : plainDays 146096 = 145999 := by decide
  rw [yearOfDay]
  omega

/-- The year of a day has started. -/
theorem daysBeforeYear_le {d : Nat} (h : d < 146097) : daysBeforeYear (yearOfDay d) ≤ d := by
  have hlt := yearOfDay_lt h
  have hdiv : 365 * yearOfDay d ≤ plainDays d := Nat.mul_div_le _ _
  generalize yearOfDay d = y at *
  apply Nat.le_of_not_lt
  intro hd
  -- otherwise the day is at most the last one of the year before
  cases y with
  | zero => exact absurd hd (by simp [daysBeforeYear])
  | succ y =>
    rw [daysBeforeYear_succ y (by omega)] at hd
    have hmono : plainDays d ≤ plainDays (daysBeforeYear y + yearLength y - 1) :=
      plainDays_mono (by omega)
    have hend := (plainDays_year_ends y (by omega)).2
    omega

/-- The year of a day has not ended. -/
theorem lt_yearEnd {d : Nat} (h : d < 146097) :
    d < daysBeforeYear (yearOfDay d) + yearLength (yearOfDay d) := by
  have hlt := yearOfDay_lt h
  have hdiv : plainDays d < 365 * (yearOfDay d + 1) := Nat.lt_mul_div_succ _ (by decide)
  generalize yearOfDay d = y at *
  by_cases hlast : y = 399
  · subst hlast
    exact h
  · apply Nat.lt_of_not_le
    intro hd
    -- otherwise the day is at least the first one of the next year
    rw [← daysBeforeYear_succ y (by omega)] at hd
    have hmono := plainDays_mono hd
    have hstart := (plainDays_year_ends (y + 1) (by omega)).1
    omega

/-- A year has at most one leap day. -/
theorem yearLength_le (y : Nat) : yearLength y ≤ 366 := by
  rw [yearLength]
  split <;> omega

/-! ## Dates of a year -/

/-- The date of day `k` of year `y` of an era. -/
def ofYearDay (era : Int) (y k : Nat) : Civil :=
  let m := (5 * k + 2) / 153
  let month := if m < 10 then m + 3 else m - 9
  let year : Int := (y : Int) + era * 400
  ⟨if month ≤ 2 then year + 1 else year, month, k - daysBefore m + 1⟩

/-- The date of a day number, by the year of its era and the day of that year. -/
theorem ofDays_eq (n : Int) :
    ofDays n =
      let d := ((n + epochShift) % eraDays).toNat
      ofYearDay ((n + epochShift) / eraDays) (yearOfDay d) (d - daysBeforeYear (yearOfDay d)) :=
  rfl

/-- A day of a year lies within its month; months are counted from March. -/
theorem day_of_month {k : Nat} (hk : k ≤ 365) :
    (5 * k + 2) / 153 ≤ 11 ∧ daysBefore ((5 * k + 2) / 153) ≤ k ∧
      k < daysBefore ((5 * k + 2) / 153 + 1) := by
  simp only [daysBefore]
  omega

/-- The day number of the date of a day of a year. -/
theorem toDays_ofYearDay (era : Int) {y k : Nat} (hy : y < 400) (hk : k ≤ 365) :
    (ofYearDay era y k).toDays = era * eraDays + (daysBeforeYear y + k : Nat) - epochShift := by
  obtain ⟨hm, hbefore, -⟩ := day_of_month hk
  rw [ofYearDay, toDays]
  simp only [daysBeforeYear, eraDays]
  generalize (5 * k + 2) / 153 = m at *
  -- January and February come last and belong to the next civil year
  by_cases h10 : m < 10
  · have hmonth : ¬m + 3 ≤ 2 := by omega
    simp only [h10, hmonth, if_true, if_false, Nat.add_sub_cancel]
    omega
  · have hmonth : m - 9 ≤ 2 := by omega
    have hback : m - 9 + 9 = m := by omega
    simp only [h10, hmonth, if_true, if_false, hback]
    omega

/-- Leap years repeat with the eras. -/
theorem isLeap_add_era (year era : Int) : isLeap (year + era * 400) = isLeap year := by
  simp only [isLeap, decide_eq_decide]
  omega

/-- The date of a day of a year is in the calendar. -/
theorem isValid_ofYearDay (era : Int) {y k : Nat} (hk : k < yearLength y) :
    (ofYearDay era y k).isValid = true := by
  have hle : k ≤ 365 := by
    have := yearLength_le y
    omega
  obtain ⟨hm, hlo, hhi⟩ := day_of_month hle
  rw [ofYearDay, isValid]
  simp only [decide_eq_true_eq]
  generalize (5 * k + 2) / 153 = m at *
  by_cases hfeb : m = 11
  · -- February: its last day is there when the year that it belongs to is a leap year
    subst hfeb
    have hyear : (y : Int) + era * 400 + 1 = ((y + 1 : Nat) : Int) + era * 400 := by omega
    simp only [daysBefore, yearLength] at hlo hhi hk
    simp only [monthLength, daysBefore, if_neg (show ¬11 < 10 by decide),
      if_pos (show 11 - 9 ≤ 2 by decide), hyear, isLeap_add_era]
    split at hk
    · rename_i hleap
      simp only [hleap, if_true]
      omega
    · rename_i hleap
      simp only [hleap, if_true, Bool.false_eq_true, if_false]
      omega
  · -- every other month has the same length in all years
    simp only [monthLength, daysBefore] at *
    have hcases : m = 0 ∨ m = 1 ∨ m = 2 ∨ m = 3 ∨ m = 4 ∨ m = 5 ∨ m = 6 ∨ m = 7 ∨ m = 8 ∨
        m = 9 ∨ m = 10 := by omega
    rcases hcases with rfl | rfl | rfl | rfl | rfl | rfl | rfl | rfl | rfl | rfl | rfl <;>
      simp <;> omega

/-! ## Dates of day numbers -/

/-- The day of its era that a day number is. -/
theorem dayOfEra_lt (n : Int) : ((n + epochShift) % eraDays).toNat < 146097 := by
  unfold eraDays
  omega

/-- The date of a day number has that day number. -/
theorem toDays_ofDays (n : Int) : (ofDays n).toDays = n := by
  have hd := dayOfEra_lt n
  have hlo := daysBeforeYear_le hd
  have hhi := lt_yearEnd hd
  have hlen := yearLength_le (yearOfDay ((n + epochShift) % eraDays).toNat)
  rw [ofDays_eq, toDays_ofYearDay _ (yearOfDay_lt hd) (by omega), Nat.add_sub_cancel' hlo]
  unfold eraDays
  omega

/-- The date of a day number is in the calendar. -/
theorem isValid_ofDays (n : Int) : (ofDays n).isValid = true := by
  have hd := dayOfEra_lt n
  have hlo := daysBeforeYear_le hd
  have hhi := lt_yearEnd hd
  rw [ofDays_eq]
  exact isValid_ofYearDay _ (by omega)

end Audience.Civil
