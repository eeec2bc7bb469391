import RunQuery.Calendar

/-!
# Dates and their numbers

The day of a number is a day of the calendar, and its number is that number again.

A year is found by a guess from the average length of a year. The beginnings of years stay within
two days of that average, so the guess is wrong by at most one year, and a comparison with the
beginnings of two years puts it right.
-/

namespace RunQuery.Date

/-! ## Years -/

def daysInYear (year : Int) : Nat := if isLeap year then 366 else 365

theorem yearStart_add_one (year : Int) :
    yearStart (year + 1) = yearStart year + daysInYear year := by
  have hleap : isLeap year = true ↔ year % 4 = 0 ∧ (year % 100 ≠ 0 ∨ year % 400 = 0) := by
    simp [isLeap]
  rw [daysInYear, yearStart, yearStart]
  split
  · next h =>
    have := hleap.mp h
    omega
  · next h =>
    have := mt hleap.mpr h
    omega

/-- The year that the average length of a year suggests for a day. -/
def guessedYear (n : Int) : Int := (n + 719162) * 400 / 146097 + 1

theorem yearStart_guessedYear_sub_one_le (n : Int) : yearStart (guessedYear n - 1) ≤ n := by
  rw [guessedYear, yearStart]
  omega

theorem lt_yearStart_guessedYear_add_two (n : Int) : n < yearStart (guessedYear n + 1 + 1) := by
  rw [guessedYear, yearStart]
  omega

theorem yearOfNumber_bounds (n : Int) :
    yearStart (yearOfNumber n) ≤ n ∧ n < yearStart (yearOfNumber n + 1) := by
  have hlow := yearStart_guessedYear_sub_one_le n
  have hhigh := lt_yearStart_guessedYear_add_two n
  -- the definition, with its guess under the name that the bounds are about
  change yearStart (if n < yearStart (guessedYear n) then guessedYear n - 1
      else if yearStart (guessedYear n + 1) ≤ n then guessedYear n + 1 else guessedYear n) ≤ n ∧
    n < yearStart ((if n < yearStart (guessedYear n) then guessedYear n - 1
      else if yearStart (guessedYear n + 1) ≤ n then guessedYear n + 1 else guessedYear n) + 1)
  split
  · next hearly => exact ⟨hlow, by rwa [Int.sub_add_cancel]⟩
  · next hnotEarly =>
    split
    · next hlate => exact ⟨hlate, hhigh⟩
    · next hnotLate => exact ⟨Int.not_lt.mp hnotEarly, Int.not_le.mp hnotLate⟩

/-! ## Months -/

theorem daysBeforeMonth_one_le (leap : Bool) (dayOfYear : Nat) :
    daysBeforeMonth leap 1 ≤ dayOfYear := by
  cases leap with
  | false => exact Nat.zero_le dayOfYear
  | true => exact Nat.zero_le dayOfYear

theorem daysBeforeMonth_thirteen (year : Int) :
    daysBeforeMonth (isLeap year) 13 = daysInYear year := by
  rw [daysInYear]
  cases isLeap year with
  | false => rfl
  | true => rfl

variable {leap : Bool} {dayOfYear : Nat}

theorem monthOfDay_le (month : Nat) : monthOfDay leap dayOfYear month ≤ month := by
  induction month with
  | zero => exact Nat.le_refl 0
  | succ month ih =>
    rw [monthOfDay]
    split
    · exact Nat.le_refl _
    · exact Nat.le_succ_of_le ih

theorem monthOfDay_pos (month : Nat) : 1 ≤ monthOfDay leap dayOfYear (month + 1) := by
  induction month with
  | zero =>
    rw [monthOfDay]
    split
    · exact Nat.le_refl 1
    · next h => exact absurd (daysBeforeMonth_one_le leap dayOfYear) h
  | succ month ih =>
    rw [monthOfDay]
    split
    · exact Nat.succ_pos _
    · exact ih

theorem monthOfDay_bounds {month : Nat} (h : dayOfYear < daysBeforeMonth leap (month + 2)) :
    daysBeforeMonth leap (monthOfDay leap dayOfYear (month + 1)) ≤ dayOfYear ∧
      dayOfYear < daysBeforeMonth leap (monthOfDay leap dayOfYear (month + 1) + 1) := by
  -- a month that begins too late is the bound from above for the month before it
  induction month with
  | zero =>
    have hfirst := daysBeforeMonth_one_le leap dayOfYear
    rw [monthOfDay, if_pos hfirst]
    exact ⟨hfirst, h⟩
  | succ month ih =>
    rw [monthOfDay]
    split
    · next hle => exact ⟨hle, h⟩
    · next hlt => exact ih (Nat.not_le.mp hlt)

/-! ## Dates -/

/-- What the day of a number is made of: a year, a month and the days before them. -/
theorem ofNumber_spec (n : Int) :
    ∃ year month dayOfYear, ofNumber n
        = ⟨year, month, dayOfYear - daysBeforeMonth (isLeap year) month + 1⟩ ∧
      n = yearStart year + (dayOfYear : Nat) ∧ 1 ≤ month ∧ month ≤ 12 ∧
      daysBeforeMonth (isLeap year) month ≤ dayOfYear ∧
      dayOfYear < daysBeforeMonth (isLeap year) (month + 1) := by
  obtain ⟨hlow, hhigh⟩ := yearOfNumber_bounds n
  rw [yearStart_add_one] at hhigh
  have hday : (n - yearStart (yearOfNumber n)).toNat
      < daysBeforeMonth (isLeap (yearOfNumber n)) (11 + 2) := by
    rw [daysBeforeMonth_thirteen]
    omega
  obtain ⟨hfrom, hto⟩ := monthOfDay_bounds hday
  exact ⟨_, _, _, rfl, by omega, monthOfDay_pos 11, monthOfDay_le 12, hfrom, hto⟩

/-- **The number of the day of a number is that number.** -/
@[simp] theorem toNumber_ofNumber (n : Int) : (ofNumber n).toNumber = n := by
  obtain ⟨year, month, dayOfYear, hdate, hn, -, -, hfrom, -⟩ := ofNumber_spec n
  rw [hdate]
  change yearStart year + daysBeforeMonth (isLeap year) month
    + ((dayOfYear - daysBeforeMonth (isLeap year) month + 1 : Nat) : Int) - 1 = n
  omega

/-- **The day of a number is a day of the calendar.** -/
@[simp] theorem isValid_ofNumber (n : Int) : (ofNumber n).isValid = true := by
  obtain ⟨year, month, dayOfYear, hdate, -, hfirst, hlast, hfrom, hto⟩ := ofNumber_spec n
  rw [hdate, isValid, daysInMonth]
  simp only [Bool.and_eq_true, decide_eq_true_eq]
  omega

/-! ## Widths -/

theorem month_le_of_isValid {d : Date} (h : d.isValid = true) : d.month ≤ 12 := by
  simp only [isValid, Bool.and_eq_true, decide_eq_true_eq] at h
  exact h.1.1.2

theorem day_le_of_isValid {d : Date} (h : d.isValid = true) : d.day ≤ 31 := by
  have hmonths : ∀ leap, ∀ month ≤ 12, daysInMonth leap month ≤ 31 := by decide
  refine Nat.le_trans ?_ (hmonths (isLeap d.year) d.month (month_le_of_isValid h))
  simp only [isValid, Bool.and_eq_true, decide_eq_true_eq] at h
  exact h.2

end RunQuery.Date
