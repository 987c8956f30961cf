import AccessGate.Time.Calendar
import Mathlib

/-!
# Dates and day numbers

The date of a day number is found by guessing the year from the average length of a year, going on
from there, and cutting off the months.  The guess is never late and at most three years early, so
every day number before the year 10000 has a date, and that date has the day number.
-/

namespace AccessGate.CalendarDate

/-- The number of days in a year. -/
def yearLength (year : Nat) : Nat :=
  if isLeap year then 366 else 365

/-! ## Years -/

private theorem isLeap_iff {year : Nat} :
    isLeap year = true ↔ year % 4 = 0 ∧ (year % 100 ≠ 0 ∨ year % 400 = 0) := by
  simp [isLeap]

theorem daysBeforeYear_succ {year : Nat} (positive : 1 ≤ year) :
    daysBeforeYear (year + 1) = daysBeforeYear year + yearLength year := by
  obtain ⟨elapsed, rfl⟩ := Nat.exists_eq_add_of_le' positive
  -- A quotient grows with the year exactly if the year is a multiple of its divisor.
  have grow (divisor : Nat) : (elapsed + 1) / divisor =
      elapsed / divisor + if (elapsed + 1) % divisor = 0 then 1 else 0 := by
    rw [Nat.succ_div]
    simp only [Nat.dvd_iff_mod_eq_zero]
  have century : (elapsed + 1) % 400 = 0 → (elapsed + 1) % 100 = 0 := by omega
  have quarter : (elapsed + 1) % 100 = 0 → (elapsed + 1) % 4 = 0 := by omega
  have fewer : elapsed / 100 ≤ elapsed / 4 := by omega
  simp only [daysBeforeYear, Nat.add_sub_cancel, grow, yearLength, isLeap_iff]
  generalize elapsed / 4 = fourths, elapsed / 100 = hundredths, elapsed / 400 = last at fewer ⊢
  by_cases fourth : (elapsed + 1) % 4 = 0
  · by_cases hundredth : (elapsed + 1) % 100 = 0
    · by_cases whole : (elapsed + 1) % 400 = 0
      · simp only [fourth, hundredth, whole, if_true, ne_eq, not_true, or_true, and_self]
        omega
      · simp only [fourth, hundredth, whole, if_true, if_false, ne_eq, not_true, or_self, and_false]
        omega
    · have part : ¬ (elapsed + 1) % 400 = 0 := mt century hundredth
      simp only [fourth, hundredth, part, if_true, if_false, ne_eq, not_false_eq_true, or_false,
        and_self]
      omega
  · have hundredth : ¬ (elapsed + 1) % 100 = 0 := mt quarter fourth
    have whole : ¬ (elapsed + 1) % 400 = 0 := mt century hundredth
    simp only [fourth, hundredth, whole, if_false, false_and]
    omega

/-- The search reaches the year of a day if it starts early, but not too early. -/
theorem yearFrom_spec {days bound year : Nat} (early : daysBeforeYear year ≤ days)
    (near : days < daysBeforeYear (year + bound + 1)) :
    year ≤ yearFrom days bound year ∧
      daysBeforeYear (yearFrom days bound year) ≤ days ∧
      days < daysBeforeYear (yearFrom days bound year + 1) := by
  induction bound generalizing year with
  | zero => exact ⟨Nat.le_refl _, early, near⟩
  | succ bound induction =>
      rw [yearFrom]
      split
      · next passed =>
        have found := induction passed (by rwa [Nat.add_right_comm year 1 bound])
        exact ⟨by omega, found.2⟩
      · next reached => exact ⟨Nat.le_refl _, early, Nat.lt_of_not_le reached⟩

/-- The guess from the average length of a year is not late, and at most three years early. -/
theorem guess_spec (days : Nat) :
    daysBeforeYear (max 1 (days * 400 / 146097)) ≤ days ∧
      days < daysBeforeYear (max 1 (days * 400 / 146097) + 3 + 1) := by
  rw [daysBeforeYear, daysBeforeYear]
  omega

private theorem year_spec (days : Nat) :
    ∃ year, 1 ≤ year ∧ yearFrom days 3 (max 1 (days * 400 / 146097)) = year ∧
      daysBeforeYear year ≤ days ∧ days < daysBeforeYear year + yearLength year := by
  obtain ⟨early, near⟩ := guess_spec days
  obtain ⟨later, reached, within⟩ := yearFrom_spec early near
  have positive := Nat.le_trans (Nat.le_max_left 1 _) later
  exact ⟨_, positive, rfl, reached, daysBeforeYear_succ positive ▸ within⟩

private theorem daysBeforeYear_mono {earlier later : Nat} (le : earlier ≤ later) :
    daysBeforeYear earlier ≤ daysBeforeYear later := by
  induction le with
  | refl => exact Nat.le_refl _
  | @step year _ induction =>
      rcases Nat.eq_zero_or_pos year with rfl | positive
      · exact induction
      · rw [Nat.succ_eq_add_one, daysBeforeYear_succ positive]
        omega

/-! ## Months -/

private theorem sum_monthLengths (year : Nat) : (monthLengths year).sum = yearLength year := by
  rw [monthLengths, yearLength]
  split <;> rfl

private theorem splitMonths_spec (month : Nat) {day : Nat} {lengths : List Nat}
    (short : day < lengths.sum) :
    ∃ place length, lengths[place]? = some length ∧
      (lengths.take place).sum ≤ day ∧ day < (lengths.take place).sum + length ∧
      splitMonths month day lengths = (month + place, day - (lengths.take place).sum + 1) := by
  induction lengths generalizing month day with
  | nil => exact absurd short (Nat.not_lt_zero _)
  | cons length lengths induction =>
      rw [splitMonths]
      split
      · next within => exact ⟨0, length, rfl, Nat.zero_le _, by simpa using within, rfl⟩
      · next behind =>
        rw [List.sum_cons] at short
        have later : day - length < lengths.sum := by omega
        obtain ⟨place, found, listed, low, high, split⟩ := induction (month + 1) later
        refine ⟨place + 1, found, listed, ?_, ?_, ?_⟩
        · rw [List.take_succ_cons, List.sum_cons]
          omega
        · rw [List.take_succ_cons, List.sum_cons]
          omega
        · rw [split, List.take_succ_cons, List.sum_cons]
          congr 1 <;> omega

/-! ## Dates -/

/-- Every day before the year 10000 has a date. -/
theorem ofDayNumber_spec {days : Nat} (inRange : days < daysBeforeYear 10000) :
    (ofDayNumber days).isValid = true ∧ (ofDayNumber days).dayNumber = days := by
  obtain ⟨year, positive, found, reached, within⟩ := year_spec days
  have before : year ≤ 9999 := by
    apply Nat.le_of_lt_succ
    apply Nat.lt_of_not_le
    intro late
    exact absurd inRange (Nat.not_lt.mpr (Nat.le_trans (daysBeforeYear_mono late) reached))
  have inYear : days - daysBeforeYear year < (monthLengths year).sum := by
    rw [sum_monthLengths]
    omega
  obtain ⟨place, length, listed, low, high, split⟩ := splitMonths_spec 1 inYear
  have dated : ofDayNumber days = ⟨year, 1 + place,
      days - daysBeforeYear year - ((monthLengths year).take place).sum + 1⟩ := by
    simp only [ofDayNumber, found, split]
  have months : place < 12 := (List.getElem?_eq_some_iff.mp listed).1
  rw [dated]
  constructor
  · simp only [isValid, Nat.add_sub_cancel_left, listed, Option.getD_some, Bool.and_eq_true,
      decide_eq_true_eq]
    omega
  · simp only [dayNumber, daysBeforeMonth, Nat.add_sub_cancel_left, Nat.add_sub_cancel,
      ← List.sum_eq_foldl]
    omega

end AccessGate.CalendarDate
