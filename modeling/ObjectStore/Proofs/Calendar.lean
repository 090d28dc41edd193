import Mathlib.Algebra.BigOperators.Group.List.Basic
import Mathlib.Algebra.GroupWithZero.Nat
import ObjectStore.Calendar

/-!
The date of a day is a date of the calendar, and counts back to that day.
-/

namespace ObjectStore.Calendar

structure Date.IsValid (date : Date) : Prop where
  month : 1 ≤ date.month ∧ date.month ≤ 12
  day : 1 ≤ date.day ∧ date.day ≤ monthLength date.year date.month

/-! ### Years -/

theorem yearOfDays_bounds (days : Int) :
    daysBeforeYear (yearOfDays days) ≤ days ∧ days < daysBeforeYear (yearOfDays days + 1) := by
  unfold yearOfDays
  dsimp only
  split
  · simp only [daysBeforeYear] at *
    omega
  · split
    · simp only [daysBeforeYear] at *
      omega
    · simp only [daysBeforeYear] at *
      omega

theorem sum_monthLengths (year : Int) :
    ((monthLengths year).sum : Int) = daysBeforeYear (year + 1) - daysBeforeYear year := by
  have leap : isLeapYear year = true ↔ year % 4 = 0 ∧ (year % 100 ≠ 0 ∨ year % 400 = 0) := by
    simp [isLeapYear]
  by_cases isLeap : isLeapYear year = true
  · have rule := leap.1 isLeap
    simp only [monthLengths, isLeap, if_true, daysBeforeYear, List.sum_cons, List.sum_nil]
    omega
  · have rule := mt leap.2 isLeap
    simp only [monthLengths, isLeap, Bool.false_eq_true, if_false, daysBeforeYear, List.sum_cons, List.sum_nil]
    omega

/-! ### Months -/

theorem monthAndDay_spec (month : Nat) {dayOfYear : Nat} {lengths : List Nat} (inYear : dayOfYear < lengths.sum) :
    ∃ index day, monthAndDay month dayOfYear lengths = (month + index, day) ∧ index < lengths.length ∧
      1 ≤ day ∧ day ≤ lengths.getD index 0 ∧ (lengths.take index).sum + day = dayOfYear + 1 := by
  induction lengths generalizing month dayOfYear with
  | nil => simp at inYear
  | cons length rest ih =>
      rw [monthAndDay]
      split
      · rename_i inMonth
        exact ⟨0, dayOfYear + 1, rfl, by simp, by omega, Nat.succ_le_of_lt inMonth, by simp⟩
      · rename_i later
        have inRest : dayOfYear - length < rest.sum := by
          rw [List.sum_cons] at inYear
          omega
        obtain ⟨index, day, found, inLengths, positive, bound, counted⟩ := ih (month + 1) inRest
        refine ⟨index + 1, day, ?_, by simpa using inLengths, positive, by simpa using bound, ?_⟩
        · rw [found]
          congr 1
          omega
        · rw [List.take_succ_cons, List.sum_cons]
          omega

theorem daysBeforeMonth_eq (year : Int) (month : Nat) :
    daysBeforeMonth year month = ((monthLengths year).take (month - 1)).sum :=
  (List.sum_eq_foldl ..).symm

/-- The date of a day: which year it is in, and where in that year. -/
theorem ofDays_spec (days : Int) :
    (Date.ofDays days).IsValid ∧ (Date.ofDays days).toDays = days := by
  have bounds := yearOfDays_bounds days
  have total := sum_monthLengths (yearOfDays days)
  have inYear : (days - daysBeforeYear (yearOfDays days)).toNat < (monthLengths (yearOfDays days)).sum := by omega
  obtain ⟨index, day, found, inLengths, positive, bound, counted⟩ := monthAndDay_spec 1 inYear
  have date : Date.ofDays days = ⟨yearOfDays days, 1 + index, day⟩ := by
    simp only [Date.ofDays, found]
  have months : (monthLengths (yearOfDays days)).length = 12 := rfl
  have before : 1 + index - 1 = index := by omega
  rw [date]
  refine ⟨⟨⟨by dsimp only; omega, by dsimp only; omega⟩, positive, ?_⟩, ?_⟩
  · dsimp only
    rw [monthLength, before]
    exact bound
  · rw [Date.toDays, daysBeforeMonth_eq]
    dsimp only
    rw [before]
    omega

/-! ### Dates -/

theorem daysBeforeYear_mono {year other : Int} (later : year ≤ other) : daysBeforeYear year ≤ daysBeforeYear other := by
  have fourths : (year - 1) / 4 ≤ (other - 1) / 4 := by omega
  have hundredths : (other - 1) / 100 - (year - 1) / 100 ≤ other - year := by omega
  have fourHundredths : (year - 1) / 400 ≤ (other - 1) / 400 := by omega
  simp only [daysBeforeYear]
  omega

theorem yearOfDays_eq {year days : Int} (first : daysBeforeYear year ≤ days) (last : days < daysBeforeYear (year + 1)) :
    yearOfDays days = year := by
  obtain ⟨lower, upper⟩ := yearOfDays_bounds days
  rcases Int.lt_trichotomy (yearOfDays days) year with earlier | same | later
  · have ended := daysBeforeYear_mono (Int.add_one_le_of_lt earlier)
    omega
  · exact same
  · have begun := daysBeforeYear_mono (Int.add_one_le_of_lt later)
    omega

theorem daysBeforeMonth_add_le (year : Int) (month : Nat) :
    daysBeforeMonth year month + monthLength year month ≤ (monthLengths year).sum := by
  rw [daysBeforeMonth_eq, monthLength]
  generalize monthLengths year = lengths
  generalize month - 1 = index
  induction lengths generalizing index with
  | nil => simp
  | cons length rest ih =>
      cases index with
      | zero => simp
      | succ index =>
          have later := ih index
          rw [List.take_succ_cons, List.sum_cons, List.sum_cons, List.getD_cons_succ]
          omega

theorem year_ofDays_toDays {date : Date} (isValid : date.IsValid) : (Date.ofDays date.toDays).year = date.year := by
  have inYear := daysBeforeMonth_add_le date.year date.month
  have total := sum_monthLengths date.year
  obtain ⟨first, last⟩ := isValid.day
  refine yearOfDays_eq ?_ ?_
  · rw [Date.toDays]
    omega
  · rw [Date.toDays]
    omega

end ObjectStore.Calendar
