import Mathlib.Logic.Function.Iterate
import ObjectStore.Proofs.Calendar
import ObjectStore.Timestamp

/-!
What a calendar and a clock on the wall show. A nanosecond later they show what follows by the rules of carrying:
seconds into minutes, minutes into hours, hours into days, days into months of their own lengths, and months into
years. Adding nanoseconds to a time is so many of these steps, forwards or backwards.
-/

namespace ObjectStore

namespace Calendar

def Date.next (date : Date) : Date :=
  if date.day < monthLength date.year date.month then { date with day := date.day + 1 }
  else if date.month < 12 then ⟨date.year, date.month + 1, 1⟩
  else ⟨date.year + 1, 1, 1⟩

/-! ### Months -/

theorem daysBeforeMonth_succ (year : Int) {month : Nat} (positive : 1 ≤ month) :
    daysBeforeMonth year (month + 1) = daysBeforeMonth year month + monthLength year month := by
  obtain ⟨index, rfl⟩ : ∃ index, month = index + 1 := ⟨month - 1, by omega⟩
  rw [daysBeforeMonth_eq, daysBeforeMonth_eq, monthLength, Nat.add_sub_cancel, Nat.add_sub_cancel, List.take_add_one,
    List.sum_append, List.getD_eq_getElem?_getD]
  cases (monthLengths year)[index]? <;> simp

theorem daysBeforeMonth_mono (year : Int) {month other : Nat} (positive : 1 ≤ month) (later : month ≤ other) :
    daysBeforeMonth year month ≤ daysBeforeMonth year other := by
  induction later with
  | refl => exact Nat.le_refl _
  | step later ih =>
      rw [daysBeforeMonth_succ year (Nat.le_trans positive later)]
      omega

theorem monthLength_pos (year : Int) {month : Nat} (isMonth : 1 ≤ month ∧ month ≤ 12) : 1 ≤ monthLength year month := by
  have lengths : ∀ length ∈ monthLengths year, 1 ≤ length := by
    simp only [monthLengths, List.mem_cons, List.not_mem_nil, or_false]
    rintro length (rfl | rfl | rfl | rfl | rfl | rfl | rfl | rfl | rfl | rfl | rfl | rfl)
    all_goals (try split) <;> omega
  have inYear : month - 1 < (monthLengths year).length := by
    change month - 1 < 12
    omega
  rw [monthLength, List.getD_eq_getElem?_getD, List.getElem?_eq_getElem inYear]
  exact lengths _ (List.getElem_mem inYear)

theorem daysInYear (year : Int) : daysBeforeMonth year 12 + monthLength year 12 = (monthLengths year).sum := by
  rw [← daysBeforeMonth_succ year (by decide), daysBeforeMonth_eq]
  rfl

/-! ### Days -/

theorem Date.IsValid.eq_of_toDays_eq {date other : Date} (isValid : date.IsValid) (otherValid : other.IsValid)
    (same : date.toDays = other.toDays) : date = other := by
  have year : date.year = other.year := by
    rw [← year_ofDays_toDays isValid, same, year_ofDays_toDays otherValid]
  obtain ⟨year, month, day⟩ := date
  obtain ⟨_, otherMonth, otherDay⟩ := other
  dsimp only at year
  subst year
  have apart {earlier later earlierDay laterDay : Nat} (first : Date.IsValid ⟨year, earlier, earlierDay⟩)
      (second : Date.IsValid ⟨year, later, laterDay⟩) (sooner : earlier < later) :
      Date.toDays ⟨year, earlier, earlierDay⟩ < Date.toDays ⟨year, later, laterDay⟩ := by
    have ended := daysBeforeMonth_mono year (Nat.le_add_left 1 earlier) sooner
    rw [daysBeforeMonth_succ year first.month.1] at ended
    have lastDay := first.day.2
    have firstDay := second.day.1
    simp only [Date.toDays] at ended lastDay firstDay ⊢
    omega
  rcases Nat.lt_trichotomy month otherMonth with sooner | rfl | later
  · have less := apart isValid otherValid sooner
    omega
  · have positive := isValid.day.1
    have otherPositive := otherValid.day.1
    simp only [Date.toDays] at same positive otherPositive
    have sameDay : day = otherDay := by omega
    rw [sameDay]
  · have less := apart otherValid isValid later
    omega

theorem Date.IsValid.next {date : Date} (isValid : date.IsValid) :
    date.next.IsValid ∧ date.next.toDays = date.toDays + 1 := by
  obtain ⟨isMonth, firstDay, lastDay⟩ := isValid
  unfold Date.next
  split
  · rename_i goesOn
    refine ⟨⟨isMonth, Nat.le_add_left 1 _, goesOn⟩, ?_⟩
    simp only [Date.toDays]
    omega
  · rename_i monthEnds
    split
    · rename_i yearGoesOn
      have isNext : 1 ≤ date.month + 1 ∧ date.month + 1 ≤ 12 := ⟨Nat.le_add_left 1 _, yearGoesOn⟩
      refine ⟨⟨isNext, Nat.le_refl 1, monthLength_pos date.year isNext⟩, ?_⟩
      simp only [Date.toDays, daysBeforeMonth_succ date.year isMonth.1]
      omega
    · rename_i yearEnds
      have december : date.month = 12 := by omega
      have days := daysInYear date.year
      have total := sum_monthLengths date.year
      have january : daysBeforeMonth (date.year + 1) 1 = 0 := rfl
      have isFirst : 1 ≤ 1 ∧ 1 ≤ 12 := by decide
      refine ⟨⟨isFirst, Nat.le_refl 1, monthLength_pos (date.year + 1) isFirst⟩, ?_⟩
      rw [december] at lastDay monthEnds
      simp only [Date.toDays, january, december]
      omega

/-- Days are counted as the calendar goes on. -/
theorem ofDays_succ (days : Int) : Date.ofDays (days + 1) = (Date.ofDays days).next := by
  obtain ⟨isValid, counted⟩ := ofDays_spec days
  obtain ⟨nextValid, nextCounted⟩ := ofDays_spec (days + 1)
  apply nextValid.eq_of_toDays_eq isValid.next.1
  rw [nextCounted, isValid.next.2, counted]

theorem year_ofDays (days : Int) : (Date.ofDays days).year = yearOfDays days :=
  rfl

theorem le_yearOfDays_iff {year days : Int} : year ≤ yearOfDays days ↔ daysBeforeYear year ≤ days := by
  obtain ⟨first, last⟩ := yearOfDays_bounds days
  constructor
  · intro reached
    exact Int.le_trans (daysBeforeYear_mono reached) first
  · intro reached
    by_contra earlier
    have ended := daysBeforeYear_mono (Int.add_one_le_of_lt (Int.not_le.1 earlier))
    omega

end Calendar

structure WallClock where
  date : Calendar.Date
  hour : Nat
  minute : Nat
  second : Nat
  nano : Nat
deriving DecidableEq, Repr

namespace WallClock

/-- A nanosecond later. -/
def tick (shown : WallClock) : WallClock :=
  if shown.nano < 999999999 then { shown with nano := shown.nano + 1 }
  else if shown.second < 59 then { shown with second := shown.second + 1, nano := 0 }
  else if shown.minute < 59 then { shown with minute := shown.minute + 1, second := 0, nano := 0 }
  else if shown.hour < 23 then { shown with hour := shown.hour + 1, minute := 0, second := 0, nano := 0 }
  else ⟨shown.date.next, 0, 0, 0, 0⟩

def ofNanos (date : Calendar.Date) (nanosOfDay : Nat) : WallClock :=
  let secondOfDay := nanosOfDay / 1000000000
  ⟨date, secondOfDay / 3600, secondOfDay / 60 % 60, secondOfDay % 60, nanosOfDay % 1000000000⟩

theorem tick_ofNanos (date : Calendar.Date) {nanosOfDay : Nat} (goesOn : nanosOfDay + 1 < 86400 * 1000000000) :
    (ofNanos date nanosOfDay).tick = ofNanos date (nanosOfDay + 1) := by
  unfold tick
  repeat' split
  all_goals
    simp only [ofNanos, WallClock.mk.injEq, true_and] at *
    omega

end WallClock

namespace Timestamp

def shown (time : Timestamp) : WallClock :=
  .ofNanos time.date (time.wallClock % nanosPerDay).toNat

def shift (time : Timestamp) (nanos : Int) : Timestamp :=
  { time with wallClock := time.wallClock + nanos }

theorem shift_shift (time : Timestamp) (first second : Int) :
    (time.shift first).shift second = time.shift (first + second) :=
  congrArg (Timestamp.mk · time.offset) (Int.add_assoc ..)

theorem shown_tick (time : Timestamp) : (time.shift 1).shown = time.shown.tick := by
  have day : nanosPerDay = 86400 * 1000000000 := rfl
  simp only [shown, shift, date, day]
  by_cases goesOn : (time.wallClock % (86400 * 1000000000)).toNat + 1 < 86400 * 1000000000
  · have sameDay : (time.wallClock + 1) / (86400 * 1000000000) = time.wallClock / (86400 * 1000000000) := by omega
    have later : ((time.wallClock + 1) % (86400 * 1000000000)).toNat =
        (time.wallClock % (86400 * 1000000000)).toNat + 1 := by omega
    rw [WallClock.tick_ofNanos _ goesOn, sameDay, later]
  · have nextDay : (time.wallClock + 1) / (86400 * 1000000000) = time.wallClock / (86400 * 1000000000) + 1 := by omega
    have first : ((time.wallClock + 1) % (86400 * 1000000000)).toNat = 0 := by omega
    have last : (time.wallClock % (86400 * 1000000000)).toNat = 86400 * 1000000000 - 1 := by omega
    rw [nextDay, first, last, Calendar.ofDays_succ]
    rfl

example : WallClock.tick ⟨⟨-4, 2, 28⟩, 23, 59, 59, 999999999⟩ = ⟨⟨-4, 2, 29⟩, 0, 0, 0, 0⟩ := by decide

theorem shown_shift (time : Timestamp) (nanos : Nat) :
    (time.shift nanos).shown = WallClock.tick^[nanos] time.shown := by
  induction nanos with
  | zero =>
      have same : time.shift (0 : Nat) = time := congrArg (Timestamp.mk · time.offset) (Int.add_zero _)
      rw [same]
      rfl
  | succ nanos ih =>
      rw [Function.iterate_succ_apply', ← ih, ← shown_tick, shift_shift]
      rfl

def IsInCalendar (time : Timestamp) : Prop :=
  -9999 ≤ time.shown.date.year ∧ time.shown.date.year ≤ 9999

theorem isRepresentable_iff (time : Timestamp) : isRepresentable time.wallClock = true ↔ time.IsInCalendar := by
  have year : time.shown.date.year = Calendar.yearOfDays (time.wallClock / nanosPerDay) := Calendar.year_ofDays _
  have first : -9999 ≤ time.shown.date.year ↔ Calendar.daysBeforeYear (-9999) * nanosPerDay ≤ time.wallClock := by
    rw [year, Calendar.le_yearOfDays_iff]
    exact Int.le_ediv_iff_mul_le (by decide)
  have last : time.shown.date.year ≤ 9999 ↔ time.wallClock < Calendar.daysBeforeYear 10000 * nanosPerDay := by
    rw [year, ← Int.lt_add_one_iff, ← Int.not_le, Calendar.le_yearOfDays_iff, Int.not_le]
    exact Int.ediv_lt_iff_lt_mul (by decide)
  rw [isRepresentable, Bool.and_eq_true, decide_eq_true_eq, decide_eq_true_eq, IsInCalendar, first, last]

end Timestamp

end ObjectStore
