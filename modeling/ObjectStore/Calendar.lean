/-!
The Gregorian calendar over all integer years. Days are counted from the first day of year 1.
-/

namespace ObjectStore.Calendar

structure Date where
  year : Int
  month : Nat
  day : Nat
deriving DecidableEq, Repr

def isLeapYear (year : Int) : Bool :=
  year % 4 == 0 && (year % 100 != 0 || year % 400 == 0)

def monthLengths (year : Int) : List Nat :=
  [31, if isLeapYear year then 29 else 28, 31, 30, 31, 30, 31, 31, 30, 31, 30, 31]

def monthLength (year : Int) (month : Nat) : Nat :=
  (monthLengths year).getD (month - 1) 0

def daysBeforeYear (year : Int) : Int :=
  let elapsed := year - 1
  365 * elapsed + elapsed / 4 - elapsed / 100 + elapsed / 400

def daysBeforeMonth (year : Int) (month : Nat) : Nat :=
  ((monthLengths year).take (month - 1)).foldl (· + ·) 0

def Date.toDays (date : Date) : Int :=
  daysBeforeYear date.year + daysBeforeMonth date.year date.month + (date.day - 1 : Int)

/-- The estimate is off by one year at most. -/
def yearOfDays (days : Int) : Int :=
  let estimate := days * 400 / 146097 + 1
  if days < daysBeforeYear estimate then estimate - 1
  else if daysBeforeYear (estimate + 1) ≤ days then estimate + 1
  else estimate

def monthAndDay (month dayOfYear : Nat) : List Nat → Nat × Nat
  | [] => (month, dayOfYear + 1)
  | length :: rest =>
      if dayOfYear < length then (month, dayOfYear + 1)
      else monthAndDay (month + 1) (dayOfYear - length) rest

def Date.ofDays (days : Int) : Date :=
  let year := yearOfDays days
  let (month, day) := monthAndDay 1 (days - daysBeforeYear year).toNat (monthLengths year)
  ⟨year, month, day⟩

def unixEpoch : Int := 719162

end ObjectStore.Calendar
