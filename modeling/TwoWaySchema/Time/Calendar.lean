/-!
# The Gregorian calendar

Dates of the proleptic Gregorian calendar, with a year 0 and negative years before it, and their
count of days.  Day 0 is the first of January of the year 1.
-/

namespace TwoWaySchema

structure Date where
  year : Int
  month : Nat
  day : Nat
deriving DecidableEq, Repr

namespace Date

def isLeapYear (year : Int) : Bool :=
  year % 4 = 0 && (year % 100 ≠ 0 || year % 400 = 0)

/-- The lengths of the months of a year, January first. -/
def monthLengths (year : Int) : List Nat :=
  [31, if isLeapYear year then 29 else 28, 31, 30, 31, 30, 31, 31, 30, 31, 30, 31]

/-- The number of the first day of a year. -/
def dayOfYearStart (year : Int) : Int :=
  365 * (year - 1) + (year - 1) / 4 - (year - 1) / 100 + (year - 1) / 400

/-- The date is one of the calendar. -/
def IsValid (d : Date) : Prop :=
  1 ≤ d.month ∧ d.month ≤ 12 ∧ 1 ≤ d.day ∧ d.day ≤ (monthLengths d.year).getD (d.month - 1) 0

instance (d : Date) : Decidable d.IsValid := by
  unfold IsValid; infer_instance

/-- How many days of a year come before a month. -/
def daysBefore (year : Int) (month : Nat) : Nat :=
  ((monthLengths year).take (month - 1)).foldl (· + ·) 0

def dayNumber (d : Date) : Int :=
  dayOfYearStart d.year + daysBefore d.year d.month + (d.day - 1 : Nat)

/-- The year that a day is in: the year that the mean length of years gives, or a neighbour. -/
def yearOfDay (day : Int) : Int :=
  let year := 400 * day / 146097 + 1
  if dayOfYearStart (year + 1) ≤ day then year + 1
  else if dayOfYearStart year ≤ day then year
  else year - 1

/-- The month and the day in it, both counted from 1, of a day of the year counted from 0. -/
def monthAndDay : (lengths : List Nat) → (month dayOfYear : Nat) → Nat × Nat
  | [], month, dayOfYear => (month, dayOfYear + 1)
  | length :: rest, month, dayOfYear =>
    if dayOfYear < length then (month, dayOfYear + 1)
    else monthAndDay rest (month + 1) (dayOfYear - length)

def ofDayNumber (day : Int) : Date :=
  let year := yearOfDay day
  let (month, day) := monthAndDay (monthLengths year) 1 (day - dayOfYearStart year).toNat
  ⟨year, month, day⟩

/-- The day that timestamps count from, the first of January 1970. -/
def epochDay : Int := 719162

end Date

end TwoWaySchema
