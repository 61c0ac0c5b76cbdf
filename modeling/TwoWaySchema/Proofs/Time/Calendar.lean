import TwoWaySchema.Time.Calendar
import Mathlib.Algebra.Ring.Nat

/-!
# Days of the calendar

Every day number is that of a date: the date that `ofDayNumber` finds is one of the calendar and has
this number.  Years are found by the bounds that the mean length of a year gives, months by going
through the lengths of the year's months.
-/

namespace TwoWaySchema.Date

/-! ## Years -/

theorem isLeapYear_iff {year : Int} :
    isLeapYear year = true ↔ year % 4 = 0 ∧ (year % 100 ≠ 0 ∨ year % 400 = 0) := by
  simp [isLeapYear]

theorem sum_monthLengths (year : Int) :
    (monthLengths year).sum = if isLeapYear year then 366 else 365 := by
  unfold monthLengths
  split <;> rfl

/-- The days of a year are those of its months. -/
theorem dayOfYearStart_succ (year : Int) :
    dayOfYearStart (year + 1) = dayOfYearStart year + ((monthLengths year).sum : Nat) := by
  rw [sum_monthLengths]
  unfold dayOfYearStart
  split
  next h =>
    rw [isLeapYear_iff] at h
    omega
  next h =>
    rw [isLeapYear_iff] at h
    omega

theorem dayOfYearStart_le {year other : Int} (h : year ≤ other) :
    dayOfYearStart year ≤ dayOfYearStart other := by
  unfold dayOfYearStart
  omega

/-- A day lies in its year. -/
theorem yearOfDay_spec (day : Int) :
    dayOfYearStart (yearOfDay day) ≤ day ∧ day < dayOfYearStart (yearOfDay day + 1) := by
  unfold yearOfDay
  simp only
  split
  next h =>
    refine ⟨h, ?_⟩
    -- The mean year is never two years ahead, whatever the leap days before it.
    unfold dayOfYearStart
    omega
  next h =>
    split
    next h' => exact ⟨h', by omega⟩
    next h' =>
      rw [Int.sub_add_cancel]
      refine ⟨?_, by omega⟩
      unfold dayOfYearStart
      omega

/-! ## Months -/

/-- The month that holds a day of the year, and the day's number in it. -/
theorem monthAndDay_spec {lengths : List Nat} (month : Nat) {dayOfYear : Nat}
    (h : dayOfYear < lengths.sum) :
    ∃ i d, monthAndDay lengths month dayOfYear = (month + i, d + 1) ∧ i < lengths.length ∧
      d < lengths.getD i 0 ∧ (lengths.take i).sum + d = dayOfYear := by
  induction lengths generalizing month dayOfYear with
  | nil => cases h
  | cons length rest ih =>
    rw [monthAndDay]
    split
    next hlt => exact ⟨0, dayOfYear, rfl, Nat.zero_lt_succ _, hlt, Nat.zero_add _⟩
    next hge =>
      rw [List.sum_cons] at h
      obtain ⟨i, d, heq, hi, hd, hsum⟩ := ih (month + 1)
        (show dayOfYear - length < rest.sum by omega)
      refine ⟨i + 1, d, ?_, Nat.succ_lt_succ hi, hd, ?_⟩
      · rw [heq, Nat.add_assoc, Nat.add_comm 1]
      · rw [List.take_succ_cons, List.sum_cons]
        omega

theorem daysBefore_eq_sum (year : Int) (month : Nat) :
    daysBefore year month = ((monthLengths year).take (month - 1)).sum :=
  List.sum_eq_foldl.symm

/-- A day of a month is one of the days of the year. -/
theorem sum_take_add_lt_sum {lengths : List Nat} {i d : Nat} (h : d < lengths.getD i 0) :
    (lengths.take i).sum + d < lengths.sum := by
  induction lengths generalizing i with
  | nil => cases h
  | cons length rest ih =>
    cases i with
    | zero =>
      rw [List.getD_cons_zero] at h
      rw [List.take_zero, List.sum_nil, List.sum_cons]
      omega
    | succ i =>
      have hrest := ih (List.getD_cons_succ ▸ h)
      rw [List.take_succ_cons, List.sum_cons, List.sum_cons]
      omega

/-! ## Dates -/

/-- The date of a day is one of the calendar, and the day is its number. -/
theorem ofDayNumber_spec (day : Int) :
    (ofDayNumber day).IsValid ∧ (ofDayNumber day).dayNumber = day := by
  obtain ⟨hstart, hend⟩ := yearOfDay_spec day
  rw [dayOfYearStart_succ] at hend
  have hlt : (day - dayOfYearStart (yearOfDay day)).toNat <
      (monthLengths (yearOfDay day)).sum := by omega
  obtain ⟨i, d, heq, hi, hd, hsum⟩ := monthAndDay_spec 1 hlt
  have hdate : ofDayNumber day = ⟨yearOfDay day, 1 + i, d + 1⟩ := by
    simp only [ofDayNumber, heq]
  have hlength : (monthLengths (yearOfDay day)).length = 12 := rfl
  rw [hdate]
  constructor
  · have hmonth : i + 1 ≤ 12 := hlength ▸ hi
    refine ⟨Nat.le_add_right 1 i, Nat.add_comm 1 i ▸ hmonth, Nat.le_add_left 1 d, ?_⟩
    rw [Nat.add_sub_cancel_left]
    exact hd
  · simp only [dayNumber, daysBefore_eq_sum, Nat.add_sub_cancel, Nat.add_sub_cancel_left]
    omega

/-- A date of the calendar lies in its year. -/
theorem IsValid.dayNumber_lt {d : Date} (h : d.IsValid) :
    d.dayNumber < dayOfYearStart (d.year + 1) := by
  obtain ⟨-, -, hday, hlength⟩ := h
  have hlt : d.day - 1 < (monthLengths d.year).getD (d.month - 1) 0 := by omega
  have hsum := sum_take_add_lt_sum hlt
  rw [dayOfYearStart_succ, dayNumber, daysBefore_eq_sum]
  omega

theorem IsValid.month_lt {d : Date} (h : d.IsValid) : d.month < 100 := by
  have := h.2.1
  omega

theorem IsValid.day_lt {d : Date} (h : d.IsValid) : d.day < 100 := by
  have hday := h.2.2.2
  have hlengths : ∀ length ∈ monthLengths d.year, length < 100 := by
    unfold monthLengths
    split <;> decide
  have : (monthLengths d.year).getD (d.month - 1) 0 < 100 := by
    rw [List.getD_eq_getElem?_getD]
    cases hget : (monthLengths d.year)[d.month - 1]? with
    | none => decide
    | some length => exact hlengths length (List.mem_of_getElem? hget)
  omega

end TwoWaySchema.Date
