import Mathlib

/-!
The proleptic Gregorian calendar: a date has a number, the days from the first of
January of year 0 to it, counted year by year and month by month.
-/

namespace Calendar

open Finset

def isLeap (year : Nat) : Bool :=
  year % 4 = 0 && (year % 100 ≠ 0 || year % 400 = 0)

def daysInMonth (year month : Nat) : Nat :=
  match month with
  | 2 => if isLeap year then 29 else 28
  | 4 | 6 | 9 | 11 => 30
  | 1 | 3 | 5 | 7 | 8 | 10 | 12 => 31
  | _ => 0

@[ext]
structure Date where
  year : Nat
  month : Nat
  day : Nat
  validMonth : 1 ≤ month ∧ month ≤ 12
  validDay : 1 ≤ day ∧ day ≤ daysInMonth year month
deriving DecidableEq

def daysBeforeMonth (year month : Nat) : Nat :=
  ∑ earlier ∈ range (month - 1), daysInMonth year (earlier + 1)

def daysInYear (year : Nat) : Nat := daysBeforeMonth year 13

def daysBeforeYear (year : Nat) : Nat := ∑ earlier ∈ range year, daysInYear earlier

def Date.dayNumber (date : Date) : Nat :=
  daysBeforeYear date.year + daysBeforeMonth date.year date.month + (date.day - 1)

theorem Date.dayNumber_mk (year month day : Nat) (validMonth : 1 ≤ month ∧ month ≤ 12)
    (validDay : 1 ≤ day ∧ day ≤ daysInMonth year month) :
    Date.dayNumber ⟨year, month, day, validMonth, validDay⟩ =
      daysBeforeYear year + daysBeforeMonth year month + (day - 1) := rfl

section Unique

variable {lengths : Nat → Nat} {first second : Nat} {offset other : Nat}

theorem prefixSum_lt (inside : offset < lengths first) (before : first < second) :
    ∑ index ∈ range first, lengths index + offset < ∑ index ∈ range second, lengths index := by
  have grown : ∑ index ∈ range (first + 1), lengths index ≤ ∑ index ∈ range second, lengths index :=
    sum_le_sum_of_subset (range_mono before)
  rw [sum_range_succ] at grown
  omega

theorem prefixSum_unique (inside : offset < lengths first) (otherInside : other < lengths second)
    (same : ∑ index ∈ range first, lengths index + offset =
      ∑ index ∈ range second, lengths index + other) : first = second ∧ offset = other := by
  rcases Nat.lt_trichotomy first second with before | rfl | after
  · have := prefixSum_lt inside before
    omega
  · exact ⟨rfl, by omega⟩
  · have := prefixSum_lt otherInside after
    omega

end Unique

theorem Date.offset_lt (date : Date) :
    daysBeforeMonth date.year date.month + (date.day - 1) < daysInYear date.year := by
  obtain ⟨positive, last⟩ := date.validMonth
  obtain ⟨_, inside⟩ := date.validDay
  have fits : date.day - 1 < daysInMonth date.year (date.month - 1 + 1) := by
    rw [Nat.sub_add_cancel positive]
    omega
  exact @prefixSum_lt (fun index => daysInMonth date.year (index + 1)) (date.month - 1) 12 _ fits (by omega)

theorem Date.dayNumber_injective : Function.Injective Date.dayNumber := by
  intro left right same
  rw [dayNumber, dayNumber, Nat.add_assoc, Nat.add_assoc] at same
  obtain ⟨year, offset⟩ := prefixSum_unique left.offset_lt right.offset_lt same
  obtain ⟨leftMonth, _⟩ := left.validMonth
  obtain ⟨rightMonth, _⟩ := right.validMonth
  obtain ⟨leftDay, leftInside⟩ := left.validDay
  obtain ⟨rightDay, rightInside⟩ := right.validDay
  rw [← year] at offset rightInside
  obtain ⟨month, day⟩ := @prefixSum_unique (fun index => daysInMonth left.year (index + 1))
    (left.month - 1) (right.month - 1) _ _
    (by rw [Nat.sub_add_cancel leftMonth]; omega) (by rw [Nat.sub_add_cancel rightMonth]; omega) offset
  exact Date.ext year (by omega) (by omega)

section Counts

theorem isLeap_iff (year : Nat) :
    isLeap year = true ↔ year % 4 = 0 ∧ (year % 100 ≠ 0 ∨ year % 400 = 0) := by
  simp [isLeap]

@[simp] theorem daysBeforeMonth_one (year : Nat) : daysBeforeMonth year 1 = 0 := rfl

theorem daysBeforeMonth_succ (year month : Nat) :
    daysBeforeMonth year (month + 2) = daysBeforeMonth year (month + 1) + daysInMonth year (month + 1) :=
  sum_range_succ _ month

theorem daysInYear_eq (year : Nat) : daysInYear year = if isLeap year then 366 else 365 := by
  simp only [daysInYear, daysBeforeMonth, sum_range_succ, range_zero, sum_empty, daysInMonth]
  split <;> rfl

theorem daysBeforeYear_succ (year : Nat) :
    daysBeforeYear (year + 1) = daysBeforeYear year + if isLeap year then 366 else 365 := by
  rw [daysBeforeYear, sum_range_succ, daysInYear_eq, daysBeforeYear]

theorem leapDays_succ (year : Nat) :
    (if isLeap year then 1 else 0) + (year + 100) / 100 + (year + 3) / 4 + (year + 399) / 400 =
      (year + 99) / 100 + (year + 4) / 4 + (year + 400) / 400 := by
  by_cases fourth : year % 4 = 0
  · by_cases century : year % 100 = 0
    · by_cases era : year % 400 = 0
      · rw [if_pos ((isLeap_iff year).mpr ⟨fourth, .inr era⟩)]
        omega
      · rw [if_neg (by rw [isLeap_iff]; omega)]
        omega
    · rw [if_pos ((isLeap_iff year).mpr ⟨fourth, .inl century⟩)]
      omega
  · rw [if_neg (by rw [isLeap_iff]; omega)]
    omega

theorem daysBeforeYear_eq (year : Nat) :
    daysBeforeYear year + (year + 99) / 100 = 365 * year + (year + 3) / 4 + (year + 399) / 400 := by
  induction year with
  | zero => rfl
  | succ year ih =>
      have leaps := leapDays_succ year
      have length : (if isLeap year then 366 else 365) = 365 + if isLeap year then 1 else 0 := by
        split <;> rfl
      rw [daysBeforeYear_succ, length, show year + 1 + 99 = year + 100 from rfl,
        show year + 1 + 3 = year + 4 from rfl, show year + 1 + 399 = year + 400 from rfl]
      linarith

theorem marchFirst_eq (year : Nat) :
    daysBeforeYear year + daysBeforeMonth year 3 + year / 100 =
      365 * year + year / 4 + year / 400 + 60 := by
  have counted := daysBeforeYear_eq year
  have leaps := leapDays_succ year
  have february : daysBeforeMonth year 3 = 59 + if isLeap year then 1 else 0 := by
    rw [daysBeforeMonth_succ, daysBeforeMonth_succ, daysBeforeMonth_one, Nat.zero_add]
    simp only [daysInMonth]
    split <;> rfl
  rw [Nat.add_div_right _ (by decide), Nat.add_div_right _ (by decide),
    Nat.add_div_right _ (by decide)] at leaps
  rw [february]
  linarith

end Counts

end Calendar
