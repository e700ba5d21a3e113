import Mathlib.Order.Monotone.Basic
import Mathlib.Data.Int.SuccPred
import Overdue.Calendar.Day

/-!
# Dates of days

Every number is that of one day of the calendar (`Day.ofNumber_eq_iff`). The date of a day number is
the one date that has this number (`ofDayNumber?_eq_some_iff`), unless its day lies in a year that
dates do not range over.
-/

namespace Overdue

/-! ## Years -/

lemma daysBeforeYear_succ (year : Int) :
    daysBeforeYear (year + 1) = daysBeforeYear year + totalDays (monthLengths year) := by
  simp only [daysBeforeYear, monthLengths, totalDays, isLeapYear, Bool.and_eq_true,
    Bool.or_eq_true, beq_iff_eq, bne_iff_ne]
  split <;> push_cast <;> omega

/-- A day lies in a year from its start and before the start of the next one. -/
def LiesIn (n year : Int) : Prop :=
  daysBeforeYear year ≤ n ∧ n < daysBeforeYear (year + 1)

lemma liesIn_yearOfDay (n : Int) : LiesIn n (yearOfDay n) := by
  rw [LiesIn, yearOfDay]
  split
  case isTrue start =>
    refine ⟨start, ?_⟩
    rw [daysBeforeYear]
    omega
  case isFalse start =>
    rw [sub_add_cancel]
    refine ⟨?_, not_le.1 start⟩
    rw [daysBeforeYear] at start ⊢
    omega

lemma yearOfDay_eq {n year : Int} (h : LiesIn n year) : yearOfDay n = year := by
  have mono : Monotone daysBeforeYear := monotone_int_of_le_succ fun year => by
    rw [daysBeforeYear_succ]
    omega
  obtain ⟨start, ending⟩ := liesIn_yearOfDay n
  rcases lt_trichotomy (yearOfDay n) year with before | same | after
  · have := mono (Int.add_one_le_of_lt before)
    have := h.1
    omega
  · exact same
  · have := mono (Int.add_one_le_of_lt after)
    have := h.2
    omega

/-! ## Months -/

/-- The month and the day of the month of a day are those that have this day between them. -/
lemma monthAndDay_eq_iff {lens : List Nat} {n month day : Nat} (h : n < totalDays lens) :
    monthAndDay lens n = (month, day) ↔ month ≠ 0 ∧ 1 ≤ day ∧ day ≤ lens.getD (month - 1) 0 ∧
      totalDays (lens.take (month - 1)) + day = n + 1 := by
  induction lens generalizing n month with
  | nil => exact absurd h (Nat.not_lt_zero n)
  | cons len lens ih =>
    rw [totalDays] at h
    rw [monthAndDay]
    split
    case isTrue here =>
      match month with
      | 0 => simp
      | 1 =>
        simp [totalDays]
        omega
      | month + 2 =>
        simp [totalDays]
        omega
    case isFalse later =>
      have rest := @ih (n - len) (month - 1) (by omega)
      generalize monthAndDay lens (n - len) = found at rest ⊢
      rw [Prod.ext_iff] at rest ⊢
      match month with
      | 0 => simp
      | 1 =>
        simp [totalDays] at rest ⊢
        omega
      | month + 2 =>
        simp [totalDays] at rest ⊢
        omega

lemma totalDays_take_add_le (lens : List Nat) (m : Nat) :
    totalDays (lens.take m) + lens.getD m 0 ≤ totalDays lens := by
  induction lens generalizing m with
  | nil => simp [totalDays]
  | cons len lens ih =>
    cases m with
    | zero => simp [totalDays]
    | succ m =>
      have rest := ih m
      rw [List.take_succ_cons, List.getD_cons_succ, totalDays, totalDays]
      omega

lemma totalDays_take_succ (lens : List Nat) (m : Nat) :
    totalDays (lens.take (m + 1)) = totalDays (lens.take m) + lens.getD m 0 := by
  induction lens generalizing m with
  | nil => simp [totalDays]
  | cons len lens ih =>
    cases m with
    | zero => simp [totalDays]
    | succ m =>
      rw [List.take_succ_cons, List.take_succ_cons, totalDays, totalDays, ih, List.getD_cons_succ]
      omega

/-! ## Days -/

/-- A day of the calendar, in whatever year. -/
@[ext] structure Day where
  year : Int
  month : Nat
  day : Nat

namespace Day

/-- The month has this day. -/
def IsInCalendar (x : Day) : Prop :=
  1 ≤ x.day ∧ x.day ≤ monthLength x.year x.month

/-- The number of the day, with 0 for the first of January 1970. -/
def number (x : Day) : Int :=
  daysBeforeYear x.year + totalDays ((monthLengths x.year).take (x.month - 1)) + x.day - 1 -
    daysBeforeEpoch

/-- The day of a number. -/
def ofNumber (n : Int) : Day :=
  let k := n + daysBeforeEpoch
  let year := yearOfDay k
  let (month, day) := monthAndDay (monthLengths year) (k - daysBeforeYear year).toNat
  ⟨year, month, day⟩

/-- The day of a number is the one with this number. -/
lemma ofNumber_eq_iff {n : Int} {x : Day} : ofNumber n = x ↔ x.IsInCalendar ∧ x.number = n := by
  obtain ⟨year, month, day⟩ := x
  simp only [ofNumber, IsInCalendar, number, mk.injEq]
  constructor
  · rintro ⟨sameYear, sameMonth, sameDay⟩
    obtain ⟨start, ending⟩ := liesIn_yearOfDay (n + daysBeforeEpoch)
    rw [daysBeforeYear_succ] at ending
    have found : monthAndDay _ _ = (month, day) := Prod.ext sameMonth sameDay
    rw [monthAndDay_eq_iff (by omega)] at found
    obtain ⟨nonzero, first, last, number⟩ := found
    rw [← sameYear, monthLength, if_neg nonzero]
    exact ⟨⟨first, last⟩, by omega⟩
  · rintro ⟨⟨first, last⟩, number⟩
    have fits := totalDays_take_add_le (monthLengths year) (month - 1)
    rw [monthLength] at last
    split at last
    case isTrue => omega
    case isFalse nonzero =>
      have same : yearOfDay (n + daysBeforeEpoch) = year := by
        refine yearOfDay_eq ⟨by omega, ?_⟩
        rw [daysBeforeYear_succ]
        omega
      have found : monthAndDay (monthLengths year)
          (n + daysBeforeEpoch - daysBeforeYear year).toNat = (month, day) :=
        (monthAndDay_eq_iff (by omega)).2 ⟨nonzero, first, last, by omega⟩
      rw [same, found]
      exact ⟨rfl, rfl, rfl⟩

lemma isInCalendar_ofNumber (n : Int) : (ofNumber n).IsInCalendar :=
  (ofNumber_eq_iff.1 rfl).1

end Day

namespace Date

/-- The day of a date. -/
def toDay (d : Date) : Day :=
  ⟨d.year, d.month, d.day⟩

lemma ofDayNumber?_eq (n : Int) : ofDayNumber? n =
    ofYmd? (Day.ofNumber n).year (Day.ofNumber n).month (Day.ofNumber n).day :=
  rfl

/-- The date of a day number is the one with this number. -/
theorem ofDayNumber?_eq_some_iff {n : Int} {d : Date} :
    ofDayNumber? n = some d ↔ d.dayNumber = n := by
  have same : Day.ofNumber n = d.toDay ↔ d.toDay.number = n := by
    rw [Day.ofNumber_eq_iff]
    exact and_iff_right d.isDate.2.2
  rw [ofDayNumber?_eq, ofYmd?_eq_some_iff]
  rw [eq_comm, Day.ext_iff] at same
  exact same

/-- A day number has no date if its year is one that dates do not range over. -/
lemma ofDayNumber?_eq_none_iff {n : Int} : ofDayNumber? n = none ↔
    (Day.ofNumber n).year < minYear ∨ maxYear < (Day.ofNumber n).year := by
  obtain ⟨first, last⟩ := Day.isInCalendar_ofNumber n
  rw [ofDayNumber?_eq, ofYmd?, dite_eq_right_iff]
  simp only [reduceCtorEq, imp_false, IsDate]
  omega

/-- The date of a time is that of the day it lies in. -/
lemma ofTimestamp?_eq_some_iff {seconds : Int} {d : Date} :
    ofTimestamp? seconds = some d ↔ d.dayNumber = seconds / 86400 :=
  ofDayNumber?_eq_some_iff

end Date

end Overdue
