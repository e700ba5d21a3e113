import Mathlib.Data.Int.SuccPred
import Overdue.Proofs.Calendar.Day
import Overdue.Proofs.Calendar.Order

/-!
# Counting days

One day follows another within a month, from the end of a month or from the end of a year. Counted
along this succession, forwards and backwards from the first of January 1970, every number is that of
one day (`Day.counts_iff`). The date of a time is the day that is counted by the whole days that have
gone by until then (`Date.ofTimestamp?_spec`).
-/

namespace Overdue

namespace Day

variable {x y : Day} {n : Int}

/-! ## Succession -/

/-- A day is followed by the next one of its month, by the first one of the next month, or by the
first one of the next year. -/
inductive IsNext : Day → Day → Prop where
  | day {year : Int} {month day : Nat} :
      1 ≤ day → day < monthLength year month → IsNext ⟨year, month, day⟩ ⟨year, month, day + 1⟩
  | month {year : Int} {month : Nat} :
      1 ≤ month → month < 12 → IsNext ⟨year, month, monthLength year month⟩ ⟨year, month + 1, 1⟩
  | year {year : Int} : IsNext ⟨year, 12, 31⟩ ⟨year + 1, 1, 1⟩

lemma IsInCalendar.month (h : x.IsInCalendar) : 1 ≤ x.month ∧ x.month ≤ 12 :=
  one_le_monthLength_iff.1 (h.1.trans h.2)

/-- A day is before another: by its year, in the same year by its month, and in the same month by the
day of the month. -/
def IsBefore (x y : Day) : Prop :=
  x.year < y.year ∨ x.year = y.year ∧ (x.month < y.month ∨ x.month = y.month ∧ x.day < y.day)

lemma IsBefore.trans {z : Day} (h : x.IsBefore y) (h' : y.IsBefore z) : x.IsBefore z := by
  unfold IsBefore at *
  omega

namespace IsNext

lemma isInCalendar (h : IsNext x y) : x.IsInCalendar ∧ y.IsInCalendar := by
  cases h with
  | day first within => exact ⟨⟨first, within.le⟩, Nat.le_add_left _ _, within⟩
  | month first notLast =>
    exact ⟨⟨one_le_monthLength_iff.2 ⟨first, notLast.le⟩, le_rfl⟩, le_rfl,
      one_le_monthLength_iff.2 ⟨Nat.le_add_left _ _, notLast⟩⟩
  | year =>
    exact ⟨⟨Nat.le_add_left 1 30, le_refl 31⟩, le_rfl,
      one_le_monthLength_iff.2 ⟨le_rfl, Nat.le_add_left 1 11⟩⟩

/-- The days of the months before a day are counted in its number, and those of the years before. -/
lemma number_eq (h : IsNext x y) : y.number = x.number + 1 := by
  cases h with
  | day _ _ =>
    simp only [number]
    push_cast
    omega
  | @month year month first _ =>
    obtain ⟨m, rfl⟩ := Nat.exists_eq_add_of_le' first
    have whole := totalDays_take_succ (monthLengths year) m
    simp only [number, monthLength, Nat.add_sub_cancel, if_neg (Nat.succ_ne_zero m)] at whole ⊢
    push_cast
    omega
  | @year year =>
    have start := daysBeforeYear_succ year
    have whole : totalDays (monthLengths year) = totalDays ((monthLengths year).take 11) + 31 :=
      totalDays_take_succ (monthLengths year) 11
    simp only [number, Nat.sub_self, List.take_zero, totalDays]
    push_cast
    omega

lemma isBefore (h : IsNext x y) : x.IsBefore y := by
  cases h with
  | day _ _ => exact .inr ⟨rfl, .inr ⟨rfl, Nat.lt_succ_self _⟩⟩
  | month _ _ => exact .inr ⟨rfl, .inl (Nat.lt_succ_self _)⟩
  | year => exact .inl (Int.lt_succ _)

end IsNext

lemma IsInCalendar.exists_next (h : x.IsInCalendar) : ∃ y, IsNext x y := by
  obtain ⟨year, month, day⟩ := x
  obtain ⟨first, last⟩ : 1 ≤ day ∧ day ≤ monthLength year month := h
  rcases Nat.lt_or_eq_of_le last with within | rfl
  · exact ⟨_, .day first within⟩
  · obtain ⟨first, last⟩ := one_le_monthLength_iff.1 first
    rcases Nat.lt_or_eq_of_le last with notLast | rfl
    · exact ⟨_, .month first notLast⟩
    · exact ⟨_, .year⟩

lemma IsInCalendar.exists_previous (h : y.IsInCalendar) : ∃ x, IsNext x y := by
  obtain ⟨first, last⟩ := h.month
  obtain ⟨year, month, day⟩ := y
  match day, h with
  | day + 2, ⟨_, within⟩ => exact ⟨_, .day (Nat.le_add_left 1 day) within⟩
  | 1, _ =>
    match month with
    | month + 2 => exact ⟨_, .month (Nat.le_add_left 1 month) last⟩
    | 1 =>
      have newYear : IsNext ⟨year - 1, 12, 31⟩ ⟨year - 1 + 1, 1, 1⟩ := .year
      rw [sub_add_cancel] at newYear
      exact ⟨_, newYear⟩

/-! ## Counting -/

/-- The days counted from the first of January 1970, which is day 0. -/
inductive Counts : Day → Int → Prop where
  | epoch : Counts ⟨1970, 1, 1⟩ 0
  | next {x y : Day} {n : Int} : Counts x n → IsNext x y → Counts y (n + 1)
  | previous {x y : Day} {n : Int} : Counts y (n + 1) → IsNext x y → Counts x n

lemma Counts.isInCalendar_and_number (h : Counts x n) : x.IsInCalendar ∧ x.number = n := by
  induction h with
  | epoch => exact ⟨⟨le_rfl, by decide⟩, rfl⟩
  | next _ follows ih => exact ⟨follows.isInCalendar.2, by rw [follows.number_eq, ih.2]⟩
  | previous _ follows ih =>
    have := follows.number_eq
    exact ⟨follows.isInCalendar.1, by omega⟩

lemma Counts.eq_ofNumber (h : Counts x n) : ofNumber n = x :=
  ofNumber_eq_iff.2 h.isInCalendar_and_number

lemma exists_counts (n : Int) : ∃ x, Counts x n := by
  induction n with
  | zero => exact ⟨_, .epoch⟩
  | succ n ih =>
    obtain ⟨x, counts⟩ := ih
    obtain ⟨y, follows⟩ := counts.isInCalendar_and_number.1.exists_next
    exact ⟨y, .next counts follows⟩
  | pred n ih =>
    obtain ⟨y, counts⟩ := ih
    obtain ⟨x, follows⟩ := counts.isInCalendar_and_number.1.exists_previous
    exact ⟨x, .previous (by rwa [sub_add_cancel]) follows⟩

/-- Every number is counted by one day, which is the day of that number. -/
lemma counts_iff : Counts x n ↔ ofNumber n = x := by
  constructor
  · exact Counts.eq_ofNumber
  · rintro rfl
    obtain ⟨x, counts⟩ := exists_counts n
    rwa [counts.eq_ofNumber]

lemma Counts.isNext (hx : Counts x n) (hy : Counts y (n + 1)) : IsNext x y := by
  obtain ⟨z, follows⟩ := hx.isInCalendar_and_number.1.exists_next
  have same : z = y := (Counts.next hx follows).eq_ofNumber.symm.trans hy.eq_ofNumber
  exact same ▸ follows

/-- A day that is counted later is later in the calendar. -/
lemma Counts.isBefore {k : Nat} (hx : Counts x n) (hy : Counts y (n + (k + 1))) :
    x.IsBefore y := by
  induction k generalizing y with
  | zero =>
    rw [Nat.cast_zero, zero_add] at hy
    exact (hx.isNext hy).isBefore
  | succ k ih =>
    obtain ⟨z, between⟩ := exists_counts (n + (k + 1))
    have follows : IsNext z y := by
      apply between.isNext
      rwa [Nat.cast_succ, ← add_assoc] at hy
    exact (ih between).trans follows.isBefore

end Day

/-! ## The dates of times -/

namespace Date

variable {a b : Date} {m n : Int}

lemma lt_of_counts (ha : a.toDay.Counts m) (hb : b.toDay.Counts n) (h : m < n) : a < b := by
  obtain ⟨k, rfl⟩ := Int.lt.dest h
  rw [Nat.cast_succ] at hb
  exact ha.isBefore hb

lemma eq_of_counts (ha : a.toDay.Counts n) (hb : b.toDay.Counts n) : a = b := by
  obtain ⟨year, month, day⟩ := Day.ext_iff.1 (ha.eq_ofNumber.symm.trans hb.eq_ofNumber)
  exact ext year month day

/-- Dates are in the order in which their days are counted. -/
lemma le_iff_of_counts (ha : a.toDay.Counts m) (hb : b.toDay.Counts n) : a ≤ b ↔ m ≤ n := by
  rcases lt_trichotomy m n with before | rfl | after
  · exact iff_of_true (lt_of_counts ha hb before).le before.le
  · exact iff_of_true (eq_of_counts ha hb).le le_rfl
  · exact iff_of_false (lt_of_counts hb ha after).not_ge after.not_ge

lemma ofTimestamp?_eq_some_iff_counts {seconds : Int} {d : Date} :
    ofTimestamp? seconds = some d ↔ d.toDay.Counts (seconds / 86400) := by
  rw [ofTimestamp?_eq_some_iff, Day.counts_iff, Day.ofNumber_eq_iff]
  exact (and_iff_right d.isDate.2.2).symm

lemma ofTimestamp?_eq_none_iff_counts {seconds : Int} : ofTimestamp? seconds = none ↔
    ∃ x : Day, x.Counts (seconds / 86400) ∧ (x.year < minYear ∨ maxYear < x.year) := by
  simp only [Day.counts_iff, exists_eq_left']
  exact ofDayNumber?_eq_none_iff

/-- The first second of a date is one of the times that 64 bits hold. -/
lemma exists_ofTimestamp?_eq (d : Date) : ∃ time : Int64, ofTimestamp? time.toInt = some d := by
  obtain ⟨first, last, -, -⟩ := d.isDate
  obtain ⟨-, -, firstDay, lastDay⟩ := d.bounds
  have months : totalDays ((monthLengths d.year).take (d.month - 1)) ≤ 366 := by
    have := totalDays_take_add_le (monthLengths d.year) (d.month - 1)
    have year : totalDays (monthLengths d.year) ≤ 366 := by
      simp only [monthLengths, totalDays]
      split <;> omega
    omega
  simp only [minYear, maxYear] at first last
  have time : (Int64.ofInt (d.dayNumber * 86400)).toInt = d.dayNumber * 86400 := by
    apply Int64.toInt_ofInt_of_le <;> simp only [dayNumber, daysBeforeYear, daysBeforeEpoch] <;> omega
  refine ⟨Int64.ofInt (d.dayNumber * 86400), ?_⟩
  rw [time, ofTimestamp?_eq_some_iff, Int.mul_ediv_cancel _ (by decide)]

/-- A time has the date that is counted by its whole days, rounded down, from the first of January
1970, and none just if the year of that day is out of range. So later times have later dates, times
have the same date just if they have the same number of whole days, and every date is that of a time
of 64 bits. -/
theorem ofTimestamp?_spec :
    (∀ (seconds : Int) (d : Date),
      ofTimestamp? seconds = some d ↔ d.toDay.Counts (seconds / 86400)) ∧
    (∀ seconds : Int, ofTimestamp? seconds = none ↔
      ∃ x : Day, x.Counts (seconds / 86400) ∧ (x.year < -262143 ∨ 262142 < x.year)) ∧
    (∀ (seconds seconds' : Int) (d d' : Date), ofTimestamp? seconds = some d →
      ofTimestamp? seconds' = some d' →
        (seconds ≤ seconds' → d ≤ d') ∧ (d = d' ↔ seconds / 86400 = seconds' / 86400)) ∧
    ∀ d : Date, ∃ time : Int64, ofTimestamp? time.toInt = some d := by
  refine ⟨fun seconds d => ofTimestamp?_eq_some_iff_counts,
    fun seconds => ofTimestamp?_eq_none_iff_counts, fun seconds seconds' d d' given given' => ?_,
    exists_ofTimestamp?_eq⟩
  have counts := ofTimestamp?_eq_some_iff_counts.1 given
  have counts' := ofTimestamp?_eq_some_iff_counts.1 given'
  constructor
  · intro le
    rw [le_iff_of_counts counts counts']
    exact Int.ediv_le_ediv (by decide) le
  · rw [le_antisymm_iff, le_iff_of_counts counts counts', le_iff_of_counts counts' counts,
      le_antisymm_iff]

theorem ofTimestamp?_spec_of_midnight : ∃ before after : Date,
    ofTimestamp? (-1) = some before ∧ ofTimestamp? 0 = some after ∧
    before.toDay = ⟨1969, 12, 31⟩ ∧ before.toDay.Counts (-1) ∧ before ≤ after ∧ before ≠ after := by
  have given : ofTimestamp? (-1) = some ⟨1969, 12, 31, by decide⟩ := by decide +kernel
  have given' : ofTimestamp? 0 = some ⟨1970, 1, 1, by decide⟩ := by decide +kernel
  obtain ⟨counts, -, order, -⟩ := ofTimestamp?_spec
  obtain ⟨le, same⟩ := order _ _ _ _ given given'
  exact ⟨_, _, given, given', rfl, (counts _ _).1 given, le (by decide), mt same.1 (by decide)⟩

end Date

end Overdue
