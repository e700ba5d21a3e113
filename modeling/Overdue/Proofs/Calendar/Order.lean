import Mathlib.Data.Int.Order.Basic
import Mathlib.Data.Nat.Basic
import Mathlib.Data.Prod.Lex
import Mathlib.Order.Compare
import Overdue.Calendar.Date

/-!
# The order of dates

Dates are ordered as days follow one another: by year, then by month, then by day, as the pairs of
their numbers are (`cmp_toLex`).
-/

namespace Overdue

lemma cmp_toLex {α β : Type} [LinearOrder α] [LinearOrder β] (p q : α × β) :
    cmp (toLex p) (toLex q) = (cmp p.1 q.1).then (cmp p.2 q.2) := by
  rcases lt_trichotomy p.1 q.1 with h | h | h
  · rw [h.cmp_eq_lt]
    exact (Prod.Lex.toLex_lt_toLex.2 (.inl h)).cmp_eq_lt
  · rw [h, cmp_self_eq_eq, Ordering.eq_then]
    rcases lt_trichotomy p.2 q.2 with h' | h' | h'
    · rw [h'.cmp_eq_lt]
      exact (Prod.Lex.toLex_lt_toLex.2 (.inr ⟨h, h'⟩)).cmp_eq_lt
    · rw [Prod.ext h h', cmp_self_eq_eq, cmp_self_eq_eq]
    · rw [h'.cmp_eq_gt]
      exact (Prod.Lex.toLex_lt_toLex.2 (.inr ⟨h.symm, h'⟩)).cmp_eq_gt
  · rw [h.cmp_eq_gt]
    exact (Prod.Lex.toLex_lt_toLex.2 (.inl h)).cmp_eq_gt

/-! ## Months -/

/-- The months that have days are the twelve months, and each has at most 31. -/
lemma monthLength_spec (year : Int) (month : Nat) : monthLength year month ≤ 31 ∧
    (1 ≤ monthLength year month ↔ 1 ≤ month ∧ month ≤ 12) := by
  unfold monthLength monthLengths
  match month with
  | 0 => simp
  | 1 | 2 | 3 | 4 | 5 | 6 | 7 | 8 | 9 | 10 | 11 | 12 => simp; try split <;> omega
  | n + 13 => simp

lemma one_le_monthLength_iff {year : Int} {month : Nat} :
    1 ≤ monthLength year month ↔ 1 ≤ month ∧ month ≤ 12 :=
  (monthLength_spec year month).2

/-! ## Dates -/

namespace Date

/-- A day that exists is one of the at most 31 days of the twelve months. -/
lemma bounds (d : Date) : 1 ≤ d.month ∧ d.month ≤ 12 ∧ 1 ≤ d.day ∧ d.day ≤ 31 := by
  obtain ⟨-, -, first, last⟩ := d.isDate
  obtain ⟨firstMonth, lastMonth⟩ := one_le_monthLength_iff.1 (first.trans last)
  exact ⟨firstMonth, lastMonth, first, last.trans (monthLength_spec _ _).1⟩

instance : LinearOrder Date where
  le a b := ¬b < a
  le_refl a := by simp only [lt_def]; omega
  le_trans a b c := by simp only [lt_def]; omega
  lt_iff_le_not_ge a b := by simp only [lt_def]; omega
  le_antisymm a b := by
    simp only [lt_def]
    intro h h'
    apply ext <;> omega
  le_total a b := by simp only [lt_def]; omega
  toDecidableLE a b := inferInstanceAs (Decidable (¬b < a))
  toDecidableEq := inferInstance
  toDecidableLT := inferInstance

lemma cmp_eq (a b : Date) : cmp a b =
    (cmp a.year b.year).then ((cmp a.month b.month).then (cmp a.day b.day)) := by
  have mono : StrictMono fun d : Date => toLex (d.year, toLex (d.month, d.day)) := by
    intro a b h
    rcases h with year | ⟨year, month | ⟨month, day⟩⟩
    · exact Prod.Lex.toLex_lt_toLex.2 (.inl year)
    · exact Prod.Lex.toLex_lt_toLex.2 (.inr ⟨year, Prod.Lex.toLex_lt_toLex.2 (.inl month)⟩)
    · exact Prod.Lex.toLex_lt_toLex.2 (.inr ⟨year, Prod.Lex.toLex_lt_toLex.2 (.inr ⟨month, day⟩)⟩)
  rw [← mono.cmp_map_eq a b, cmp_toLex, cmp_toLex]

end Date

end Overdue
