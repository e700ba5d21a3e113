import Mathlib.Order.MinMax
import Mathlib.Tactic.SplitIfs
import Overdue.Calendar.Written
import Overdue.Proofs.Calendar.Order
import Overdue.Proofs.Text.Digits

/-!
# The order of written dates

Written dates are compared by year, month and day like the dates themselves, but for the years the
text decides: a plus comes before a minus and both come before the digits, and numbers of different
width are compared from the left (`compares_chars`). The years that texts and numbers put in the same
order are those of `SortsByText`, among them all years of four digits.
-/

namespace Overdue.Date

open Text

/-- The number of digits that a year is written with. -/
def yearWidth (n : Nat) : Nat :=
  max 4 (digits n).length

/-- How the digits of two years compare that have a hyphen behind them: the longer number is cut to
the width of the shorter one, and of equals the shorter one comes first. -/
def compareDigits (m n : Nat) : Ordering :=
  (cmp (m / 10 ^ (yearWidth m - yearWidth n)) (n / 10 ^ (yearWidth n - yearWidth m))).then
    (cmp (yearWidth m) (yearWidth n))

/-- The place of a year by the first character of its text: a plus, a minus or a digit. -/
def signRank (year : Int) : Nat :=
  if year < 0 then 1 else if year ≤ 9999 then 2 else 0

/-- How the texts of two years compare. -/
def compareYearTexts (y z : Int) : Ordering :=
  (cmp (signRank y) (signRank z)).then (compareDigits y.natAbs z.natAbs)

/-- Two years whose texts are in the order of the years: they are equal, or the later one has four
digits and no sign, or they have the same sign and the digits of the earlier one come first. -/
def SortsByText (y z : Int) : Prop :=
  y = z ∨ (0 ≤ max y z ∧ max y z ≤ 9999) ∨
    ((9999 < min y z ∨ max y z < 0) ∧
      compareDigits (min y z).natAbs (max y z).natAbs = .lt)

instance (y z : Int) : Decidable (SortsByText y z) :=
  inferInstanceAs (Decidable (_ ∨ _ ∨ _))

lemma length_padded_eq_yearWidth (n : Nat) : (paddedDigits 4 n).length = yearWidth n :=
  length_paddedDigits 4 n

lemma compareDigits_swap (m n : Nat) : (compareDigits m n).swap = compareDigits n m := by
  rw [compareDigits, compareDigits, Ordering.swap_then, cmp_swap, cmp_swap]

lemma compareDigits_of_yearWidth_eq {m n : Nat} (h : yearWidth m = yearWidth n) :
    compareDigits m n = cmp m n := by
  rw [compareDigits, h, Nat.sub_self, Nat.pow_zero, Nat.div_one, Nat.div_one, cmp_self_eq_eq,
    Ordering.then_eq]

lemma compareDigits_of_yearWidth_lt {m n : Nat} (h : yearWidth m < yearWidth n) :
    compareDigits m n = (cmp m (n / 10 ^ (yearWidth n - yearWidth m))).then .lt := by
  rw [compareDigits, h.cmp_eq_lt, Nat.sub_eq_zero_of_le h.le, Nat.pow_zero, Nat.div_one]

lemma compareDigits_of_lt {m n : Nat} (hm : m < 10 ^ 4) (hn : n < 10 ^ 4) :
    compareDigits m n = cmp m n := by
  apply compareDigits_of_yearWidth_eq
  rw [← length_padded_eq_yearWidth, ← length_padded_eq_yearWidth,
    length_paddedDigits_of_lt (by decide) hm, length_paddedDigits_of_lt (by decide) hn]

lemma compareDigits_eq_eq_iff {m n : Nat} : compareDigits m n = .eq ↔ m = n := by
  constructor
  · intro h
    have width : yearWidth m = yearWidth n := (cmp_eq_eq_iff _ _).1 (Ordering.then_eq_eq.1 h).2
    rwa [compareDigits_of_yearWidth_eq width, cmp_eq_eq_iff] at h
  · rintro rfl
    rw [compareDigits_of_yearWidth_eq rfl, cmp_self_eq_eq]

lemma compareYearTexts_swap (y z : Int) :
    (compareYearTexts y z).swap = compareYearTexts z y := by
  rw [compareYearTexts, compareYearTexts, Ordering.swap_then, cmp_swap, compareDigits_swap]

lemma compareYearTexts_eq_eq_iff {y z : Int} : compareYearTexts y z = .eq ↔ y = z := by
  rw [compareYearTexts, Ordering.then_eq_eq, cmp_eq_eq_iff, compareDigits_eq_eq_iff]
  unfold signRank
  constructor
  · rintro ⟨rank, abs⟩
    split_ifs at rank <;> omega
  · rintro rfl
    exact ⟨rfl, rfl⟩

lemma compareYearTexts_eq_lt_iff {y z : Int} (h : y < z) :
    compareYearTexts y z = .lt ↔ SortsByText y z := by
  rw [compareYearTexts, Ordering.then_eq_lt, cmp_eq_lt_iff, cmp_eq_eq_iff, SortsByText,
    max_eq_right h.le, min_eq_left h.le]
  have four : 0 ≤ y → z ≤ 9999 → compareDigits y.natAbs z.natAbs = .lt := by
    intro hy hz
    rw [compareDigits_of_lt (by omega) (by omega), cmp_eq_lt_iff]
    omega
  -- the signs of the earlier and of the later year
  unfold signRank
  split <;> split <;> grind

lemma compareYearTexts_eq_cmp_iff {y z : Int} :
    compareYearTexts y z = cmp y z ↔ SortsByText y z := by
  rcases lt_trichotomy y z with h | rfl | h
  · rw [h.cmp_eq_lt, compareYearTexts_eq_lt_iff h]
  · rw [cmp_self_eq_eq, compareYearTexts_eq_eq_iff]
    exact iff_of_true rfl (.inl rfl)
  · rw [h.cmp_eq_gt, ← compareYearTexts_swap, Ordering.swap_eq_iff_eq_swap]
    rw [show Ordering.swap .gt = .lt from rfl, compareYearTexts_eq_lt_iff h, SortsByText,
      SortsByText, max_comm, min_comm, eq_comm]

/-! ## Texts -/

lemma compares_padded_hyphen_of_lt {m n : Nat} (width : yearWidth m < yearWidth n) (o : Ordering)
    (x y : List Char) :
    ((compareDigits m n).then o).Compares (paddedDigits 4 m ++ '-' :: x)
      (paddedDigits 4 n ++ '-' :: y) := by
  have len : (paddedDigits 4 m).length < (paddedDigits 4 n).length := by
    rwa [length_padded_eq_yearWidth, length_padded_eq_yearWidth]
  have digits := compares_digits_hyphen len (allDigits_paddedDigits 4 m)
    (allDigits_paddedDigits 4 n) x ('-' :: y)
  rw [compareDigits_of_yearWidth_lt width, Ordering.then_assoc, Ordering.lt_then]
  rwa [numberOf_paddedDigits, numberOf_paddedDigits, length_padded_eq_yearWidth,
    length_padded_eq_yearWidth] at digits

/-- The digits of two years and a hyphen are compared before what follows them. -/
lemma compares_padded_hyphen {o : Ordering} {x y : List Char} (m n : Nat) (h : o.Compares x y) :
    ((compareDigits m n).then o).Compares (paddedDigits 4 m ++ '-' :: x)
      (paddedDigits 4 n ++ '-' :: y) := by
  rcases lt_trichotomy (yearWidth m) (yearWidth n) with width | width | width
  · exact compares_padded_hyphen_of_lt width o x y
  · have len : (paddedDigits 4 m).length = (paddedDigits 4 n).length := by
      rwa [length_padded_eq_yearWidth, length_padded_eq_yearWidth]
    have digits := compares_digits len (allDigits_paddedDigits 4 m) (allDigits_paddedDigits 4 n)
    rw [numberOf_paddedDigits, numberOf_paddedDigits] at digits
    rw [compareDigits_of_yearWidth_eq width]
    exact compares_append len digits (compares_cons_self '-' h)
  · have := compares_padded_hyphen_of_lt width o.swap y x
    rwa [← compareDigits_swap, ← Ordering.swap_then, Ordering.compares_swap] at this

/-- The first character of a year decides before all else. -/
lemma yearText_append_lt {y z : Int} (h : signRank y < signRank z) (x x' : List Char) :
    yearText y ++ x < yearText z ++ x' := by
  have plus {c : Char} (digit : isDigit c) : '+' < c :=
    lt_trans (by decide) (hyphen_lt_digit digit)
  obtain ⟨c, cs, eq, digit⟩ := exists_paddedDigits_eq_cons 4 z.natAbs
  unfold signRank at h
  unfold yearText
  split_ifs at h ⊢ <;> try omega
  · rw [eq]
    exact List.cons_lt_cons_iff.2 (.inl (hyphen_lt_digit digit))
  · exact List.cons_lt_cons_iff.2 (.inl (by decide))
  · rw [eq]
    exact List.cons_lt_cons_iff.2 (.inl (plus digit))

lemma yearText_of_neg {y : Int} (h : y < 0) : yearText y = '-' :: paddedDigits 4 y.natAbs :=
  if_pos h

lemma yearText_of_four_digits {y : Int} (h : 0 ≤ y ∧ y ≤ 9999) :
    yearText y = paddedDigits 4 y.natAbs := by
  rw [yearText, if_neg (Int.not_lt.2 h.1), if_pos h.2]

lemma yearText_of_large {y : Int} (h : 9999 < y) : yearText y = '+' :: paddedDigits 4 y.natAbs := by
  rw [yearText, if_neg (by omega), if_neg (Int.not_le.2 h)]

lemma sign_cases {y z : Int} (h : signRank y = signRank z) : (y < 0 ∧ z < 0) ∨
    ((0 ≤ y ∧ y ≤ 9999) ∧ (0 ≤ z ∧ z ≤ 9999)) ∨ (9999 < y ∧ 9999 < z) := by
  unfold signRank at h
  split_ifs at h <;> omega

lemma compares_yearText {o : Ordering} {x x' : List Char} (y z : Int) (h : o.Compares x x') :
    ((compareYearTexts y z).then o).Compares (yearText y ++ '-' :: x)
      (yearText z ++ '-' :: x') := by
  rw [compareYearTexts]
  rcases lt_trichotomy (signRank y) (signRank z) with rank | rank | rank
  · rw [rank.cmp_eq_lt]
    exact yearText_append_lt rank _ _
  · rw [rank, cmp_self_eq_eq, Ordering.eq_then]
    have digits := compares_padded_hyphen y.natAbs z.natAbs h
    rcases sign_cases rank with ⟨hy, hz⟩ | ⟨hy, hz⟩ | ⟨hy, hz⟩
    · rw [yearText_of_neg hy, yearText_of_neg hz]
      exact compares_cons_self '-' digits
    · rw [yearText_of_four_digits hy, yearText_of_four_digits hz]
      exact digits
    · rw [yearText_of_large hy, yearText_of_large hz]
      exact compares_cons_self '+' digits
  · rw [rank.cmp_eq_gt]
    exact yearText_append_lt rank _ _

lemma compares_monthAndDay {m m' d d' : Nat} (hm : m < 100) (hm' : m' < 100) (hd : d < 100)
    (hd' : d' < 100) : ((cmp m m').then (cmp d d')).Compares
      (paddedDigits 2 m ++ '-' :: paddedDigits 2 d)
      (paddedDigits 2 m' ++ '-' :: paddedDigits 2 d') := by
  have len : (paddedDigits 2 m).length = (paddedDigits 2 m').length := by
    rw [length_paddedDigits_of_lt (by decide) hm, length_paddedDigits_of_lt (by decide) hm']
  exact compares_append len (compares_paddedDigits (by decide) hm hm')
    (compares_cons_self '-' (compares_paddedDigits (by decide) hd hd'))

lemma chars_eq (d : Date) : d.chars = yearText d.year ++
    '-' :: (paddedDigits 2 d.month ++ '-' :: paddedDigits 2 d.day) := by
  simp [chars]

lemma not_mem_text {c : Char} (digit : isDigit c = false) (hyphen : c ≠ '-') (plus : c ≠ '+')
    (d : Date) : c ∉ d.text.toList := by
  have padded (width n : Nat) : c ∉ paddedDigits width n := fun m => by
    rw [allDigits_paddedDigits width n c m] at digit
    cases digit
  have year : c ∉ yearText d.year := by
    rw [yearText]
    split
    case isTrue => exact List.not_mem_cons_of_ne_of_not_mem hyphen (padded _ _)
    case isFalse =>
      split
      case isTrue => exact padded _ _
      case isFalse => exact List.not_mem_cons_of_ne_of_not_mem plus (padded _ _)
  rw [text, String.toList_ofList, chars_eq]
  simp only [List.mem_append, List.mem_cons, year, padded, hyphen, or_self, not_false_eq_true]

lemma newline_not_mem_text (d : Date) : '\n' ∉ d.text.toList :=
  d.not_mem_text (by decide) (by decide) (by decide)

lemma length_text {d : Date} (h : 0 ≤ d.year ∧ d.year ≤ 9999) : d.text.toList.length = 10 := by
  have bounds := d.bounds
  have len {width n : Nat} (pos : 0 < width) (lt : n < 10 ^ width) := length_paddedDigits_of_lt pos lt
  rw [text, String.toList_ofList, chars_eq, yearText_of_four_digits h]
  simp only [List.length_append, List.length_cons]
  rw [len (by decide) (by omega), len (by decide) (by omega), len (by decide) (by omega)]

/-- Written dates are compared by the texts of their years, then by month and day. -/
lemma compares_chars (a b : Date) : ((compareYearTexts a.year b.year).then
    ((cmp a.month b.month).then (cmp a.day b.day))).Compares a.chars b.chars := by
  have ha := a.bounds
  have hb := b.bounds
  rw [chars_eq, chars_eq]
  exact compares_yearText _ _
    (compares_monthAndDay (by omega) (by omega) (by omega) (by omega))

lemma chars_inj {a b : Date} : a.chars = b.chars ↔ a = b := by
  have same : a.chars = b.chars ↔ _ := (compares_chars a b).eq_eq.symm
  rw [same, Ordering.then_eq_eq, Ordering.then_eq_eq, compareYearTexts_eq_eq_iff, cmp_eq_eq_iff,
    cmp_eq_eq_iff]
  constructor
  · rintro ⟨year, month, day⟩
    exact ext year month day
  · rintro rfl
    exact ⟨rfl, rfl, rfl⟩

/-- Dates whose years are in the order of their texts are in the order of their texts. -/
lemma SortsByText.compares_chars {a b : Date} (h : SortsByText a.year b.year) :
    (cmp a b).Compares a.chars b.chars := by
  rw [cmp_eq, ← compareYearTexts_eq_cmp_iff.2 h]
  exact Date.compares_chars a b

lemma sortsByText_of_four_digits {y z : Int} (hy : 0 ≤ y ∧ y ≤ 9999) (hz : 0 ≤ z ∧ z ≤ 9999) :
    SortsByText y z :=
  .inr (.inl ⟨le_max_of_le_left hy.1, max_le hy.2 hz.2⟩)

end Overdue.Date
