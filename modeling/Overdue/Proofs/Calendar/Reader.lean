import Overdue.Proofs.Calendar.Written
import Overdue.Proofs.Text.Blank

/-!
# Reading written dates

A written date is read as that date, whatever the number of digits of its year is (`read_chars`).
-/

namespace Overdue.Date

open Text

lemma noDigit_hyphen (s : List Char) : NoDigit ('-' :: s) :=
  noDigit_cons rfl s

/-- Digits are read up to their end, if there are no more of them than the width allows. -/
lemma readNumber_append {width : Option Nat} {ds rest : List Char} (digits : AllDigits ds)
    (nonempty : ds ≠ []) (fits : ∀ w ∈ width, ds.length ≤ w) (noDigit : NoDigit rest) :
    readNumber width (ds ++ rest) = .ok (numberOf ds, rest) := by
  have value : ds.foldl (fun n c => 10 * n + digitValue c) 0 = numberOf ds :=
    Nat.ofDigitChars_eq_foldl.symm
  have run := takeWhile_isDigit_append digits noDigit
  obtain ⟨c, cs, rfl⟩ := List.exists_cons_of_ne_nil nonempty
  cases width with
  | none => simp only [readNumber, run, value, List.drop_left]
  | some w =>
    have taken : (c :: cs).take w = c :: cs := List.take_of_length_le (fits w rfl)
    simp only [readNumber, run, taken, value, List.drop_left]

lemma readNumber_paddedDigits {width : Option Nat} {count n : Nat} {rest : List Char}
    (fits : ∀ w ∈ width, (paddedDigits count n).length ≤ w) (noDigit : NoDigit rest) :
    readNumber width (paddedDigits count n ++ rest) = .ok (n, rest) := by
  obtain ⟨c, cs, eq, -⟩ := exists_paddedDigits_eq_cons count n
  have read := readNumber_append (allDigits_paddedDigits count n) (by simp [eq]) fits noDigit
  rwa [numberOf_paddedDigits] at read

/-- The year of a date fits into 32 bits. -/
lemma yearInWord_year (d : Date) : yearInWord d.year = .ok d.year := by
  obtain ⟨low, high, -⟩ := d.isDate
  apply if_pos
  unfold minYear at low
  unfold maxYear at high
  omega

/-- The years are read by their first characters, like they are written. -/
lemma readYear_yearText (d : Date) (rest : List Char) :
    readYear (yearText d.year ++ '-' :: rest) = .ok (d.year, '-' :: rest) := by
  have signed : readNumber none (paddedDigits 4 d.year.natAbs ++ '-' :: rest) =
      .ok (d.year.natAbs, '-' :: rest) :=
    readNumber_paddedDigits (fun _ m => nomatch m) (noDigit_hyphen rest)
  rcases lt_or_ge d.year 0 with neg | nonneg
  · have year : -(d.year.natAbs : Int) = d.year := by omega
    rw [yearText_of_neg neg, List.cons_append, readYear, skipBlank_cons (by decide)]
    simp only [signed, bind, Except.bind, year, yearInWord_year]
    rfl
  · have year : (d.year.natAbs : Int) = d.year := by omega
    rcases le_or_gt d.year 9999 with small | large
    · obtain ⟨c, cs, eq, digit⟩ := exists_paddedDigits_eq_cons 4 d.year.natAbs
      have four : readNumber (some 4) (paddedDigits 4 d.year.natAbs ++ '-' :: rest) =
          .ok (d.year.natAbs, '-' :: rest) := by
        refine readNumber_paddedDigits (fun w m => ?_) (noDigit_hyphen rest)
        obtain rfl := Option.some.inj m
        rw [length_paddedDigits_of_lt (by decide) (by omega)]
      rw [yearText_of_four_digits ⟨nonneg, small⟩]
      rw [eq, List.cons_append] at four ⊢
      rw [readYear, skipBlank_cons (isBlank_of_isDigit digit)]
      split
      case h_1 minus => exact absurd (List.cons.inj minus).1 (ne_of_isDigit digit rfl)
      case h_2 plus => exact absurd (List.cons.inj plus).1 (ne_of_isDigit digit rfl)
      case h_3 =>
        simp only [four, bind, Except.bind, year]
        rfl
    · rw [yearText_of_large large, List.cons_append, readYear, skipBlank_cons (by decide)]
      simp only [signed, bind, Except.bind, year, yearInWord_year]
      rfl

lemma readPart_paddedDigits {limit n : Nat} (h : 1 ≤ n ∧ n ≤ limit) (lt : n < 100)
    {rest : List Char} (noDigit : NoDigit rest) :
    readPart limit (paddedDigits 2 n ++ rest) = .ok (n, rest) := by
  obtain ⟨c, cs, eq, digit⟩ := exists_paddedDigits_eq_cons 2 n
  have skip : skipBlank (paddedDigits 2 n ++ rest) = paddedDigits 2 n ++ rest := by
    rw [eq, List.cons_append, skipBlank_cons (isBlank_of_isDigit digit)]
  have read : readNumber (some 2) (paddedDigits 2 n ++ rest) = .ok (n, rest) := by
    refine readNumber_paddedDigits (fun w m => ?_) noDigit
    obtain rfl := Option.some.inj m
    rw [length_paddedDigits_of_lt (by decide) lt]
  simp only [readPart, skip, read, bind, Except.bind, h, and_self, if_true]
  rfl

/-- A written date is read as that date. -/
lemma read_chars (spaced : Bool) (d : Date) : read spaced d.chars = .ok d := by
  have bounds := d.bounds
  have month : readPart 12 (paddedDigits 2 d.month ++ '-' :: paddedDigits 2 d.day) =
      .ok (d.month, '-' :: paddedDigits 2 d.day) :=
    readPart_paddedDigits ⟨bounds.1, bounds.2.1⟩ (by omega) (noDigit_hyphen _)
  have day : readPart 31 (paddedDigits 2 d.day) = .ok (d.day, []) := by
    have := readPart_paddedDigits bounds.2.2 (by omega) noDigit_nil
    rwa [List.append_nil] at this
  have gap (s : List Char) : (if spaced then skipBlank ('-' :: s) else '-' :: s) = '-' :: s := by
    cases spaced <;> rfl
  have made : ofYmd? d.year d.month d.day = some d := ofYmd?_eq_some_iff.2 ⟨rfl, rfl, rfl⟩
  rw [chars_eq]
  simp only [read, readYear_yearText, bind, Except.bind, gap, readHyphen, month, day, made]
  cases spaced <;> rfl

end Overdue.Date
