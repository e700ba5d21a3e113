import Mathlib.Order.WithBot
import Overdue.Finding.Urgency
import Overdue.Proofs.Calendar.Written
import Overdue.Proofs.Note.Reader

/-!
# Urgency and the calendar

The keys that findings are listed by are meant to be in the order of the calendar. They are, but for
findings of one due day whose commits lie in years that their texts put in another order
(`cmp_urgencyKey_iff`): a year after 9999 begins with a plus and comes before all others.
-/

namespace Overdue

open Text

/-- The day by which the work is due; what has no such day comes after every other. -/
def dueDay : Option Date → WithTop Date
  | some day => day
  | none => ⊤

/-- The place of a finding by the calendar: by due day, and within a day by the day of the commit. -/
def calendarKey (due : Option Date) (committed : Date) : WithTop Date ×ₗ Date :=
  toLex (dueDay due, committed)

lemma then_of_ne_eq {o p : Ordering} (h : o ≠ .eq) : o.then p = o := by
  cases o with
  | lt => rfl
  | eq => exact absurd rfl h
  | gt => rfl

lemma dueDay_inj {due due' : Option Date} : dueDay due = dueDay due' ↔ due = due' := by
  cases due <;> cases due' <;> simp [dueDay]

/-! ## Texts of due days -/

/-- The day is missing or lies in a year of four digits, as in every note that was read. -/
def HasFourDigits (due : Option Date) : Prop :=
  ∀ day ∈ due, 0 ≤ day.year ∧ day.year ≤ 9999

/-- The text for a missing day is that of a day no month has. -/
lemma undatedText_eq : undatedText.toList = Date.yearText 9999 ++
    '-' :: (paddedDigits 2 99 ++ '-' :: paddedDigits 2 99) := by
  decide

lemma chars_lt_undated {day : Date} (h : 0 ≤ day.year ∧ day.year ≤ 9999) :
    day.chars < undatedText.toList := by
  have bounds := day.bounds
  have compared := Date.compares_yearText day.year 9999
    (Date.compares_monthAndDay (show day.month < 100 by omega) (show 99 < 100 by decide)
      (show day.day < 100 by omega) (show 99 < 100 by decide))
  have sorts := Date.sortsByText_of_four_digits h (show (0 : Int) ≤ 9999 ∧ (9999 : Int) ≤ 9999 by decide)
  have month : cmp day.month 99 = .lt := LT.lt.cmp_eq_lt (by omega)
  rw [← Date.chars_eq, ← undatedText_eq, Date.compareYearTexts_eq_cmp_iff.2 sorts, month] at compared
  rcases h.2.lt_or_eq with year | year
  · rwa [year.cmp_eq_lt] at compared
  · rwa [year, cmp_self_eq_eq] at compared

lemma compares_dueText {due due' : Option Date} (h : HasFourDigits due) (h' : HasFourDigits due') :
    (cmp (dueDay due) (dueDay due')).Compares (dueText due).toList (dueText due').toList := by
  have chars (day : Date) : (dueText (some day)).toList = day.chars := String.toList_ofList
  cases due with
  | some day =>
    cases due' with
    | some day' =>
      have sorts := Date.sortsByText_of_four_digits (h day rfl) (h' day' rfl)
      rw [chars, chars, dueDay, dueDay, WithTop.coe_strictMono.cmp_map_eq]
      exact sorts.compares_chars
    | none =>
      rw [chars, dueDay, dueDay, (WithTop.coe_lt_top day).cmp_eq_lt]
      exact chars_lt_undated (h day rfl)
  | none =>
    cases due' with
    | some day' =>
      rw [chars, dueDay, dueDay, (WithTop.coe_lt_top day').cmp_eq_gt]
      exact chars_lt_undated (h' day' rfl)
    | none =>
      rw [cmp_self_eq_eq]
      rfl

lemma length_dueText {due : Option Date} (h : HasFourDigits due) :
    (dueText due).toList.length = 10 := by
  cases due with
  | some day => exact Date.length_text (h day rfl)
  | none => rfl

/-! ## Keys -/

lemma toList_urgencyKey (due : Option Date) (committed : Date) :
    (urgencyKey due committed).toList = (dueText due).toList ++ '~' :: committed.chars := by
  have tilde : "~".toList = ['~'] := by decide
  rw [urgencyKey, String.toList_append, String.toList_append, tilde, Date.text,
    String.toList_ofList, List.append_assoc, List.singleton_append]

/-- Keys are compared by their due days, then by the texts of the commit days. -/
lemma cmp_urgencyKey {due due' : Option Date} (h : HasFourDigits due) (h' : HasFourDigits due')
    (c c' : Date) : cmp (urgencyKey due c) (urgencyKey due' c') =
      (cmp (dueDay due) (dueDay due')).then ((Date.compareYearTexts c.year c'.year).then
        ((cmp c.month c'.month).then (cmp c.day c'.day))) := by
  have len : (dueText due).toList.length = (dueText due').toList.length := by
    rw [length_dueText h, length_dueText h']
  have keys := compares_append len (compares_dueText h h')
    (compares_cons_self '~' (Date.compares_chars c c'))
  rw [← toList_urgencyKey, ← toList_urgencyKey, compares_toList] at keys
  exact keys.cmp_eq

lemma cmp_calendarKey (due due' : Option Date) (c c' : Date) :
    cmp (calendarKey due c) (calendarKey due' c') =
      (cmp (dueDay due) (dueDay due')).then ((cmp c.year c'.year).then
        ((cmp c.month c'.month).then (cmp c.day c'.day))) := by
  rw [calendarKey, calendarKey, cmp_toLex, Date.cmp_eq]

/-- Where the texts of the commit years are in order, keys are in the order of the calendar. -/
lemma cmp_urgencyKey_of_sortsByText {due due' : Option Date} (h : HasFourDigits due)
    (h' : HasFourDigits due') {c c' : Date} (sorts : Date.SortsByText c.year c'.year) :
    cmp (urgencyKey due c) (urgencyKey due' c') =
      cmp (calendarKey due c) (calendarKey due' c') := by
  rw [cmp_urgencyKey h h', cmp_calendarKey, Date.compareYearTexts_eq_cmp_iff.2 sorts]

/-- What comes after years in a comparison does not tell two orders of the years apart. -/
lemma compareYearTexts_then_eq_iff {y z : Int} {o : Ordering} :
    (Date.compareYearTexts y z).then o = (cmp y z).then o ↔ Date.SortsByText y z := by
  rw [← Date.compareYearTexts_eq_cmp_iff]
  constructor
  · intro same
    rcases eq_or_ne y z with rfl | ne
    · rw [Date.compareYearTexts_eq_eq_iff.2 rfl, cmp_self_eq_eq]
    · have texts : Date.compareYearTexts y z ≠ .eq := fun eq =>
        ne (Date.compareYearTexts_eq_eq_iff.1 eq)
      have years : cmp y z ≠ .eq := fun eq => ne ((cmp_eq_eq_iff y z).1 eq)
      rwa [then_of_ne_eq texts, then_of_ne_eq years] at same
  · intro same
    rw [same]

/-- Keys of notes that were read are in the order of the calendar, unless the notes are due alike
and the commits lie in years that their texts put in another order. They never coincide for
different days. -/
theorem cmp_urgencyKey_iff {s t : String} {n m : Note} (h : Note.read? s = some n)
    (h' : Note.read? t = some m) (c d : Date) :
    (cmp (urgencyKey n.due c) (urgencyKey m.due d) =
        cmp (calendarKey n.due c) (calendarKey m.due d) ↔
      n.due ≠ m.due ∨ Date.SortsByText c.year d.year) ∧
    (urgencyKey n.due c = urgencyKey m.due d ↔ n.due = m.due ∧ c = d) := by
  have keys := cmp_urgencyKey (Note.due_year h) (Note.due_year h') c d
  constructor
  · rw [keys, cmp_calendarKey]
    rcases eq_or_ne n.due m.due with due | due
    · rw [due, cmp_self_eq_eq, Ordering.eq_then, Ordering.eq_then, compareYearTexts_then_eq_iff]
      exact (or_iff_right fun ne => ne rfl).symm
    -- different due days decide both comparisons
    · have days : cmp (dueDay n.due) (dueDay m.due) ≠ .eq := fun eq =>
        due (dueDay_inj.1 ((cmp_eq_eq_iff _ _).1 eq))
      rw [then_of_ne_eq days, then_of_ne_eq days]
      exact iff_of_true rfl (.inl due)
  · rw [← cmp_eq_eq_iff, keys, Ordering.then_eq_eq, cmp_eq_eq_iff, dueDay_inj,
      (Date.compares_chars c d).eq_eq, Date.chars_inj]

theorem cmp_urgencyKey_of_dated_and_undated :
    Note.read? "# TODO [2021-10-10]: a" = some ⟨.todo, some ⟨2021, 10, 10, by decide⟩, "a"⟩ ∧
    Note.read? "# FIXME: b" = some ⟨.fixme, none, "b"⟩ ∧
    cmp (urgencyKey (some ⟨2021, 10, 10, by decide⟩) ⟨12023, 5, 11, by decide⟩)
        (urgencyKey none ⟨-44, 3, 15, by decide⟩) =
      cmp (calendarKey (some ⟨2021, 10, 10, by decide⟩) ⟨12023, 5, 11, by decide⟩)
        (calendarKey none ⟨-44, 3, 15, by decide⟩) := by
  have dated : Note.read? "# TODO [2021-10-10]: a" =
      some ⟨.todo, some ⟨2021, 10, 10, by decide⟩, "a"⟩ := by decide +kernel
  have undated : Note.read? "# FIXME: b" = some ⟨.fixme, none, "b"⟩ := by decide +kernel
  exact ⟨dated, undated, (cmp_urgencyKey_iff dated undated _ _).1.2 (.inl (by decide))⟩

/-- A commit of the year 10000 is listed before one of the year 2023. -/
theorem urgencyKey_lt_of_year_10000 : ∃ a b : Attribution,
    Note.read? "# TODO: a" = some ⟨.todo, none, "a"⟩ ∧
    Attribution.read? ("bbbbbbbbbbbbbbbbbbbbbbbbbbbbbbbbbbbbbbbb 1 1 1\nauthor B\n" ++
      "committer-time 1683763200\n\t# TODO: a\n") = some a ∧
    Attribution.read? ("cccccccccccccccccccccccccccccccccccccccc 2 2 1\nauthor C\n" ++
      "committer-time 253402300800\n\t# TODO: a\n") = some b ∧
    calendarKey none a.committed < calendarKey none b.committed ∧
    urgencyKey none b.committed < urgencyKey none a.committed := by
  refine ⟨⟨"bbbbbbbbbbbbbbbbbbbbbbbbbbbbbbbbbbbbbbbb", "B", none, ⟨2023, 5, 11, by decide⟩⟩,
    ⟨"cccccccccccccccccccccccccccccccccccccccc", "C", none, ⟨10000, 1, 1, by decide⟩⟩,
    by decide +kernel, by decide +kernel, by decide +kernel, ?_, by decide +kernel⟩
  exact Prod.Lex.toLex_lt_toLex.2 (.inr ⟨rfl, by decide⟩)

end Overdue
