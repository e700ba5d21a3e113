import Overdue.Proofs.Note.Grammar

/-!
# Reading the parts of a note

Each reader of a part takes from a text exactly what the grammar derives. A reader of a part with an
open end takes as much as it can, which is what a derivation takes whenever the character behind the
part cannot belong to it (`NoWord`).
-/

namespace Overdue.Note

open Text

/-! ## Markers -/

lemma afterLetters?_eq_some_iff {letters s rest : List Char} :
    afterLetters? letters s = some rest ↔ ∃ word, word.map Char.toLower = letters ∧
      s = word ++ rest := by
  induction letters generalizing s with
  | nil => simp [afterLetters?, eq_comm]
  | cons l ls ih =>
    cases s with
    | nil =>
      refine iff_of_false (by simp [afterLetters?]) ?_
      rintro ⟨word, lower, eq⟩
      obtain ⟨rfl, -⟩ := List.append_eq_nil_iff.1 eq.symm
      cases lower
    | cons c cs =>
      rw [afterLetters?]
      constructor
      · intro h
        split at h
        case isTrue same =>
          obtain ⟨word, lower, rfl⟩ := ih.1 h
          exact ⟨c :: word, by rw [List.map_cons, same, lower], rfl⟩
        case isFalse => cases h
      · rintro ⟨word, lower, eq⟩
        cases word with
        | nil => cases lower
        | cons d word =>
          obtain ⟨rfl, rfl⟩ := List.cons.inj eq
          obtain ⟨same, lower⟩ := List.cons.inj lower
          rw [if_pos same]
          exact ih.2 ⟨word, lower, rfl⟩

lemma spells_name_iff {kind : Kind} {word : List Char} :
    Spells kind.name.toList word ↔ word.map Char.toLower = marker kind := by
  rw [spells_iff fun _ => isUpper_of_mem_name]
  cases kind <;> exact Iff.rfl

/-- A word has the letters of at most one kind. -/
lemma afterLetters?_todo_of_fixme {word : List Char} (h : word.map Char.toLower = marker .fixme)
    (rest : List Char) : afterLetters? (marker .todo) (word ++ rest) = none := by
  cases word with
  | nil => cases h
  | cons c word =>
    have first : c.toLower = 'f' := (List.cons.inj h).1
    rw [List.cons_append, marker, afterLetters?, first]
    exact if_neg (by decide)

lemma readMarker_eq_some_iff {s rest : List Char} {kind : Kind} :
    readMarker s = some (kind, rest) ↔ ∃ word, Spells kind.name.toList word ∧
      s = word ++ rest := by
  simp only [spells_name_iff]
  constructor
  · intro h
    unfold readMarker at h
    split at h
    case h_1 r eq =>
      obtain ⟨rfl, rfl⟩ : Kind.todo = kind ∧ r = rest := by simpa using h
      exact afterLetters?_eq_some_iff.1 eq
    case h_2 =>
      obtain ⟨r, eq, same⟩ := Option.map_eq_some_iff.1 h
      obtain ⟨rfl, rfl⟩ := Prod.mk.inj same
      exact afterLetters?_eq_some_iff.1 eq
  · rintro ⟨word, lower, rfl⟩
    have after : afterLetters? (marker kind) (word ++ rest) = some rest :=
      afterLetters?_eq_some_iff.2 ⟨word, lower, rfl⟩
    unfold readMarker
    cases kind with
    | todo => rw [after]
    | fixme => rw [afterLetters?_todo_of_fixme lower, after]; rfl

/-! ## Modifiers -/

/-- The text does not begin with a word character. -/
def NoWord (s : List Char) : Prop :=
  ∀ c ∈ s.head?, isWord c = false

lemma isWord_of_isBlank {c : Char} (h : isBlank c) : isWord c = false := by
  have blanks : ∀ n ∈ [9, 10, 11, 12, 13, 32, 0x85, 0xA0, 0x1680, 0x2000, 0x2001, 0x2002, 0x2003,
      0x2004, 0x2005, 0x2006, 0x2007, 0x2008, 0x2009, 0x200A, 0x2028, 0x2029, 0x202F, 0x205F,
      0x3000], (wordRanges.any fun range => range.1 ≤ n && n ≤ range.2) = false := by
    decide +kernel
  -- white space is one of these code points
  apply blanks
  simp only [isBlank, Bool.or_eq_true, Bool.and_eq_true, decide_eq_true_eq, beq_iff_eq] at h
  simp only [List.mem_cons, List.not_mem_nil, or_false]
  omega

lemma noWord_append {gap s : List Char} (h : allBlank gap) (h' : NoWord s) : NoWord (gap ++ s) := by
  cases gap with
  | nil => exact h'
  | cons c gap =>
    intro d m
    obtain rfl : c = d := Option.some.inj m
    exact isWord_of_isBlank (allBlank_iff.1 h c List.mem_cons_self)

lemma noWord_colon (s : List Char) : NoWord (':' :: s) := by
  intro c m
  obtain rfl : ':' = c := Option.some.inj m
  decide +kernel

lemma noWord_bracketed (t s : List Char) : NoWord (bracketed t ++ s) := by
  intro c m
  obtain rfl : '[' = c := Option.some.inj m
  decide +kernel

lemma exists_of_afterModifier? {s rest : List Char} (h : afterModifier? s = some rest) :
    ∃ m, IsModifier m ∧ s = m ++ rest := by
  unfold afterModifier? at h
  split at h
  case h_1 s =>
    split at h
    case h_1 => cases h
    case h_2 c after eq =>
      obtain rfl : after = rest := Option.some.inj h
      have close : c = ')' := by
        have := List.head?_dropWhile_not (fun x => x != ')') s
        rw [eq] at this
        simpa using this
      subst close
      refine ⟨'(' :: (s.takeWhile (· != ')') ++ [')']), .remark ?_, ?_⟩
      · intro m
        simpa using List.all_eq_true.1 List.all_takeWhile _ m
      · rw [List.cons_append, List.append_assoc, List.singleton_append, ← eq,
          List.takeWhile_append_dropWhile]
  case h_2 c s =>
    split at h
    case isTrue word =>
      obtain rfl : s.dropWhile isWord = rest := Option.some.inj h
      refine ⟨'@' :: c :: s.takeWhile isWord, .name word ?_, ?_⟩
      · exact List.all_eq_true.1 List.all_takeWhile
      · rw [List.cons_append, List.cons_append, List.takeWhile_append_dropWhile]
    case isFalse => cases h
  case h_3 => cases h

lemma afterModifier?_append {m : List Char} (h : IsModifier m) {rest : List Char}
    (noWord : NoWord rest) : afterModifier? (m ++ rest) = some rest := by
  cases h with
  | @remark text noClose =>
    have opened : ∀ c ∈ text, (c != ')') = true := fun c m =>
      bne_iff_ne.2 (ne_of_mem_of_not_mem m noClose)
    have drop : (text ++ ')' :: rest).dropWhile (· != ')') = ')' :: rest := by
      rw [List.dropWhile_append_of_pos opened]
      rfl
    rw [List.cons_append, List.append_assoc, List.singleton_append, afterModifier?, drop]
  | @name c name first others =>
    have drop : (name ++ rest).dropWhile isWord = rest := by
      rw [List.dropWhile_append_of_pos others]
      cases rest with
      | nil => rfl
      | cons d rest => exact List.dropWhile_cons_of_neg (by simp [noWord d rfl])
    rw [List.cons_append, List.cons_append, afterModifier?, if_pos first, drop]

/-! ## Dates -/

/-- The numbers as they are written. -/
def DateNumbers.chars (n : DateNumbers) : List Char :=
  paddedDigits 4 n.year ++ '-' :: (paddedDigits 2 n.month ++ '-' :: paddedDigits 2 n.day)

/-- The numbers have at most four, two and two digits. -/
def DateNumbers.Fits (n : DateNumbers) : Prop :=
  n.year < 10 ^ 4 ∧ n.month < 10 ^ 2 ∧ n.day < 10 ^ 2

lemma readChar_eq_some_iff {c : Char} {s rest : List Char} :
    readChar c s = some rest ↔ s = c :: rest := by
  cases s with
  | nil => simp [readChar]
  | cons d s =>
    rw [readChar, Option.ite_none_right_eq_some, Option.some.injEq, List.cons.injEq]

lemma readDigits_eq_some_iff {n count m : Nat} {s rest : List Char} :
    readDigits n count s = some (m, rest) ↔ ∃ ds, (AllDigits ds ∧ ds.length = count) ∧
      Nat.ofDigitChars 10 ds n = m ∧ s = ds ++ rest := by
  induction count generalizing n s with
  | zero =>
    constructor
    · intro h
      obtain ⟨rfl, rfl⟩ := Prod.mk.inj (Option.some.inj h)
      exact ⟨[], ⟨fun _ m => absurd m List.not_mem_nil, rfl⟩, rfl, rfl⟩
    · rintro ⟨ds, ⟨-, len⟩, rfl, rfl⟩
      obtain rfl := List.length_eq_zero_iff.1 len
      rfl
  | succ count ih =>
    cases s with
    | nil =>
      refine iff_of_false (by simp [readDigits]) ?_
      rintro ⟨ds, ⟨-, len⟩, -, eq⟩
      obtain ⟨rfl, -⟩ := List.append_eq_nil_iff.1 eq.symm
      cases len
    | cons c cs =>
      rw [readDigits, Option.ite_none_right_eq_some, ih]
      constructor
      · rintro ⟨digit, ds, ⟨digits, len⟩, value, rfl⟩
        exact ⟨c :: ds, ⟨List.forall_mem_cons.2 ⟨digit, digits⟩, by rw [List.length_cons, len]⟩,
          value, rfl⟩
      · rintro ⟨ds, ⟨digits, len⟩, value, eq⟩
        cases ds with
        | nil => cases len
        | cons d ds =>
          obtain ⟨rfl, rfl⟩ := List.cons.inj eq
          obtain ⟨digit, digits⟩ := List.forall_mem_cons.1 digits
          exact ⟨digit, ds, ⟨digits, Nat.succ.inj len⟩, value, rfl⟩

/-- Digits of a given number are those of the number they stand for. -/
lemma exists_digits_iff {count n : Nat} (pos : 0 < count) {ds : List Char} :
    (AllDigits ds ∧ ds.length = count) ∧ numberOf ds = n ↔
      n < 10 ^ count ∧ ds = paddedDigits count n := by
  constructor
  · rintro ⟨⟨digits, rfl⟩, rfl⟩
    exact ⟨numberOf_lt digits, (paddedDigits_numberOf digits pos).symm⟩
  · rintro ⟨lt, rfl⟩
    exact ⟨⟨allDigits_paddedDigits _ _, length_paddedDigits_of_lt pos lt⟩,
      numberOf_paddedDigits _ _⟩

lemma readNumber_eq_some_iff {count n : Nat} (pos : 0 < count) {s rest : List Char} :
    readDigits 0 count s = some (n, rest) ↔ n < 10 ^ count ∧ s = paddedDigits count n ++ rest := by
  rw [readDigits_eq_some_iff]
  constructor
  · rintro ⟨ds, digits, value, rfl⟩
    obtain ⟨lt, rfl⟩ := (exists_digits_iff pos).1 ⟨digits, value⟩
    exact ⟨lt, rfl⟩
  · rintro ⟨lt, rfl⟩
    obtain ⟨digits, value⟩ := (exists_digits_iff pos).2 ⟨lt, rfl⟩
    exact ⟨_, digits, value, rfl⟩

lemma isDateText_iff {t : List Char} : IsDateText t ↔ ∃ n : DateNumbers, n.Fits ∧ t = n.chars := by
  constructor
  · rintro ⟨year, month, day, isYear, isMonth, isDay, rfl⟩
    obtain ⟨yearLt, yearEq⟩ := (exists_digits_iff (by decide)).1 ⟨isYear, rfl⟩
    obtain ⟨monthLt, monthEq⟩ := (exists_digits_iff (by decide)).1 ⟨isMonth, rfl⟩
    obtain ⟨dayLt, dayEq⟩ := (exists_digits_iff (by decide)).1 ⟨isDay, rfl⟩
    refine ⟨⟨numberOf year, numberOf month, numberOf day⟩, ⟨yearLt, monthLt, dayLt⟩, ?_⟩
    rw [DateNumbers.chars, ← yearEq, ← monthEq, ← dayEq]
  · rintro ⟨n, ⟨year, month, day⟩, rfl⟩
    exact ⟨_, _, _, ((exists_digits_iff (by decide)).2 ⟨year, rfl⟩).1,
      ((exists_digits_iff (by decide)).2 ⟨month, rfl⟩).1,
      ((exists_digits_iff (by decide)).2 ⟨day, rfl⟩).1, rfl⟩

lemma readDate_eq_some_iff {n : DateNumbers} {s rest : List Char} :
    readDate s = some (n, rest) ↔ n.Fits ∧ s = bracketed n.chars ++ rest := by
  unfold readDate
  simp only [Option.bind_eq_bind, Option.bind_eq_some_iff, readChar_eq_some_iff, Prod.exists,
    readNumber_eq_some_iff (show 0 < 4 by decide), readNumber_eq_some_iff (show 0 < 2 by decide)]
  constructor
  · rintro ⟨_, rfl, y, _, ⟨hy, rfl⟩, _, rfl, m, _, ⟨hm, rfl⟩, _, rfl, d, _, ⟨hd, rfl⟩, _, rfl, eq⟩
    obtain ⟨rfl, rfl⟩ := Prod.mk.inj (Option.some.inj eq)
    exact ⟨⟨hy, hm, hd⟩, by simp [bracketed, DateNumbers.chars]⟩
  · rintro ⟨⟨hy, hm, hd⟩, rfl⟩
    exact ⟨_, rfl, n.year, _, ⟨hy, by simp [DateNumbers.chars]⟩, _, rfl, n.month, _, ⟨hm, rfl⟩,
      _, rfl, n.day, _, ⟨hd, rfl⟩, _, rfl, rfl⟩

lemma readDate_bracketed {n : DateNumbers} (fits : n.Fits) (rest : List Char) :
    readDate (bracketed n.chars ++ rest) = some (n, rest) :=
  readDate_eq_some_iff.2 ⟨fits, rfl⟩

/-! ## Details -/

lemma skipBlank_append_modifier {gap m : List Char} (blank : allBlank gap) (h : IsModifier m)
    (s : List Char) : skipBlank (gap ++ (m ++ s)) = m ++ s := by
  cases h with
  | remark => exact skipBlank_append_cons blank (by decide) _
  | name => exact skipBlank_append_cons blank (by decide) _

lemma skipBlank_append_bracketed {gap : List Char} (blank : allBlank gap) (t s : List Char) :
    skipBlank (gap ++ (bracketed t ++ s)) = bracketed t ++ s :=
  skipBlank_append_cons blank (by decide) _

lemma skipBlank_append_colon {gap : List Char} (blank : allBlank gap) (s : List Char) :
    skipBlank (gap ++ ':' :: s) = ':' :: s :=
  skipBlank_append_cons blank (by decide) _

lemma exists_of_modifier_read {s rest : List Char} (h : afterModifier? s = some rest) :
    ∃ m gap, IsModifier m ∧ allBlank gap ∧ s = m ++ (gap ++ skipBlank rest) := by
  obtain ⟨m, isModifier, eq⟩ := exists_of_afterModifier? h
  obtain ⟨gap, blank, skipped⟩ := exists_append_skipBlank rest
  exact ⟨m, gap, isModifier, blank, by rw [eq, skipped]⟩

lemma exists_of_date_read {n : DateNumbers} {s rest : List Char} (h : readDate s = some (n, rest)) :
    ∃ gap, n.Fits ∧ allBlank gap ∧ s = bracketed n.chars ++ (gap ++ skipBlank rest) := by
  obtain ⟨fits, eq⟩ := readDate_eq_some_iff.1 h
  obtain ⟨gap, blank, skipped⟩ := exists_append_skipBlank rest
  exact ⟨gap, fits, blank, by rw [eq, skipped]⟩

/-- What is read between the marker and the colon are details that the grammar derives. -/
lemma exists_of_readDetails {s rest : List Char} {date : Option DateNumbers}
    (h : readDetails s = (date, rest)) : ∃ gap details, allBlank gap ∧
      IsDetails details (date.map DateNumbers.chars) ∧ (∀ n ∈ date, n.Fits) ∧
      s = gap ++ (details ++ rest) := by
  obtain ⟨gap, blank, eq⟩ := exists_append_skipBlank s
  have isDate {n : DateNumbers} (fits : n.Fits) : IsDateText n.chars :=
    isDateText_iff.2 ⟨n, fits, rfl⟩
  have all {n : DateNumbers} (fits : n.Fits) : ∀ n' ∈ some n, n'.Fits := by
    rintro _ ⟨⟩
    exact fits
  rw [← eq]
  simp only [readDetails] at h
  split at h
  -- a modifier comes first, perhaps with a date behind it
  case h_1 s₁ after =>
    obtain ⟨m, gap₁, isModifier, blank₁, eq₁⟩ := exists_of_modifier_read after
    split at h
    case h_1 n s₂ read =>
      obtain ⟨gap₂, fits, blank₂, eq₂⟩ := exists_of_date_read read
      obtain ⟨rfl, rfl⟩ := Prod.mk.inj h
      refine ⟨gap, _, blank, .modifierDate isModifier blank₁ (isDate fits) blank₂, all fits, ?_⟩
      rw [eq₁, eq₂]
      simp only [List.append_assoc]
    case h_2 =>
      obtain ⟨rfl, rfl⟩ := Prod.mk.inj h
      refine ⟨gap, _, blank, .modifier isModifier blank₁, by simp, ?_⟩
      rw [eq₁, List.append_assoc]
  -- no modifier comes first, but perhaps a date with a modifier behind it
  case h_2 =>
    split at h
    case h_1 n s₁ read =>
      obtain ⟨gap₁, fits, blank₁, eq₁⟩ := exists_of_date_read read
      split at h
      case h_1 s₂ after =>
        obtain ⟨m, gap₂, isModifier, blank₂, eq₂⟩ := exists_of_modifier_read after
        obtain ⟨rfl, rfl⟩ := Prod.mk.inj h
        refine ⟨gap, _, blank, .dateModifier (isDate fits) blank₁ isModifier blank₂, all fits, ?_⟩
        rw [eq₁, eq₂]
        simp only [List.append_assoc]
      case h_2 =>
        obtain ⟨rfl, rfl⟩ := Prod.mk.inj h
        refine ⟨gap, _, blank, .date (isDate fits) blank₁, all fits, ?_⟩
        rw [eq₁, List.append_assoc]
    case h_2 =>
      obtain ⟨rfl, rfl⟩ := Prod.mk.inj h
      exact ⟨gap, [], blank, .nothing, by simp, rfl⟩

/-- Details that the grammar derives before a colon are read up to the colon. -/
lemma readDetails_append {gap details : List Char} {date : Option (List Char)}
    (blank : allBlank gap) (h : IsDetails details date) (rest : List Char) :
    ∃ n, date = Option.map DateNumbers.chars n ∧
      readDetails (gap ++ (details ++ ':' :: rest)) = (n, ':' :: rest) := by
  -- the first character of each part tells it from the others
  have noModifier (t s : List Char) : afterModifier? (bracketed t ++ s) = none := rfl
  have noModifier' : afterModifier? (':' :: rest) = none := rfl
  have noDate : readDate (':' :: rest) = none := rfl
  have noWord {gap : List Char} (blank : allBlank gap) : NoWord (gap ++ ':' :: rest) :=
    noWord_append blank (noWord_colon rest)
  cases h with
  | nothing =>
    refine ⟨none, rfl, ?_⟩
    simp only [readDetails, List.nil_append, skipBlank_append_colon blank, noModifier', noDate]
  | @modifier m gap₁ isModifier blank₁ =>
    have after := afterModifier?_append isModifier (noWord blank₁)
    refine ⟨none, rfl, ?_⟩
    simp only [readDetails, List.append_assoc, skipBlank_append_modifier blank isModifier, after,
      skipBlank_append_colon blank₁, noDate]
  | @date t gap₁ isDate blank₁ =>
    obtain ⟨n, fits, rfl⟩ := isDateText_iff.1 isDate
    have read := readDate_bracketed fits (gap₁ ++ ':' :: rest)
    refine ⟨some n, rfl, ?_⟩
    simp only [readDetails, List.append_assoc, skipBlank_append_bracketed blank, noModifier, read,
      skipBlank_append_colon blank₁, noModifier']
  | @modifierDate m gap₁ t gap₂ isModifier blank₁ isDate blank₂ =>
    obtain ⟨n, fits, rfl⟩ := isDateText_iff.1 isDate
    have after := afterModifier?_append isModifier
      (noWord_append blank₁ (noWord_bracketed n.chars (gap₂ ++ ':' :: rest)))
    have read := readDate_bracketed fits (gap₂ ++ ':' :: rest)
    refine ⟨some n, rfl, ?_⟩
    simp only [readDetails, List.append_assoc, skipBlank_append_modifier blank isModifier, after,
      skipBlank_append_bracketed blank₁, read, skipBlank_append_colon blank₂]
  | @dateModifier t gap₁ m gap₂ isDate blank₁ isModifier blank₂ =>
    obtain ⟨n, fits, rfl⟩ := isDateText_iff.1 isDate
    have after := afterModifier?_append isModifier (noWord blank₂)
    have read := readDate_bracketed fits (gap₁ ++ (m ++ (gap₂ ++ ':' :: rest)))
    refine ⟨some n, rfl, ?_⟩
    simp only [readDetails, List.append_assoc, skipBlank_append_bracketed blank, noModifier, read,
      skipBlank_append_modifier blank₁ isModifier, after, skipBlank_append_colon blank₂]

end Overdue.Note
