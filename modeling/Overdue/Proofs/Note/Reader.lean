import Overdue.Proofs.Note.Parts

/-!
# Reading notes by their grammar

The reader finds the leftmost derivation of a text, and what it makes of it is what every derivation
at that place denotes (`read?_iff`). So the grammar is unambiguous, though it does not say how far a
part reaches.
-/

namespace Overdue.Note

open Text

/-! ## Entries -/

/-- An entry means what is written: the kind that the word spells, the numbers of the date, and the
rest without white space at its ends. -/
def Entry.Means (e : Entry) (w : Written) : Prop :=
  Spells w.kind.name.toList e.word ∧ e.date = w.date.map DateNumbers.chars ∧ w.body = trim e.rest

lemma isBody_iff {s : List Char} : IsBody s ↔ '\n' ∉ skipBlank s := by
  rw [newline_mem_skipBlank_iff]
  constructor
  · rintro h ⟨above, below, eq, notBlank⟩
    exact notBlank (h above below eq)
  · intro h above below eq
    by_contra notBlank
    exact h ⟨above, below, eq, notBlank⟩

lemma isBody_of_line {s : List Char} (h : '\n' ∉ s) : IsBody s := by
  rintro above below rfl
  exact absurd (List.mem_append_right above List.mem_cons_self) h

/-- The steps in which a marker is read with all that belongs to it. -/
lemma readAt_eq_some_iff {s : List Char} {w : Written} : readAt s = some w ↔ ∃ s₁ rest,
    readMarker s = some (w.kind, s₁) ∧ readDetails s₁ = (w.date, ':' :: rest) ∧ IsBody rest ∧
      w.body = trim rest := by
  obtain ⟨kind, date, body⟩ := w
  simp only [readAt, Option.bind_eq_bind, Option.bind_eq_some_iff, readChar_eq_some_iff, Prod.exists]
  constructor
  · rintro ⟨_, s₁, marked, rest, colon, h⟩
    split at h
    case isTrue => cases h
    case isFalse oneLine =>
      obtain ⟨rfl, rfl, rfl⟩ := Written.mk.inj (Option.some.inj h)
      refine ⟨s₁, rest, marked, Prod.ext rfl colon, ?_, trim_skipBlank rest⟩
      rwa [isBody_iff, ← List.contains_iff_mem]
  · rintro ⟨s₁, rest, marked, details, isBody, rfl⟩
    refine ⟨kind, s₁, marked, rest, congrArg Prod.snd details, ?_⟩
    rw [isBody_iff, ← List.contains_iff_mem] at isBody
    rw [if_neg isBody, details, trim_skipBlank]
    rfl

/-- What is read at a marker is what some entry means. -/
lemma exists_of_readAt {s : List Char} {w : Written} (h : readAt s = some w) :
    ∃ e : Entry, e.chars = s ∧ e.Means w ∧ ∀ n ∈ w.date, n.Fits := by
  obtain ⟨s₁, rest, marked, detailed, isBody, body⟩ := readAt_eq_some_iff.1 h
  obtain ⟨word, spells, rfl⟩ := readMarker_eq_some_iff.1 marked
  obtain ⟨gap, details, blank, isDetails, fits, rfl⟩ := exists_of_readDetails detailed
  refine ⟨⟨word, gap, details, _, rest, ⟨w.kind, spells⟩, blank, isDetails, isBody⟩, ?_,
    ⟨spells, rfl, body⟩, fits⟩
  simp only [Entry.chars, List.append_assoc]

/-- What an entry means is read from its text, however the text is cut. -/
lemma Entry.exists_readAt (e : Entry) : ∃ w, readAt e.chars = some w ∧ e.Means w := by
  obtain ⟨kind, spells⟩ := e.isMarker
  obtain ⟨date, eq, detailed⟩ := readDetails_append e.allBlank_gap e.isDetails e.rest
  refine ⟨⟨kind, date, trim e.rest⟩, readAt_eq_some_iff.2 ?_, spells, eq, rfl⟩
  refine ⟨e.gap ++ (e.details ++ ':' :: e.rest), e.rest, ?_, detailed, e.isBody, rfl⟩
  rw [readMarker_eq_some_iff]
  exact ⟨e.word, spells, by simp only [Entry.chars, List.append_assoc]⟩

lemma Entry.means_of_readAt {e : Entry} {w : Written} (h : readAt e.chars = some w) : e.Means w := by
  obtain ⟨w', read, means⟩ := e.exists_readAt
  obtain rfl : w' = w := Option.some.inj (read.symm.trans h)
  exact means

/-! ## The leftmost place -/

/-- What can be read behind a character, if it is white space. -/
def readBehind (c : Char) (cs : List Char) : Option Written :=
  if isBlank c then readAt cs else none

lemma find?_cons (c : Char) (cs : List Char) :
    find? (c :: cs) = (readBehind c cs).or (find? cs) := by
  rw [find?, readBehind]
  split
  case isTrue => cases readAt cs <;> rfl
  case isFalse => rfl

lemma readBehind_of_find?_eq_none {before s : List Char} {c : Char}
    (h : find? (before ++ c :: s) = none) : readBehind c s = none := by
  induction before with
  | nil =>
    rw [List.nil_append, find?_cons, Option.or_eq_none_iff] at h
    exact h.1
  | cons d before ih =>
    rw [List.cons_append, find?_cons, Option.or_eq_none_iff] at h
    exact ih h.2

/-- A note is found at the first character behind which one can be read. -/
lemma exists_of_find? {text : List Char} {w : Written} (h : find? text = some w) :
    ∃ before c s, text = before ++ c :: s ∧ readBehind c s = some w ∧
      ∀ before' c' s', text = before' ++ c' :: s' → before'.length < before.length →
        readBehind c' s' = none := by
  induction text with
  | nil => cases h
  | cons c cs ih =>
    rw [find?_cons] at h
    cases here : readBehind c cs with
    | some w' =>
      rw [here, Option.some_or] at h
      obtain rfl : w' = w := Option.some.inj h
      exact ⟨[], c, cs, rfl, here, fun _ _ _ _ lt => absurd lt (Nat.not_lt_zero _)⟩
    | none =>
      rw [here, Option.none_or] at h
      obtain ⟨before, d, s, rfl, read, first⟩ := ih h
      refine ⟨c :: before, d, s, rfl, read, ?_⟩
      -- a place further left is the first character or a place in the rest
      intro before' c' s' eq lt
      cases before' with
      | nil =>
        obtain ⟨rfl, rfl⟩ := List.cons.inj eq
        exact here
      | cons d' before' =>
        obtain ⟨rfl, rest⟩ := List.cons.inj eq
        exact first before' c' s' rest (Nat.lt_of_succ_lt_succ lt)

namespace Derivation

variable {text : List Char}

lemma readBehind_chars (d : Derivation text) : readBehind d.space d.chars = readAt d.chars :=
  if_pos d.isBlank_space

/-- Derivations at one place are cuts of one text. -/
lemma chars_eq_of_position_eq {d d' : Derivation text} (h : d.position = d'.position) :
    d.chars = d'.chars := by
  have whole : d.before ++ d.space :: d.chars = d'.before ++ d'.space :: d'.chars :=
    d.text_eq.symm.trans d'.text_eq
  exact (List.cons.inj (List.append_inj whole h).2).2

end Derivation

/-- A note is found where the leftmost derivations are. -/
lemma exists_leftmost_of_find? {text : List Char} {w : Written} (h : find? text = some w) :
    ∃ d : Derivation text, d.IsLeftmost ∧ readAt d.chars = some w := by
  obtain ⟨before, c, s, eq, read, first⟩ := exists_of_find? h
  rw [readBehind, Option.ite_none_right_eq_some] at read
  obtain ⟨blank, read⟩ := read
  obtain ⟨e, rfl, -⟩ := exists_of_readAt read
  refine ⟨⟨e, before, c, blank, eq⟩, ?_, read⟩
  -- a derivation further left would have been read before
  intro d'
  by_contra left
  have unread := first d'.before d'.space d'.chars d'.text_eq (Nat.lt_of_not_le left)
  obtain ⟨w', read', -⟩ := d'.exists_readAt
  rw [d'.readBehind_chars, read'] at unread
  cases unread

lemma find?_eq_none_iff {text : List Char} : find? text = none ↔ IsEmpty (Derivation text) := by
  constructor
  · intro h
    refine ⟨fun d => ?_⟩
    obtain ⟨w, read, -⟩ := d.exists_readAt
    rw [d.text_eq] at h
    have := readBehind_of_find?_eq_none h
    rw [d.readBehind_chars, read] at this
    cases this
  · intro h
    cases found : find? text with
    | none => rfl
    | some w =>
      obtain ⟨d, -⟩ := exists_leftmost_of_find? found
      exact h.elim d

/-- What is found is what is read at the leftmost derivations. -/
lemma Derivation.IsLeftmost.find?_eq {text : List Char} {d : Derivation text}
    (h : d.IsLeftmost) : find? text = readAt d.chars := by
  cases found : find? text with
  | none => exact (find?_eq_none_iff.1 found).elim d
  | some w =>
    obtain ⟨d₀, leftmost, read⟩ := exists_leftmost_of_find? found
    rw [chars_eq_of_position_eq (Nat.le_antisymm (h d₀) (leftmost d)), read]

/-! ## Dates -/

/-- A date is written as its numbers are, and no other date is. -/
lemma chars_eq_iff {day : Date} {n : DateNumbers} (fits : n.Fits) :
    day.chars = n.chars ↔ day.year = n.year ∧ day.month = n.month ∧ day.day = n.day := by
  obtain ⟨year, month, lastDay⟩ := fits
  have bounds := day.bounds
  have written : n.chars = Date.yearText n.year ++
      '-' :: (paddedDigits 2 n.month ++ '-' :: paddedDigits 2 n.day) := by
    rw [Date.yearText_of_four_digits (by omega), Int.natAbs_natCast, DateNumbers.chars]
  have compared := Date.compares_yearText day.year n.year
    (Date.compares_monthAndDay (show day.month < 100 by omega) month
      (show day.day < 100 by omega) lastDay)
  rw [Date.chars_eq, written, ← compared.eq_eq, Ordering.then_eq_eq, Ordering.then_eq_eq,
    Date.compareYearTexts_eq_eq_iff, cmp_eq_eq_iff, cmp_eq_eq_iff]

lemma DateNumbers.date?_eq_some_iff {n : DateNumbers} (fits : n.Fits) {day : Date} :
    n.date? = some day ↔ day.chars = n.chars := by
  rw [DateNumbers.date?, Date.ofYmd?_eq_some_iff, chars_eq_iff fits]

lemma DateNumbers.date?_eq_none_iff {n : DateNumbers} (fits : n.Fits) :
    n.date? = none ↔ ∀ day : Date, day.chars ≠ n.chars := by
  rw [Option.eq_none_iff_forall_ne_some]
  exact forall_congr' fun day => not_congr (DateNumbers.date?_eq_some_iff fits)

/-! ## Notes -/

/-- The note of what is read at a derivation is the one that the derivation denotes. -/
lemma Derivation.note?_eq_some_iff {text : List Char} {d : Derivation text} {w : Written}
    (read : readAt d.chars = some w) (note : Note) : w.note? = some note ↔ d.Denotes note := by
  obtain ⟨spells, date, body⟩ := Entry.means_of_readAt read
  obtain ⟨-, -, -, fits⟩ := exists_of_readAt read
  have kind : Kind.ofName? (String.ofList d.word) = some w.kind := ofName?_of_spells spells
  have body : String.ofList w.body = trimmed (String.ofList d.rest) := by
    rw [body, trimmed, String.toList_ofList]
  obtain ⟨noteKind, due, noteBody⟩ := note
  rw [Derivation.Denotes, kind, date, ← body, Option.some.injEq]
  unfold Written.note?
  cases numbers : w.date with
  | none =>
    cases due with
    | none => simp [eq_comm]
    | some day => simp
  | some n =>
    rw [numbers] at fits
    have isDay {day : Date} : n.date? = some day ↔ day.chars = n.chars :=
      DateNumbers.date?_eq_some_iff (fits n rfl)
    cases due with
    | none => simp
    | some day =>
      simp only [Option.map_eq_some_iff, isDay, Note.mk.injEq, Option.some.injEq, Option.map_some]
      constructor
      · rintro ⟨_, chars, same, rfl, text⟩
        exact ⟨same, chars.symm, text.symm⟩
      · rintro ⟨same, chars, text⟩
        exact ⟨day, chars.symm, same, rfl, text.symm⟩

lemma Derivation.note?_eq_none_iff {text : List Char} {d : Derivation text} {w : Written}
    (read : readAt d.chars = some w) :
    w.note? = none ↔ ∃ t, d.date = some t ∧ ∀ day : Date, day.chars ≠ t := by
  obtain ⟨-, date, -⟩ := Entry.means_of_readAt read
  obtain ⟨-, -, -, fits⟩ := exists_of_readAt read
  rw [date, Written.note?]
  cases numbers : w.date with
  | none => simp
  | some n =>
    rw [numbers] at fits
    simp [DateNumbers.date?_eq_none_iff (fits n rfl)]

/-- The years in which the work of a note can be due have four digits. -/
lemma due_year {text : String} {note : Note} (h : read? text = some note) :
    ∀ day ∈ note.due, 0 ≤ day.year ∧ day.year ≤ 9999 := by
  obtain ⟨w, found, made⟩ := Option.bind_eq_some_iff.1 h
  obtain ⟨d, -, read⟩ := exists_leftmost_of_find? found
  obtain ⟨-, -, -, fits⟩ := exists_of_readAt read
  intro day due
  unfold Written.note? at made
  cases numbers : w.date with
  | none =>
    rw [numbers] at made
    obtain rfl := Option.some.inj made
    cases due
  | some n =>
    rw [numbers] at made fits
    obtain ⟨_, isDay, rfl⟩ := Option.map_eq_some_iff.1 made
    obtain rfl := Option.some.inj due
    obtain ⟨year, -⟩ := Date.ofYmd?_eq_some_iff.1 isDay
    have : n.year < 10 ^ 4 := (fits n rfl).1
    omega

/-- A text without derivations has no note, and every other one has leftmost derivations, each of
which denotes the note of the text. There is none only if the date of the leftmost derivations is
not a day, whatever comes later in the text. Derivations at one place name one kind, give one date
and have one rest. -/
theorem read?_iff (text : String) :
    (∀ d : Derivation text.toList, ∃ kind, Kind.ofName? (String.ofList d.word) = some kind) ∧
    (∀ d d' : Derivation text.toList, d.position = d'.position →
      Kind.ofName? (String.ofList d.word) = Kind.ofName? (String.ofList d'.word) ∧
        d.date = d'.date ∧ trim d.rest = trim d'.rest) ∧
    (IsEmpty (Derivation text.toList) → read? text = none) ∧
    (Nonempty (Derivation text.toList) → ∃ d : Derivation text.toList, d.IsLeftmost) ∧
    ∀ d : Derivation text.toList, d.IsLeftmost →
      (∀ note, read? text = some note ↔ d.Denotes note) ∧
      (read? text = none ↔ ∃ t, d.date = some t ∧ ∀ day : Date, day.chars ≠ t) := by
  refine ⟨fun d => ?_, fun d d' same => ?_, fun empty => ?_, fun ⟨d⟩ => ?_, fun d leftmost => ?_⟩
  · obtain ⟨kind, spells⟩ := d.isMarker
    exact ⟨kind, ofName?_of_spells spells⟩
  · obtain ⟨w, read, spells, date, body⟩ := d.exists_readAt
    rw [Derivation.chars_eq_of_position_eq same] at read
    obtain ⟨spells', date', body'⟩ := Entry.means_of_readAt read
    refine ⟨?_, date.trans date'.symm, body.symm.trans body'⟩
    rw [ofName?_of_spells spells, ofName?_of_spells spells']
  · rw [read?, find?_eq_none_iff.2 empty, Option.bind_none]
  · cases found : find? text.toList with
    | none => exact (find?_eq_none_iff.1 found).elim d
    | some w =>
      obtain ⟨d₀, leftmost, -⟩ := exists_leftmost_of_find? found
      exact ⟨d₀, leftmost⟩
  · obtain ⟨w, read, -⟩ := d.exists_readAt
    rw [read?, leftmost.find?_eq, read, Option.bind_some]
    exact ⟨d.note?_eq_some_iff read, d.note?_eq_none_iff read⟩

-- the second note would do, but the first one counts and gives no day
example : read? "# TODO [2021-02-30]: a FIXME: b" = none := by
  decide +kernel

end Overdue.Note
