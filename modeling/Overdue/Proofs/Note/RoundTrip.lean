import Overdue.Proofs.Note.Reader
import Overdue.Proofs.Text.Lines
import Overdue.Tracker.IssueText

/-!
# Reading back what is written as a note

A note may be written with any amount of white space, in any letter case and with a modifier before
or behind its date. Behind a text in which no white space has a marker right after it, each of these
forms is read as the same note (`read?_of_entry`), and so is the shortest form of a note that was
read.
-/

namespace Overdue.Note

open Text

/-- No white space of the text has a marker right behind it. -/
def HasNoMarker (text : List Char) : Prop :=
  ∀ before space word after, text = before ++ space :: (word ++ after) → isBlank space →
    ¬IsMarker word

/-- The details that have a date, if there is one, and nothing else. -/
def dateAlone : Option (List Char) → List Char
  | none => []
  | some t => bracketed t

/-! ## The leftmost place -/

namespace Derivation

/-- A derivation behind a text without markers is a leftmost one, since no marker holds the white
space that is before its own. -/
lemma isLeftmost_of_hasNoMarker {text : List Char} (d : Derivation text)
    (h : HasNoMarker d.before) : d.IsLeftmost := by
  intro d'
  by_contra left
  have shorter : d'.before.length < d.before.length := Nat.lt_of_not_le left
  have whole : d'.before ++ d'.space :: d'.chars = d.before ++ d.space :: d.chars :=
    d'.text_eq.symm.trans d.text_eq
  obtain ⟨x, before, rest⟩ : ∃ x, d.before = d'.before ++ d'.space :: x ∧
      d'.chars = x ++ d.space :: d.chars := by
    rcases List.append_eq_append_iff.1 whole with ⟨z, before, rest⟩ | ⟨z, before, -⟩
    · cases z with
      | nil =>
        rw [before, List.append_nil] at shorter
        exact absurd shorter (Nat.lt_irrefl _)
      | cons c x =>
        rw [List.cons_append, List.cons.injEq] at rest
        obtain ⟨rfl, rest⟩ := rest
        exact ⟨x, before, rest⟩
    · rw [before, List.length_append] at shorter
      omega
  -- so the word further left ends in front of the space, in the text without markers
  have absent : d.space ∉ d'.word := by
    intro m
    have letter := d'.isMarker.isAlpha d.space m
    rw [isAlpha_of_isBlank d.isBlank_space] at letter
    cases letter
  have parts : d'.word ++ (d'.gap ++ d'.details ++ ':' :: d'.rest) = x ++ d.space :: d.chars := by
    rw [← rest]
    simp only [Entry.chars, List.append_assoc]
  obtain ⟨z, rfl, -⟩ := exists_of_append_eq parts absent
  exact h d'.before d'.space d'.word z before d'.isBlank_space d'.isMarker

/-- A text has the note that its leftmost derivations denote. -/
lemma IsLeftmost.read?_eq {text : List Char} {d : Derivation text} (h : d.IsLeftmost) :
    (∀ note, read? (String.ofList text) = some note ↔ d.Denotes note) ∧
      (read? (String.ofList text) = none ↔ ∃ t, d.date = some t ∧ ∀ day : Date, day.chars ≠ t) := by
  obtain ⟨w, read, -⟩ := d.exists_readAt
  rw [read?, String.toList_ofList, h.find?_eq, read, Option.bind_some]
  exact ⟨d.note?_eq_some_iff read, d.note?_eq_none_iff read⟩

end Derivation

/-! ## Entries -/

/-- What remains of details without their modifier. -/
lemma IsDetails.dateAlone {details : List Char} {date : Option (List Char)}
    (h : IsDetails details date) : IsDetails (dateAlone date) date := by
  have alone {t : List Char} (isDate : IsDateText t) : IsDetails (bracketed t) (some t) := by
    have := @IsDetails.date t [] isDate rfl
    rwa [List.append_nil] at this
  cases h with
  | nothing => exact .nothing
  | modifier => exact .nothing
  | date isDate => exact alone isDate
  | modifierDate _ _ isDate => exact alone isDate
  | dateModifier isDate => exact alone isDate

/-- The entry with the same word, date and rest, and nothing but the date between them. -/
def Entry.bare (e : Entry) : Entry where
  word := e.word
  gap := []
  details := dateAlone e.date
  date := e.date
  rest := e.rest
  isMarker := e.isMarker
  allBlank_gap := rfl
  isDetails := e.isDetails.dateAlone
  isBody := e.isBody

lemma Entry.chars_bare (e : Entry) :
    e.bare.chars = e.word ++ dateAlone e.date ++ ':' :: e.rest := by
  rw [chars, bare, List.append_nil]

section

variable {before : List Char} {space : Char}

/-- An entry behind a text without markers is a leftmost derivation. -/
lemma Entry.isLeftmost (e : Entry) (quiet : HasNoMarker before) (blank : isBlank space) :
    (⟨e, before, space, blank, rfl⟩ : Derivation (before ++ space :: e.chars)).IsLeftmost :=
  Derivation.isLeftmost_of_hasNoMarker _ quiet

lemma Entry.read?_eq_some_iff (e : Entry) (quiet : HasNoMarker before) (blank : isBlank space)
    {note : Note} : read? (String.ofList (before ++ space :: e.chars)) = some note ↔
      Kind.ofName? (String.ofList e.word) = some note.kind ∧ e.date = note.due.map Date.chars ∧
        note.body = trimmed (String.ofList e.rest) :=
  (e.isLeftmost quiet blank).read?_eq.1 note

lemma Entry.read?_eq_none_iff (e : Entry) (quiet : HasNoMarker before) (blank : isBlank space) :
    read? (String.ofList (before ++ space :: e.chars)) = none ↔
      ∃ t, e.date = some t ∧ ∀ day : Date, day.chars ≠ t :=
  (e.isLeftmost quiet blank).read?_eq.2

lemma Entry.read?_bare (e : Entry) (quiet : HasNoMarker before) (blank : isBlank space) :
    read? (String.ofList (before ++ space :: e.bare.chars)) =
      read? (String.ofList (before ++ space :: e.chars)) := by
  apply Option.ext
  intro note
  rw [e.read?_eq_some_iff quiet blank]
  exact e.bare.read?_eq_some_iff quiet blank

end

/-! ## Notes that were read -/

/-- The body of a note is one line without white space at its ends. -/
lemma body_of_read? {text : String} {note : Note} (h : read? text = some note) :
    '\n' ∉ note.body.toList ∧ trim note.body.toList = note.body.toList := by
  obtain ⟨w, found, made⟩ := Option.bind_eq_some_iff.1 h
  obtain ⟨d, -, read⟩ := exists_leftmost_of_find? found
  obtain ⟨-, -, body⟩ := Entry.means_of_readAt read
  have same : note.body.toList = trim d.rest := by
    rw [← body]
    unfold Written.note? at made
    split at made
    case h_1 =>
      obtain rfl := Option.some.inj made
      exact String.toList_ofList
    case h_2 =>
      obtain ⟨_, -, rfl⟩ := Option.map_eq_some_iff.1 made
      exact String.toList_ofList
  rw [same, trim_trim]
  refine ⟨fun newline => ?_, rfl⟩
  rw [← trim_skipBlank] at newline
  exact isBody_iff.1 d.isBody (skipBlank_skipBlank d.rest ▸ (dropEnding_sublist _ _).subset newline)

lemma isDateText_chars {day : Date} (h : 0 ≤ day.year ∧ day.year ≤ 9999) :
    IsDateText day.chars := by
  have bounds := day.bounds
  have fits : DateNumbers.Fits ⟨day.year.toNat, day.month, day.day⟩ := by
    refine ⟨?_, ?_, ?_⟩ <;> simp only <;> omega
  refine isDateText_iff.2 ⟨_, fits, (chars_eq_iff fits).2 ⟨?_, rfl, rfl⟩⟩
  exact (Int.toNat_of_nonneg h.1).symm

lemma spells_name (kind : Kind) : Spells kind.name.toList kind.name.toList :=
  (spells_iff fun _ => isUpper_of_mem_name).2 rfl

/-- The shortest form of a note is an entry, if its years have four digits and its body is one
line. -/
lemma exists_entry_text {note : Note} (due : ∀ day ∈ note.due, 0 ≤ day.year ∧ day.year ≤ 9999)
    (line : '\n' ∉ note.body.toList) : ∃ e : Entry, note.text.toList = e.chars ∧
      Spells note.kind.name.toList e.word ∧ e.date = note.due.map Date.chars ∧
      e.rest = ' ' :: note.body.toList := by
  have isBody : IsBody (' ' :: note.body.toList) :=
    isBody_of_line (List.not_mem_cons_of_ne_of_not_mem (by decide) line)
  have spells := spells_name note.kind
  cases day : note.due with
  | none =>
    refine ⟨⟨note.kind.name.toList, [], [], none, _, ⟨_, spells⟩, rfl, .nothing, isBody⟩, ?_,
      spells, rfl, rfl⟩
    simp [text, day, Entry.chars]
  | some day' =>
    rw [day] at due
    have isDetails := @IsDetails.date day'.chars [] (isDateText_chars (due day' rfl)) rfl
    refine ⟨⟨note.kind.name.toList, [' '], _, _, _, ⟨_, spells⟩, rfl, isDetails, isBody⟩, ?_,
      spells, rfl, rfl⟩
    simp [text, day, Entry.chars, bracketed, Date.text]

/-- The shortest form of a note is read as the note behind a space, if its years have four digits and
its body is one line without white space at its ends. -/
lemma read?_text {note : Note} (due : ∀ day ∈ note.due, 0 ≤ day.year ∧ day.year ≤ 9999)
    (line : '\n' ∉ note.body.toList) (trimmed_eq : trim note.body.toList = note.body.toList) :
    read? (" " ++ note.text) = some note := by
  obtain ⟨e, chars, spells, date, rest⟩ := exists_entry_text due line
  have quiet : HasNoMarker [] := by
    intro before space word after eq
    cases before <;> cases eq
  have whole : " " ++ note.text = String.ofList ([] ++ ' ' :: e.chars) := by
    rw [← chars, ← String.toList_inj, String.toList_append, String.toList_ofList,
      String.toList_ofList]
    rfl
  have body : note.body = trimmed (String.ofList e.rest) := by
    rw [trimmed, String.toList_ofList, rest, ← List.singleton_append, trim_append (by decide),
      trimmed_eq, String.ofList_toList]
  rw [whole, e.read?_eq_some_iff quiet (by decide)]
  exact ⟨ofName?_of_spells spells, date, body⟩

/-- Behind a text without markers, an entry is read as what it says: the note of the kind that the
word spells, of the day that the date gives, if there is such a day, and of the rest. What the
modifier says and where it stands makes no difference. The shortest form of a note that was read
is read as that note. -/
theorem read?_of_entry :
    (∀ (e : Entry) (before : List Char) (space : Char), HasNoMarker before → isBlank space →
      (∀ kind due, Spells kind.name.toList e.word → e.date = Option.map Date.chars due →
        read? (String.ofList (before ++ space :: e.chars)) =
          some ⟨kind, due, trimmed (String.ofList e.rest)⟩) ∧
      (∀ t, e.date = some t → (∀ day : Date, day.chars ≠ t) →
        read? (String.ofList (before ++ space :: e.chars)) = none) ∧
      read? (String.ofList (before ++ space :: e.chars)) = read? (String.ofList
        (before ++ space :: (e.word ++ dateAlone e.date ++ ':' :: e.rest)))) ∧
    ∀ text note, read? text = some note → read? (" " ++ note.text) = some note := by
  refine ⟨fun e before space quiet blank => ⟨?_, ?_, ?_⟩, ?_⟩
  · intro kind due spells date
    exact (e.read?_eq_some_iff quiet blank).2 ⟨ofName?_of_spells spells, date, rfl⟩
  · intro t date noDay
    exact (e.read?_eq_none_iff quiet blank).2 ⟨t, date, noDay⟩
  · rw [← Entry.chars_bare]
    exact (e.read?_bare quiet blank).symm
  · intro text note read
    obtain ⟨line, trimmed_eq⟩ := body_of_read? read
    exact read?_text (due_year read) line trimmed_eq

theorem read?_of_entry_with_remark : ∃ e : Entry,
    e.chars = "ToDo (FIXME: a) [2024-02-29]:  b".toList ∧
    (HasNoMarker ['/', '/'] ∧ isBlank ' ') ∧
    (Spells Kind.todo.name.toList e.word ∧
      e.date = Option.map Date.chars (some ⟨2024, 2, 29, by decide⟩)) ∧
    read? "// ToDo (FIXME: a) [2024-02-29]:  b" = some ⟨.todo, some ⟨2024, 2, 29, by decide⟩, "b"⟩ ∧
    read? " TODO [2024-02-29]: b" = some ⟨.todo, some ⟨2024, 2, 29, by decide⟩, "b"⟩ := by
  have quiet : HasNoMarker ['/', '/'] := by
    intro before space word after eq blank
    have slash : space ∈ ['/', '/'] := eq ▸ List.mem_append_right before List.mem_cons_self
    obtain rfl : space = '/' := by simpa using slash
    exact absurd blank (by decide)
  obtain ⟨e, chars, spells, date, rest⟩ : ∃ e : Entry,
      e.chars = "ToDo (FIXME: a) [2024-02-29]:  b".toList ∧ Spells Kind.todo.name.toList e.word ∧
      e.date = Option.map Date.chars (some ⟨2024, 2, 29, by decide⟩) ∧ e.rest = "  b".toList := by
    have spells : Spells Kind.todo.name.toList "ToDo".toList :=
      (spells_iff fun _ => isUpper_of_mem_name).2 (by decide)
    have remark : IsModifier ('(' :: ("FIXME: a".toList ++ [')'])) := .remark (by decide)
    have isDate : IsDateText (Date.chars ⟨2024, 2, 29, by decide⟩) := isDateText_chars (by decide)
    have isBody : IsBody "  b".toList := isBody_iff.2 (by decide +kernel)
    refine ⟨⟨_, [' '], _, _, _, ⟨_, spells⟩, rfl,
      @IsDetails.modifierDate _ [' '] _ [] remark rfl isDate rfl, isBody⟩, ?_, spells, rfl, rfl⟩
    simp only [Entry.chars]
    decide +kernel
  have read : read? "// ToDo (FIXME: a) [2024-02-29]:  b" =
      some ⟨.todo, some ⟨2024, 2, 29, by decide⟩, "b"⟩ := by
    have := (read?_of_entry.1 e ['/', '/'] ' ' quiet (by decide)).1 .todo _ spells date
    rw [chars, rest] at this
    rw [show "b" = trimmed (String.ofList "  b".toList) by decide +kernel, ← this]
    rfl
  exact ⟨e, chars, ⟨quiet, by decide⟩, ⟨spells, date⟩, read, read?_of_entry.2 _ _ read⟩

end Overdue.Note
