import Overdue.Proofs.Comment.Marker

/-!
# Trimmed lines

A line becomes a candidate without the white space at its ends. It keeps its note, unless the marker
was its first word, and it keeps its comment, unless there is nothing but white space behind the
first delimiter (`trimmed_spec`).
-/

namespace Overdue

open Text

/-! ## Notes -/

namespace Note

variable {s gap ending text : List Char}

/-- The text begins with a marker. -/
def BeginsWithMarker (s : List Char) : Prop :=
  ∃ word rest, s = word ++ rest ∧ IsMarker word

/-- There is white space in front of a text that begins with a marker, and so no space before the
marker once the text is trimmed. -/
def MarkerFirst (text : List Char) : Prop :=
  text.head?.any isBlank ∧ BeginsWithMarker (trim text)

lemma beginsWithMarker_iff : BeginsWithMarker s ↔ (readMarker s).isSome := by
  simp only [Option.isSome_iff_exists, Prod.exists, readMarker_eq_some_iff]
  constructor
  · rintro ⟨word, rest, eq, kind, spells⟩
    exact ⟨kind, rest, word, spells, eq⟩
  · rintro ⟨kind, rest, word, spells, eq⟩
    exact ⟨word, rest, eq, kind, spells⟩

instance : Decidable (BeginsWithMarker s) :=
  decidable_of_iff _ beginsWithMarker_iff.symm

instance : Decidable (MarkerFirst text) :=
  inferInstanceAs (Decidable (_ ∧ _))

lemma readAt_eq_none (h : ¬BeginsWithMarker s) : readAt s = none := by
  rw [beginsWithMarker_iff, Option.not_isSome_iff_eq_none] at h
  rw [readAt, h]
  rfl

lemma not_beginsWithMarker_nil : ¬BeginsWithMarker [] := by
  decide

lemma not_beginsWithMarker_cons {c : Char} (h : isBlank c) : ¬BeginsWithMarker (c :: s) := by
  rintro ⟨word, rest, eq, marker⟩
  cases word with
  | nil => exact not_beginsWithMarker_nil ⟨[], [], rfl, marker⟩
  | cons d word =>
    obtain ⟨rfl, -⟩ := List.cons.inj eq
    have letter := marker.isAlpha c List.mem_cons_self
    rw [isAlpha_of_isBlank h] at letter
    cases letter

/-- White space makes no note of a text in front of it, unless that begins with a marker. -/
lemma find?_append_of_allBlank (blank : allBlank gap)
    (unmarked : gap ≠ [] → ¬BeginsWithMarker s) : find? (gap ++ s) = find? s := by
  induction gap with
  | nil => rfl
  | cons c gap ih =>
    obtain ⟨here, there⟩ := List.forall_mem_cons.1 (allBlank_iff.1 blank)
    have notMarker : ¬BeginsWithMarker (gap ++ s) := by
      cases gap with
      | nil => exact unmarked (List.cons_ne_nil _ _)
      | cons d gap => exact not_beginsWithMarker_cons (there d List.mem_cons_self)
    rw [List.cons_append, find?_cons, readBehind, if_pos here, readAt_eq_none notMarker,
      Option.none_or, ih (allBlank_iff.2 there) fun _ => unmarked (List.cons_ne_nil _ _)]

lemma DateNumbers.chars_inj {n n' : DateNumbers} (fits : n.Fits) (fits' : n'.Fits)
    (same : n.chars = n'.chars) : n = n' := by
  have read := readDate_bracketed fits []
  rw [same, readDate_bracketed fits'] at read
  exact (Prod.mk.inj (Option.some.inj read)).1.symm

/-- An entry has one meaning. -/
lemma Entry.Means.unique {e : Entry} {w w' : Written} (fits : ∀ n ∈ w.date, n.Fits)
    (fits' : ∀ n ∈ w'.date, n.Fits) (h : e.Means w) (h' : e.Means w') : w = w' := by
  obtain ⟨kind, date, body⟩ := w
  obtain ⟨kind', date', body'⟩ := w'
  obtain ⟨spells, dated, rfl⟩ := h
  obtain ⟨spells', dated', rfl⟩ := h'
  have sameKind : some kind = some kind' :=
    (ofName?_of_spells spells).symm.trans (ofName?_of_spells spells')
  have sameDate : date = date' := by
    have same := dated.symm.trans dated'
    cases date <;> cases date' <;> simp only [Option.map_none, Option.map_some, reduceCtorEq,
      Option.some.injEq] at same ⊢
    exact DateNumbers.chars_inj (fits _ rfl) (fits' _ rfl) same
  obtain rfl := Option.some.inj sameKind
  rw [sameDate]

lemma readAt_eq_some_iff_means {w : Written} : readAt s = some w ↔
    (∃ e : Entry, e.chars = s ∧ e.Means w) ∧ ∀ n ∈ w.date, n.Fits := by
  constructor
  · intro read
    obtain ⟨e, eq, means, fits⟩ := exists_of_readAt read
    exact ⟨⟨e, eq, means⟩, fits⟩
  · rintro ⟨⟨e, rfl, means⟩, fits⟩
    obtain ⟨w', read, means'⟩ := e.exists_readAt
    obtain ⟨-, -, -, fits'⟩ := exists_of_readAt read
    rw [read, means.unique fits fits' means']

/-- What is read at a marker does not depend on the white space at the end of the line. -/
lemma readAt_append (line : '\n' ∉ s ++ ending) (blank : allBlank ending) :
    readAt (s ++ ending) = readAt s := by
  apply Option.ext
  intro w
  rw [readAt_eq_some_iff_means, readAt_eq_some_iff_means]
  refine and_congr_left fun _ => ⟨?_, ?_⟩
  · rintro ⟨e, eq, spells, date, body⟩
    have noColon : ':' ∉ ending := fun m => absurd (allBlank_iff.1 blank ':' m) (by decide)
    obtain ⟨z, rfl, rest⟩ : ∃ z, s = e.word ++ e.gap ++ e.details ++ ':' :: z ∧
        e.rest = z ++ ending := by
      rcases List.append_eq_append_iff.1 eq with ⟨_ | ⟨c, z⟩, same, cut⟩ | ⟨z, -, cut⟩
      · rw [List.nil_append] at cut
        exact absurd (cut ▸ List.mem_cons_self) noColon
      · obtain ⟨rfl, rest⟩ := List.cons.inj cut
        exact ⟨z, same, rest⟩
      · exact absurd (cut ▸ List.mem_append_right z List.mem_cons_self) noColon
    have isBody : IsBody z := isBody_of_line fun newline => line (by simp [newline])
    refine ⟨⟨e.word, e.gap, e.details, e.date, z, e.isMarker, e.allBlank_gap, e.isDetails, isBody⟩,
      rfl, spells, date, ?_⟩
    rw [body, rest, trim_append_of_allBlank z blank]
  · rintro ⟨e, rfl, spells, date, body⟩
    have isBody : IsBody (e.rest ++ ending) := by
      refine isBody_of_line fun newline => line ?_
      rw [Entry.chars, List.append_assoc, List.cons_append]
      exact List.mem_append_right _ (List.mem_cons_of_mem _ newline)
    refine ⟨⟨e.word, e.gap, e.details, e.date, e.rest ++ ending, e.isMarker, e.allBlank_gap,
      e.isDetails, isBody⟩, ?_, spells, date, ?_⟩
    · simp only [Entry.chars, List.append_assoc, List.cons_append]
    · rw [body, trim_append_of_allBlank e.rest blank]

/-- Nor does the note of the line. -/
lemma find?_append_of_line (line : '\n' ∉ s ++ ending) (blank : allBlank ending) :
    find? (s ++ ending) = find? s := by
  induction s with
  | nil =>
    have none := find?_append_of_allBlank blank fun _ => not_beginsWithMarker_nil
    rwa [List.append_nil] at none
  | cons c s ih =>
    have rest : '\n' ∉ s ++ ending := fun m => line (List.mem_cons_of_mem c m)
    rw [List.cons_append, find?_cons, find?_cons, ih rest, readBehind, readAt_append rest blank,
      readBehind]

lemma read?_trimmed {t : String} (line : '\n' ∉ t.toList) (kept : ¬MarkerFirst t.toList) :
    read? (trimmed t) = read? t := by
  obtain ⟨gap, ending, blank, blank', eq⟩ := exists_append_trim t.toList
  have unmarked : gap ≠ [] → ¬BeginsWithMarker (trim t.toList) := by
    intro ne_nil marked
    obtain ⟨c, gap', rfl⟩ := List.exists_cons_of_ne_nil ne_nil
    have head : t.toList.head? = some c := by
      rw [← eq]
      rfl
    refine kept ⟨?_, marked⟩
    rw [head]
    exact allBlank_iff.1 blank c List.mem_cons_self
  have found : find? t.toList = find? (trim t.toList) := by
    rw [← eq] at line
    nth_rewrite 1 [← eq]
    rw [find?_append_of_line line blank', find?_append_of_allBlank blank unmarked]
  rw [read?, read?, trimmed, String.toList_ofList, found]

end Note

/-! ## Comments -/

/-- A line keeps its comment if there is more than white space behind the first delimiter. -/
lemma isComment_trimmed_iff {file t : String} {style : CommentStyle}
    (registered : CommentStyle.ofFile? file = some style) (line : '\n' ∉ t.toList) :
    isComment file (trimmed t) ↔ isComment file t ∧ ∃ before after,
      IsFirstCut style.delimiter before after t.toList ∧ ∃ c ∈ after, isBlank c = false := by
  obtain ⟨ne_nil, spec⟩ := style.delimiter_spec
  have solid : ∀ c ∈ style.delimiter, isBlank c = false := fun c m => (spec c m).1
  have line' : '\n' ∉ trim t.toList := fun m => line ((trim_sublist _).subset m)
  have comment_iff {u : String} (h : '\n' ∉ u.toList) : isComment file u ↔
      ∃ before after, IsFirstCut style.delimiter before after u.toList ∧ after ≠ [] := by
    rw [← CommentStyle.exists_opens_iff_of_line h, ← CommentStyle.isSome_commentText?_iff,
      isComment, registered]
  have kept {after : List Char} : dropEnding isBlank after ≠ [] ↔ ∃ c ∈ after, isBlank c = false := by
    rw [ne_eq, dropEnding_eq_nil_iff]
    simp only [not_forall, Bool.not_eq_true, exists_prop]
  rw [comment_iff line, comment_iff (by rwa [trimmed, String.toList_ofList]), trimmed,
    String.toList_ofList]
  constructor
  · rintro ⟨before', after', cut', ne_nil'⟩
    obtain ⟨before, after, cut⟩ : ∃ before after, IsFirstCut style.delimiter before after t.toList := by
      obtain ⟨gap, ending, -, -, eq⟩ := exists_append_trim t.toList
      refine exists_isFirstCut (List.IsInfix.trans ⟨before', after', cut'.eq.symm⟩ ⟨gap, ending, eq⟩)
    rw [((cut.trim ne_nil solid).unique cut').2.symm, kept] at ne_nil'
    refine ⟨⟨before, after, cut, ?_⟩, before, after, cut, ne_nil'⟩
    obtain ⟨c, mem, -⟩ := ne_nil'
    exact List.ne_nil_of_mem mem
  · rintro ⟨-, before, after, cut, behind⟩
    exact ⟨_, _, cut.trim ne_nil solid, kept.2 behind⟩

/-- Trimming a line loses its note only if the marker is its first word, and its comment only if
there is nothing but white space behind the first delimiter. So a candidate has the note of the line
that was matched, unless the marker is the first word of that line. -/
theorem trimmed_spec :
    (∀ text : String, '\n' ∉ text.toList → ¬Note.MarkerFirst text.toList →
      Note.read? (trimmed text) = Note.read? text) ∧
    (∀ (file text : String) (style : CommentStyle), '\n' ∉ text.toList →
      CommentStyle.ofFile? file = some style →
      (isComment file (trimmed text) ↔ isComment file text ∧ ∃ before after,
        IsFirstCut style.delimiter before after text.toList ∧ ∃ c ∈ after, isBlank c = false)) ∧
    ∀ (output : String), ∀ c ∈ Git.candidates output, ∃ record ∈ lines output.toList,
      ∃ m : Git.Match, Git.Match.read? record = some m ∧ c = ⟨m.file, m.line, trimmed m.text⟩ ∧
        (¬Note.MarkerFirst m.text.toList → Note.read? c.text = Note.read? m.text) := by
  refine ⟨fun text line kept => Note.read?_trimmed line kept,
    fun file text style line registered => isComment_trimmed_iff registered line,
    fun output c candidate => ?_⟩
  obtain ⟨record, line, m, read, -, rfl⟩ := Git.exists_match_of_mem_candidates candidate
  exact ⟨record, line, m, read, rfl,
    Note.read?_trimmed (Git.newline_not_mem_text (newline_not_mem line) read)⟩

/-- An indented line with a comment, one whose comment is white space, and a candidate. -/
theorem trimmed_spec_of_indented_lines :
    Note.read? (trimmed "\tx # TODO: y ") = Note.read? "\tx # TODO: y " ∧
    (isComment "a.py" (trimmed "x # ") ↔ isComment "a.py" "x # " ∧ ∃ before after,
      IsFirstCut ['#'] before after "x # ".toList ∧ ∃ c ∈ after, isBlank c = false) ∧
    (⟨"a.py", 3, "x # TODO: y"⟩ : Candidate) ∈ Git.candidates "a.py\x003\x00\tx # TODO: y \n" ∧
    ∃ record ∈ lines "a.py\x003\x00\tx # TODO: y \n".toList, ∃ m : Git.Match,
      Git.Match.read? record = some m ∧ "x # TODO: y" = trimmed m.text := by
  have candidate : (⟨"a.py", 3, "x # TODO: y"⟩ : Candidate) ∈
      Git.candidates "a.py\x003\x00\tx # TODO: y \n" := by decide +kernel
  obtain ⟨note, comment, candidates⟩ := trimmed_spec
  obtain ⟨record, line, m, read, same, -⟩ := candidates _ _ candidate
  exact ⟨note _ (by decide) (by decide +kernel),
    comment "a.py" "x # " .hash (by decide) (by decide +kernel), candidate, record, line, m, read,
    congrArg Candidate.text same⟩

-- the marker needs white space in front of it, which is what trimming takes away
example : Note.MarkerFirst " TODO: y # z".toList ∧
    Note.read? (trimmed " TODO: y # z") ≠ Note.read? " TODO: y # z" := by
  decide +kernel

end Overdue
