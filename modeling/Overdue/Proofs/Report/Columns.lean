import Overdue.Proofs.Report.Table

/-!
# The columns of the text table

A line of columns is cut at the places that the widths before them add up to, if no text in them is too
wide (`drop_inColumns`). So the rows of all findings that are not too wide show their texts at the same
places as the header, up to the comment, which comes last and is cut short (`shows_text`).
-/

namespace Overdue

open Text

variable {f : Finding} {found : List Finding}

/-- The texts of a finding are not too wide for their columns. -/
structure Finding.IsNarrow (f : Finding) : Prop where
  place : (f.file ++ ":" ++ String.ofList (digits f.line.toNat)).toList.length ≤ 40
  author : f.attribution.author.toList.length ≤ 16
  due : ∀ day, f.note.due = some day → 0 ≤ day.year ∧ day.year ≤ 9999
  committed : 0 ≤ f.attribution.committed.year ∧ f.attribution.committed.year ≤ 9999

namespace Table

/-! ## Columns -/

/-- The width of a column and the text in it. -/
abbrev Cell := Nat × String

/-- No text is too wide for its column. -/
def Fit (cells : List Cell) : Prop :=
  ∀ cell ∈ cells, cell.2.toList.length ≤ cell.1

instance (cells : List Cell) : Decidable (Fit cells) :=
  inferInstanceAs (Decidable (∀ cell ∈ cells, cell.2.toList.length ≤ cell.1))

/-- Texts in columns, with a space behind each of them, and a last text. -/
def inColumns : List Cell → List Char → List Char
  | [], last => last
  | (width, s) :: cells, last => (padRight width s).toList ++ ' ' :: inColumns cells last

/-- Where the column behind some others begins. -/
def start : List Cell → Nat
  | [] => 0
  | (width, _) :: cells => width + (start cells + 1)

lemma toList_padRight (width : Nat) (s : String) : (padRight width s).toList =
    s.toList ++ List.replicate (width - s.toList.length) ' ' := by
  rw [padRight, String.toList_append, String.toList_ofList]

lemma length_padRight {width : Nat} {s : String} (fits : s.toList.length ≤ width) :
    (padRight width s).toList.length = width := by
  rw [toList_padRight, List.length_append, List.length_replicate, Nat.add_sub_cancel' fits]

/-- Behind some columns there is the rest of the line. -/
lemma drop_inColumns {cells : List Cell} (fit : Fit cells) (rest : List Cell) (last : List Char) :
    (inColumns (cells ++ rest) last).drop (start cells) = inColumns rest last := by
  induction cells with
  | nil => rfl
  | cons cell cells ih =>
    obtain ⟨width, s⟩ := cell
    obtain ⟨here, there⟩ := List.forall_mem_cons.1 fit
    rw [List.cons_append, inColumns, start, ← List.drop_drop,
      List.drop_left' (length_padRight here), List.drop_succ_cons]
    exact ih there

/-- A text stands in a column of a line: it is not too wide, spaces fill the column up, and a space
follows it. -/
structure HoldsAt (chars : List Char) (offset width : Nat) (s : String) : Prop where
  fits : s.toList.length ≤ width
  column : (chars.drop offset).take width =
    s.toList ++ List.replicate (width - s.toList.length) ' '
  gap : chars[offset + width]? = some ' '

lemma holdsAt_inColumns (before : List Cell) {after : List Cell} {width : Nat} {s : String}
    (fit : Fit (before ++ (width, s) :: after)) (last : List Char) :
    HoldsAt (inColumns (before ++ (width, s) :: after) last) (start before) width s := by
  obtain ⟨fitBefore, fitAfter⟩ := List.forall_mem_append.1 fit
  have fits : s.toList.length ≤ width := (List.forall_mem_cons.1 fitAfter).1
  have column := length_padRight fits
  have behind := drop_inColumns fitBefore ((width, s) :: after) last
  rw [inColumns] at behind
  refine ⟨fits, ?_, ?_⟩
  · rw [behind, List.take_left' column, toList_padRight]
  · rw [← List.getElem?_drop, behind, List.getElem?_append_right column.le, column, Nat.sub_self]
    rfl

/-! ## Rows -/

/-- The columns of a row. -/
def Row.cells (r : Row) : List Cell :=
  [(12, r.deadline), (5, r.kind), (40, r.location), (10, r.updated), (16, r.author)]

/-- A line shows the texts of a row in columns, and behind them its comment. -/
structure Row.IsShownBy (r : Row) (line : List Char) : Prop where
  deadline : HoldsAt line 0 12 r.deadline
  kind : HoldsAt line 13 5 r.kind
  location : HoldsAt line 19 40 r.location
  updated : HoldsAt line 60 10 r.updated
  author : HoldsAt line 71 16 r.author
  comment : line.drop 88 = r.comment.toList

lemma Row.isShownBy_chars {r : Row} (fit : Fit r.cells) : r.IsShownBy r.chars := by
  have chars : r.chars = inColumns r.cells r.comment.toList := r.chars_eq
  rw [chars]
  exact ⟨holdsAt_inColumns [] fit _, holdsAt_inColumns (r.cells.take 1) fit _,
    holdsAt_inColumns (r.cells.take 2) fit _, holdsAt_inColumns (r.cells.take 3) fit _,
    holdsAt_inColumns (r.cells.take 4) fit _, drop_inColumns fit [] _⟩

lemma fit_cells_row (narrow : f.IsNarrow) : Fit (row f).cells := by
  have deadline : (deadline f).toList.length ≤ 12 := by
    rw [deadline]
    split
    case h_1 day due =>
      have date := Date.length_text (narrow.due day due)
      split
      case isTrue =>
        rw [String.toList_append, List.length_append, date]
        decide
      case isFalse => omega
    case h_2 => decide
  have kind : f.note.kind.name.toList.length ≤ 5 := by cases f.note.kind <;> decide
  have author : (if f.attribution.author.isEmpty then "-"
      else f.attribution.author).toList.length ≤ 16 := by
    split
    case isTrue => decide
    case isFalse => exact narrow.author
  have updated := (Date.length_text narrow.committed).le
  simp only [Fit, Row.cells, row, List.forall_mem_cons]
  exact ⟨deadline, kind, narrow.place, updated, author, List.forall_mem_nil _⟩

lemma row_eq (f : Finding) : row f = {
    deadline :=
      match f.note.due with
      | some day => if f.expired then "!" ++ day.text else day.text
      | none => "-"
    kind :=
      match f.note.kind with
      | .todo => "TODO"
      | .fixme => "FIXME"
    location := f.file ++ ":" ++ String.ofList (digits f.line.toNat)
    updated := f.attribution.committed.text
    author := if f.attribution.author = "" then "-" else f.attribution.author
    comment := shorten f.note.body } := by
  rw [row, Row.mk.injEq]
  refine ⟨rfl, ?_, rfl, rfl, if_congr String.isEmpty_iff rfl rfl, rfl⟩
  cases f.note.kind <;> rfl

/-! ## Comments -/

/-- A comment is shown in full up to 60 characters, and else by its first 57 and three dots. -/
structure IsShortened (body comment : List Char) : Prop where
  length : comment.length ≤ 60
  full : body.length ≤ 60 → comment = body
  cut : 60 < body.length → comment = body.take 57 ++ ['.', '.', '.']

lemma isShortened_shorten (body : String) : IsShortened body.toList (shorten body).toList := by
  rw [shorten, maxComment]
  split
  case isTrue long =>
    rw [String.toList_append, String.toList_ofList]
    refine ⟨?_, fun short => absurd long short.not_gt, fun _ => rfl⟩
    rw [List.length_append]
    exact Nat.add_le_add_right (List.length_take_le _ _) 3
  case isFalse short => exact ⟨Nat.le_of_not_lt short, fun _ => rfl, fun long => absurd long short⟩

/-! ## The table -/

/-- The text table in columns. Cut at its line feeds, it is the header, a piece for each finding and
nothing behind them. The header and the pieces of all findings that are not too wide show their texts
in the same columns, and behind them the comment, which is cut short where it is too long. -/
theorem shows_text (unbroken : ∀ f ∈ found, f.IsUnbroken) (nonempty : found ≠ []) : ∃ rows,
    (text found).toList.splitOn '\n' = header.chars :: rows ++ [[]] ∧
    Row.IsShownBy ⟨"Deadline", "Type", "Location", "Updated", "Author", "Comment"⟩ header.chars ∧
    List.Forall₂ (fun f line => f.IsNarrow → ∃ comment : String,
      IsShortened f.note.body.toList comment.toList ∧
      Row.IsShownBy {
        deadline :=
          match f.note.due with
          | some day => if f.expired then "!" ++ day.text else day.text
          | none => "-"
        kind :=
          match f.note.kind with
          | .todo => "TODO"
          | .fixme => "FIXME"
        location := f.file ++ ":" ++ String.ofList (digits f.line.toNat)
        updated := f.attribution.committed.text
        author := if f.attribution.author = "" then "-" else f.attribution.author
        comment } line)
      found rows := by
  refine ⟨found.map fun f => (row f).chars, ?_, Row.isShownBy_chars (by decide), ?_⟩
  · have pieces : ∀ l ∈ header.chars :: found.map fun f => (row f).chars, '\n' ∉ l := by
      rw [List.forall_mem_cons, List.forall_mem_map]
      exact ⟨newline_not_mem_header, fun f mem => newline_not_mem_row (unbroken f mem)⟩
    rw [toList_text nonempty, splitOn_flatMap_concat pieces]
  · rw [List.forall₂_map_right_iff, List.forall₂_same]
    intro f _ narrow
    refine ⟨shorten f.note.body, isShortened_shorten _, ?_⟩
    rw [← row_eq]
    exact Row.isShownBy_chars (fit_cells_row narrow)

/-- Two rows, one with texts that are as wide as their columns and one with what stands for texts
that are missing. -/
theorem shows_text_of_wide_texts :
    let f : Finding :=
      ⟨String.ofList (List.replicate 38 'é'), 7,
        ⟨.todo, some ⟨2021, 10, 10, by decide⟩, String.ofList (List.replicate 61 'é')⟩,
        ⟨"bbbbbbbbbbbbbbbbbbbbbbbbbbbbbbbbbbbbbbbb", String.ofList (List.replicate 16 'é'), none,
          ⟨2023, 5, 11, by decide⟩⟩, true⟩
    let g : Finding :=
      ⟨"b.py", 305, ⟨.fixme, none, "later"⟩,
        ⟨"cccccccccccccccccccccccccccccccccccccccc", "", none, ⟨987, 12, 1, by decide⟩⟩, false⟩
    (∀ f' ∈ [f, g], f'.IsUnbroken ∧ f'.IsNarrow) ∧ ∃ line line',
      (text [f, g]).toList.splitOn '\n' = [header.chars, line, line', []] ∧
      Row.IsShownBy ⟨"!2021-10-10", "TODO", String.ofList (List.replicate 38 'é' ++ [':', '7']),
        "2023-05-11", String.ofList (List.replicate 16 'é'),
        String.ofList (List.replicate 57 'é' ++ ['.', '.', '.'])⟩ line ∧
      Row.IsShownBy ⟨"-", "FIXME", "b.py:305", "0987-12-01", "-", "later"⟩ line' := by
  intro f g
  have unbroken : ∀ f' ∈ [f, g], f'.IsUnbroken :=
    List.forall_mem_cons.2 ⟨⟨by decide, by decide, by decide⟩,
      List.forall_mem_singleton.2 ⟨by decide, by decide, by decide⟩⟩
  have narrow : f.IsNarrow := by
    refine ⟨by decide, by decide, ?_, by decide⟩
    rintro _ ⟨⟩
    decide
  have narrow' : g.IsNarrow := by
    refine ⟨by decide, by decide, ?_, by decide⟩
    rintro _ ⟨⟩
  obtain ⟨rows, pieces, -, shown⟩ := shows_text unbroken (List.cons_ne_nil f [g])
  obtain ⟨line, line', rfl⟩ := List.length_eq_two.1 shown.length_eq.symm
  obtain ⟨here, there⟩ := List.forall₂_cons.1 shown
  obtain ⟨comment, shortened, texts⟩ := here narrow
  obtain ⟨comment', shortened', texts'⟩ := (List.forall₂_cons.1 there).1 narrow'
  obtain rfl : comment = String.ofList (List.replicate 57 'é' ++ ['.', '.', '.']) := by
    rw [← String.toList_inj, shortened.cut (by decide)]
    decide
  obtain rfl : comment' = "later" := String.toList_inj.1 (shortened'.full (by decide))
  refine ⟨fun f' mem => ⟨unbroken f' mem, ?_⟩, line, line', pieces, ?_, ?_⟩
  · rcases List.mem_pair.1 mem with rfl | rfl
    · exact narrow
    · exact narrow'
  · convert texts using 1
    decide +kernel
  · convert texts' using 1
    decide +kernel

end Table

end Overdue
