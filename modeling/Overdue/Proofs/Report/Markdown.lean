import Overdue.Proofs.Report.Table
import Overdue.Proofs.Tracker.Hosting
import Overdue.Report.Markdown

/-!
# The lines of the markdown table

The heading and one line for each finding, whose first cell begins with a bomb if the finding is
expired (`lines_text`, `isFlagged_row_iff`). A row takes more than one line only if a link into the
repository does.
-/

namespace Overdue

open Text

variable {f : Finding} {found : List Finding} {hosting : Option Hosting}

namespace Markdown

/-- What stands between the first two bars of a row, without the space in front. -/
def firstCell (row : List Char) : List Char :=
  (row.drop 2).takeWhile (· != '|')

/-- A row is flagged by a bomb at the start of its first cell. -/
def IsFlagged (row : List Char) : Prop :=
  ":bomb:".toList <+: firstCell row

lemma toList_row (hosting : Option Hosting) (f : Finding) : (row hosting f).toList =
    '|' :: ' ' :: ((deadline f).toList ++ " | ".toList ++ (f.note.kind.name.toList ++
      " | ".toList ++ ((escapeCell f.note.body).toList ++ " | ".toList ++
        ((linked f.place (hosting.map fun h => h.fileLink f.file f.line)).toList ++
          " | ".toList ++ ((linked f.attribution.committed.text
            (hosting.map fun h => h.commitLink f.attribution.revision)).toList ++
              " | ".toList ++ ((escapeCell (author f)).toList ++ [' ', '|'])))))) := by
  simp [row, cells, String.intercalate_cons_cons]

lemma newline_mem_linked (s : String) (address : Option String) : '\n' ∈ (linked s address).toList ↔
    '\n' ∈ s.toList ∨ ∃ a ∈ address, '\n' ∈ a.toList := by
  cases address <;> simp [linked]

lemma newline_mem_escapeCell {s : String} : '\n' ∈ (escapeCell s).toList ↔ '\n' ∈ s.toList := by
  rw [escapeCell, String.toList_ofList, List.mem_flatMap]
  constructor
  · rintro ⟨c, mem, m⟩
    split at m
    case isTrue => exact absurd m (by decide)
    case isFalse => exact List.mem_singleton.1 m ▸ mem
  · exact fun mem => ⟨'\n', mem, by decide⟩

lemma newline_mem_row_iff (h : f.IsPresentable) : '\n' ∈ (row hosting f).toList ↔
    ∃ h ∈ hosting, '\n' ∈ h.link.toList ∨ '\n' ∈ h.revision.toList := by
  have due : '\n' ∉ (deadline f).toList := by
    rw [deadline]
    split
    case h_1 day _ =>
      split
      case isTrue => simp [day.newline_not_mem_text]
      case isFalse => exact day.newline_not_mem_text
    case h_2 => decide
  have updated := f.attribution.committed.newline_not_mem_text
  have kind : '\n' ∉ f.note.kind.name.toList := by cases f.note.kind <;> decide
  have number : '\n' ∉ digits f.line.toNat := not_mem_digits (by decide) _
  have author : '\n' ∉ (author f).toList := by
    rw [Markdown.author]
    split
    case isTrue => decide
    case isFalse => exact h.author
  cases hosting with
  | none =>
    simp [toList_row, newline_mem_escapeCell, newline_mem_linked, Finding.place, Finding.lineText,
      due, kind, number, author, updated, h.body, h.file]
  | some hosting =>
    simpa [toList_row, newline_mem_escapeCell, newline_mem_linked, Finding.place, Finding.lineText,
      Hosting.fileLink, Hosting.commitLink, due, kind, number, author, updated, h.body, h.file,
      h.revision] using Or.inl

lemma newline_not_mem_row_iff (h : f.IsPresentable) :
    '\n' ∉ (row hosting f).toList ↔ ∀ h ∈ hosting, h.IsOneLine := by
  rw [newline_mem_row_iff h]
  push Not
  exact forall₂_congr fun _ _ => ⟨fun h => ⟨h.1, h.2⟩, fun h => ⟨h.link, h.revision⟩⟩

lemma isLine_row_iff (h : f.IsPresentable) :
    IsLine (row hosting f).toList ↔ ∀ h ∈ hosting, h.IsOneLine := by
  have last : (row hosting f).toList.getLast? ≠ some '\r' := by
    rw [row, String.toList_append, List.getLast?_append_of_ne_nil _ (by decide)]
    decide
  rw [IsLine, newline_not_mem_row_iff h, and_iff_left last]

lemma toList_text (hosting : Option Hosting) (found : List Finding) :
    (text hosting found).toList = ((heading ++ found.map (row hosting)).map String.toList).flatMap
      (· ++ ['\n']) :=
  toList_join_lines _

lemma isLine_heading : ∀ l ∈ heading, IsLine l.toList := by
  decide +kernel

lemma isLine_rows (h : ∀ f ∈ found, f.IsPresentable) (oneLine : ∀ h ∈ hosting, h.IsOneLine) :
    ∀ l ∈ (heading ++ found.map (row hosting)).map String.toList, IsLine l := by
  rw [List.forall_mem_map, List.forall_mem_append, List.forall_mem_map]
  exact ⟨isLine_heading, fun f mem => (isLine_row_iff (h f mem)).2 oneLine⟩

lemma lines_text (h : ∀ f ∈ found, f.IsPresentable) (oneLine : ∀ h ∈ hosting, h.IsOneLine) :
    lines (text hosting found).toList =
      heading.map String.toList ++ found.map fun f => (row hosting f).toList := by
  rw [toList_text, lines_flatMap_of_isLine (isLine_rows h oneLine), List.map_append, List.map_map]
  rfl

lemma length_lines_text_eq_iff (h : ∀ f ∈ found, f.IsPresentable) :
    (lines (text hosting found).toList).length = 4 + found.length ↔
      found = [] ∨ ∀ h ∈ hosting, h.IsOneLine := by
  have length : 4 + found.length =
      ((heading ++ found.map (row hosting)).map String.toList).length := by
    rw [List.length_map, List.length_append, List.length_map]
    rfl
  rw [length, toList_text, length_lines_flatMap_concat_eq_iff]
  constructor
  · intro rows
    -- the links into the repository are in each row, so one row decides
    cases found with
    | nil => exact .inl rfl
    | cons f found =>
      have mem : row hosting f ∈ heading ++ (f :: found).map (row hosting) :=
        List.mem_append_right _ List.mem_cons_self
      exact .inr ((newline_not_mem_row_iff (h f List.mem_cons_self)).1
        (rows _ (List.mem_map_of_mem mem)))
  · rintro (rfl | oneLine)
    · rw [List.forall_mem_map]
      exact fun l mem => (isLine_heading l mem).1
    · exact fun l mem => (isLine_rows h oneLine l mem).1

lemma isFlagged_row_iff (h : f.IsPresentable) (hosting : Option Hosting) :
    IsFlagged (row hosting f).toList ↔ f.expired := by
  have flagged (noBar : '|' ∉ (deadline f).toList) : IsFlagged (row hosting f).toList ↔
      ":bomb:".toList <+: (deadline f).toList ++ [' '] := by
    have noBar' : ∀ c ∈ (deadline f).toList ++ [' '], (c != '|') = true := by
      intro c mem
      rcases List.mem_append.1 mem with m | m
      · exact bne_iff_ne.2 fun bar => noBar (bar ▸ m)
      · rw [List.mem_singleton.1 m]
        rfl
    have cell (rest : List Char) : ((deadline f).toList ++ " | ".toList ++ rest).takeWhile
        (· != '|') = (deadline f).toList ++ [' '] := by
      have split : (deadline f).toList ++ " | ".toList ++ rest =
          ((deadline f).toList ++ [' ']) ++ '|' :: ' ' :: rest := by simp
      rw [split, List.takeWhile_append_of_pos noBar', List.takeWhile_cons_of_neg (by decide),
        List.append_nil]
    rw [IsFlagged, firstCell, toList_row, List.drop_succ_cons, List.drop_succ_cons, List.drop_zero,
      cell]
  have bar (d : Date) : '|' ∉ d.text.toList := d.not_mem_text (by decide) (by decide) (by decide)
  have colon (d : Date) : ':' ∉ d.text.toList := d.not_mem_text (by decide) (by decide) (by decide)
  cases expired : f.expired with
  | true =>
    obtain ⟨day, due⟩ := h.dated expired
    have bombed : deadline f = ":bomb: " ++ day.text := by simp [deadline, due, expired]
    rw [flagged (by simp [bombed, bar]), bombed]
    simp
  | false =>
    cases due : f.note.due with
    | none =>
      have empty : deadline f = "" := by simp [deadline, due]
      rw [flagged (by simp [empty]), empty]
      decide
    | some day =>
      have plain : deadline f = day.text := by simp [deadline, due, expired]
      rw [flagged (plain ▸ bar day), plain]
      refine iff_of_false (fun bomb => ?_) Bool.false_ne_true
      have mem : ':' ∈ day.text.toList ++ [' '] := bomb.subset List.mem_cons_self
      simp [colon] at mem

end Markdown

end Overdue
