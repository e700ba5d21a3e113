import Overdue.Proofs.Calendar.Written
import Overdue.Proofs.Text.Lines
import Overdue.Report.Table

/-!
# The lines of the text table

One line for the header and one for each finding, which begins with an exclamation mark if the
finding is expired (`lines_text`, `isFlagged_row_iff`).
-/

namespace Overdue

open Text

variable {f : Finding} {found : List Finding}

/-- What the rows of a finding rely on: its texts are lines, its body is trimmed, and it has a due
day if it is expired. -/
structure Finding.IsPresentable (f : Finding) : Prop where
  file : '\n' ∉ f.file.toList
  body : '\n' ∉ f.note.body.toList
  trimmed : trim f.note.body.toList = f.note.body.toList
  author : '\n' ∉ f.attribution.author.toList
  revision : '\n' ∉ f.attribution.revision.toList
  dated : f.expired → ∃ day, f.note.due = some day

/-- The texts that a row shows hold no line feed. -/
structure Finding.IsUnbroken (f : Finding) : Prop where
  file : '\n' ∉ f.file.toList
  body : '\n' ∉ f.note.body.toList
  author : '\n' ∉ f.attribution.author.toList

lemma Finding.IsPresentable.isUnbroken (h : f.IsPresentable) : f.IsUnbroken :=
  ⟨h.file, h.body, h.author⟩

namespace Table

/-- The line of a row without its line feed. -/
def Row.chars (r : Row) : List Char :=
  r.line.toList.dropLast

/-- A row is flagged by an exclamation mark at its start. -/
def IsFlagged (line : List Char) : Prop :=
  line.head? = some '!'

lemma not_mem_padRight {c : Char} (space : c ≠ ' ') {s : String} (h : c ∉ s.toList) (width : Nat) :
    c ∉ (padRight width s).toList := by
  rw [padRight, String.toList_append, String.toList_ofList, List.mem_append, not_or]
  exact ⟨h, fun m => space (List.eq_of_mem_replicate m)⟩

lemma Row.chars_eq (r : Row) : r.chars = (padRight 12 r.deadline).toList ++
    ' ' :: ((padRight 5 r.kind).toList ++ ' ' :: ((padRight 40 r.location).toList ++
      ' ' :: ((padRight 10 r.updated).toList ++ ' ' :: ((padRight 16 r.author).toList ++
        ' ' :: r.comment.toList)))) := by
  refine (congrArg List.dropLast ?_).trans (@List.dropLast_concat _ _ '\n')
  simp [Row.line]

lemma Row.toList_line (r : Row) : r.line.toList = r.chars ++ ['\n'] := by
  rw [r.chars_eq]
  simp [Row.line]

section

variable {r : Row}

lemma Row.newline_not_mem_chars (deadline : '\n' ∉ r.deadline.toList) (kind : '\n' ∉ r.kind.toList)
    (location : '\n' ∉ r.location.toList) (updated : '\n' ∉ r.updated.toList)
    (author : '\n' ∉ r.author.toList) (comment : '\n' ∉ r.comment.toList) : '\n' ∉ r.chars := by
  have padded (width : Nat) {s : String} (h : '\n' ∉ s.toList) := not_mem_padRight (by decide) h width
  rw [r.chars_eq]
  simp [padded, deadline, kind, location, updated, author, comment]

/-- The end of a row is the end of its comment. -/
lemma Row.isLine_chars (line : '\n' ∉ r.chars) (comment : r.comment.toList.getLast? ≠ some '\r') :
    IsLine r.chars := by
  refine ⟨line, ?_⟩
  have last : (' ' :: r.comment.toList).getLast? ≠ some '\r' := by
    cases eq : r.comment.toList with
    | nil => decide
    | cons c cs =>
      rw [List.getLast?_cons_cons, ← eq]
      exact comment
  rw [r.chars_eq]
  simp only [← List.cons_append, ← List.append_assoc]
  rwa [List.getLast?_append_of_ne_nil _ (List.cons_ne_nil _ _)]

lemma Row.isFlagged_chars_iff : IsFlagged r.chars ↔ r.deadline.toList.head? = some '!' := by
  rw [IsFlagged, r.chars_eq, padRight]
  cases eq : r.deadline.toList with
  | nil => simp [eq, List.replicate]
  | cons c cs => simp [eq]

end

lemma newline_not_mem_deadline (f : Finding) : '\n' ∉ (deadline f).toList := by
  rw [deadline]
  split
  case h_1 day _ =>
    split
    case isTrue => simp [day.newline_not_mem_text]
    case isFalse => exact day.newline_not_mem_text
  case h_2 => decide

lemma newline_not_mem_row (h : f.IsUnbroken) : '\n' ∉ (row f).chars := by
  have kind : '\n' ∉ f.note.kind.name.toList := by cases f.note.kind <;> decide
  have place : '\n' ∉ f.place.toList := by
    have line : '\n' ∉ digits f.line.toNat := not_mem_digits (by decide) _
    simp [Finding.place, Finding.lineText, h.file, line]
  have updated := f.attribution.committed.newline_not_mem_text
  have author : '\n' ∉ (if f.attribution.author.isEmpty then "-"
      else f.attribution.author).toList := by
    split
    case isTrue => decide
    case isFalse => exact h.author
  have comment : '\n' ∉ (shorten f.note.body).toList := by
    rw [shorten]
    split
    case isTrue =>
      rw [String.toList_append, String.toList_ofList]
      exact List.not_mem_append (fun m => h.body ((List.take_sublist _ _).subset m)) (by decide)
    case isFalse => exact h.body
  exact Row.newline_not_mem_chars (newline_not_mem_deadline f) kind place updated author comment

/-- A row takes one line, and no carriage return at its end is taken for a part of the line end. -/
lemma isLine_row (h : f.IsPresentable) : IsLine (row f).chars := by
  have comment : (shorten f.note.body).toList.getLast? ≠ some '\r' := by
    rw [shorten]
    split
    case isTrue =>
      rw [String.toList_append, List.getLast?_append_of_ne_nil _ (by decide)]
      decide
    case isFalse => exact getLast?_ne_return h.trimmed
  exact Row.isLine_chars (newline_not_mem_row h.isUnbroken) comment

lemma isFlagged_row_iff (h : f.IsPresentable) : IsFlagged (row f).chars ↔ f.expired := by
  have flagged : IsFlagged (row f).chars ↔ (deadline f).toList.head? = some '!' :=
    Row.isFlagged_chars_iff
  have date (d : Date) : d.text.toList.head? ≠ some '!' := fun head =>
    d.not_mem_text (by decide) (by decide) (by decide) (List.mem_of_head? head)
  rw [flagged, deadline]
  cases expired : f.expired with
  | true =>
    obtain ⟨day, due⟩ := h.dated expired
    simp [due]
  | false =>
    cases due : f.note.due with
    | none => simp
    | some day => simpa using date day

lemma newline_not_mem_header : '\n' ∉ header.chars :=
  Row.newline_not_mem_chars (by decide) (by decide) (by decide) (by decide) (by decide) (by decide)

/-- The table is its header and the rows of its findings, each ended by a line feed. -/
lemma toList_text (some : found ≠ []) : (text found).toList =
    (header.chars :: found.map fun f => (row f).chars).flatMap (· ++ ['\n']) := by
  have notEmpty : ¬found.isEmpty := by rwa [List.isEmpty_iff]
  rw [text, if_neg notEmpty, String.toList_join, List.flatMap_map, List.flatMap_cons,
    List.flatMap_cons, List.flatMap_map, List.flatMap_map]
  simp only [Row.toList_line]

lemma lines_text (h : ∀ f ∈ found, f.IsPresentable) : lines (text found).toList =
    if found = [] then ["No TODO comments found.".toList]
    else header.chars :: found.map fun f => (row f).chars := by
  by_cases empty : found = []
  · subst empty
    decide
  · have isLine : ∀ l ∈ header.chars :: found.map fun f => (row f).chars, IsLine l := by
      rw [List.forall_mem_cons, List.forall_mem_map]
      exact ⟨Row.isLine_chars newline_not_mem_header (by decide), fun f mem => isLine_row (h f mem)⟩
    rw [if_neg empty, toList_text empty, lines_flatMap_of_isLine isLine]

end Table

end Overdue
