import Overdue.Proofs.Finding.Found
import Overdue.Proofs.Finding.Record
import Overdue.Proofs.Report.Markdown
import Overdue.Report.Format

/-!
# Reports that agree

The text table, the markdown table and the records of what a scan found have one row for each
finding, in the same order, and flag the same of them as expired (`reports_agree`). In markdown a row
may take more than one line, but only if a link into the repository does.
-/

namespace Overdue

open Text

variable {f : Finding} {found : List Finding}

/-! ## What a scan finds -/

lemma Finding.IsFound.isPresentable (h : f.IsFound) : f.IsPresentable where
  file := h.newline_not_mem_file
  body := h.body.1
  trimmed := h.body.2
  author := h.newline_not_mem_author
  revision := h.newline_not_mem_revision
  dated := h.dated

lemma Git.Repository.isPresentable_of_scan {r : Repository} {survey : Survey}
    (scanned : (r.scan survey).result = .ok found) : ∀ f ∈ found, f.IsPresentable :=
  fun f mem => (isFound_of_scan scanned f mem).isPresentable

/-! ## The records -/

/-- A record is flagged by its last member. -/
def Json.IsFlagged (v : Json) : Prop :=
  v.object?.bind (Json.required? · "is_expired") = some (.bool true)

lemma Finding.isFlagged_toJson_iff (f : Finding) : f.toJson.IsFlagged ↔ f.expired := by
  have member : f.toJson.object?.bind (Json.required? · "is_expired") = some (.bool f.expired) := rfl
  rw [Json.IsFlagged, member, Option.some.injEq, Json.bool.injEq]

lemma parse?_records (found : List Finding) :
    Json.parse? (Finding.records found) = some (.array (found.map Finding.toJson)) :=
  Json.parse?_text (Finding.isPlain_records found) _

/-! ## Agreement -/

/-- The reports on what a scan found have one row for each finding, in one order. The rows of one
finding are flagged in all of them or in none, and some are just if some finding is expired. The
text is one line for the header and one for each finding, or a single line that there are none. The
markdown is its heading and one line for each finding, just if there are none or no link into the
repository takes more than one line. -/
theorem reports_agree {r : Git.Repository} {survey : Survey}
    (scanned : (r.scan survey).result = .ok found) (hosting : Option Hosting) :
    (lines (Table.text found).toList = if found = [] then ["No TODO comments found.".toList]
      else Table.header.chars :: found.map fun f => (Table.row f).chars) ∧
    ((∀ h ∈ hosting, h.IsOneLine) → lines (Markdown.text hosting found).toList =
      Markdown.heading.map String.toList ++ found.map fun f => (Markdown.row hosting f).toList) ∧
    ((lines (Markdown.text hosting found).toList).length = 4 + found.length ↔
      found = [] ∨ ∀ h ∈ hosting, h.IsOneLine) ∧
    Json.parse? (Finding.records found) = some (.array (found.map Finding.toJson)) ∧
    (∀ (i : Nat) (h : i < found.length),
      (Table.IsFlagged (Table.row found[i]).chars ↔
        Markdown.IsFlagged (Markdown.row hosting found[i]).toList) ∧
      (Markdown.IsFlagged (Markdown.row hosting found[i]).toList ↔
        found[i].toJson.IsFlagged)) ∧
    (anyExpired found ↔
      ∃ (i : Nat) (h : i < found.length), Table.IsFlagged (Table.row found[i]).chars) := by
  have presentable := Git.Repository.isPresentable_of_scan scanned
  refine ⟨Table.lines_text presentable, Markdown.lines_text presentable,
    Markdown.length_lines_text_eq_iff presentable, parse?_records found, fun i h => ?_, ?_⟩
  · have shown := presentable found[i] (List.getElem_mem h)
    rw [Table.isFlagged_row_iff shown, Markdown.isFlagged_row_iff shown,
      Finding.isFlagged_toJson_iff]
    exact ⟨Iff.rfl, Iff.rfl⟩
  · rw [anyExpired, List.any_eq_true, List.exists_mem_iff_getElem]
    refine exists_congr fun i => exists_congr fun h => ?_
    exact (Table.isFlagged_row_iff (presentable found[i] (List.getElem_mem h))).symm

/-! ## Two notes, one of them expired -/

theorem reports_agree_on_overdueTree :
    let hosting : Hosting := ⟨"https://github.com", "o", "r", "HEAD"⟩
    let overdue := Git.overdueFinding
    let undated := Git.undatedFinding
    let found := [overdue, undated]
    (Git.overdueTree.scan { today := ⟨2024, 1, 1, by decide⟩ }).result = .ok found ∧
    lines (Table.text found).toList =
      [Table.header.chars, (Table.row overdue).chars, (Table.row undated).chars] ∧
    (lines (Markdown.text (some hosting) found).toList).length = 4 + found.length ∧
    (Table.IsFlagged (Table.row overdue).chars ∧
      Markdown.IsFlagged (Markdown.row (some hosting) overdue).toList ∧ overdue.toJson.IsFlagged) ∧
    ¬Table.IsFlagged (Table.row undated).chars ∧
    ¬Markdown.IsFlagged (Markdown.row (some hosting) undated).toList ∧
    ¬undated.toJson.IsFlagged ∧ anyExpired found := by
  intro hosting overdue undated found
  have oneLine : ∀ h ∈ some hosting, h.IsOneLine := by
    rintro _ ⟨⟩
    exact ⟨by decide, by decide⟩
  obtain ⟨rows, -, length, -, flags, any⟩ := reports_agree Git.scan_overdueTree (some hosting)
  obtain ⟨table, markdown⟩ := flags 0 (by decide)
  obtain ⟨table', markdown'⟩ := flags 1 (by decide)
  have flagged : overdue.toJson.IsFlagged := overdue.isFlagged_toJson_iff.2 rfl
  have plain : ¬undated.toJson.IsFlagged := undated.isFlagged_toJson_iff.not.2 nofun
  exact ⟨Git.scan_overdueTree, rows, length.2 (.inr oneLine),
    ⟨table.2 (markdown.2 flagged), markdown.2 flagged, flagged⟩,
    fun marked => plain (markdown'.1 (table'.1 marked)), mt markdown'.1 plain, plain,
    any.2 ⟨0, by decide, table.2 (markdown.2 flagged)⟩⟩

/-- A revision with a line feed in it breaks the row of the finding. -/
theorem length_lines_markdown_of_broken_link : ∃ hosting found,
    Hosting.named "https://github.com" "o/r" "a\nb" = .ok hosting ∧
    (Git.overdueTree.scan { today := ⟨2024, 1, 1, by decide⟩ }).result = .ok found ∧
    (lines (Markdown.text (some hosting) found).toList).length ≠ 4 + found.length := by
  refine ⟨⟨"https://github.com", "o", "r", "a\nb"⟩, _, by decide +kernel, Git.scan_overdueTree, ?_⟩
  have presentable := Git.Repository.isPresentable_of_scan Git.scan_overdueTree
  rw [Ne, Markdown.length_lines_text_eq_iff presentable, not_or]
  refine ⟨List.cons_ne_nil _ _, fun oneLine => ?_⟩
  exact absurd (oneLine _ rfl).revision (by decide)

end Overdue
