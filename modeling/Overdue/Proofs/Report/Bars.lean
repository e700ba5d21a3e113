import Overdue.Proofs.Finding.Found
import Overdue.Proofs.Report.Markdown

/-!
# The bars of a row

A row of the markdown table has a bar on either side of each of its six cells. A backslash before a
bar in the body or in the author keeps it out of these, but makes one of a bar that had a backslash
before it already; the path is not escaped at all. `openBars_row` counts them.
-/

namespace Overdue

open Text

/-- No link into the repository holds a bar because of where it is hosted. -/
structure Hosting.HasNoBar (h : Hosting) : Prop where
  link : '|' ∉ h.link.toList
  revision : '|' ∉ h.revision.toList

namespace Markdown

/-! ## Bars -/

/-- The number of bars with a number of backslashes directly before them that `counts`. Directly
before the text there are `run` of them. -/
def countBars (counts : Nat → Bool) (run : Nat) : List Char → Nat
  | [] => 0
  | c :: cs =>
    if c = '|' then (counts run).toNat + countBars counts 0 cs
    else if c = '\\' then countBars counts (run + 1) cs
    else countBars counts 0 cs

/-- The bars of a text that are not escaped: those with an even number of backslashes directly
before them. -/
def openBars (s : List Char) : Nat :=
  countBars (fun run => run % 2 == 0) 0 s

/-- The bars of a text that are escaped: those with an odd number of backslashes directly before
them. -/
def escapedBars (s : List Char) : Nat :=
  countBars (fun run => run % 2 == 1) 0 s

section

variable {counts : Nat → Bool} {run : Nat} {s : List Char}

lemma countBars_eq_zero (h : '|' ∉ s) : countBars counts run s = 0 := by
  induction s generalizing run with
  | nil => rfl
  | cons c s ih =>
    obtain ⟨other, rest⟩ := not_or.1 (mt List.mem_cons.2 h)
    rw [countBars, if_neg (Ne.symm other), ih rest, ih rest, ite_self]

/-- Behind any other character a text is counted anew. -/
lemma countBars_cons {c : Char} (bar : c ≠ '|') (slash : c ≠ '\\') (t : List Char) :
    countBars counts run (c :: t) = countBars counts 0 t := by
  rw [countBars, if_neg bar, if_neg slash]

lemma countBars_append_cons {c : Char} (bar : c ≠ '|') (slash : c ≠ '\\') (t : List Char) :
    countBars counts run (s ++ c :: t) = countBars counts run s + countBars counts 0 t := by
  induction s generalizing run with
  | nil => rw [List.nil_append, countBars_cons bar slash, countBars, Nat.zero_add]
  | cons d s ih =>
    rw [List.cons_append, countBars, countBars]
    split
    case isTrue => rw [ih, Nat.add_assoc]
    case isFalse =>
      split
      case isTrue => exact ih
      case isFalse => exact ih

end

/-- A bar is escaped by the backslash that is put before it, unless there is one already. -/
lemma openBars_escapeCell (s : String) : openBars (escapeCell s).toList = escapedBars s.toList := by
  -- the run before a bar is one longer in the escaped text, so that odd and even change places
  suffices all : ∀ s run,
      countBars (fun n => n % 2 == 0) run (s.flatMap fun c => if c = '|' then ['\\', '|'] else [c]) =
        countBars (fun n => n % 2 == 1) run s by
    rw [escapeCell, String.toList_ofList]
    exact all s.toList 0
  intro s
  induction s with
  | nil => exact fun run => rfl
  | cons c s ih =>
    intro run
    rw [List.flatMap_cons]
    by_cases bar : c = '|'
    · have parity : ((run + 1) % 2 == 0) = (run % 2 == 1) := by
        rw [Bool.eq_iff_iff, beq_iff_eq, beq_iff_eq]
        omega
      rw [if_pos bar, bar]
      simp only [List.cons_append, List.nil_append, countBars, if_true, ih, parity]
      rfl
    · rw [if_neg bar, List.singleton_append, countBars, countBars, if_neg bar, if_neg bar, ih, ih]

/-! ## Rows -/

lemma openBars_space (s : List Char) : openBars (' ' :: s) = openBars s :=
  countBars_cons (by decide) (by decide) s

/-- The bar behind a cell ends it. -/
lemma openBars_append_bar (cell rest : List Char) :
    openBars (cell ++ ' ' :: '|' :: rest) = openBars cell + 1 + openBars rest := by
  have bar : openBars ('|' :: rest) = 1 + openBars rest := rfl
  rw [openBars, countBars_append_cons (by decide) (by decide), Nat.add_assoc, ← bar]
  rfl

/-- A row has a bar before its first cell and one behind each, besides those within the cells. -/
lemma openBars_intercalate (cell : String) (cells : List String) :
    openBars ("| " ++ " | ".intercalate (cell :: cells) ++ " |").toList =
      cells.length + 2 + ((cell :: cells).map fun cell => openBars cell.toList).sum := by
  have ended : openBars ((" | ".intercalate (cell :: cells)).toList ++ [' ', '|']) =
      cells.length + 1 + ((cell :: cells).map fun cell => openBars cell.toList).sum := by
    induction cells generalizing cell with
    | nil =>
      have nothing : openBars [] = 0 := rfl
      rw [String.intercalate_singleton, openBars_append_bar, nothing, List.map_singleton,
        List.sum_singleton, List.length_nil]
      omega
    | cons next cells ih =>
      have split : (" | ".intercalate (cell :: next :: cells)).toList ++ [' ', '|'] =
          cell.toList ++ ' ' :: '|' :: ' ' ::
            ((" | ".intercalate (next :: cells)).toList ++ [' ', '|']) := by
        simp [String.intercalate_cons_cons]
      rw [split, openBars_append_bar, openBars_space, ih]
      simp only [List.map_cons, List.sum_cons, List.length_cons]
      omega
  have opened : ("| " ++ " | ".intercalate (cell :: cells) ++ " |").toList =
      '|' :: ' ' :: ((" | ".intercalate (cell :: cells)).toList ++ [' ', '|']) := by
    simp
  have bar (rest : List Char) : openBars ('|' :: rest) = 1 + openBars rest := rfl
  rw [opened, bar, openBars_space, ended]
  omega

/-- A text and the address that it leads to are counted on their own. -/
lemma openBars_linked (s : String) (address : Option String) : openBars (linked s address).toList =
    openBars s.toList + (address.map fun a => openBars a.toList).getD 0 := by
  cases address with
  | none => rfl
  | some address =>
    have cut : (linked s (some address)).toList =
        '[' :: (s.toList ++ ']' :: '(' :: (address.toList ++ ')' :: [])) := by
      simp [linked]
    rw [cut, openBars, countBars_cons (by decide) (by decide),
      countBars_append_cons (by decide) (by decide), countBars_cons (by decide) (by decide),
      countBars_append_cons (by decide) (by decide)]
    rfl

lemma openBars_place (f : Finding) : openBars f.place.toList = openBars f.file.toList := by
  have number : '|' ∉ digits f.line.toNat := not_mem_digits (by decide) _
  have cut : f.place.toList = f.file.toList ++ ':' :: digits f.line.toNat := by
    simp [Finding.place, Finding.lineText]
  rw [cut, openBars, countBars_append_cons (by decide) (by decide), countBars_eq_zero number]
  rfl

end Markdown

namespace Hosting.HasNoBar

open Markdown

variable {h : Hosting}

/-- The link to a file holds the path of the file as it is. -/
lemma openBars_fileLink (plain : h.HasNoBar) (file : String) (line : UInt32) :
    openBars (h.fileLink file line).toList = openBars file.toList := by
  have number : '|' ∉ 'L' :: digits line.toNat :=
    List.not_mem_cons_of_ne_of_not_mem (by decide) (not_mem_digits (by decide) _)
  have front : '|' ∉ h.link.toList ++ "/blob/".toList ++ h.revision.toList := by
    simp [plain.link, plain.revision]
  have cut : (h.fileLink file line).toList = (h.link.toList ++ "/blob/".toList ++
      h.revision.toList) ++ '/' :: (file.toList ++ '#' :: 'L' :: digits line.toNat) := by
    simp [Hosting.fileLink]
  rw [cut, openBars, countBars_append_cons (by decide) (by decide),
    countBars_append_cons (by decide) (by decide), countBars_eq_zero front,
    countBars_eq_zero number, Nat.zero_add]
  rfl

lemma openBars_commitLink (plain : h.HasNoBar) {revision : String} (noBar : '|' ∉ revision.toList) :
    openBars (h.commitLink revision).toList = 0 :=
  countBars_eq_zero (by simp [Hosting.commitLink, plain.link, noBar])

end Hosting.HasNoBar

namespace Markdown

variable {f : Finding} {hosting : Option Hosting}

lemma bar_not_mem_deadline (f : Finding) : '|' ∉ (deadline f).toList := by
  have bar (d : Date) : '|' ∉ d.text.toList := d.not_mem_text (by decide) (by decide) (by decide)
  rw [deadline]
  split
  case h_1 day _ =>
    split
    case isTrue => simp [bar]
    case isFalse => exact bar day
  case h_2 => decide

/-- The ghost that stands for no author has no bars, like the name of nobody. -/
lemma escapedBars_author (f : Finding) :
    escapedBars (author f).toList = escapedBars f.attribution.author.toList := by
  rw [author]
  split
  case isTrue empty =>
    rw [String.isEmpty_iff.1 empty]
    rfl
  case isFalse => rfl

/-- A row has the seven bars of six cells if no bar of its body and its author is behind an odd
number of backslashes, and none of its path behind an even one. Each that is makes one more, and
those of the path make two where it is part of a link. -/
theorem openBars_row (scanned : f.IsScanned) (plain : ∀ h ∈ hosting, h.HasNoBar) :
    openBars (row hosting f).toList = 7 + escapedBars f.note.body.toList +
      (if hosting.isSome then 2 else 1) * openBars f.file.toList +
      escapedBars f.attribution.author.toList ∧
    (openBars (row hosting f).toList = 7 ↔ escapedBars f.note.body.toList = 0 ∧
      openBars f.file.toList = 0 ∧ escapedBars f.attribution.author.toList = 0) := by
  have due : openBars (deadline f).toList = 0 := countBars_eq_zero (bar_not_mem_deadline f)
  have kind : openBars f.note.kind.name.toList = 0 := by cases f.note.kind <;> rfl
  have updated : openBars f.attribution.committed.text.toList = 0 :=
    countBars_eq_zero (Date.not_mem_text (by decide) (by decide) (by decide) _)
  have revision : '|' ∉ f.attribution.revision.toList :=
    Attribution.not_mem_of_isRevision scanned.isFound.isRevision (by decide)
  have count : openBars (row hosting f).toList = 7 + escapedBars f.note.body.toList +
      (if hosting.isSome then 2 else 1) * openBars f.file.toList +
      escapedBars f.attribution.author.toList := by
    rw [row, cells, openBars_intercalate]
    simp only [List.length_cons, List.length_nil, List.map_cons, List.map_nil, List.sum_cons,
      List.sum_nil, openBars_escapeCell, escapedBars_author, openBars_linked, openBars_place, due,
      kind, updated, Option.map_map]
    cases hosting with
    | none =>
      simp only [Option.map_none, Option.getD_none, Option.isSome_none, Bool.false_eq_true, if_false]
      omega
    | some h =>
      have address := (plain h rfl).openBars_fileLink f.file f.line
      have commit := (plain h rfl).openBars_commitLink revision
      simp only [Option.map_some, Option.getD_some, Option.isSome_some, if_true,
        Function.comp_apply, address, commit]
      omega
  refine ⟨count, ?_⟩
  rw [count]
  split <;> omega

theorem openBars_row_of_escaped_bars :
    let f : Finding := ⟨"a.py", 1, ⟨.todo, none, "a | b"⟩,
      ⟨"bbbbbbbbbbbbbbbbbbbbbbbbbbbbbbbbbbbbbbbb", "B|C", none, ⟨2023, 5, 11, by decide⟩⟩, false⟩
    let hosting : Hosting := ⟨"https://github.com", "o", "r", "HEAD"⟩
    f.IsScanned ∧ hosting.HasNoBar ∧ openBars (row (some hosting) f).toList = 7 := by
  intro f hosting
  let r : Git.Repository := {
    search := ⟨Utf8.encode "a.py\x001\x00# TODO: a | b\n", [], .exited 0⟩
    blame := fun _ _ => ⟨Utf8.encode
      "bbbbbbbbbbbbbbbbbbbbbbbbbbbbbbbbbbbbbbbb 1\nauthor B|C\ncommitter-time 1683763200", [],
      .exited 0⟩ }
  have scanned : f.IsScanned :=
    @Git.Repository.isScanned_of_mem_kept _ r ⟨rfl, .inl rfl⟩ ⟨2024, 1, 1, by decide⟩
      (by decide +kernel)
  have plain : hosting.HasNoBar := ⟨by decide, by decide⟩
  have plain' : ∀ h ∈ some hosting, h.HasNoBar := by
    rintro _ ⟨⟩
    exact plain
  exact ⟨scanned, plain, (openBars_row scanned plain').2.2 ⟨by decide, by decide, by decide⟩⟩

/-- A path is put into its cell with its bars as they are, and the backslash before a bar of a body
takes the one that is put between them for itself. -/
theorem openBars_row_of_bare_bars : ∃ f g : Finding,
    (f.IsScanned ∧ f.file = "a|b.py" ∧ openBars (row none f).toList = 8) ∧
    (g.IsScanned ∧ g.note.body = "a \\| b" ∧ openBars (row none g).toList = 8) := by
  let r : Git.Repository := {
    search := ⟨Utf8.encode "a|b.py\x001\x00# TODO: x\na.py\x002\x00# TODO: a \\| b\n", [], .exited 0⟩
    blame := fun _ _ => ⟨Utf8.encode
      "bbbbbbbbbbbbbbbbbbbbbbbbbbbbbbbbbbbbbbbb 1\nauthor B\ncommitter-time 1683763200", [],
      .exited 0⟩ }
  let attribution : Attribution :=
    ⟨"bbbbbbbbbbbbbbbbbbbbbbbbbbbbbbbbbbbbbbbb", "B", none, ⟨2023, 5, 11, by decide⟩⟩
  have scanned : ∀ f ∈ [⟨"a|b.py", 1, ⟨.todo, none, "x"⟩, attribution, false⟩,
      ⟨"a.py", 2, ⟨.todo, none, "a \\| b"⟩, attribution, false⟩], Finding.IsScanned f := by
    have kept : Survey.kept ⟨2024, 1, 1, by decide⟩ (Survey.records r.history)
        (Git.candidates r.search.text) = [⟨"a|b.py", 1, ⟨.todo, none, "x"⟩, attribution, false⟩,
          ⟨"a.py", 2, ⟨.todo, none, "a \\| b"⟩, attribution, false⟩] := by
      decide +kernel
    rw [← kept]
    exact fun f mem => Git.Repository.isScanned_of_mem_kept ⟨rfl, .inl rfl⟩ mem
  exact ⟨_, _, ⟨scanned _ List.mem_cons_self, rfl, by decide +kernel⟩,
    scanned _ (List.mem_cons_of_mem _ List.mem_cons_self), rfl, by decide +kernel⟩

end Markdown

end Overdue
