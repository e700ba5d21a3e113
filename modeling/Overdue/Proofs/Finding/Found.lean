import Overdue.Proofs.Comment.Marker
import Overdue.Proofs.Git.Scan
import Overdue.Proofs.History.Attribution
import Overdue.Proofs.Note.RoundTrip

/-!
# What a scan finds

What a scan returns is put together from a match, the note of its text and the commit of a blame
record (`IsScanned.isFound`). So its file and its author are lines, its body is a line without white
space at its ends, its due year has four digits, and its revision has hexadecimal digits alone.
-/

namespace Overdue

open Text

variable {f : Finding} {found : List Finding}

namespace Finding

/-- Some scan returns the finding. -/
def IsScanned (f : Finding) : Prop :=
  ∃ (r : Git.Repository) (survey : Survey) (found : List Finding),
    (r.scan survey).result = .ok found ∧ f ∈ found

/-- The finding has the place of a candidate, the note of its text and the commit of a record, and
it is expired only if it is due. -/
structure IsFound (f : Finding) : Prop where
  candidate : ∃ output, ∃ c ∈ Git.candidates output, c.file = f.file ∧ c.line = f.line ∧
    Note.read? c.text = some f.note
  attributed : ∃ record, Attribution.read? record = some f.attribution
  dated : f.expired → ∃ day, f.note.due = some day

end Finding

namespace Git

lemma newline_not_mem_file {output : String} {c : Candidate} (h : c ∈ candidates output) :
    '\n' ∉ c.file.toList := by
  obtain ⟨record, line, m, read, -, rfl⟩ := exists_match_of_mem_candidates h
  exact fun newline => newline_not_mem line ((Match.prefix_of_read? read).subset newline)

lemma isFound_of_mem_kept {today : Date} {records : String → UInt32 → Option String}
    {output : String} (h : f ∈ Survey.kept today records (candidates output)) : f.IsFound := by
  obtain ⟨c, mem, made⟩ := List.mem_filterMap.1 h
  simp only [Option.bind_eq_bind, Option.bind_eq_some_iff] at made
  obtain ⟨note, annotated, record, -, attribution, attributed, same⟩ := made
  obtain rfl := Option.some.inj same
  refine ⟨⟨output, c, mem, rfl, rfl, annotated⟩, ⟨record, attributed⟩, fun expired => ?_⟩
  cases due : note.due with
  | none =>
    rw [due] at expired
    cases expired
  | some day => exact ⟨day, rfl⟩

lemma Repository.isFound_of_scan {r : Repository} {survey : Survey}
    (scanned : (r.scan survey).result = .ok found) : ∀ f ∈ found, f.IsFound := by
  -- there is a result only if the tree can be searched and all is blamed in time
  by_cases searchable : r.CanSearch
  · by_cases inTime : r.IsInTime survey
    · rw [scan_result_of_isInTime searchable inTime] at scanned
      obtain rfl := Except.ok.inj scanned
      exact fun f mem => isFound_of_mem_kept ((Finding.isStableSort_byUrgency _).perm.subset mem)
    · rw [IsInTime] at inTime
      push Not at inTime
      obtain ⟨deadline, given, late⟩ := inTime
      rw [scan_result searchable, Survey.run_of_late given late] at scanned
      cases scanned
  · obtain ⟨e, failed, -⟩ := exists_scan_eq_error searchable survey
    rw [failed] at scanned
    cases scanned

/-- What is kept of a tree that can be searched is returned by a scan without a deadline. -/
lemma Repository.isScanned_of_mem_kept {r : Repository} (searchable : r.CanSearch) {today : Date}
    (h : f ∈ Survey.kept today (Survey.records r.history) (Git.candidates r.search.text)) :
    f.IsScanned := by
  have inTime : r.IsInTime { today } := by
    rintro _ ⟨⟩
  exact ⟨r, { today }, _, scan_result_of_isInTime searchable inTime,
    (Finding.isStableSort_byUrgency _).perm.symm.subset h⟩

end Git

namespace Finding

lemma IsScanned.isFound (h : f.IsScanned) : f.IsFound := by
  obtain ⟨r, survey, found, scanned, mem⟩ := h
  exact Git.Repository.isFound_of_scan scanned f mem

namespace IsFound

lemma newline_not_mem_file (h : f.IsFound) : '\n' ∉ f.file.toList := by
  obtain ⟨output, c, mem, same, -⟩ := h.candidate
  rw [← same]
  exact Git.newline_not_mem_file mem

lemma body (h : f.IsFound) :
    '\n' ∉ f.note.body.toList ∧ trim f.note.body.toList = f.note.body.toList := by
  obtain ⟨output, c, -, -, -, annotated⟩ := h.candidate
  exact Note.body_of_read? annotated

lemma due_year (h : f.IsFound) : ∀ day ∈ f.note.due, 0 ≤ day.year ∧ day.year ≤ 9999 := by
  obtain ⟨output, c, -, -, -, annotated⟩ := h.candidate
  exact Note.due_year annotated

lemma isRevision (h : f.IsFound) : Attribution.isRevision f.attribution.revision.toList := by
  obtain ⟨record, attributed⟩ := h.attributed
  exact Attribution.isRevision_of_read? attributed

lemma newline_not_mem_author (h : f.IsFound) : '\n' ∉ f.attribution.author.toList := by
  obtain ⟨record, attributed⟩ := h.attributed
  exact (Attribution.newline_not_mem_of_read? attributed).1

lemma newline_not_mem_revision (h : f.IsFound) : '\n' ∉ f.attribution.revision.toList := by
  obtain ⟨record, attributed⟩ := h.attributed
  exact (Attribution.newline_not_mem_of_read? attributed).2

end IsFound

end Finding

/-! ## A tree with two notes -/

lemma Finding.byUrgency_pair {f g : Finding} (h : g.urgency < f.urgency) :
    byUrgency [f, g] = [g, f] := by
  simp [byUrgency, List.mergeSort, List.MergeSort.Internal.splitInTwo, h]

namespace Git

/-- A working tree with two notes: one without a day, and behind it one that was due on the first day
of 2020. -/
def overdueTree : Repository where
  search := ⟨Utf8.encode "Z.py\x003\x00# FIXME: b\na.py\x001\x00# TODO [2020-01-01]: a\n", [],
    .exited 0⟩
  blame _ _ := ⟨Utf8.encode
    "bbbbbbbbbbbbbbbbbbbbbbbbbbbbbbbbbbbbbbbb 1\nauthor B\ncommitter-time 1683763200", [], .exited 0⟩

/-- What is found of the overdue note four years later. -/
def overdueFinding : Finding :=
  ⟨"a.py", 1, ⟨.todo, some ⟨2020, 1, 1, by decide⟩, "a"⟩,
    ⟨"bbbbbbbbbbbbbbbbbbbbbbbbbbbbbbbbbbbbbbbb", "B", none, ⟨2023, 5, 11, by decide⟩⟩, true⟩

/-- What is found of the note without a day. -/
def undatedFinding : Finding :=
  ⟨"Z.py", 3, ⟨.fixme, none, "b"⟩,
    ⟨"bbbbbbbbbbbbbbbbbbbbbbbbbbbbbbbbbbbbbbbb", "B", none, ⟨2023, 5, 11, by decide⟩⟩, false⟩

lemma scan_overdueTree : (overdueTree.scan { today := ⟨2024, 1, 1, by decide⟩ }).result =
    .ok [overdueFinding, undatedFinding] := by
  have kept : Survey.kept ⟨2024, 1, 1, by decide⟩ (Survey.records overdueTree.history)
      (candidates overdueTree.search.text) = [undatedFinding, overdueFinding] := by
    decide +kernel
  have inTime : overdueTree.IsInTime { today := ⟨2024, 1, 1, by decide⟩ } := by
    rintro _ ⟨⟩
  rw [Repository.scan_result_of_isInTime ⟨rfl, .inl rfl⟩ inTime, kept,
    Finding.byUrgency_pair (by decide +kernel)]

end Git

end Overdue
