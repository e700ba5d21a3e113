import Overdue.Proofs.Finding.Urgency
import Overdue.Proofs.Survey.Lookups

/-!
# What a survey finds

A survey that is over in time finds what a plain walk over the candidates keeps, sorted stably by
the calendar, however the lookups overlap (`run_result_eq`).
-/

namespace Overdue

/-! ## Stable sorting -/

/-- The list `after` is the list `before` in ascending order of keys, and what has one key is in
the order it was in. -/
structure IsStableSort {α κ : Type} [LinearOrder κ] (key : α → κ) (before after : List α) :
    Prop where
  perm : after.Perm before
  sorted : after.Pairwise fun a b => key a ≤ key b
  stable : ∀ k, (after.filter fun a => key a = k) = before.filter fun a => key a = k

namespace IsStableSort

variable {α κ : Type} [LinearOrder κ]

lemma mergeSort (key : α → κ) (l : List α) :
    IsStableSort key l (l.mergeSort fun a b => decide (key a ≤ key b)) := by
  have trans : ∀ a b c, decide (key a ≤ key b) → decide (key b ≤ key c) →
      decide (key a ≤ key c) := by
    simp only [decide_eq_true_eq]
    exact fun a b c => le_trans
  have total : ∀ a b, decide (key a ≤ key b) || decide (key b ≤ key a) := by
    simp only [Bool.or_eq_true, decide_eq_true_eq]
    exact fun a b => le_total _ _
  refine ⟨List.mergeSort_perm _ _, ?_, fun k => ?_⟩
  · exact (List.pairwise_mergeSort trans total l).imp of_decide_eq_true
  · have same : ∀ a ∈ l.filter (fun a => key a = k), key a = k := fun a m =>
      of_decide_eq_true (List.mem_filter.1 m).2
    have ordered : (l.filter fun a => key a = k).Pairwise fun a b => decide (key a ≤ key b) :=
      List.pairwise_of_forall_mem_list fun a ma b mb =>
        decide_eq_true (le_of_eq ((same a ma).trans (same b mb).symm))
    -- what has one key is in ascending order, so it is a sublist of what is sorted
    have kept := (List.sublist_mergeSort trans total ordered List.filter_sublist).filter
      fun a => decide (key a = k)
    rw [List.filter_eq_self.2 fun a m => decide_eq_true (same a m)] at kept
    have len := ((List.mergeSort_perm l fun a b => decide (key a ≤ key b)).filter
      fun a => decide (key a = k)).length_eq
    exact (kept.eq_of_length len.symm).symm

variable {key : α → κ} {before after after' : List α}

lemma filter (h : IsStableSort key before after) (p : α → Bool) :
    IsStableSort key (before.filter p) (after.filter p) := by
  refine ⟨h.perm.filter p, h.sorted.filter p, fun k => ?_⟩
  rw [List.filter_comm, h.stable k, List.filter_comm]

/-- The head of an ascending list has no greater key than what is in it. -/
lemma key_head_le {a b : α} {as bs : List α}
    (sorted : (a :: as).Pairwise fun a b => key a ≤ key b)
    (same : ((a :: as).filter fun c => key c = key b) = (b :: bs).filter fun c => key c = key b) :
    key a ≤ key b := by
  have mem : b ∈ (b :: bs).filter fun c => key c = key b := by simp
  rw [← same] at mem
  rcases List.mem_cons.1 (List.mem_filter.1 mem).1 with rfl | mem
  · exact le_refl _
  · exact (List.pairwise_cons.1 sorted).1 b mem

/-- Two ascending lists are alike if what has one key is alike in both. -/
lemma eq_of_filter_eq (sorted : after.Pairwise fun a b => key a ≤ key b)
    (sorted' : after'.Pairwise fun a b => key a ≤ key b)
    (same : ∀ k, (after.filter fun a => key a = k) = after'.filter fun a => key a = k) :
    after = after' := by
  induction after generalizing after' with
  | nil =>
    cases after' with
    | nil => rfl
    | cons b bs => simpa using same (key b)
  | cons a as ih =>
    cases after' with
    | nil => simpa using same (key a)
    | cons b bs =>
      have keys : key a = key b :=
        le_antisymm (key_head_le sorted (same (key b))) (key_head_le sorted' (same (key a)).symm)
      -- so both heads are the first with the least key
      obtain rfl : a = b := by
        have heads := same (key a)
        rw [List.filter_cons_of_pos (by simp), List.filter_cons_of_pos (by simp [keys])] at heads
        exact (List.cons.inj heads).1
      refine congrArg _ (ih sorted.of_cons sorted'.of_cons fun k => ?_)
      have rest := same k
      rw [List.filter_cons, List.filter_cons] at rest
      split at rest
      case isTrue => exact (List.cons.inj rest).2
      case isFalse => exact rest

lemma unique (h : IsStableSort key before after) (h' : IsStableSort key before after') :
    after = after' :=
  eq_of_filter_eq h.sorted h'.sorted fun k => (h.stable k).trans (h'.stable k).symm

end IsStableSort

/-! ## Findings by the calendar -/

namespace Finding

/-- The place of a finding by the calendar. -/
def calendar (f : Finding) : WithTop Date ×ₗ Date :=
  calendarKey f.note.due f.attribution.committed

/-- The findings by due day, what has none last, and within a day by the day of the commit; those
alike stay in the order they came in. -/
def byCalendar (findings : List Finding) : List Finding :=
  findings.mergeSort fun f g => decide (f.calendar ≤ g.calendar)

lemma isStableSort_byUrgency (findings : List Finding) :
    IsStableSort urgency findings (byUrgency findings) :=
  IsStableSort.mergeSort urgency findings

/-- Where all years have four digits, the order of urgency is the order of the calendar. -/
lemma byUrgency_eq_byCalendar {findings : List Finding}
    (due : ∀ f ∈ findings, HasFourDigits f.note.due)
    (committed : ∀ f ∈ findings, 0 ≤ f.attribution.committed.year ∧
      f.attribution.committed.year ≤ 9999) :
    byUrgency findings = byCalendar findings := by
  have same : ∀ f ∈ findings, ∀ g ∈ findings,
      decide (f.urgency ≤ g.urgency) = decide (f.calendar ≤ g.calendar) := by
    intro f mf g mg
    have sorts := Date.sortsByText_of_four_digits (committed f mf) (committed g mg)
    have keys := cmp_urgencyKey_of_sortsByText (due f mf) (due g mg) sorts
    exact decide_eq_decide.2 (le_iff_le_of_cmp_eq_cmp keys)
  have sorted : (byUrgency findings).map id = byCalendar (findings.map id) :=
    List.map_mergeSort same
  rwa [List.map_id, List.map_id] at sorted

end Finding

/-! ## What is kept -/

namespace Survey

/-- The record that a lookup yields, whenever it does. -/
def records (history : History) (file : String) (line : UInt32) : Option String :=
  (history file line).record

/-- The findings of the candidates with a note and a commit, in the order of the candidates. -/
def kept (today : Date) (records : String → UInt32 → Option String)
    (candidates : List Candidate) : List Finding :=
  candidates.filterMap fun c => do
    let note ← Note.read? c.text
    let attribution ← Attribution.read? (← records c.file c.line)
    return ⟨c.file, c.line, note, attribution, note.due.any fun day => day < today⟩

/-- Walking over the candidates is walking over those that carry a note. -/
lemma filterMap_finding? (today : Date) (history : History) (candidates : List Candidate) :
    (annotated candidates).filterMap (finding? today history) =
      kept today (records history) candidates := by
  rw [annotated, kept, List.filterMap_filterMap]
  refine List.filterMap_congr fun c _ => ?_
  cases Note.read? c.text with
  | none => rfl
  | some note =>
    have overdue : isOverdue note.due today = note.due.any fun day => day < today := by
      cases note.due <;> rfl
    simp only [finding?, overdue, records, Option.map_some, Option.bind_some, Option.bind_eq_bind]

lemma exists_of_mem_kept {today : Date} {records : String → UInt32 → Option String}
    {candidates : List Candidate} {f : Finding} (h : f ∈ kept today records candidates) :
    ∃ c ∈ candidates, Note.read? c.text = some f.note := by
  obtain ⟨c, m, made⟩ := List.mem_filterMap.1 h
  simp only [Option.bind_eq_bind, Option.bind_eq_some_iff] at made
  obtain ⟨note, read, _, _, _, _, same⟩ := made
  obtain rfl := Option.some.inj same
  exact ⟨c, m, read⟩

/-- Leaving out findings by their place is leaving out candidates. -/
lemma filter_kept (p : String × UInt32 → Bool) (today : Date)
    (records : String → UInt32 → Option String) (candidates : List Candidate) :
    (kept today records candidates).filter (fun f => p (f.file, f.line)) =
      kept today records (candidates.filter fun c => p (c.file, c.line)) := by
  rw [kept, kept, List.filter_filterMap, List.filterMap_filter]
  refine List.filterMap_congr fun c _ => ?_
  cases Note.read? c.text with
  | none => simp
  | some note =>
    cases records c.file c.line with
    | none => simp
    | some record => cases made : Attribution.read? record <;> simp [made, Option.filter]

lemma kept_congr {records records' : String → UInt32 → Option String} {candidates : List Candidate}
    (same : ∀ c ∈ candidates, records' c.file c.line = records c.file c.line) (today : Date) :
    kept today records' candidates = kept today records candidates := by
  refine List.filterMap_congr fun c mem => ?_
  rw [same c mem]

lemma run_result_of_inTime {s : Survey} {history : History} {candidates : List Candidate}
    (inTime : ∀ deadline ∈ s.deadline,
      Timeline.duration (s.timeline history (annotated candidates)) ≤ deadline.milliseconds) :
    (s.run history candidates).result =
      .ok (Finding.byUrgency (kept s.today (records history) candidates)) := by
  rw [run_of_inTime inTime, fanOut, finished_result, map_fst_lookups, findings,
    filterMap_finding?]

/-- A survey that is over by its deadline finds exactly what is kept of the candidates, stably
sorted by the calendar, provided that the commits lie in years of four digits. The records that the
lookups yield decide this: neither the number of lookups under way at once matters nor the deadline,
nor the times that the lookups take, be they even different for lookups of one line. -/
theorem run_result_eq (s : Survey) (history : History) (candidates : List Candidate)
    (committed : ∀ f ∈ kept s.today (records history) candidates,
      0 ≤ f.attribution.committed.year ∧ f.attribution.committed.year ≤ 9999)
    (inTime : ∀ deadline ∈ s.deadline,
      Timeline.duration (s.timeline history (annotated candidates)) ≤ deadline.milliseconds) :
    (s.run history candidates).result =
      .ok (Finding.byCalendar (kept s.today (records history) candidates)) ∧
    IsStableSort Finding.calendar (kept s.today (records history) candidates)
      (Finding.byCalendar (kept s.today (records history) candidates)) ∧
    ∀ tasks : List (Annotated × Nat), tasks.map Prod.fst = annotated candidates →
      (s.finished history ((Fanout.start tasks).run (Timeline.width s.concurrency))).result =
        .ok (Finding.byCalendar (kept s.today (records history) candidates)) := by
  have due : ∀ f ∈ kept s.today (records history) candidates, HasFourDigits f.note.due := by
    intro f m
    obtain ⟨c, -, read⟩ := exists_of_mem_kept m
    exact Note.due_year read
  have found : findings s.today history (annotated candidates) =
      Finding.byCalendar (kept s.today (records history) candidates) := by
    rw [findings, filterMap_finding?, Finding.byUrgency_eq_byCalendar due committed]
  refine ⟨?_, IsStableSort.mergeSort Finding.calendar _, fun tasks lines => ?_⟩
  · rw [run_of_inTime inTime, fanOut, finished_result, map_fst_lookups, found]
  · rw [← flights, finished_result, lines, found]

theorem run_result_of_one_at_a_time :
    let s : Survey := { today := ⟨2024, 1, 1, by decide⟩, concurrency := 0, deadline := some ⟨50⟩ }
    let history : History := fun _ line =>
      if line = 1 then
        ⟨some "bbbbbbbbbbbbbbbbbbbbbbbbbbbbbbbbbbbbbbbb 1\nauthor B\ncommitter-time 1683763200", 30⟩
      else if line = 2 then
        ⟨some "cccccccccccccccccccccccccccccccccccccccc 2\nauthor C\ncommitter-time 1549000000", 20⟩
      else ⟨none, 0⟩
    let candidates : List Candidate :=
      [⟨"a.py", 1, "# TODO: b"⟩, ⟨"a.py", 2, "# TODO [2023-01-01]: c"⟩, ⟨"a.py", 3, "# FIXME: d"⟩]
    (s.run history candidates).result =
      .ok (Finding.byCalendar (kept s.today (records history) candidates)) := by
  intro s history candidates
  exact (run_result_eq s history candidates (by decide +kernel) (by decide +kernel)).1

end Survey

end Overdue
