import Overdue.Proofs.Survey.Findings

/-!
# Surveys on different days

A survey finds the same on every day, in the same order, and what is expired comes first. On a later
day what was expired still is, and more may be (`run_of_later_day`).
-/

namespace Overdue

/-- Work is overdue when the day by which it is due has passed. -/
lemma isOverdue_iff {due : Option Date} {today : Date} :
    isOverdue due today = true ↔ dueDay due < today := by
  cases due with
  | none => simp [isOverdue, dueDay]
  | some day => simp [isOverdue, dueDay]

lemma isOverdue_mono {due : Option Date} {today today' : Date} (later : today ≤ today')
    (h : isOverdue due today) : isOverdue due today' :=
  isOverdue_iff.2 ((isOverdue_iff.1 h).trans_le (WithTop.coe_le_coe.2 later))

namespace Finding

/-- The finding as it stands on a day. -/
def asOf (today : Date) (f : Finding) : Finding :=
  { f with expired := isOverdue f.note.due today }

/-- The same finding on a later day: it may have expired. -/
structure Ages (f g : Finding) : Prop where
  same : g = { f with expired := g.expired }
  expired : f.expired → g.expired

/-- The order in which findings are listed, as far as due days go. -/
structure IsListed (findings : List Finding) : Prop where
  expired_first : findings.filter Finding.expired <+: findings
  due_sorted : findings.Pairwise fun f g => dueDay f.note.due ≤ dueDay g.note.due
  undated_last : findings.Pairwise fun f g => f.note.due = none → g.note.due = none

/-- The commit decides only between findings that are due on one day, whatever its year. -/
lemma dueDay_le_of_urgency_le {f g : Finding} (hf : HasFourDigits f.note.due)
    (hg : HasFourDigits g.note.due) (h : f.urgency ≤ g.urgency) :
    dueDay f.note.due ≤ dueDay g.note.due := by
  by_contra lt
  have keys := cmp_urgencyKey hf hg f.attribution.committed g.attribution.committed
  rw [(not_le.1 lt).cmp_eq_gt] at keys
  exact not_le.2 ((cmp_eq_gt_iff _ _).1 keys) h

lemma isListed_byUrgency {findings : List Finding} {today : Date}
    (due : ∀ f ∈ findings, HasFourDigits f.note.due)
    (flagged : ∀ f ∈ findings, f.expired = isOverdue f.note.due today) :
    IsListed (byUrgency findings) := by
  have mem {f : Finding} (h : f ∈ byUrgency findings) : f ∈ findings :=
    (isStableSort_byUrgency findings).perm.subset h
  have sorted : (byUrgency findings).Pairwise fun f g => dueDay f.note.due ≤ dueDay g.note.due :=
    (isStableSort_byUrgency findings).sorted.imp_of_mem fun mf mg le =>
      dueDay_le_of_urgency_le (due _ (mem mf)) (due _ (mem mg)) le
  refine ⟨⟨_, filter_append_filter_not (sorted.imp_of_mem fun {f g} mf mg le => ?_)⟩, sorted,
    sorted.imp fun {f g} le undated => ?_⟩
  · rw [flagged f (mem mf), flagged g (mem mg), isOverdue_iff, isOverdue_iff]
    exact le.trans_lt
  · rw [undated, dueDay, top_le_iff] at le
    exact dueDay_inj.1 le

/-- The keys that findings are listed by are the same on every day. -/
lemma byUrgency_map_asOf (today : Date) (findings : List Finding) :
    byUrgency (findings.map (asOf today)) = (byUrgency findings).map (asOf today) := by
  have same : ∀ f ∈ findings, ∀ g ∈ findings, decide (f.urgency ≤ g.urgency) =
      decide ((f.asOf today).urgency ≤ (g.asOf today).urgency) := fun _ _ _ _ => rfl
  exact (List.map_mergeSort same).symm

end Finding

namespace Survey

lemma finding?_eq_map_asOf (today today' : Date) (history : History) (line : Annotated) :
    finding? today' history line = (finding? today history line).map (Finding.asOf today') := by
  obtain ⟨c, note⟩ := line
  simp only [finding?, Option.bind_eq_bind, Option.map_bind, Function.comp_def]
  rfl

lemma findings_eq_map_asOf (today today' : Date) (history : History) (lines : List Annotated) :
    findings today' history lines = (findings today history lines).map (Finding.asOf today') := by
  rw [findings, findings, ← Finding.byUrgency_map_asOf, List.map_filterMap]
  refine congrArg _ (List.filterMap_congr fun line _ => ?_)
  exact finding?_eq_map_asOf today today' history line

lemma expired_of_mem_findings {today : Date} {history : History} {lines : List Annotated}
    {f : Finding} (h : f ∈ findings today history lines) :
    f.expired = isOverdue f.note.due today := by
  rw [findings_eq_map_asOf today today] at h
  obtain ⟨g, -, rfl⟩ := List.mem_map.1 h
  rfl

lemma isListed_findings (today : Date) (history : History) (candidates : List Candidate) :
    Finding.IsListed (findings today history (annotated candidates)) := by
  set found := (annotated candidates).filterMap (finding? today history) with filtered
  have due : ∀ f ∈ found, HasFourDigits f.note.due := by
    intro f mem
    rw [filtered, filterMap_finding?] at mem
    obtain ⟨c, -, read⟩ := exists_of_mem_kept mem
    exact Note.due_year read
  have flagged : ∀ f ∈ found, f.expired = isOverdue f.note.due today := fun f mem =>
    expired_of_mem_findings ((Finding.isStableSort_byUrgency found).perm.symm.subset mem)
  exact Finding.isListed_byUrgency due flagged

/-- On a later day a survey starts the same lookups and finds the same in the same order. What is
expired comes first, by due day, and it is no less on the later day. -/
theorem run_of_later_day (s : Survey) (history : History) (candidates : List Candidate)
    {day day' : Date} (later : day ≤ day') :
    ({ s with today := day }.run history candidates).started =
      ({ s with today := day' }.run history candidates).started ∧
    (s.IsLate (s.fanOut history (annotated candidates)) → ∃ deadline ∈ s.deadline,
      ({ s with today := day }.run history candidates).result = .error deadline ∧
      ({ s with today := day' }.run history candidates).result = .error deadline) ∧
    (¬s.IsLate (s.fanOut history (annotated candidates)) → ∃ found found',
      ({ s with today := day }.run history candidates).result = .ok found ∧
      ({ s with today := day' }.run history candidates).result = .ok found' ∧
      List.Forall₂ Finding.Ages found found' ∧
      Finding.IsListed found ∧ Finding.IsListed found' ∧
      countExpired found ≤ countExpired found' ∧ (anyExpired found → anyExpired found')) := by
  set flights := s.fanOut history (annotated candidates)
  have run (day : Date) : { s with today := day }.run history candidates =
      { s with today := day }.settle history flights := rfl
  have lines : flights.map Flight.task = annotated candidates :=
    s.map_task_fanOut history (annotated candidates)
  simp only [run]
  by_cases late : s.IsLate flights
  · obtain ⟨deadline, given, -⟩ := id late
    have failed (day : Date) : { s with today := day }.settle history flights =
        ⟨startedBy deadline.milliseconds flights, .error deadline⟩ :=
      settle_of_isLate given late
    rw [failed day, failed day']
    exact ⟨rfl, fun _ => ⟨deadline, given, rfl, rfl⟩, fun inTime => absurd late inTime⟩
  · have finished (day : Date) : { s with today := day }.settle history flights =
        ⟨flights.map fun f => f.task.1, .ok (findings day history (annotated candidates))⟩ := by
      have inTime : ¬{ s with today := day }.IsLate flights := late
      rw [settle_of_not_isLate inTime, Survey.finished, lines]
    rw [finished day, finished day']
    refine ⟨rfl, fun h => absurd h late, fun _ => ⟨_, _, rfl, rfl, ?_⟩⟩
    have ages : ∀ f ∈ findings day history (annotated candidates),
        f.expired → (f.asOf day').expired := by
      intro f mem expired
      rw [expired_of_mem_findings mem] at expired
      exact isOverdue_mono later expired
    have listed := isListed_findings day' history candidates
    rw [findings_eq_map_asOf day day'] at listed ⊢
    refine ⟨?_, isListed_findings day history candidates, listed, ?_, ?_⟩
    · rw [List.forall₂_map_right_iff]
      exact List.forall₂_same.2 fun f mem => ⟨rfl, ages f mem⟩
    · rw [countExpired, countExpired, List.countP_map]
      exact List.countP_mono_left ages
    · simp only [anyExpired, List.any_map, List.any_eq_true]
      rintro ⟨f, mem, expired⟩
      exact ⟨f, mem, ages f mem expired⟩

theorem run_of_day_after_due :
    let s : Survey := { today := ⟨2024, 1, 1, by decide⟩, deadline := some ⟨30⟩ }
    let history : History := fun _ line =>
      if line = 1 then
        ⟨some "bbbbbbbbbbbbbbbbbbbbbbbbbbbbbbbbbbbbbbbb 1\nauthor B\ncommitter-time 1683763200", 30⟩
      else
        ⟨some "cccccccccccccccccccccccccccccccccccccccc 2\nauthor C\ncommitter-time 253402300800", 20⟩
    let candidates : List Candidate :=
      [⟨"a.py", 1, "# TODO: b"⟩, ⟨"a.py", 2, "# TODO [2024-01-01]: c"⟩,
        ⟨"a.py", 3, "# FIXME [2023-01-01]: d"⟩]
    let day : Date := ⟨2024, 1, 1, by decide⟩
    let day' : Date := ⟨2024, 1, 2, by decide⟩
    day ≤ day' ∧ ¬s.IsLate (s.fanOut history (annotated candidates)) ∧ ∃ found found',
      ({ s with today := day }.run history candidates).result = .ok found ∧
      ({ s with today := day' }.run history candidates).result = .ok found' ∧
      List.Forall₂ Finding.Ages found found' ∧ Finding.IsListed found' ∧
      countExpired found ≤ countExpired found' := by
  intro s history candidates day day'
  have later : day ≤ day' := by decide
  have inTime : ¬s.IsLate (s.fanOut history (annotated candidates)) := by
    rintro ⟨deadline, given, late⟩
    obtain rfl := Option.some.inj given
    have later := lt_duration_iff.2 late
    rw [map_span_fanOut] at later
    exact absurd later (by decide +kernel)
  obtain ⟨found, found', ok, ok', ages, -, listed, count, -⟩ :=
    (run_of_later_day s history candidates later).2.2 inTime
  exact ⟨later, inTime, found, found', ok, ok', ages, listed, count⟩

end Survey

end Overdue
