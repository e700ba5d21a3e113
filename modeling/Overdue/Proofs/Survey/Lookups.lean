import Overdue.Proofs.Survey.Fanout
import Overdue.Survey.Basic

/-!
# Lookups and the deadline

Which lookups a survey makes and when, however long each of them takes. All that were started come
first among the lines with a note, no more are under way at once than are asked for, and the survey
fails just if one of them is not over by the deadline (`settle_spec`).
-/

namespace Overdue

/-- Where a property of an element is one of all elements before it, what has it comes first. -/
lemma filter_append_filter_not {α : Type} {p : α → Bool} {l : List α}
    (h : l.Pairwise fun a b => p b → p a) : l.filter p ++ l.filter (fun a => !p a) = l := by
  induction l with
  | nil => rfl
  | cons a l ih =>
    obtain ⟨first, rest⟩ := List.pairwise_cons.1 h
    by_cases holds : p a
    · rw [List.filter_cons_of_pos holds, List.filter_cons_of_neg (by simp [holds]),
        List.cons_append, ih rest]
    · have none : ∀ b ∈ a :: l, ¬p b :=
        List.forall_mem_cons.2 ⟨holds, fun b mem => mt (first b mem) holds⟩
      rw [List.filter_eq_nil_iff.2 none, List.nil_append]
      exact List.filter_eq_self.2 fun b mem => by simpa using none b mem

namespace Survey

/-! ## Lookups -/

/-- The lines that are looked up are the candidates with a note. -/
lemma map_fst_annotated (candidates : List Candidate) :
    (annotated candidates).map Prod.fst =
      candidates.filter fun c => (Note.read? c.text).isSome := by
  induction candidates with
  | nil => rfl
  | cons c candidates ih =>
    rw [annotated] at ih ⊢
    cases read : Note.read? c.text <;> simp [read, ih]

lemma map_fst_lookups (history : History) (lines : List Annotated) :
    (lookups history lines).map Prod.fst = lines := by
  rw [lookups, List.map_map]
  exact List.map_id lines

lemma map_task_fanOut (s : Survey) (history : History) (lines : List Annotated) :
    (s.fanOut history lines).map Flight.task = lines := by
  rw [fanOut, flights, Fanout.start_run_tasks (Timeline.width_pos s.concurrency), map_fst_lookups]

lemma map_span_fanOut (s : Survey) (history : History) (lines : List Annotated) :
    (s.fanOut history lines).map Flight.span = s.timeline history lines := by
  rw [fanOut, flights, Fanout.start_run_spans, timeline]

/-- Whatever time each lookup takes, all lines are handed on in their order. -/
lemma finished_result (s : Survey) (history : History) (tasks : List (Annotated × Nat)) :
    (s.finished history (s.flights tasks)).result =
      .ok (findings s.today history (tasks.map Prod.fst)) := by
  rw [finished, flights, Fanout.start_run_tasks (Timeline.width_pos s.concurrency)]

/-- Some lookup is not over by the deadline. -/
def IsLate (s : Survey) (flights : List (Flight Annotated)) : Prop :=
  ∃ deadline ∈ s.deadline, ∃ flight ∈ flights, deadline.milliseconds < flight.span.finish

variable {s : Survey} {history : History} {flights : List (Flight Annotated)}

lemma lt_duration_iff {limit : Nat} : limit < Timeline.duration (flights.map Flight.span) ↔
    ∃ flight ∈ flights, limit < flight.span.finish := by
  rw [Timeline.duration, Timeline.lt_latest_iff]
  simp

lemma settle_of_not_isLate (h : ¬s.IsLate flights) :
    s.settle history flights = s.finished history flights := by
  cases given : s.deadline with
  | none => rw [settle, given]
  | some deadline =>
    have inTime : ¬deadline.milliseconds < Timeline.duration (flights.map Flight.span) :=
      fun late => h ⟨deadline, given, lt_duration_iff.1 late⟩
    simp only [settle, given, if_neg inTime]

lemma settle_of_isLate {deadline : Duration} (given : s.deadline = some deadline)
    (h : s.IsLate flights) : s.settle history flights =
      ⟨startedBy deadline.milliseconds flights, .error deadline⟩ := by
  obtain ⟨deadline', given', late⟩ := h
  obtain rfl := Option.some.inj (given.symm.trans given')
  simp only [settle, given, if_pos (lt_duration_iff.2 late)]

/-! ## Surveys in time -/

lemma isLate_fanOut_iff {lines : List Annotated} : s.IsLate (s.fanOut history lines) ↔
    ∃ deadline ∈ s.deadline,
      deadline.milliseconds < Timeline.duration (s.timeline history lines) := by
  simp only [IsLate, ← lt_duration_iff, map_span_fanOut]

/-- A survey whose lookups are over by its deadline is finished. -/
lemma run_of_inTime {candidates : List Candidate} (inTime : ∀ deadline ∈ s.deadline,
      Timeline.duration (s.timeline history (annotated candidates)) ≤ deadline.milliseconds) :
    s.run history candidates = s.finished history (s.fanOut history (annotated candidates)) := by
  refine settle_of_not_isLate fun late => ?_
  obtain ⟨deadline, given, later⟩ := isLate_fanOut_iff.1 late
  exact Nat.not_lt_of_le (inTime deadline given) later

lemma run_of_late {candidates : List Candidate} {deadline : Duration}
    (given : s.deadline = some deadline) (late : deadline.milliseconds <
      Timeline.duration (s.timeline history (annotated candidates))) :
    (s.run history candidates).result = .error deadline := by
  have isLate := isLate_fanOut_iff.2 ⟨deadline, given, late⟩
  rw [run, settle_of_isLate given isLate]

lemma run_started_of_inTime {candidates : List Candidate} (inTime : ∀ deadline ∈ s.deadline,
      Timeline.duration (s.timeline history (annotated candidates)) ≤ deadline.milliseconds) :
    (s.run history candidates).started =
      candidates.filter fun c => (Note.read? c.text).isSome := by
  have lines := congrArg (List.map Prod.fst) (s.map_task_fanOut history (annotated candidates))
  rw [List.map_map, map_fst_annotated] at lines
  rw [run_of_inTime inTime]
  exact lines

lemma settle_result_eq_ok_iff {found : List Finding} :
    (s.settle history flights).result = .ok found ↔
      ¬s.IsLate flights ∧ findings s.today history (flights.map Flight.task) = found := by
  by_cases late : s.IsLate flights
  · obtain ⟨deadline, given, -⟩ := id late
    simp [settle_of_isLate given late, late]
  · simp [settle_of_not_isLate late, finished, late]

/-! ## What is started -/

/-- A survey makes the lookups of the candidates with a note, each once and in their order, and at
most as many at once as are asked for. It fails just if one of them is not over by the deadline;
then nothing is found, and the lookups that were started come first. -/
theorem settle_spec (s : Survey) (history : History) {candidates : List Candidate}
    {tasks : List (Annotated × Nat)} (given : tasks.map Prod.fst = annotated candidates) :
    Fanout.WorksOff (max 1 s.concurrency) tasks (s.flights tasks) ∧
    ((∃ e, (s.settle history (s.flights tasks)).result = .error e) ↔ s.IsLate (s.flights tasks)) ∧
    (¬s.IsLate (s.flights tasks) → (s.settle history (s.flights tasks)).started =
      candidates.filter fun c => (Note.read? c.text).isSome) ∧
    (∀ deadline ∈ s.deadline, s.IsLate (s.flights tasks) →
      (s.settle history (s.flights tasks)).result = .error deadline ∧
      ((s.settle history (s.flights tasks)).started <+:
        candidates.filter fun c => (Note.read? c.text).isSome) ∧
      ∃ begun rest, s.flights tasks = begun ++ rest ∧
        (s.settle history (s.flights tasks)).started = begun.map (fun f => f.task.1) ∧
        (∀ f ∈ begun, f.span.start ≤ deadline.milliseconds) ∧
        ∀ f ∈ rest, deadline.milliseconds < f.span.start) ∧
    s.run history candidates =
      s.settle history (s.flights (lookups history (annotated candidates))) := by
  have works := Fanout.start_run_worksOff s.concurrency tasks
  have lines : (s.flights tasks).map (fun f => f.task.1) =
      candidates.filter fun c => (Note.read? c.text).isSome := by
    rw [← map_fst_annotated, ← given, ← works.tasks_eq, List.map_map]
    rfl
  refine ⟨works, ⟨?_, ?_⟩, ?_, ?_, rfl⟩
  · rintro ⟨e, failed⟩
    by_contra inTime
    rw [settle_of_not_isLate inTime] at failed
    cases failed
  · intro late
    obtain ⟨deadline, given, -⟩ := id late
    exact ⟨deadline, by rw [settle_of_isLate given late]⟩
  · intro inTime
    rw [settle_of_not_isLate inTime]
    exact lines
  · intro deadline given late
    rw [settle_of_isLate given late]
    -- lookups start in order, so those that start in time come first
    have earlier : (s.flights tasks).Pairwise fun f g =>
        decide (g.span.start ≤ deadline.milliseconds) →
          decide (f.span.start ≤ deadline.milliseconds) := by
      refine works.inOrder.imp fun le => ?_
      simp only [decide_eq_true_eq]
      exact le_trans le
    have cut := filter_append_filter_not earlier
    refine ⟨rfl, ?_, _, _, cut.symm, rfl, fun f mem => ?_, fun f mem => ?_⟩
    · rw [← lines]
      exact List.IsPrefix.map _ ⟨_, cut⟩
    · exact of_decide_eq_true (List.mem_filter.1 mem).2
    · simpa using (List.mem_filter.1 mem).2

theorem settle_of_blocked_window :
    let s : Survey := { today := ⟨2024, 1, 1, by decide⟩, concurrency := 2, deadline := some ⟨25⟩ }
    let history : History := fun _ _ => ⟨none, 0⟩
    let candidates : List Candidate := [⟨"a.py", 1, "# TODO: a"⟩, ⟨"a.py", 2, "# b"⟩,
      ⟨"a.py", 3, "# TODO: c"⟩, ⟨"a.py", 1, "# TODO: a"⟩, ⟨"a.py", 5, "# FIXME: e"⟩]
    let tasks := (annotated candidates).zip [30, 5, 10, 0]
    tasks.map Prod.fst = annotated candidates ∧ s.IsLate (s.flights tasks) ∧
    (∀ time, (s.flights tasks).countP (fun f => f.span.isUnderWay time) ≤ 2) ∧
    (s.settle history (s.flights tasks)).result = .error ⟨25⟩ ∧
    (s.settle history (s.flights tasks)).started <+:
      [⟨"a.py", 1, "# TODO: a"⟩, ⟨"a.py", 3, "# TODO: c"⟩, ⟨"a.py", 1, "# TODO: a"⟩,
        ⟨"a.py", 5, "# FIXME: e"⟩] := by
  intro s history candidates tasks
  have given : tasks.map Prod.fst = annotated candidates := by decide +kernel
  have late : s.IsLate (s.flights tasks) := by
    refine ⟨⟨25⟩, rfl, lt_duration_iff.1 ?_⟩
    rw [flights, Fanout.start_run_spans]
    decide +kernel
  have spec := settle_spec s history given
  have short := spec.2.2.2.1 ⟨25⟩ rfl late
  have noted : (candidates.filter fun c => (Note.read? c.text).isSome) =
      [⟨"a.py", 1, "# TODO: a"⟩, ⟨"a.py", 3, "# TODO: c"⟩, ⟨"a.py", 1, "# TODO: a"⟩,
        ⟨"a.py", 5, "# FIXME: e"⟩] := by decide +kernel
  exact ⟨given, late, spec.1.bounded, short.1, noted ▸ short.2.1⟩

end Survey

end Overdue
