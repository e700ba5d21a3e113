import Overdue.Proofs.Survey.Findings

/-!
# More room and more time

More lookups at once, shorter lookups or a later deadline never make a survey fail, nor do they
change what it finds: no lookup starts or ends later (`settle_mono`).
-/

namespace Overdue.Survey

variable {s s' : Survey} {history history' : History} {flights : List (Flight Annotated)}

/-- A survey on the same day with at least as many lookups at once and no earlier deadline. -/
structure Relaxes (s' s : Survey) : Prop where
  today : s'.today = s.today
  wider : s.concurrency ≤ s'.concurrency
  later : ∀ limit' ∈ s'.deadline, ∃ limit ∈ s.deadline, limit.milliseconds ≤ limit'.milliseconds

lemma Relaxes.not_isLate (relaxed : s'.Relaxes s) {flights' : List (Flight Annotated)}
    (sooner : List.Forall₂ Flight.NoLater flights' flights) (inTime : ¬s.IsLate flights) :
    ¬s'.IsLate flights' := by
  rintro ⟨limit', given', flight', mem', late⟩
  obtain ⟨limit, given, le⟩ := relaxed.later limit' given'
  obtain ⟨i, inside, rfl⟩ := List.getElem_of_mem mem'
  have inside' : i < flights.length := sooner.length_eq ▸ inside
  have noLater : Flight.NoLater flights'[i] flights[i] := sooner.get inside inside'
  refine inTime ⟨limit, given, flights[i], List.getElem_mem inside', ?_⟩
  exact Nat.lt_of_le_of_lt le (Nat.lt_of_lt_of_le late noLater.span.finish)

lemma findings_of_records (same : records history' = records history) (today : Date)
    (lines : List Annotated) : findings today history' lines = findings today history lines := by
  have alike : finding? today history' = finding? today history := by
    funext ⟨c, note⟩
    have line : (history' c.file c.line).record = (history c.file c.line).record :=
      congrFun (congrFun same c.file) c.line
    rw [finding?, finding?, line]
  rw [findings, findings, alike]

lemma Relaxes.settle_result (relaxed : s'.Relaxes s) (same : records history' = records history)
    {flights' : List (Flight Annotated)} (sooner : List.Forall₂ Flight.NoLater flights' flights)
    {found : List Finding} (h : (s.settle history flights).result = .ok found) :
    (s'.settle history' flights').result = .ok found := by
  obtain ⟨inTime, rfl⟩ := settle_result_eq_ok_iff.1 h
  refine settle_result_eq_ok_iff.2 ⟨relaxed.not_isLate sooner inTime, ?_⟩
  have lines : flights'.map Flight.task = flights.map Flight.task :=
    map_eq_map_iff_forall₂.2 (sooner.imp fun _ _ noLater => noLater.task)
  rw [lines, relaxed.today, findings_of_records same]

/-- With more lookups at once, or shorter ones, no lookup starts or ends later. So a survey that is
over in time is still over in time, with the same findings, if it is given more room or more time.
One at a time, lookups take the sum of their times; if there is room for all, the longest time. -/
theorem settle_mono (relaxed : s'.Relaxes s) (same : records history' = records history)
    {tasks tasks' : List (Annotated × Nat)}
    (quicker : List.Forall₂ (fun t' t => t'.1 = t.1 ∧ t'.2 ≤ t.2) tasks' tasks) :
    List.Forall₂ Flight.NoLater (s'.flights tasks') (s.flights tasks) ∧
    (∀ found, (s.settle history (s.flights tasks)).result = .ok found →
      (s'.settle history' (s'.flights tasks')).result = .ok found) ∧
    (∀ candidates found, (∀ file line, (history' file line).delay ≤ (history file line).delay) →
      (s.run history candidates).result = .ok found →
      (s'.run history' candidates).result = .ok found) ∧
    (s.concurrency ≤ 1 → Timeline.duration ((s.flights tasks).map Flight.span) =
      (tasks.map Prod.snd).sum) ∧
    (tasks.length ≤ s.concurrency → Timeline.duration ((s.flights tasks).map Flight.span) =
      Timeline.latest (tasks.map Prod.snd)) := by
  have sooner := Fanout.start_run_mono relaxed.wider quicker
  refine ⟨sooner, fun found => relaxed.settle_result same sooner, ?_, fun narrow => ?_,
    fun wide => ?_⟩
  · intro candidates found shorter result
    have quicker' : List.Forall₂ (fun t' t => t'.1 = t.1 ∧ t'.2 ≤ t.2)
        (lookups history' (annotated candidates)) (lookups history (annotated candidates)) := by
      rw [lookups, lookups, List.forall₂_map_left_iff, List.forall₂_map_right_iff]
      exact List.forall₂_same.2 fun line _ => ⟨rfl, shorter _ _⟩
    exact relaxed.settle_result same (Fanout.start_run_mono relaxed.wider quicker') result
  · rw [flights, Fanout.start_run_spans, Timeline.duration_of_one_at_a_time narrow]
  · rw [flights, Fanout.start_run_spans, Timeline.duration_of_all_at_once]
    rwa [List.length_map]

theorem settle_of_wider_window :
    let s : Survey := { today := ⟨2024, 1, 1, by decide⟩, concurrency := 1, deadline := some ⟨60⟩ }
    let s' : Survey := { today := ⟨2024, 1, 1, by decide⟩, concurrency := 3 }
    let history : History := fun _ _ =>
      ⟨some "bbbbbbbbbbbbbbbbbbbbbbbbbbbbbbbbbbbbbbbb 1\nauthor B\ncommitter-time 1683763200", 30⟩
    let line (n : UInt32) : Annotated := (⟨"a.py", n, "# TODO: a"⟩, ⟨.todo, none, "a"⟩)
    let tasks := [(line 1, 30), (line 2, 20), (line 1, 10)]
    let tasks' := [(line 1, 30), (line 2, 5), (line 1, 10)]
    s'.Relaxes s ∧ records history = records history ∧
    List.Forall₂ (fun t' t => t'.1 = t.1 ∧ t'.2 ≤ t.2) tasks' tasks ∧
    List.Forall₂ Flight.NoLater (s'.flights tasks') (s.flights tasks) ∧
    (s'.settle history (s'.flights tasks')).result =
      .ok (findings s.today history (tasks.map Prod.fst)) ∧
    Timeline.duration ((s.flights tasks).map Flight.span) = 60 := by
  intro s s' history line tasks tasks'
  have relaxed : s'.Relaxes s := ⟨rfl, by decide, fun _ given => nomatch given⟩
  have quicker : List.Forall₂ (fun t' t => t'.1 = t.1 ∧ t'.2 ≤ t.2) tasks' tasks :=
    .cons ⟨rfl, by decide⟩ (.cons ⟨rfl, by decide⟩ (.cons ⟨rfl, by decide⟩ .nil))
  have same : records history = records history := rfl
  obtain ⟨sooner, result, -, sum, -⟩ := settle_mono relaxed same quicker
  have total := sum (by decide)
  have inTime : ¬s.IsLate (s.flights tasks) := by
    rintro ⟨limit, given, late⟩
    obtain rfl := Option.some.inj given
    have := lt_duration_iff.2 late
    rw [total] at this
    exact absurd this (by decide)
  have lines : (s.flights tasks).map Flight.task = tasks.map Prod.fst :=
    Fanout.start_run_tasks (Timeline.width_pos s.concurrency) tasks
  have finished := settle_result_eq_ok_iff.2 ⟨inTime, congrArg (findings s.today history) lines⟩
  exact ⟨relaxed, same, quicker, sooner, result _ finished, total⟩

end Overdue.Survey
