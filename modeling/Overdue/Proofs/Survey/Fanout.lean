import Overdue.Proofs.Survey.Timeline
import Overdue.Survey.Fanout

/-!
# Fan-out in order

A fan-out hands on every task once, in the order in which the tasks were given, whatever time each
of them takes (`run_tasks`). The times at which they are taken up and end are those of the timeline
(`run_spans`): the clock stands at the end of the tasks that were handed on whenever a task is taken
up, which is what `InStep` keeps. Hence no more tasks are under way at once than the window is wide
(`start_run_worksOff`).
-/

namespace Overdue

/-- Two lists become alike if they do so element by element. -/
lemma map_eq_map_iff_forall₂ {α β γ : Type} {f : α → γ} {g : β → γ} {l : List α} {l' : List β} :
    l.map f = l'.map g ↔ List.Forall₂ (fun a b => f a = g b) l l' := by
  rw [← List.forall₂_eq_eq_eq, List.forall₂_map_left_iff, List.forall₂_map_right_iff]

namespace Fanout

variable {α : Type} {window : Nat}

/-- A step neither loses a task nor changes the order of the tasks. -/
lemma Step.tasks {s t : Fanout α} {landed : List (Flight α)} (st : Step window s landed t) :
    landed.map Flight.task ++ (t.flights.map Flight.task ++ t.waiting.map Prod.fst) =
      s.flights.map Flight.task ++ s.waiting.map Prod.fst := by
  cases st with
  | launch room => simp
  | land full arrived => simp
  | wait full under => simp

/-- What is handed on from any state: the tasks under way, then those that wait. -/
lemma run_tasks (pos : 0 < window) (s : Fanout α) :
    (s.run window).map Flight.task = s.flights.map Flight.task ++ s.waiting.map Prod.fst := by
  induction s using run.induct window with
  | case1 s stopped =>
    obtain ⟨noWaiting, noFlights⟩ := (step_eq_none_iff pos).1 stopped
    rw [run_of_step_eq_none stopped, noWaiting, noFlights]
    rfl
  | case2 s landed t stepped ih =>
    rw [run_of_step_eq_some stepped, List.map_append, ih]
    exact (step_sound stepped).tasks

/-- A fan-out hands on its tasks in the order in which they are given. -/
lemma start_run_tasks (pos : 0 < window) (tasks : List (α × Nat)) :
    ((start tasks).run window).map Flight.task = tasks.map Prod.fst := by
  rw [run_tasks pos]
  rfl

/-- What the clock keeps to, when `ended` lists the ends of the tasks that were handed on. -/
structure InStep (window : Nat) (ended : List Nat) (s : Fanout α) : Prop where
  /-- Room is made for one task at a time once the first is handed on. -/
  refilled : s.waiting ≠ [] → ended ≠ [] → window ≤ s.flights.length + 1
  past : Timeline.latest ended ≤ s.clock
  /-- Time does not pass while a task could be taken up. -/
  prompt : s.waiting ≠ [] → s.flights.length < window → s.clock = Timeline.latest ended
  /-- Time does not pass by the end of the first task. -/
  ahead : ∀ flight ∈ s.flights.head?, s.clock ≤ max (Timeline.latest ended) flight.span.finish

lemma InStep.start (tasks : List (α × Nat)) : InStep window [] (start tasks) where
  refilled _ ne := absurd rfl ne
  past := Nat.le_refl 0
  prompt _ _ := rfl
  ahead _ m := nomatch m

lemma InStep.step {ended : List Nat} {s t : Fanout α} {landed : List (Flight α)}
    (inv : InStep window ended s) (st : Step window s landed t) :
    InStep window (ended ++ landed.map fun f => f.span.finish) t := by
  cases st with
  | @launch clock task delay waiting flights room =>
    have now : clock = Timeline.latest ended := inv.prompt (List.cons_ne_nil _ _) room
    simp only [List.map_nil, List.append_nil]
    refine ⟨fun _ ne => ?_, inv.past, fun _ _ => now, ?_⟩
    · have := inv.refilled (List.cons_ne_nil _ _) ne
      simp at this ⊢
      omega
    · intro flight m
      exact now ▸ Nat.le_max_left _ _
  | @land clock waiting flight flights full arrived =>
    -- the task is done and time has not passed by its end
    have now : clock = max (Timeline.latest ended) flight.span.finish :=
      Nat.le_antisymm (inv.ahead flight rfl) (Nat.max_le.2 ⟨inv.past, arrived⟩)
    simp only [List.map_cons, List.map_nil]
    refine ⟨fun ne _ => full ne, ?_, fun _ _ => ?_, fun f m => ?_⟩
    · simp [← now]
    · simp [← now]
    · rw [Timeline.latest_concat, ← now]
      exact Nat.le_max_left _ _
  | @wait clock waiting flight flights full under =>
    -- time passes to the next end of a task, at the latest to the end of the first one
    simp only [List.map_nil, List.append_nil]
    have later : clock < nextEnd clock flight.span.finish flights := lt_nextEnd under
    refine ⟨inv.refilled, ?_, fun ne room => ?_, fun f m => ?_⟩
    · exact Nat.le_trans inv.past (Nat.le_of_lt later)
    · exact absurd room (Nat.not_lt.2 (full ne))
    · obtain rfl : flight = f := by simpa using m
      exact Nat.le_trans (nextEnd_le _ _ _) (Nat.le_max_right _ _)

/-- A task is taken up once all tasks are over that come at least the width of the window before
it. -/
lemma InStep.latest_take {ended : List Nat} {clock delay : Nat} {task : α}
    {waiting : List (α × Nat)} {flights : List (Flight α)}
    (inv : InStep window ended ⟨clock, (task, delay) :: waiting, flights⟩)
    (room : flights.length < window) (ends : List Nat) (len : ends.length = flights.length) :
    Timeline.latest ((ended ++ ends).take ((ended ++ ends).length + 1 - window)) = clock := by
  have now : clock = Timeline.latest ended := inv.prompt (List.cons_ne_nil _ _) room
  have cut : (ended ++ ends).length + 1 - window = ended.length := by
    cases ended with
    | nil => simp; omega
    | cons =>
      have := inv.refilled (List.cons_ne_nil _ _) (List.cons_ne_nil _ _)
      simp at this ⊢
      omega
  rw [cut, List.take_left, now]

/-- The spans of a fan-out from a state that keeps to the clock: those of the tasks under way, and
the timeline of the tasks that wait. -/
lemma run_spans (pos : 0 < window) {ended : List Nat} {s : Fanout α} (inv : InStep window ended s) :
    (s.run window).map Flight.span = s.flights.map Flight.span ++
      Timeline.continueWith window (ended ++ s.flights.map fun f => f.span.finish)
        (s.waiting.map Prod.snd) := by
  induction s using run.induct window generalizing ended with
  | case1 s stopped =>
    obtain ⟨noWaiting, noFlights⟩ := (step_eq_none_iff pos).1 stopped
    rw [run_of_step_eq_none stopped, noWaiting, noFlights]
    rfl
  | case2 s landed t stepped ih =>
    have st := step_sound stepped
    rw [run_of_step_eq_some stepped, List.map_append, ih (inv.step st)]
    cases st with
    | @launch clock task delay waiting flights room =>
      have taken := inv.latest_take room (flights.map fun f => f.span.finish) (List.length_map _)
      simp only [List.map_nil, List.append_nil, List.nil_append, List.map_append, List.map_cons,
        List.append_assoc, List.cons_append, Timeline.continueWith, taken]
    | land full arrived => simp
    | wait full under => simp

/-- The spans of a fan-out are the timeline of its tasks. -/
lemma start_run_spans (concurrency : Nat) (tasks : List (α × Nat)) :
    ((start tasks).run (Timeline.width concurrency)).map Flight.span =
      Timeline.of concurrency (tasks.map Prod.snd) := by
  rw [run_spans (Timeline.width_pos concurrency) (InStep.start tasks)]
  rfl

/-- Tasks are worked off in a window, each in the time that is given with it. -/
structure WorksOff (window : Nat) (tasks : List (α × Nat)) (flights : List (Flight α)) : Prop where
  /-- Every task is taken up once, in order. -/
  tasks_eq : flights.map Flight.task = tasks.map Prod.fst
  schedule : Timeline.IsSchedule window (tasks.map Prod.snd) (flights.map Flight.span)
  inOrder : flights.Pairwise fun f g => f.span.start ≤ g.span.start
  bounded : ∀ time, flights.countP (fun f => f.span.isUnderWay time) ≤ window

lemma start_run_worksOff (concurrency : Nat) (tasks : List (α × Nat)) :
    WorksOff (Timeline.width concurrency) tasks
      ((start tasks).run (Timeline.width concurrency)) := by
  have pos := Timeline.width_pos concurrency
  have sch := Timeline.isSchedule_of concurrency (tasks.map Prod.snd)
  rw [← start_run_spans] at sch
  have inOrder := sch.pairwise_start
  rw [List.pairwise_map] at inOrder
  refine ⟨start_run_tasks pos tasks, sch, inOrder, fun time => ?_⟩
  have bounded := sch.countP_isUnderWay_le pos time
  rwa [List.countP_map] at bounded

end Fanout

/-- The same task, neither taken up nor over later. -/
structure Flight.NoLater {α : Type} (flight flight' : Flight α) : Prop where
  task : flight.task = flight'.task
  span : flight.span.NoLater flight'.span

namespace Fanout

/-- With a wider window and shorter tasks no task is later. -/
lemma start_run_mono {concurrency concurrency' : Nat} (wider : concurrency ≤ concurrency')
    {tasks tasks' : List (α × Nat)}
    (quicker : List.Forall₂ (fun t' t => t'.1 = t.1 ∧ t'.2 ≤ t.2) tasks' tasks) :
    List.Forall₂ Flight.NoLater ((start tasks').run (Timeline.width concurrency'))
      ((start tasks).run (Timeline.width concurrency)) := by
  have same : tasks'.map Prod.fst = tasks.map Prod.fst :=
    map_eq_map_iff_forall₂.2 (quicker.imp fun _ _ h => h.1)
  have shorter : List.Forall₂ (· ≤ ·) (tasks'.map Prod.snd) (tasks.map Prod.snd) := by
    rw [List.forall₂_map_left_iff, List.forall₂_map_right_iff]
    exact quicker.imp fun _ _ h => h.2
  have runTasks := start_run_tasks (Timeline.width_pos concurrency') tasks'
  rw [same, ← start_run_tasks (Timeline.width_pos concurrency) tasks,
    map_eq_map_iff_forall₂] at runTasks
  have spans := Timeline.continueWith_mono (Timeline.width_mono wider) .nil shorter
  change List.Forall₂ Span.NoLater (Timeline.of concurrency' _) (Timeline.of concurrency _) at spans
  rw [← start_run_spans, ← start_run_spans, List.forall₂_map_left_iff,
    List.forall₂_map_right_iff] at spans
  exact List.Forall₂.mp (fun _ _ => Flight.NoLater.mk) runTasks spans

end Fanout

end Overdue
