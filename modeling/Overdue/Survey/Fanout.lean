import Overdue.Survey.Timeline

/-!
# Fan-out

How a row of tasks is worked off when only so many of them may be under way at once. Tasks are taken
up in order and end in any order, each when its time is over. They are handed on in the order in
which they were taken up, so that a task that is done keeps its place in the window until all before
it are handed on.
-/

namespace Overdue

/-- A task that was taken up. -/
structure Flight (α : Type) where
  task : α
  span : Span
deriving DecidableEq, Repr

/-- Where the work on a row of tasks stands. -/
structure Fanout (α : Type) where
  /-- The time in milliseconds since the start. -/
  clock : Nat
  /-- The tasks that were not taken up yet, each with the time it takes. -/
  waiting : List (α × Nat)
  /-- The tasks that were taken up and not handed on yet, in order. -/
  flights : List (Flight α)

namespace Fanout

/-- Before the first task is taken up. -/
def start (tasks : List (α × Nat)) : Fanout α :=
  ⟨0, tasks, []⟩

/-- When the next of some tasks under way ends, or `limit` if none ends before that. -/
def nextEnd (clock limit : Nat) (flights : List (Flight α)) : Nat :=
  ((flights.map fun f => f.span.finish).filter (clock < ·)).foldl min limit

/-- Hands on the first task if it is done. Else time passes until some task ends. -/
def advance (s : Fanout α) : Option (List (Flight α) × Fanout α) :=
  match s.flights with
  | [] => none
  | flight :: flights =>
    if flight.span.finish ≤ s.clock then some ([flight], { s with flights })
    else some ([], { s with clock := nextEnd s.clock flight.span.finish flights })

/-- What happens next, with the tasks that it hands on. The next task is taken up as long as there
is room in the window. -/
def step (window : Nat) (s : Fanout α) : Option (List (Flight α) × Fanout α) :=
  match s.waiting with
  | [] => s.advance
  | (task, delay) :: waiting =>
    if s.flights.length < window then
      let flight := ⟨task, s.clock, s.clock + delay⟩
      some ([], { s with waiting, flights := s.flights ++ [flight] })
    else s.advance

/-- The three kinds of step. -/
inductive Step (window : Nat) : Fanout α → List (Flight α) → Fanout α → Prop where
  | launch {clock task delay waiting flights} :
    flights.length < window →
    Step window ⟨clock, (task, delay) :: waiting, flights⟩ []
      ⟨clock, waiting, flights ++ [⟨task, clock, clock + delay⟩]⟩
  | land {clock waiting flight flights} :
    (waiting ≠ [] → window ≤ flights.length + 1) →
    flight.span.finish ≤ clock →
    Step window ⟨clock, waiting, flight :: flights⟩ [flight] ⟨clock, waiting, flights⟩
  | wait {clock waiting flight flights} :
    (waiting ≠ [] → window ≤ flights.length + 1) →
    clock < flight.span.finish →
    Step window ⟨clock, waiting, flight :: flights⟩ []
      ⟨nextEnd clock flight.span.finish flights, waiting, flight :: flights⟩

theorem advance_sound {window : Nat} {s t : Fanout α} {landed : List (Flight α)}
    (full : s.waiting ≠ [] → window ≤ s.flights.length) (h : s.advance = some (landed, t)) :
    Step window s landed t := by
  obtain ⟨clock, waiting, flights⟩ := s
  cases flights with
  | nil => cases h
  | cons flight flights =>
    simp only [advance] at h
    split at h
    case isTrue arrived => cases h; exact .land full arrived
    case isFalse under => cases h; exact .wait full (Nat.lt_of_not_le under)

theorem step_sound {window : Nat} {s t : Fanout α} {landed : List (Flight α)}
    (h : s.step window = some (landed, t)) : Step window s landed t := by
  obtain ⟨clock, waiting, flights⟩ := s
  cases waiting with
  | nil => exact advance_sound (fun ne => absurd rfl ne) h
  | cons next waiting =>
    simp only [step] at h
    split at h
    case isTrue room => cases h; exact .launch room
    case isFalse full => exact advance_sound (fun _ => Nat.le_of_not_lt full) h

theorem advance_eq_none_iff {s : Fanout α} : s.advance = none ↔ s.flights = [] := by
  obtain ⟨clock, waiting, flights⟩ := s
  cases flights with
  | nil => simp [advance]
  | cons flight flights =>
    simp only [advance]
    split <;> simp

/-- Work stops only when every task is handed on. -/
theorem step_eq_none_iff {window : Nat} (pos : 0 < window) {s : Fanout α} :
    s.step window = none ↔ s.waiting = [] ∧ s.flights = [] := by
  obtain ⟨clock, waiting, flights⟩ := s
  cases waiting with
  | nil => simp [step, advance_eq_none_iff]
  | cons next waiting =>
    simp only [step]
    split
    case isTrue room => simp
    case isFalse full =>
      simp only [advance_eq_none_iff, reduceCtorEq, false_and, iff_false]
      rintro rfl
      exact full pos

theorem foldl_min_le (times : List Nat) (limit : Nat) : times.foldl min limit ≤ limit := by
  induction times generalizing limit with
  | nil => exact Nat.le_refl limit
  | cons time times ih => exact Nat.le_trans (ih _) (Nat.min_le_left limit time)

theorem nextEnd_le (clock limit : Nat) (flights : List (Flight α)) :
    nextEnd clock limit flights ≤ limit :=
  foldl_min_le _ _

theorem lt_foldl_min {clock limit : Nat} {times : List Nat} (h : clock < limit)
    (ht : ∀ time ∈ times, clock < time) : clock < times.foldl min limit := by
  induction times generalizing limit with
  | nil => exact h
  | cons time times ih =>
    have h' : clock < min limit time := Nat.lt_min.2 ⟨h, ht time List.mem_cons_self⟩
    exact ih h' fun t m => ht t (List.mem_cons_of_mem time m)

theorem lt_nextEnd {clock limit : Nat} {flights : List (Flight α)} (h : clock < limit) :
    clock < nextEnd clock limit flights := by
  apply lt_foldl_min h
  intro time m
  simpa using (List.mem_filter.1 m).2

/-- The time until the first task is done. -/
def pending (s : Fanout α) : Nat :=
  match s.flights with
  | [] => 0
  | flight :: _ => flight.span.finish - s.clock

/-- A step takes up a task, hands one on or brings the end of the first one closer. -/
theorem Step.decreases {window : Nat} {s t : Fanout α} {landed : List (Flight α)}
    (st : Step window s landed t) :
    Prod.Lex (· < ·) (· < ·) (2 * t.waiting.length + t.flights.length, t.pending)
      (2 * s.waiting.length + s.flights.length, s.pending) := by
  cases st with
  | launch => apply Prod.Lex.left; simp; omega
  | land => apply Prod.Lex.left; simp
  | @wait clock waiting flight flights _ under =>
    apply Prod.Lex.right
    have later : clock < nextEnd clock flight.span.finish flights := lt_nextEnd under
    simp only [pending]
    omega

/-- Works off all tasks. The result lists them in the order in which they are handed on. -/
def run (window : Nat) (s : Fanout α) : List (Flight α) :=
  match _ : s.step window with
  | none => []
  | some (landed, t) => landed ++ run window t
termination_by (2 * s.waiting.length + s.flights.length, s.pending)
decreasing_by exact (step_sound ‹_›).decreases

theorem run_of_step_eq_none {window : Nat} {s : Fanout α} (h : s.step window = none) :
    s.run window = [] := by
  rw [run]
  split
  case h_1 => rfl
  case h_2 h' => cases h.symm.trans h'

theorem run_of_step_eq_some {window : Nat} {s t : Fanout α} {landed : List (Flight α)}
    (h : s.step window = some (landed, t)) : s.run window = landed ++ t.run window := by
  rw [run]
  split
  case h_1 h' => cases h.symm.trans h'
  case h_2 h' => cases h.symm.trans h'; rfl

end Fanout

end Overdue
