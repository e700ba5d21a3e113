/-!
# Timelines

When each of a row of tasks starts and ends, if they are taken up in order and only so many of them
are under way at once. A task waits for all tasks that come at least the width of the window before
it.
-/

namespace Overdue

/-- The stretch of time that a task takes, in milliseconds from the start of the first one. -/
structure Span where
  start : Nat
  finish : Nat
deriving DecidableEq, Repr

namespace Timeline

/-- The width of the window: at least one task is under way. -/
def width (concurrency : Nat) : Nat :=
  max 1 concurrency

/-- The latest of some times, 0 when there are none. -/
def latest (times : List Nat) : Nat :=
  times.foldl max 0

/-- Continues a timeline with tasks of the given lengths. `finished` lists when the tasks before
them end. -/
def continueWith (window : Nat) (finished : List Nat) : List Nat → List Span
  | [] => []
  | delay :: delays =>
    let start := latest (finished.take (finished.length + 1 - window))
    ⟨start, start + delay⟩ :: continueWith window (finished ++ [start + delay]) delays

/-- The timeline of tasks that take the given times. -/
def of (concurrency : Nat) (delays : List Nat) : List Span :=
  continueWith (width concurrency) [] delays

/-- When the last task is over. -/
def duration (spans : List Span) : Nat :=
  latest (spans.map Span.finish)

end Timeline

end Overdue
