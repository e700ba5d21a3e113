import Overdue.Note.Reader
import Overdue.Calendar.Duration
import Overdue.Finding.Urgency
import Overdue.Survey.Fanout

/-!
# Surveys

From candidate lines to findings: the note of each line is read, the commit of each annotated
line is looked up, and what is complete is listed by urgency. A line that fails is left out. Only a
deadline that passes before the last lookup is over fails the survey as a whole.
-/

namespace Overdue

/-- A source line that may carry a note. -/
structure Candidate where
  file : String
  /-- Counted from 1. -/
  line : UInt32
  text : String
deriving DecidableEq, Repr

/-- The outcome of looking up a line: its blame record, unless the lookup fails, and the time that
passes until it is there. -/
structure Lookup where
  record : Option String
  /-- In milliseconds. -/
  delay : Nat
deriving DecidableEq, Repr

/-- What a lookup finds for each line of each file. -/
abbrev History := String → UInt32 → Lookup

/-- A candidate with the note that was read from it. -/
abbrev Annotated := Candidate × Note

/-- The lookups under way at once, unless something else is asked for. -/
def defaultConcurrency : Nat := 16

/-- How a survey is made. -/
structure Survey where
  /-- The day that decides what is expired. -/
  today : Date
  /-- The greatest number of lookups under way at once; 0 counts as 1. -/
  concurrency : Nat := defaultConcurrency
  deadline : Option Duration := none

/-- What becomes of a survey: the lines whose lookup was started, in order, and the findings,
unless the deadline passed. -/
structure Surveyed where
  started : List Candidate
  result : Except Duration (List Finding)

namespace Survey

/-- What is said of a deadline that passed. -/
def deadlineMessage (deadline : Duration) : String :=
  "run did not finish within " ++ deadline.text ++
    "; in-flight history lookups were abandoned"

/-- The candidates that carry a note. -/
def annotated (candidates : List Candidate) : List Annotated :=
  candidates.filterMap fun c => (Note.read? c.text).map fun a => (c, a)

/-- The finding that an annotated line becomes, if its commit is found. -/
def finding? (today : Date) (history : History) : Annotated → Option Finding
  | (c, a) => do
    let attribution ← Attribution.read? (← (history c.file c.line).record)
    return ⟨c.file, c.line, a, attribution, isOverdue a.due today⟩

/-- All that is found, by urgency. -/
def findings (today : Date) (history : History) (lines : List Annotated) : List Finding :=
  Finding.byUrgency (lines.filterMap (finding? today history))

/-- The lines to look up, each with the time that its lookup takes. -/
def lookups (history : History) (lines : List Annotated) : List (Annotated × Nat) :=
  lines.map fun line => (line, (history line.1.file line.1.line).delay)

/-- The timeline of the lookups. -/
def timeline (s : Survey) (history : History) (lines : List Annotated) : List Span :=
  Timeline.of s.concurrency ((lookups history lines).map Prod.snd)

/-- The lookups as they are made when each takes the time that is given with it, in the order in
which they are handed on. -/
def flights (s : Survey) (tasks : List (Annotated × Nat)) : List (Flight Annotated) :=
  (Fanout.start tasks).run (Timeline.width s.concurrency)

/-- The lookups as they are made. All lookups of one line take the same time. -/
def fanOut (s : Survey) (history : History) (lines : List Annotated) : List (Flight Annotated) :=
  s.flights (lookups history lines)

/-- The lines whose lookup starts no later than a time. -/
def startedBy (time : Nat) (flights : List (Flight Annotated)) : List Candidate :=
  (flights.filter fun flight => flight.span.start ≤ time).map fun flight => flight.task.1

/-- What comes of lookups that are all over. -/
def finished (s : Survey) (history : History) (flights : List (Flight Annotated)) : Surveyed :=
  ⟨flights.map fun flight => flight.task.1,
    .ok (findings s.today history (flights.map Flight.task))⟩

/-- What becomes of a survey whose lookups are made like this. -/
def settle (s : Survey) (history : History) (flights : List (Flight Annotated)) : Surveyed :=
  match s.deadline with
  | some deadline =>
    if deadline.milliseconds < Timeline.duration (flights.map Flight.span) then
      ⟨startedBy deadline.milliseconds flights, .error deadline⟩
    else s.finished history flights
  | none => s.finished history flights

/-- Makes the survey. -/
def run (s : Survey) (history : History) (candidates : List Candidate) : Surveyed :=
  s.settle history (s.fanOut history (annotated candidates))

end Survey

end Overdue
