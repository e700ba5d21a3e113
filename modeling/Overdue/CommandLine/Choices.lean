import Overdue.CommandLine.Usage
import Overdue.Report.Format
import Overdue.Text.Blank

/-!
# Choices

What a command line chooses. Each value is checked as soon as it is known to belong to its
parameter, and a parameter is chosen once, but for labels, which add up.
-/

namespace Overdue

/-- What has been chosen. -/
structure Choices where
  repoRoot : Option String := none
  concurrency : Option Nat := none
  /-- In seconds. -/
  timeout : Option Nat := none
  today : Option Date := none
  format : Option Format := none
  summaryFile : Option String := none
  token : Option String := none
  repository : Option String := none
  revision : Option String := none
  serverUrl : Option String := none
  apiUrl : Option String := none
  labels : Option (List String) := none
  createIssues : Bool := false
  verbose : Bool := false
deriving DecidableEq

namespace Parameter

/-- Reads a path. -/
def readPath (p : Parameter) (value : String) : Except UsageError String :=
  if value.isEmpty then .error (.missingValue p) else .ok value

/-- Reads a natural number of 64 bits. -/
def readNumber (p : Parameter) (value : String) : Except UsageError Nat :=
  (Text.readNat Text.maxWord64 value.toList).mapError fun e => .invalidValue p value (.integer e)

/-- Reads a day. -/
def readDay (p : Parameter) (value : String) : Except UsageError Date :=
  (Date.read false value.toList).mapError fun e => .invalidValue p value (.date e)

/-- Reads the form of a report. -/
def readFormat (p : Parameter) (value : String) : Except UsageError Format :=
  if value.isEmpty then .error (.missingValue p)
  else
    match Format.ofName? value with
    | some form => .ok form
    | none => .error (.unknownValue p value)

/-- The labels in a value: what stands between commas, unless it is blank. -/
def labelsIn (value : String) : List String :=
  ((Text.splitAll ',' value.toList).map Text.trim).filterMap fun label =>
    if label.isEmpty then none else some (String.ofList label)

/-- A value for what must not be chosen before. -/
def once (p : Parameter) (chosen : Option α) (value : Except UsageError α) :
    Except UsageError (Option α) :=
  if chosen.isSome then .error (.repeatedParameter p) else value.map some

end Parameter

namespace Choices

open Parameter in
/-- Chooses a value for a parameter. -/
def set (c : Choices) (p : Parameter) (value : String) : Except UsageError Choices :=
  match p with
  | .repoRoot => do return { c with repoRoot := ← once p c.repoRoot (readPath p value) }
  | .concurrency => do return { c with concurrency := ← once p c.concurrency (readNumber p value) }
  | .timeout => do return { c with timeout := ← once p c.timeout (readNumber p value) }
  | .today => do return { c with today := ← once p c.today (readDay p value) }
  | .format => do return { c with format := ← once p c.format (readFormat p value) }
  | .summaryFile => do return { c with summaryFile := ← once p c.summaryFile (readPath p value) }
  | .token => do return { c with token := ← once p c.token (.ok value) }
  | .repository => do return { c with repository := ← once p c.repository (.ok value) }
  | .revision => do return { c with revision := ← once p c.revision (.ok value) }
  | .serverUrl => do return { c with serverUrl := ← once p c.serverUrl (.ok value) }
  | .apiUrl => do return { c with apiUrl := ← once p c.apiUrl (.ok value) }
  | .labels => .ok { c with labels := some (c.labels.getD [] ++ labelsIn value) }

/-- Raises a flag. -/
def raise (c : Choices) : Flag → Except Halt Choices
  | .help => .error .help
  | .version => .error .version
  | .verbose =>
    if c.verbose then .error (.misuse (.repeatedFlag .verbose)) else .ok { c with verbose := true }
  | .createIssues =>
    if c.createIssues then .error (.misuse (.repeatedFlag .createIssues))
    else .ok { c with createIssues := true }

end Choices

end Overdue
