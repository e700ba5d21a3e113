import Overdue.Git.Repository

/-!
# Scans

A survey of a working tree: its candidates are enumerated and each is attributed to a commit. Only
two things make a scan fail: candidates that cannot be enumerated, and a deadline that passes.
-/

namespace Overdue

namespace Git

/-- Why a scan fails. -/
inductive ScanError where
  | enumeration (cause : Error)
  | deadline (limit : Duration)
deriving DecidableEq

namespace ScanError

/-- The error in one line. -/
def message : ScanError → String
  | enumeration cause => "candidate lines could not be enumerated: " ++ cause.message
  | deadline limit => Survey.deadlineMessage limit

/-- The error and what caused it. -/
def causes : ScanError → List String
  | enumeration cause => message (enumeration cause) :: cause.causes
  | e => [e.message]

end ScanError

/-- What comes of a scan: the runs of git that were started, in order, and the findings. -/
structure Scan where
  commands : List Command
  result : Except ScanError (List Finding)

/-- Scans a working tree. -/
def Repository.scan (r : Repository) (survey : Survey) : Scan :=
  match r.candidates with
  | .error cause => ⟨r.started [.search], .error (.enumeration cause)⟩
  | .ok candidates =>
    let surveyed := survey.run r.history candidates
    { commands := r.started (.search :: surveyed.started.map fun c => .blame c.file c.line)
      result := surveyed.result.mapError .deadline }

end Git

end Overdue
