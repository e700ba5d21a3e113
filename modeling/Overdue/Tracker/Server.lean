import Overdue.Tracker.Request
import Overdue.Tracker.Response

/-!
# Trackers

What a tracker answers to requests. What it answers to a creation depends on how many came before.
-/

namespace Overdue

/-- What comes back for a request. -/
inductive Answer where
  /-- The connection ends without an answer. -/
  | dropped
  | answered (status : Nat) (body : String)
deriving DecidableEq, Repr

namespace Answer

/-- The response as it is read. A status has three digits. Behind an interim status the response
itself is still to come, in place of the body. -/
def received? : Answer → Option Response
  | dropped => none
  | answered status body =>
    if status < 100 ∨ 1000 ≤ status then none
    else if Response.isInterim status then Response.read? body
    else some ⟨status, none, if Response.isBodiless status then "" else body⟩

end Answer

/-- A tracker, by its address and its answers. -/
structure Server where
  address : String
  /-- What is found at each target. -/
  page : String → Answer
  /-- The answer to each creation, by the number of those that came before it. -/
  creation : Nat → Answer

namespace Server

/-- The answer to a request after some creations. -/
def answer (server : Server) (creations : Nat) (request : Request) : Answer :=
  match request.method with
  | .get => server.page request.target
  | .post => server.creation creations

/-- The directory of the commits. -/
def commitsDirectory : String := "/commits/"

/-- The revision in a target, which is what stands behind the directory of the commits. -/
def revisionIn? : List Char → Option (List Char)
  | [] => none
  | c :: cs =>
    match commitsDirectory.toList.isPrefixOf? (c :: cs) with
    | some revision => some revision
    | none => revisionIn? cs

/-- Pages about commits, and the listing of issues everywhere else. -/
def pages (issues : Answer) (commit : String → Answer) (target : String) : Answer :=
  match revisionIn? target.toList with
  | some revision => commit (String.ofList revision)
  | none => issues

end Server

end Overdue
