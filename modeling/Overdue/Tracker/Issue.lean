import Overdue.Finding.Record
import Overdue.Json.Printer
import Overdue.Json.Reader
import Overdue.Text.Integer
import Overdue.Text.Lines

/-!
# Issues

The issues of a tracker as it lists them, and the drafts from which it makes new ones.
-/

namespace Overdue

/-- An issue of the tracker. -/
structure Issue where
  number : Nat
  title : String
  body : Option String
deriving DecidableEq, Repr

namespace Issue

/-- Whether a text occurs in the title or in the body. -/
def mentions (issue : Issue) (needle : String) : Bool :=
  Text.contains needle.toList issue.title.toList ||
    issue.body.any fun body => Text.contains needle.toList body.toList

/-- Reads the values of an issue. -/
def ofValues? (number title body : Json) : Option Issue := do
  return {
    number := ← number.natUpTo? Text.maxWord64
    title := ← title.string?
    body := ← body.nullable? Json.string? }

/-- Reads the title of an issue, which is empty when there is none. -/
def title? (members : List (String × Json)) : Option Json :=
  match Json.member members "title" with
  | .missing => some (.string "")
  | .only v => some v
  | .repeated => none

/-- Reads an issue, which may also be the bare list of its values. -/
def ofJson? : Json → Option Issue
  | .object ms => do
    ofValues? (← Json.required? ms "number") (← title? ms) (← Json.optional? ms "body")
  | .array [number, title, body] => ofValues? number title body
  | _ => none

end Issue

/-- What a new issue is to hold. -/
structure Draft where
  title : String
  body : String
  labels : List String
  /-- The accounts that are to take care of it. -/
  assignees : List String
deriving DecidableEq, Repr

namespace Draft

/-- Some texts as a JSON array. -/
def texts (items : List String) : Json :=
  .array (items.map .string)

/-- The draft as it is sent. Without assignees it says nothing of them. -/
def toJson (d : Draft) : Json :=
  .object <|
    [("title", .string d.title), ("body", .string d.body), ("labels", texts d.labels)] ++
      if d.assignees.isEmpty then [] else [("assignees", texts d.assignees)]

end Draft

namespace Account

/-- Reads the login of an account. -/
def login? : Json → Option String
  | .object ms => do (← Json.required? ms "login").string?
  | .array [login] => login.string?
  | _ => none

/-- The account that the tracker itself commits with, on behalf of others. -/
def proxy : String := "web-flow"

/-- The login to which a commit belongs: that of its author, else that of its committer unless
that is the tracker itself. -/
def responsible (author committer : Option String) : Option String :=
  match author with
  | some login => some login
  | none => committer.filter (· != proxy)

/-- Reads the accounts that belong to a commit, both of them before one is chosen. -/
def ofCommit? : Json → Option (Option String)
  | .object ms => do
    let author ← (← Json.optional? ms "author").nullable? login?
    let committer ← (← Json.optional? ms "committer").nullable? login?
    return responsible author committer
  | .array [author, committer] => do
    return responsible (← author.nullable? login?) (← committer.nullable? login?)
  | _ => none

end Account

end Overdue
