import Overdue.Calendar.Written
import Overdue.Finding.Basic
import Overdue.Text.Column

/-!
# The text table

Findings in columns of fixed width, one finding a line. A text that is too wide for its column
shifts what comes after it.
-/

namespace Overdue

namespace Table

/-- The greatest number of characters of a comment that is shown in full. -/
def maxComment : Nat := 60

/-- What stands for the rest of a comment. -/
def ellipsis : String := "..."

/-- The comment, cut so that with the dots after it it has the greatest width. -/
def shorten (comment : String) : String :=
  if maxComment < comment.toList.length then
    String.ofList (comment.toList.take (maxComment - 3)) ++ ellipsis
  else comment

/-- The texts of a row. -/
structure Row where
  deadline : String
  kind : String
  location : String
  updated : String
  author : String
  comment : String
deriving DecidableEq, Repr

/-- The line of a row. -/
def Row.line (r : Row) : String :=
  Text.padRight 12 r.deadline ++ " " ++ Text.padRight 5 r.kind ++ " " ++
    Text.padRight 40 r.location ++ " " ++ Text.padRight 10 r.updated ++ " " ++
    Text.padRight 16 r.author ++ " " ++ r.comment ++ "\n"

/-- The row above all findings. -/
def header : Row :=
  ⟨"Deadline", "Type", "Location", "Updated", "Author", "Comment"⟩

/-- The due day, behind an exclamation mark if it has passed. -/
def deadline (f : Finding) : String :=
  match f.note.due with
  | some date => if f.expired then "!" ++ date.text else date.text
  | none => "-"

/-- The row of a finding. -/
def row (f : Finding) : Row where
  deadline := deadline f
  kind := f.note.kind.name
  location := f.place
  updated := f.attribution.committed.text
  author := if f.attribution.author.isEmpty then "-" else f.attribution.author
  comment := shorten f.note.body

/-- What is said when there are no findings. -/
def nothing : String := "No TODO comments found.\n"

/-- The table of some findings. -/
def text (findings : List Finding) : String :=
  if findings.isEmpty then nothing
  else String.join ((header :: findings.map row).map Row.line)

end Table

end Overdue
