import Overdue.Calendar.Written
import Overdue.Finding.Identifier
import Overdue.Tracker.Hosting

/-!
# Texts of issues

What the issue for an expired finding says. The identifier in it tells, when the issues are listed
again, that the finding has its issue already.
-/

namespace Overdue

namespace Finding

/-- The title of the issue for the finding. -/
def issueTitle (f : Finding) : String :=
  "[TODO] Expired: " ++ f.place

/-- Who is named as the author: the account if there is one, else the author of the commit. -/
def mention (f : Finding) (login : Option String) : String :=
  match login with
  | some login => "@" ++ login
  | none => if f.attribution.author.isEmpty then "Unknown" else f.attribution.author

/-- The due day, or a hyphen. -/
def dueOrHyphen (f : Finding) : String :=
  match f.note.due with
  | some date => date.text
  | none => "-"

end Finding

namespace Note

/-- The note in its shortest form. -/
def text (n : Note) : String :=
  match n.due with
  | some date => n.kind.name ++ " [" ++ date.text ++ "]: " ++ n.body
  | none => n.kind.name ++ ": " ++ n.body

end Note

namespace Finding

/-- What the issue says about the finding, point by point. -/
def issueDetails (f : Finding) (mention : String) (hosting : Hosting) : List String :=
  ["- **Type**: " ++ f.note.kind.name,
   "- **Comment**: " ++ f.note.body,
   "- **Due Date**: " ++ f.dueOrHyphen,
   "- **File**: [" ++ f.place ++ "](" ++ hosting.fileLink f.file f.line ++ ")",
   "- **Last Updated**: [" ++ f.attribution.committed.text ++ "](" ++
     hosting.commitLink f.attribution.revision ++ ")",
   "- **Author**: " ++ mention]

/-- The lines of the issue. -/
def issueLines (f : Finding) (identifier mention : String) (hosting : Hosting) : List String :=
  ["## Expired TODO Comment",
   "",
   "**Identifier**: `" ++ identifier ++ "`",
   "",
   "### Details"] ++
  f.issueDetails mention hosting ++
  ["",
   "### Full Comment",
   "```",
   f.note.text,
   "```",
   "",
   "---",
   "*This issue was generated automatically from an expired TODO comment.*",
   "*The identifier is derived from the file, type and comment, so moving the line does not " ++
     "open a duplicate.*"]

/-- The body of the issue, with a line feed after each line. -/
def issueBody (f : Finding) (identifier mention : String) (hosting : Hosting) : String :=
  String.join ((f.issueLines identifier mention hosting).map (· ++ "\n"))

end Finding

end Overdue
