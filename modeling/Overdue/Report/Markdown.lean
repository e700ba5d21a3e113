import Overdue.Calendar.Written
import Overdue.Finding.Basic
import Overdue.Tracker.Hosting

/-!
# The markdown table

Findings as a table in markdown, with links to the files and the commits when it is known where
the repository is hosted.
-/

namespace Overdue

namespace Markdown

/-- What stands above the findings. -/
def heading : List String :=
  ["## :heavy_check_mark: TODO Comments",
   "",
   "| Deadline :alarm_clock: | Type :pencil2: | Comment :memo: | File :link: | Updated :date: " ++
     "| Author :sunglasses: |",
   "| --- | --- | --- | --- | --- | --- |"]

/-- A text with a backslash before each bar, so that it stays in its cell. -/
def escapeCell (s : String) : String :=
  String.ofList (s.toList.flatMap fun c => if c = '|' then ['\\', '|'] else [c])

/-- A text that leads to an address, if there is one. -/
def linked (s : String) : Option String → String
  | some address => "[" ++ s ++ "](" ++ address ++ ")"
  | none => s

/-- The due day, behind a bomb if it has passed. -/
def deadline (f : Finding) : String :=
  match f.note.due with
  | some date => if f.expired then ":bomb: " ++ date.text else date.text
  | none => ""

/-- The author of the commit, or a ghost. -/
def author (f : Finding) : String :=
  if f.attribution.author.isEmpty then ":ghost:" else f.attribution.author

/-- The cells of a finding. -/
def cells (hosting : Option Hosting) (f : Finding) : List String :=
  [deadline f,
   f.note.kind.name,
   escapeCell f.note.body,
   linked f.place (hosting.map fun h => h.fileLink f.file f.line),
   linked f.attribution.committed.text (hosting.map fun h => h.commitLink f.attribution.revision),
   escapeCell (author f)]

/-- The row of a finding. -/
def row (hosting : Option Hosting) (f : Finding) : String :=
  "| " ++ " | ".intercalate (cells hosting f) ++ " |"

/-- The table of some findings, with a line feed after each line. -/
def text (hosting : Option Hosting) (findings : List Finding) : String :=
  String.join ((heading ++ findings.map (row hosting)).map (· ++ "\n"))

end Markdown

end Overdue
