import Overdue.Finding.Record
import Overdue.Report.Markdown
import Overdue.Report.Table

/-!
# Reports

Findings in the form that is asked for.
-/

namespace Overdue

/-- The forms of a report. -/
inductive Format where
  | text
  | json
  | markdown
deriving DecidableEq, Repr

namespace Format

/-- The name by which a form is asked for. -/
def name : Format → String
  | text => "text"
  | json => "json"
  | markdown => "markdown"

/-- The form of a name. -/
def ofName? (s : String) : Option Format :=
  [text, json, markdown].find? fun format => format.name == s

/-- The report on some findings. -/
def report (format : Format) (hosting : Option Hosting) (findings : List Finding) : String :=
  match format with
  | text => Table.text findings
  | json => Finding.records findings ++ "\n"
  | markdown => Markdown.text hosting findings

end Format

end Overdue
