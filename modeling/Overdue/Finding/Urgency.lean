import Overdue.Calendar.Written
import Overdue.Finding.Basic

/-!
# Urgency

The order in which findings are listed: by due day, what has none last, and within a day the
oldest commit first. It is the order of texts that are put together from the dates.
-/

namespace Overdue

/-- What stands for a missing due day. It comes after every day of a four-digit year. -/
def undatedText : String := "9999-99-99"

/-- The first part of the key. -/
def dueText (due : Option Date) : String :=
  match due with
  | some date => date.text
  | none => undatedText

/-- The key that findings are listed by. -/
def urgencyKey (due : Option Date) (committed : Date) : String :=
  dueText due ++ "~" ++ committed.text

namespace Finding

/-- The key of a finding. -/
def urgency (f : Finding) : String :=
  urgencyKey f.note.due f.attribution.committed

/-- The findings in order of urgency; those of one key stay in the order they came in. -/
def byUrgency (findings : List Finding) : List Finding :=
  findings.mergeSort fun f g => decide (f.urgency ≤ g.urgency)

end Finding

end Overdue
