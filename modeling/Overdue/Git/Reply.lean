import Overdue.Text.Integer
import Overdue.Text.Utf8

/-!
# Replies of git

What one run of git leaves behind: the bytes it wrote and the way it ended.
-/

namespace Overdue

namespace Git

/-- How a run of git ended. -/
inductive Ending where
  | exited (code : UInt8)
  | killed
deriving DecidableEq, Repr

/-- The ending as a message shows it. -/
def Ending.text : Ending → String
  | exited code => "exit status: " ++ String.ofList (Text.digits code.toNat)
  | killed => "signal: 9 (SIGKILL)"

/-- What a run of git leaves behind. -/
structure Reply where
  /-- The bytes on its standard output. -/
  output : List UInt8 := []
  /-- The bytes on its standard error. -/
  complaint : List UInt8 := []
  ending : Ending := .exited 0
deriving DecidableEq, Repr

namespace Reply

/-- The run went well. -/
def succeeded (r : Reply) : Bool :=
  r.ending == .exited 0

/-- The text that was written. -/
def text (r : Reply) : String :=
  Text.Utf8.decode r.output

/-- The text of what went wrong. -/
def complaintText (r : Reply) : String :=
  Text.Utf8.decode r.complaint

end Reply

end Git

end Overdue
