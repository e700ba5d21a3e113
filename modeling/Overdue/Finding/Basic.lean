import Overdue.Note.Basic
import Overdue.History.Attribution

/-!
# Findings

A note in a place, with the commit that it is attributed to and whether its day has passed.
-/

namespace Overdue

/-- A note that was found. -/
structure Finding where
  file : String
  /-- Counted from 1. -/
  line : UInt32
  note : Note
  attribution : Attribution
  expired : Bool
deriving DecidableEq

/-- Work is overdue from the day after the one it is due by. Without such a day it never is. -/
def isOverdue (due : Option Date) (today : Date) : Bool :=
  match due with
  | some date => decide (date < today)
  | none => false

/-- Whether some finding is expired. -/
def anyExpired (findings : List Finding) : Bool :=
  findings.any Finding.expired

/-- The number of expired findings. -/
def countExpired (findings : List Finding) : Nat :=
  findings.countP Finding.expired

namespace Finding

/-- The line number in digits. -/
def lineText (f : Finding) : String :=
  String.ofList (Text.digits f.line.toNat)

/-- File and line, as messages and reports name a place. -/
def place (f : Finding) : String :=
  f.file ++ ":" ++ f.lineText

end Finding

end Overdue
