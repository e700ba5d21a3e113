import Overdue.Calendar.Date
import Overdue.Text.Column

/-!
# Notes

What a comment says that announces work to be done: its kind, the day by which it is due, and the
work itself.
-/

namespace Overdue

/-- The kinds of note. -/
inductive Kind where
  | todo
  | fixme
deriving DecidableEq, Repr

namespace Kind

/-- The name of the kind, in upper case. -/
def name : Kind → String
  | todo => "TODO"
  | fixme => "FIXME"

/-- What is said of a name that no kind has. -/
def unknownMessage (s : String) : String :=
  "unknown annotation kind: " ++ s

/-- The kind with a name, whose ASCII letters may have either case, or what is said of the name. -/
def ofName (s : String) : Except String Kind :=
  let upper := s.map Char.toUpper
  match [todo, fixme].find? fun kind => kind.name == upper with
  | some kind => .ok kind
  | none => .error (unknownMessage s)

/-- The kind with a name, if there is one. -/
def ofName? (s : String) : Option Kind :=
  (ofName s).toOption

end Kind

/-- A note. -/
structure Note where
  kind : Kind
  /-- The day by which the work is due, if the note gives one. -/
  due : Option Date
  /-- What stands after the colon, without white space at its ends. May be empty. -/
  body : String
deriving DecidableEq

end Overdue
