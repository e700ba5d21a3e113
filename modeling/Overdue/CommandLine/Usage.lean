import Overdue.Calendar.Written
import Overdue.CommandLine.Option
import Overdue.Text.Integer
import Overdue.Text.Lines
import Overdue.Text.Terminal

/-!
# Usage errors

What can be wrong with a command line, and how it is said in one line.
-/

namespace Overdue

/-- Why a value is not one that a parameter takes. -/
inductive ValueError where
  | integer (cause : Text.IntegerError)
  | date (cause : DateError)
deriving DecidableEq, Repr

/-- The error as a message shows it. -/
def ValueError.message : ValueError → String
  | integer cause => cause.message
  | date cause => "expected YYYY-MM-DD: " ++ cause.message

/-- What is wrong with a command line. -/
inductive UsageError where
  /-- There is no such option, or an argument stands alone. -/
  | unknownArgument (shown : String)
  | missingValue (p : Parameter)
  /-- The value is none of those that the parameter has. -/
  | unknownValue (p : Parameter) (value : String)
  | invalidValue (p : Parameter) (value : String) (cause : ValueError)
  /-- A flag is given a value. -/
  | unneededValue (f : Flag) (value : String)
  | repeatedFlag (f : Flag)
  | repeatedParameter (p : Parameter)
deriving DecidableEq, Repr

namespace UsageError

/-- What was given, in quotes. -/
def cited (given : String) : String :=
  "'" ++ Text.shownText given ++ "'"

/-- What is wrong, in full. -/
def description : UsageError → String
  | unknownArgument shown => "unexpected argument " ++ cited shown ++ " found"
  | missingValue p => "a value is required for " ++ cited p.shown ++ " but none was supplied"
  | unknownValue p value => "invalid value " ++ cited value ++ " for " ++ cited p.shown
  | invalidValue p value cause =>
    "invalid value " ++ cited value ++ " for " ++ cited p.shown ++ ": " ++ cause.message
  | unneededValue f value =>
    "unexpected value " ++ cited value ++ " for " ++ cited f.shown ++
      " found; no more were expected"
  | repeatedFlag f => "the argument " ++ cited f.shown ++ " cannot be used multiple times"
  | repeatedParameter p => "the argument " ++ cited p.shown ++ " cannot be used multiple times"

/-- The first line of what is said. -/
def message (e : UsageError) : String :=
  String.ofList ((Text.lines ("error: " ++ e.description).toList).head?.getD [])

end UsageError

/-- What ends the reading of a command line before there is anything to do. -/
inductive Halt where
  | help
  | version
  | misuse (e : UsageError)
deriving DecidableEq, Repr

end Overdue
