import Overdue.Comment.Language
import Overdue.Survey.Basic
import Overdue.Text.Integer
import Overdue.Text.Lines

/-!
# Matches

The lines that a search with git finds. Each is a record of path, line number and text, with NUL
between them and a line feed at the end, so that a path may hold any other character. The matches
that are comments in the language of their file become the candidates of a survey.
-/

namespace Overdue

namespace Git

/-- A line that a search found. -/
structure Match where
  file : String
  /-- Counted from 1. -/
  line : UInt32
  text : String
deriving DecidableEq, Repr

namespace Match

/-- What separates the fields of a record. -/
def separator : Char := '\x00'

/-- The record of a match, as a search prints it. -/
def write (m : Match) : List Char :=
  m.file.toList ++ separator :: Text.digits m.line.toNat ++ separator :: m.text.toList ++ ['\n']

/-- Reads a record without its line feed. The text may hold the separator. -/
def read? (record : List Char) : Option Match := do
  let (file, rest) ← Text.splitFirst? separator record
  let (line, text) ← Text.splitFirst? separator rest
  let n ← Text.nat? Text.maxWord32 line
  if file.isEmpty || n == 0 then none
  else return ⟨String.ofList file, UInt32.ofNat n, String.ofList text⟩

/-- The candidate that a match is, if it is a comment. -/
def candidate? (m : Match) : Option Candidate :=
  if isComment m.file m.text then some ⟨m.file, m.line, trimmed m.text⟩ else none

/-- The candidate of a record. A record that cannot be read has none. -/
def ofRecord? (record : List Char) : Option Candidate :=
  (read? record).bind candidate?

end Match

/-- The candidates among the matches that a search printed. -/
def candidates (output : String) : List Candidate :=
  (Text.lines output.toList).filterMap Match.ofRecord?

end Git

end Overdue
