import Overdue.Calendar.Day
import Overdue.Text.Integer
import Overdue.Text.Lines
import Overdue.Text.Blank

/-!
# Attribution

Which commit last touched a line, and who made it, read from a porcelain blame record: a header
that starts with the revision, then one line for each fact, then the source line after a tab.
-/

namespace Overdue

/-- The commit a line is attributed to. -/
structure Attribution where
  /-- The 40 hexadecimal digits of the commit, in lower case where they were read. -/
  revision : String
  author : String
  /-- The mail address of the author, without angle brackets. -/
  contact : Option String
  /-- The day in UTC on which the change was committed. -/
  committed : Date
deriving DecidableEq

namespace Attribution

/-- A hexadecimal digit in either case. -/
def isHexDigit (c : Char) : Bool :=
  Text.isDigit c || ('a'.toNat ≤ c.toNat && c.toNat ≤ 'f'.toNat) ||
    ('A'.toNat ≤ c.toNat && c.toNat ≤ 'F'.toNat)

/-- A full revision: 40 hexadecimal digits. -/
def isRevision (s : List Char) : Bool :=
  s.length == 40 && s.all isHexDigit

/-- The facts of a record that have been found so far. -/
structure Facts where
  author : Option (List Char) := none
  contact : Option (List Char) := none
  /-- Seconds since the start of 1970. -/
  time : Option Int := none
deriving DecidableEq, Repr

/-- The author that a value names, unless it is blank. -/
def author? (value : List Char) : Option (List Char) :=
  if Text.allBlank value then none else some value

/-- The mail address that a value gives, unless there is nothing between its brackets. -/
def contact? (value : List Char) : Option (List Char) :=
  match Text.dropEnding (· == '>') ((Text.trim value).dropWhile (· == '<')) with
  | [] => none
  | mail => some mail

/-- The time that a value gives. -/
def time? (value : List Char) : Option Int :=
  Text.int? Text.maxSigned64 (Text.trim value)

/-- The key of a line and its value, which is what follows the first space. -/
def keyAndValue (line : List Char) : List Char × List Char :=
  (Text.splitFirst? ' ' line).getD (line, [])

/-- Takes in a line of the record. The first usable line of each key counts. -/
def Facts.add (facts : Facts) (line : List Char) : Facts :=
  if line.head? = some '\t' then facts
  else
    let (key, value) := keyAndValue line
    if key = "author".toList then
      { facts with author := facts.author.or (author? value) }
    else if key = "author-mail".toList then
      { facts with contact := facts.contact.or (contact? value) }
    else if key = "committer-time".toList then
      { facts with time := facts.time.or (time? value) }
    else facts

/-- The attribution that the facts about a revision make up, if none that is needed is missing. -/
def Facts.attribution? (facts : Facts) (revision : List Char) : Option Attribution := do
  let author ← facts.author
  let committed ← Date.ofTimestamp? (← facts.time)
  return {
    revision := String.ofList (revision.map Char.toLower)
    author := String.ofList author
    contact := facts.contact.map String.ofList
    committed := committed }

/-- Reads the lines of a record, of which the first that is not blank is the header. -/
def ofLines? (lines : List (List Char)) : Option Attribution :=
  match lines.dropWhile Text.allBlank with
  | [] => none
  | header :: rest =>
    match Text.firstWord? header with
    | none => none
    | some revision =>
      if isRevision revision then (rest.foldl Facts.add {}).attribution? revision else none

/-- Reads a porcelain blame record. -/
def read? (record : String) : Option Attribution :=
  ofLines? (Text.lines record.toList)

end Attribution

end Overdue
