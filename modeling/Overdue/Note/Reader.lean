import Overdue.Note.Basic
import Overdue.Calendar.Date
import Overdue.Text.Blank
import Overdue.Text.Integer
import Overdue.Text.Word

/-!
# Reading notes

A note is a white-space character and a marker, then at most one modifier and at most one
date in brackets, in either order, then a colon and the body. Each part is recognised by its first
character, so that reading never has to go back.
-/

namespace Overdue

namespace Note

/-- The letters of a marker, in lower case. -/
def marker : Kind → List Char
  | .todo => ['t', 'o', 'd', 'o']
  | .fixme => ['f', 'i', 'x', 'm', 'e']

/-- The text after `letters`, if it begins with them in either case. -/
def afterLetters? : List Char → List Char → Option (List Char)
  | [], s => some s
  | _ :: _, [] => none
  | l :: ls, c :: cs => if c.toLower = l then afterLetters? ls cs else none

/-- Reads a marker in any letter case. -/
def readMarker (s : List Char) : Option (Kind × List Char) :=
  match afterLetters? (marker .todo) s with
  | some rest => some (.todo, rest)
  | none => (afterLetters? (marker .fixme) s).map fun rest => (.fixme, rest)

/-- The text after a modifier: anything in parentheses, or a name after an at sign. -/
def afterModifier? : List Char → Option (List Char)
  | '(' :: s =>
    match s.dropWhile (· != ')') with
    | [] => none
    | _ :: rest => some rest
  | '@' :: c :: s => if Text.isWord c then some (s.dropWhile Text.isWord) else none
  | _ => none

/-- The numbers in a date of the form `dddd-dd-dd`. -/
structure DateNumbers where
  year : Nat
  month : Nat
  day : Nat
deriving DecidableEq, Repr

/-- The day that the numbers denote, if there is one. -/
def DateNumbers.date? (n : DateNumbers) : Option Date :=
  Date.ofYmd? n.year n.month n.day

/-- Reads exactly `count` digits after the number `n`. -/
def readDigits (n : Nat) : Nat → List Char → Option (Nat × List Char)
  | 0, s => some (n, s)
  | _ + 1, [] => none
  | count + 1, c :: cs =>
    if Text.isDigit c then readDigits (10 * n + Text.digitValue c) count cs else none

/-- Reads the character `c`. -/
def readChar (c : Char) : List Char → Option (List Char)
  | [] => none
  | d :: rest => if d = c then some rest else none

/-- Reads a date in brackets. Its day need not exist. -/
def readDate (s : List Char) : Option (DateNumbers × List Char) := do
  let s ← readChar '[' s
  let (year, s) ← readDigits 0 4 s
  let s ← readChar '-' s
  let (month, s) ← readDigits 0 2 s
  let s ← readChar '-' s
  let (day, s) ← readDigits 0 2 s
  let s ← readChar ']' s
  return (⟨year, month, day⟩, s)

/-- Reads what may stand between the marker and the colon: a modifier and a date in either order,
each at most once, with white space around them. -/
def readDetails (s : List Char) : Option DateNumbers × List Char :=
  let s := Text.skipBlank s
  match afterModifier? s with
  | some s =>
    let s := Text.skipBlank s
    match readDate s with
    | some (date, s) => (some date, Text.skipBlank s)
    | none => (none, s)
  | none =>
    match readDate s with
    | some (date, s) =>
      let s := Text.skipBlank s
      match afterModifier? s with
      | some s => (some date, Text.skipBlank s)
      | none => (some date, s)
    | none => (none, s)

/-- A note as it is written, with a date that need not exist. -/
structure Written where
  kind : Kind
  date : Option DateNumbers
  body : List Char
deriving DecidableEq, Repr

/-- Reads a marker with all that belongs to it. But for white space at its start the body is one
line, up to the end of the text. -/
def readAt (s : List Char) : Option Written := do
  let (kind, s) ← readMarker s
  let (date, s) := readDetails s
  let s ← readChar ':' s
  let body := Text.skipBlank s
  if body.contains '\n' then none
  else return ⟨kind, date, Text.trim body⟩

/-- The first note of a text, behind a white-space character. -/
def find? : List Char → Option Written
  | [] => none
  | c :: cs =>
    if Text.isBlank c then
      match readAt cs with
      | some written => some written
      | none => find? cs
    else find? cs

/-- The note that is written, unless it gives a date that does not exist. -/
def Written.note? (w : Written) : Option Note :=
  match w.date with
  | none => some ⟨w.kind, none, String.ofList w.body⟩
  | some numbers => numbers.date?.map fun date => ⟨w.kind, some date, String.ofList w.body⟩

/-- The note of a text. Only the first one that is written counts: when its date does not
exist, the text has none. -/
def read? (text : String) : Option Note :=
  (find? text.toList).bind Written.note?

end Note

end Overdue
