import Overdue.Calendar.Date
import Overdue.Text.Blank
import Overdue.Text.Integer

/-!
# Written dates

How a date is written, and how the looser forms that people write are read.
-/

namespace Overdue

namespace Date

/-- The year: four digits from 0 to 9999, else a sign and at least four digits. -/
def yearText (year : Int) : List Char :=
  if year < 0 then '-' :: Text.paddedDigits 4 year.natAbs
  else if year ≤ 9999 then Text.paddedDigits 4 year.natAbs
  else '+' :: Text.paddedDigits 4 year.natAbs

/-- Year, month and day, joined by hyphens. -/
def chars (d : Date) : List Char :=
  yearText d.year ++ '-' :: Text.paddedDigits 2 d.month ++ '-' :: Text.paddedDigits 2 d.day

/-- Year, month and day, joined by hyphens. -/
def text (d : Date) : String :=
  String.ofList d.chars

end Date

/-- Why a text is not a date. -/
inductive DateError where
  | tooShort
  | invalid
  | outOfRange
  | trailing
deriving DecidableEq, Repr

/-- The error as a message shows it. -/
def DateError.message : DateError → String
  | .tooShort => "premature end of input"
  | .invalid => "input contains invalid characters"
  | .outOfRange => "input is out of range"
  | .trailing => "trailing input"

namespace Date

/-- Reads digits, at most `width` of them if a width is given, and at least one. -/
def readNumber (width : Option Nat) (s : List Char) : Except DateError (Nat × List Char) :=
  let run := s.takeWhile Text.isDigit
  let ds := match width with
    | some w => run.take w
    | none => run
  match ds, s with
  | [], [] => .error .tooShort
  | [], _ => .error .invalid
  | ds, s => .ok (ds.foldl (fun n c => 10 * n + Text.digitValue c) 0, s.drop ds.length)

/-- The years that can be read at all are those of 32 bits. -/
def yearInWord (year : Int) : Except DateError Int :=
  if -2147483648 ≤ year ∧ year ≤ 2147483647 then .ok year else .error .outOfRange

/-- Reads a year: any number of digits after a sign, or one to four digits. -/
def readYear (s : List Char) : Except DateError (Int × List Char) :=
  match Text.skipBlank s with
  | '-' :: rest => do
    let (n, rest) ← readNumber none rest
    return (← yearInWord (-n), rest)
  | '+' :: rest => do
    let (n, rest) ← readNumber none rest
    return (← yearInWord n, rest)
  | rest => do
    let (n, rest) ← readNumber (some 4) rest
    return ((n : Int), rest)

/-- Reads one or two digits that denote a number from 1 to `limit`. -/
def readPart (limit : Nat) (s : List Char) : Except DateError (Nat × List Char) := do
  let (n, rest) ← readNumber (some 2) (Text.skipBlank s)
  if 1 ≤ n ∧ n ≤ limit then return (n, rest) else throw .outOfRange

/-- Reads a hyphen. -/
def readHyphen : List Char → Except DateError (List Char)
  | [] => .error .tooShort
  | '-' :: rest => .ok rest
  | _ => .error .invalid

/-- Reads year, month and day with hyphens between them. White space may stand before each number
and, where `spaced` says so, before the hyphens and at the end as well. -/
def read (spaced : Bool) (s : List Char) : Except DateError Date := do
  let gap (s : List Char) : List Char := if spaced then Text.skipBlank s else s
  let (y, rest) ← readYear s
  let rest ← readHyphen (gap rest)
  let (m, rest) ← readPart 12 rest
  let rest ← readHyphen (gap rest)
  let (d, rest) ← readPart 31 rest
  if (gap rest).isEmpty then
    match Date.ofYmd? y m d with
    | some date => return date
    | none => throw .outOfRange
  else throw .trailing

end Date

end Overdue
