import Overdue.Text.Integer
import Overdue.Text.Lines

/-!
# Tables

Facts about many characters, written as lines of words between single blanks. In a word, `a` is the
hexadecimal number of a character, `a-b` all numbers from one to another, and what stands behind a
colon belongs to what stands before it.
-/

namespace Overdue.Text.Table

/-- The number that hexadecimal digits denote. -/
def number (s : List Char) : Nat :=
  s.foldl (fun n c => 16 * n + (hexValue? c).getD 0) 0

/-- The first and the last number that a word stands for. -/
def range (word : List Char) : Nat × Nat :=
  match splitFirst? '-' word with
  | some (low, high) => (number low, number high)
  | none => (number word, number word)

/-- What stands before and behind the colon of a word. -/
def entry (word : List Char) : List Char × List Char :=
  (splitFirst? ':' word).getD (word, [])

/-- The numbers before and behind the colon of a word. -/
def assignment (word : List Char) : Nat × Nat :=
  (number (entry word).1, number (entry word).2)

/-- The words of a line. -/
def words (line : String) : List (List Char) :=
  splitAll ' ' line.toList

/-- The ranges that the words of a table are. -/
def ranges (lines : List String) : List (Nat × Nat) :=
  (lines.flatMap words).map range

/-- The ranges before the colons of a table, each with the text that stands behind it. -/
def replacements (lines : List String) : List ((Nat × Nat) × List Char) :=
  (lines.flatMap words).map fun word => (range (entry word).1, (entry word).2)

/-- The lines of a table, each as the number that it begins with and the words behind it. -/
def groups (read : List Char → α) (lines : List String) : List (Nat × List α) :=
  lines.map fun line =>
    match words line with
    | [] => (0, [])
    | key :: rest => (number key, rest.map read)

/-- Whether a number is in a range. -/
def isWithin (n : Nat) (range : Nat × Nat) : Bool :=
  range.1 ≤ n && n ≤ range.2

/-- Whether a character is in one of the ranges. -/
def covers (table : List (Nat × Nat)) (c : Char) : Bool :=
  table.any (isWithin c.toNat)

end Overdue.Text.Table
