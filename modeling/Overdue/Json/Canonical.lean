import Overdue.Json.Number
import Overdue.Json.Printer

/-!
# Canonical values

One form for all values that say the same: the members of an object are in the order of their
names, of several with one name only the last is kept, and each number has one literal.
-/

namespace Overdue

namespace Json

/-- Puts a member in its place among members in the order of their names. One of the same name that
is already there is kept instead. -/
def insertMember (name : String) (v : Json) : List (String × Json) → List (String × Json)
  | [] => [(name, v)]
  | (other, w) :: rest =>
    if name < other then (name, v) :: (other, w) :: rest
    else if name = other then (other, w) :: rest
    else (other, w) :: insertMember name v rest

mutual

/-- The canonical form of a value. -/
def canonical : Json → Json
  | number literal => .number (canonicalNumber literal)
  | array items => .array (canonicalItems items)
  | object members => .object (canonicalMembers members)
  | v => v

/-- The canonical forms of the items of an array. -/
def canonicalItems : List Json → List Json
  | [] => []
  | x :: xs => x.canonical :: canonicalItems xs

/-- The members of an object in canonical form. -/
def canonicalMembers : List (String × Json) → List (String × Json)
  | [] => []
  | (name, v) :: rest => insertMember name v.canonical (canonicalMembers rest)

end

/-- The text that a value is sent as: a string as it is, and any other value in its canonical
form. -/
def content : Json → String
  | string s => s
  | v => v.canonical.text .compact

end Json

end Overdue
