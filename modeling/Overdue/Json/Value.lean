/-!
# JSON values

A value keeps its numbers as they are written and its members in order, repeated names included,
so that nothing that is read is lost before it is decoded. The exception is a string with half of a
surrogate pair in it, for which there is no text; it can be passed over, but not decoded.
-/

namespace Overdue

/-- A JSON value. -/
inductive Json where
  | null
  | bool (b : Bool)
  | number (literal : String)
  | string (s : String)
  | array (items : List Json)
  | object (members : List (String × Json))
  /-- A string for which there is no text, or an object with such a name in it. -/
  | garbled
deriving Repr, Inhabited

namespace Json

mutual

/-- How many arrays and objects are nested in each other at most. -/
def depth : Json → Nat
  | array items => depthOfItems items + 1
  | object members => depthOfMembers members + 1
  | _ => 0

/-- The greatest depth of the items of an array. -/
def depthOfItems : List Json → Nat
  | [] => 0
  | x :: xs => max x.depth (depthOfItems xs)

/-- The greatest depth of the members of an object. -/
def depthOfMembers : List (String × Json) → Nat
  | [] => 0
  | (_, v) :: rest => max v.depth (depthOfMembers rest)

end

/-- The natural number that a literal of digits alone denotes. -/
def literalNat? (literal : List Char) : Option Nat :=
  if literal.isEmpty || !literal.all (fun c => '0'.toNat ≤ c.toNat && c.toNat ≤ '9'.toNat) then none
  else some (literal.foldl (fun n c => 10 * n + (c.toNat - '0'.toNat)) 0)

/-- The value as a natural number, if it is written as one. -/
def nat? : Json → Option Nat
  | number literal => literalNat? literal.toList
  | _ => none

/-- The value as a natural number up to `limit`. -/
def natUpTo? (limit : Nat) (v : Json) : Option Nat :=
  v.nat?.filter (· ≤ limit)

/-- The value as a string. -/
def string? : Json → Option String
  | string s => some s
  | _ => none

/-- The value as a truth value. -/
def bool? : Json → Option Bool
  | bool b => some b
  | _ => none

/-- The value as a list. -/
def array? : Json → Option (List Json)
  | array items => some items
  | _ => none

/-- The value as named members. -/
def object? : Json → Option (List (String × Json))
  | object members => some members
  | _ => none

/-- What an object says under a name. -/
inductive Member where
  | missing
  | repeated
  | only (v : Json)

/-- Looks up a name. -/
def member (members : List (String × Json)) (name : String) : Member :=
  match members.filter (fun m => m.1 == name) with
  | [] => .missing
  | [m] => .only m.2
  | _ => .repeated

/-- The member that must be there once. -/
def required? (members : List (String × Json)) (name : String) : Option Json :=
  match member members name with
  | .only v => some v
  | _ => none

/-- The member that may be missing, which is the same as null, but not repeated. -/
def optional? (members : List (String × Json)) (name : String) : Option Json :=
  match member members name with
  | .only v => some v
  | .missing => some null
  | .repeated => none

/-- A value that may be null, decoded by `decode` if it is not. -/
def nullable? (decode : Json → Option α) : Json → Option (Option α)
  | null => some none
  | v => (decode v).map some

end Json

end Overdue
