import Overdue.Json.Value

/-!
# Printing JSON

A value as text, on one line without any white space, or with one line for each item and member.
-/

namespace Overdue

namespace Json

/-- How a value is laid out. -/
inductive Layout where
  | compact
  | indented
deriving DecidableEq, Repr

/-- What stands before an item, and before the bracket that closes the items. -/
def Layout.newline (layout : Layout) (depth : Nat) : List Char :=
  match layout with
  | compact => []
  | indented => '\n' :: List.replicate (2 * depth) ' '

/-- What stands between a name and its value. -/
def Layout.colon : Layout → List Char
  | compact => [':']
  | indented => [':', ' ']

/-- A character of a string. Quotes, backslashes and control characters are escaped. -/
def escapeChar (c : Char) : List Char :=
  match c with
  | '"' => ['\\', '"']
  | '\\' => ['\\', '\\']
  | '\x08' => ['\\', 'b']
  | '\x0c' => ['\\', 'f']
  | '\n' => ['\\', 'n']
  | '\r' => ['\\', 'r']
  | '\t' => ['\\', 't']
  | c =>
    if c.toNat < 0x20 then
      ['\\', 'u', '0', '0', Nat.digitChar (c.toNat / 16), Nat.digitChar (c.toNat % 16)]
    else [c]

/-- A string in quotes. -/
def writeString (s : String) : List Char :=
  '"' :: s.toList.flatMap escapeChar ++ ['"']

mutual

/-- A value at some depth. What is garbled has no text, and null is put in its place. -/
def write (layout : Layout) (depth : Nat) : Json → List Char
  | null | garbled => ['n', 'u', 'l', 'l']
  | bool true => ['t', 'r', 'u', 'e']
  | bool false => ['f', 'a', 'l', 's', 'e']
  | number literal => literal.toList
  | string s => writeString s
  | array [] => ['[', ']']
  | array (x :: xs) =>
    '[' :: layout.newline (depth + 1) ++ write layout (depth + 1) x ++
      writeItems layout (depth + 1) xs ++ layout.newline depth ++ [']']
  | object [] => ['\x7b', '\x7d']
  | object ((name, v) :: rest) =>
    '\x7b' :: layout.newline (depth + 1) ++ writeString name ++ layout.colon ++
      write layout (depth + 1) v ++ writeMembers layout (depth + 1) rest ++
      layout.newline depth ++ ['\x7d']

/-- The items after the first. -/
def writeItems (layout : Layout) (depth : Nat) : List Json → List Char
  | [] => []
  | x :: xs => ',' :: layout.newline depth ++ write layout depth x ++ writeItems layout depth xs

/-- The members after the first. -/
def writeMembers (layout : Layout) (depth : Nat) : List (String × Json) → List Char
  | [] => []
  | (name, v) :: rest =>
    ',' :: layout.newline depth ++ writeString name ++ layout.colon ++ write layout depth v ++
      writeMembers layout depth rest

end

/-- The text of a value. -/
def text (layout : Layout) (v : Json) : String :=
  String.ofList (write layout 0 v)

end Json

end Overdue
