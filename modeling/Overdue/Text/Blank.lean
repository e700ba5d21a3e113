/-!
# White space

The characters with the Unicode property White_Space, and the trimming built on them. Texts are
lists of characters here, so that every cut is a statement about a list.
-/

namespace Overdue.Text

/-- A character with the property White_Space. -/
def isBlank (c : Char) : Bool :=
  let n := c.toNat
  (9 ≤ n && n ≤ 13) || n == 32 || n == 0x85 || n == 0xA0 || n == 0x1680 ||
    (0x2000 ≤ n && n ≤ 0x200A) || n == 0x2028 || n == 0x2029 || n == 0x202F || n == 0x205F ||
    n == 0x3000

/-- What is left of a list once its longest ending that satisfies `p` is cut off. -/
def dropEnding (p : α → Bool) : List α → List α
  | [] => []
  | a :: as =>
    match dropEnding p as with
    | [] => if p a then [] else [a]
    | rest => a :: rest

/-- The text without its leading white space. -/
def skipBlank (s : List Char) : List Char :=
  s.dropWhile isBlank

/-- The text without the white space at either end. -/
def trim (s : List Char) : List Char :=
  dropEnding isBlank (skipBlank s)

/-- A text of white space alone, the empty text included. -/
def allBlank (s : List Char) : Bool :=
  s.all isBlank

/-- The first run of characters that are not white space, if there is one. -/
def firstWord? (s : List Char) : Option (List Char) :=
  match (skipBlank s).takeWhile (fun c => !isBlank c) with
  | [] => none
  | w => some w

end Overdue.Text

namespace Overdue

/-- The string without the white space at either end. -/
def trimmed (s : String) : String :=
  String.ofList (Text.trim s.toList)

end Overdue
