import Overdue.Text.Blank

/-!
# Comment styles

The delimiters that open a comment up to the end of a line, and the text of the comment that a
line carries.
-/

namespace Overdue

/-- The families of line-comment delimiters. -/
inductive CommentStyle where
  | hash
  | doubleSlash
  | doubleDash
  | semicolon
deriving DecidableEq, Repr

namespace CommentStyle

/-- The characters that open a comment. -/
def delimiter : CommentStyle → List Char
  | hash => ['#']
  | doubleSlash => ['/', '/']
  | doubleDash => ['-', '-']
  | semicolon => [';']

/-- The comment that the text after a delimiter holds: that text without its leading white space,
or its last character when there is nothing else. It must be one line, up to the end. -/
def commentAfter? (rest : List Char) : Option (List Char) :=
  match Text.skipBlank rest with
  | [] =>
    match rest.getLast? with
    | some '\n' => none
    | some c => some [c]
    | none => none
  | comment => if comment.contains '\n' then none else some comment

/-- The comment after the first delimiter that has one after it. -/
def findComment? (style : CommentStyle) : List Char → Option (List Char)
  | [] => none
  | c :: cs =>
    match (style.delimiter.isPrefixOf? (c :: cs)).bind commentAfter? with
    | some comment => some comment
    | none => findComment? style cs

/-- The text of the comment that a line carries, if it carries one. The delimiter may stand
anywhere in the line. -/
def commentText? (style : CommentStyle) (line : String) : Option String :=
  (style.findComment? line.toList).map String.ofList

end CommentStyle

end Overdue
