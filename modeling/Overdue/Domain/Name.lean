import Overdue.Domain.Folding
import Overdue.Text.Composition
import Overdue.Text.Direction
import Overdue.Text.Joining
import Overdue.Text.Lines
import Overdue.Text.Punycode

/-!
# Domain names

Names of hosts in all scripts. Points divide a name into labels, and a label that begins with
`xn--` stands for the text of which the rest is the code. Such a text has to be as folding would
leave it, so that a label has one code at most.
-/

namespace Overdue

namespace Domain

/-- A text of ASCII characters alone. -/
def isAscii (s : List Char) : Bool :=
  s.all (·.toNat < 0x80)

/-- What a label that is a code begins with. -/
def codeMark : List Char := "xn--".toList

/-- The greatest length of a code. -/
def maxCodeLength : Nat := 2000

/-- The greatest length of a label that is not ASCII. -/
def maxLabelLength : Nat := 1000

/-- Whether a text could be left by folding. -/
def isFolded (s : List Char) : Bool :=
  s.all isFinal && Text.composed s == s

/-- The text that a label stands for. What is ASCII has no code. -/
def meaning? (label : List Char) : Option (List Char) :=
  match codeMark.isPrefixOf? label with
  | none => some label
  | some code =>
    if isAscii code && code.length ≤ maxCodeLength then
      (Text.Punycode.decode? code).filter fun s => !isAscii s && isFolded s
    else none

/-- Whether a label may stand for a text. -/
def isMeaning (s : List Char) : Bool :=
  !s.head?.any Text.isMark && Text.joinersFit [] s && (isAscii s || s.length ≤ maxLabelLength)

/-- Whether the labels of a name can be told apart when it is shown: if something in it is written
from right to left, each of them has to keep its order. -/
def keepsOrder (labels : List (List Char)) : Bool :=
  !labels.any (·.any fun c => (Text.Direction.of c).isRightward) ||
    labels.all Text.Direction.keepsOrder

/-- The folded form of a name, if it is one. -/
def fold? (name : List Char) : Option (List Char) := do
  let folded := Text.composed (← name.mapM foldChar?).flatten
  let texts ← (Text.splitAll '.' folded).mapM meaning?
  if texts.all isMeaning && keepsOrder texts then some folded else none

end Domain

end Overdue
