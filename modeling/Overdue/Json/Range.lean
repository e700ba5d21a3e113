import Overdue.Json.Number

/-!
# Whole values

Which values can be taken in as they are. A number is out of range when it is not finite with
double precision.
-/

namespace Overdue

namespace Json

mutual

/-- Whether a value can be taken in as it is: nothing in it is garbled or out of range. -/
def isWhole : Json → Bool
  | garbled => false
  | number literal => (Scaled.ofLiteral literal.toList).double?.isSome
  | array items => areWhole items
  | object members => haveWhole members
  | _ => true

/-- Whether the items of an array are whole. -/
def areWhole : List Json → Bool
  | [] => true
  | x :: xs => x.isWhole && areWhole xs

/-- Whether the members of an object are whole. -/
def haveWhole : List (String × Json) → Bool
  | [] => true
  | (_, v) :: rest => v.isWhole && haveWhole rest

end

end Json

end Overdue
