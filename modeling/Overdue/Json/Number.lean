import Overdue.Json.Double
import Overdue.Json.Reader
import Overdue.Text.Integer

/-!
# Numbers

The number with double precision that a literal stands for. Of the digits of a number, those that
fit into 64 bits make up its significand. The number is that significand times a power of ten, each
of them rounded, and the product as well.
-/

namespace Overdue

namespace Json

/-- A number apart from its sign: a significand of at most 64 bits and a power of ten. -/
structure Scaled where
  significand : Nat
  power : Int
deriving DecidableEq, Repr

namespace Scaled

/-- A significand with one more digit, if there is room for it. -/
def push? (significand : Nat) (digit : Char) : Option Nat :=
  some (10 * significand + (digit.toNat - '0'.toNat)) |>.filter (· ≤ Text.maxWord64)

/-- Takes in the digits before the point. Those without room raise the power. -/
def takeWhole (significand : Nat) : List Char → Scaled
  | [] => ⟨significand, 0⟩
  | d :: ds =>
    match push? significand d with
    | some significand => takeWhole significand ds
    | none => ⟨significand, (d :: ds).length⟩

/-- Takes in the digits after the point, each of which lowers the power. Those without room are
left out. -/
def takeFraction (x : Scaled) : List Char → Scaled
  | [] => x
  | d :: ds =>
    match push? x.significand d with
    | some significand => takeFraction ⟨significand, x.power - 1⟩ ds
    | none => x

/-- The power of ten that an exponent stands for, which may begin with its letter. -/
def exponent : List Char → Int
  | [] => 0
  | _ :: s =>
    let (sign, digits) := spanSign s
    let n : Int := digits.foldl (fun n d => 10 * n + (d.toNat - '0'.toNat)) 0
    if sign = ['-'] then -n else n

/-- The number that a literal stands for, apart from its sign. -/
def ofLiteral (literal : List Char) : Scaled :=
  let (whole, s) := spanDigits (literal.dropWhile (· == '-'))
  let x := takeWhole 0 whole
  let (x, s) := match s with
    | '.' :: s => let (fraction, s) := spanDigits s; (x.takeFraction fraction, s)
    | s => (x, s)
  { x with power := x.power + exponent s }

/-- The number with double precision, if it is within the range. -/
def double? (x : Scaled) : Option Double := do
  let significand ← Double.ofRatio? x.significand 1
  if 0 ≤ x.power then significand.scaledUp? x.power.natAbs
  else significand.scaledDown? x.power.natAbs

end Scaled

/-- Whether a literal is an integer that 64 bits can hold. -/
def isInteger : List Char → Bool
  | '-' :: ds => (literalNat? ds).any fun n => 0 < n && n ≤ Text.maxSigned64 + 1
  | ds => (literalNat? ds).any (· ≤ Text.maxWord64)

/-- A number in the one form that it is written in: an integer by its digits, any other number by
the fewest that tell its value with double precision. -/
def canonicalNumber (literal : String) : String :=
  let s := literal.toList
  if isInteger s then literal
  else
    match (Scaled.ofLiteral s).double? with
    | some x => String.ofList (s.takeWhile (· == '-') ++ x.text)
    | none => literal

end Json

end Overdue
