import Overdue.Text.Blank
import Overdue.Text.Integer

/-!
# Double precision

Numbers of 53 significant bits, without their signs. Each operation gives the nearest such number
to the exact result, the even one of two. A number is written with the fewest digits that tell it
from all others.
-/

namespace Overdue

/-- A significand times a power of two. -/
structure Double where
  significand : Nat
  exponent : Int
deriving DecidableEq, Repr

namespace Double

/-- The number of bits in a significand. -/
def precision : Nat := 53

/-- The least exponent. -/
def minExponent : Int := -1074

/-- The greatest exponent. -/
def maxExponent : Int := 971

/-! ## Rounding -/

/-- The exponent under which a quotient has a significand of 53 bits, unless that is too small. -/
def exponentOf (n d : Nat) : Int :=
  let bits : Int := (n.log2 : Int) - d.log2
  let isGreater : Bool := d <<< bits.toNat ≤ n <<< (-bits).toNat
  max minExponent (bits - precision + if isGreater then 1 else 0)

/-- The integer nearest to a quotient, and the even one of two. -/
def nearest (n d : Nat) : Nat :=
  let q := n / d
  let r := n % d
  if d < 2 * r ∨ (2 * r = d ∧ q % 2 = 1) then q + 1 else q

/-- The number nearest to a quotient, if that is within the range. -/
def ofRatio? (n d : Nat) : Option Double :=
  if n = 0 then some ⟨0, minExponent⟩
  else
    let e := exponentOf n d
    let s := nearest (n <<< (-e).toNat) (d <<< e.toNat)
    let x : Double := if s = 1 <<< precision then ⟨1 <<< (precision - 1), e + 1⟩ else ⟨s, e⟩
    if x.exponent ≤ maxExponent then some x else none

/-- The number as a quotient. -/
def ratio (x : Double) : Nat × Nat :=
  (x.significand <<< x.exponent.toNat, 1 <<< (-x.exponent).toNat)

/-- The product of two numbers. -/
def times? (x y : Double) : Option Double :=
  ofRatio? (x.ratio.1 * y.ratio.1) (x.ratio.2 * y.ratio.2)

/-- The quotient of two numbers, of which the second is not zero. -/
def over? (x y : Double) : Option Double :=
  ofRatio? (x.ratio.1 * y.ratio.2) (x.ratio.2 * y.ratio.1)

/-- The greatest power of ten within the range. -/
def maxPower : Nat := 308

/-- The number times a power of ten. -/
def scaledUp? (x : Double) (power : Nat) : Option Double :=
  if x.significand = 0 then some x
  else if power ≤ maxPower then do x.times? (← ofRatio? (Nat.pow 10 power) 1)
  else none

/-- The number over a power of ten. Where the power is too great, it is divided step by step. -/
def scaledDown? (x : Double) (power : Nat) : Option Double :=
  if x.significand = 0 then some x
  else if power ≤ maxPower then do x.over? (← ofRatio? (Nat.pow 10 power) 1)
  else do scaledDown? (← x.over? (← ofRatio? (Nat.pow 10 maxPower) 1)) (power - maxPower)
termination_by power
decreasing_by simp only [maxPower] at *; omega

/-! ## Digits -/

/-- The distance from a number to the middle of the gap below it, in quarters of its last bit. The
gap below a power of two is only half as wide as the one above. -/
def quartersBelow (x : Double) : Nat :=
  if x.significand = 1 <<< (precision - 1) ∧ minExponent < x.exponent then 1 else 2

/-- Whether `c` times a power of ten is rounded to the number. -/
def isNear (x : Double) (c : Nat) (power : Int) : Bool :=
  let scaled := (4 * c * Nat.pow 10 power.toNat) <<< (-x.exponent).toNat
  let unit := Nat.pow 10 (-power).toNat <<< x.exponent.toNat
  let low := (4 * x.significand - x.quartersBelow) * unit
  let high := (4 * x.significand + 2) * unit
  if x.significand % 2 = 0 then low ≤ scaled && scaled ≤ high else low < scaled && scaled < high

/-- The multiple of a power of ten that is nearest to the number, if one is rounded to it. -/
def multiple? (x : Double) (power : Int) : Option Nat :=
  let n := x.ratio.1 * Nat.pow 10 (-power).toNat
  let d := x.ratio.2 * Nat.pow 10 power.toNat
  let below := n / d
  match x.isNear below power, x.isNear (below + 1) power with
  | true, true => some (nearest n d)
  | true, false => some below
  | false, true => some (below + 1)
  | false, false => none

/-- The number of digits before the point. It is negative if zeros follow the point. -/
def magnitude (x : Double) : Int :=
  let (n, d) := x.ratio
  let guess := ((n.log2 : Int) - d.log2) * 30103 / 100000
  let isBelow (p : Int) : Bool := n * Nat.pow 10 (-p).toNat < d * Nat.pow 10 p.toNat
  ([guess - 1, guess, guess + 1].find? isBelow).getD (guess + 2)

/-- The greatest number of digits that are needed. -/
def maxDigits : Nat := 17

/-- The fewest digits that tell a number from all others, and how many of them stand before the
point. -/
def digits (x : Double) : List Char × Int :=
  let shortest := (List.range maxDigits).findSome? fun i =>
    let power := x.magnitude - Int.ofNat (i + 1)
    (x.multiple? power).map fun c => (c, power)
  let (c, power) := shortest.getD (x.ratio.1 / x.ratio.2, 0)
  let ds := Text.digits c
  (Text.dropEnding (· == '0') ds, ds.length + power)

/-! ## Layout -/

/-- The greatest number of digits before the point of a number without an exponent. -/
def maxWhole : Int := 16

/-- The number of zeros behind the point from which on a number has an exponent. -/
def maxZeros : Int := 5

/-- Digits with a point behind the first of them, if more follow. -/
def pointed : List Char → List Char
  | d :: e :: ds => d :: '.' :: e :: ds
  | ds => ds

/-- An exponent with its sign. -/
def exponentText (n : Int) : List Char :=
  (if n < 0 then '-' else '+') :: Text.digits n.natAbs

/-- The number as it is written. -/
def text (x : Double) : List Char :=
  if x.significand = 0 then ['0', '.', '0']
  else
    let (ds, point) := x.digits
    if 0 < point ∧ point ≤ maxWhole then
      let fraction := ds.drop point.toNat
      ds.take point.toNat ++ List.replicate (point.toNat - ds.length) '0' ++
        '.' :: if fraction.isEmpty then ['0'] else fraction
    else if -maxZeros < point ∧ point ≤ 0 then
      '0' :: '.' :: List.replicate (-point).toNat '0' ++ ds
    else pointed ds ++ 'e' :: exponentText (point - 1)

end Double

end Overdue
