import Overdue.Text.Integer
import Overdue.Text.Lines

/-!
# Punycode

ASCII codes of texts in all scripts. A code is the ASCII part of the text and, behind the last
hyphen, numbers that tell which other characters are to be put where. A number is as long as its
digits say, and what counts as a small digit follows the numbers before it.
-/

namespace Overdue.Text.Punycode

/-- The number of digits. -/
def base : Nat := 36

/-- The least and the greatest value below which a digit may be the last one of its number. -/
def leastThreshold : Nat := 1
def greatestThreshold : Nat := 26

/-- How soon the bias grows with the size of the numbers. -/
def skew : Nat := 38

/-- What the first number is divided by before the bias follows it, and any other one. -/
def firstDamping : Nat := 700
def laterDamping : Nat := 2

/-- The value of a digit: a letter of either case, or else a decimal digit. -/
def digit? (c : Char) : Option Nat :=
  if c.isLower then some (c.toNat - 'a'.toNat)
  else if c.isUpper then some (c.toNat - 'A'.toNat)
  else if isDigit c then some (26 + digitValue c)
  else none

/-- The value below which a digit is the last one of its number. -/
def threshold (place bias : Nat) : Nat :=
  max leastThreshold (min greatestThreshold (place - bias))

/-- The bias that suits numbers of the size of `delta`, and of `shift` more places. -/
def biasFor (shift delta : Nat) : Nat :=
  if (base - leastThreshold) * greatestThreshold / 2 < delta then
    biasFor (shift + base) (delta / (base - leastThreshold))
  else shift + (base - leastThreshold + 1) * delta / (delta + skew)
termination_by delta
decreasing_by
  simp only [base, leastThreshold, greatestThreshold] at *
  omega

/-- The bias behind a number that put a character into a text, which has `size` of them now. -/
def adapt (delta size : Nat) (isFirst : Bool) : Nat :=
  let delta := delta / if isFirst then firstDamping else laterDamping
  biasFor 0 (delta + delta / size)

/-- What is known of a text while its code is read. -/
structure Decoding where
  text : List Char
  /-- The code point to which the numbers so far lead. -/
  point : Nat := 0x80
  /-- The place in the text to which the digits so far lead. It may be behind the end, and then
  stands for one with a greater code point. -/
  index : Nat := 0
  /-- The index before the number under way. -/
  start : Nat := 0
  /-- What the next digit counts. -/
  weight : Nat := 1
  /-- The place of the next digit in its number, counted in steps of the base. -/
  place : Nat := base
  bias : Nat := 72
deriving DecidableEq, Repr

/-- Puts in the character to which a number leads that is complete. -/
def Decoding.insert? (d : Decoding) : Option Decoding :=
  let size := d.text.length + 1
  let point := d.point + d.index / size
  let before := d.index % size
  if point.isValidChar then
    some {
      text := d.text.take before ++ Char.ofNat point :: d.text.drop before
      point := point
      index := before + 1
      start := before + 1
      bias := adapt (d.index - d.start) size (d.start = 0) }
  else none

/-- Takes in a digit. No index and no weight may exceed 32 bits. -/
def Decoding.next? (d : Decoding) (c : Char) : Option Decoding := do
  let digit ← digit? c
  let least := threshold d.place d.bias
  let index := d.index + digit * d.weight
  let weight := d.weight * (base - least)
  if maxWord32 < index then none
  else if digit < least then ({ d with index } : Decoding).insert?
  else if maxWord32 < weight then none
  else some { d with index, weight, place := d.place + base }

/-- The ASCII part of a text and the digits behind it. A hyphen at the beginning is none between
them. -/
def split (code : List Char) : List Char × List Char :=
  let digits := afterLast '-' code
  match code.take (code.length - digits.length - 1) with
  | [] => ([], code)
  | ascii => (ascii, digits)

/-- The text that has a code. -/
def decode? (code : List Char) : Option (List Char) := do
  let (ascii, digits) := split code
  let d ← digits.foldlM Decoding.next? { text := ascii }
  if d.place = base then some d.text else none

end Overdue.Text.Punycode
