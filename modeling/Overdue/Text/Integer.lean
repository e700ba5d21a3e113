/-!
# Integer texts

Decimal numbers as they are read from options and records, and as they are written, and the digits
of hexadecimal ones.
-/

namespace Overdue.Text

/-- Why a text is not an integer of the wanted range. -/
inductive IntegerError where
  | empty
  | invalidDigit
  | tooLarge
deriving DecidableEq, Repr

/-- The error as a message shows it. -/
def IntegerError.message : IntegerError → String
  | .empty => "cannot parse integer from empty string"
  | .invalidDigit => "invalid digit found in string"
  | .tooLarge => "number too large to fit in target type"

/-- One of the ten ASCII digits. -/
def isDigit (c : Char) : Bool :=
  '0'.toNat ≤ c.toNat && c.toNat ≤ '9'.toNat

/-- The value of a digit. -/
def digitValue (c : Char) : Nat :=
  c.toNat - '0'.toNat

/-- The value of a hexadecimal digit. -/
def hexValue? (c : Char) : Option Nat :=
  let n := c.toNat
  if '0'.toNat ≤ n ∧ n ≤ '9'.toNat then some (n - '0'.toNat)
  else if 'a'.toNat ≤ n ∧ n ≤ 'f'.toNat then some (n - 'a'.toNat + 10)
  else if 'A'.toNat ≤ n ∧ n ≤ 'F'.toNat then some (n - 'A'.toNat + 10)
  else none

/-- Continues the number `n` with the digits of a text. The first thing wrong from the left counts:
a character that is no digit, or the digit that makes the number exceed `limit`. -/
def continueNat (limit n : Nat) : List Char → Except IntegerError Nat
  | [] => .ok n
  | c :: cs =>
    if isDigit c then
      let m := 10 * n + digitValue c
      if m ≤ limit then continueNat limit m cs else .error .tooLarge
    else .error .invalidDigit

/-- Reads a natural number up to `limit`: digits, leading zeros allowed, after an optional `+`. -/
def readNat (limit : Nat) : List Char → Except IntegerError Nat
  | [] => .error .empty
  | ['+'] => .error .invalidDigit
  | '+' :: ds => continueNat limit 0 ds
  | ds => continueNat limit 0 ds

/-- Reads a natural number up to `limit`, without a reason when there is none. -/
def nat? (limit : Nat) (s : List Char) : Option Nat :=
  match readNat limit s with
  | .ok n => some n
  | .error _ => none

/-- Reads an integer from `-limit - 1` to `limit`, with an optional sign. -/
def int? (limit : Nat) : List Char → Option Int
  | ['-'] => none
  | '-' :: ds => (nat? (limit + 1) ('+' :: ds)).map fun n => -(n : Int)
  | s => (nat? limit s).map fun n => (n : Int)

/-- The digits of a natural number. -/
def digits (n : Nat) : List Char :=
  Nat.toDigits 10 n

/-- The digits of a natural number, with zeros before them up to `width`. -/
def paddedDigits (width n : Nat) : List Char :=
  List.replicate (width - (digits n).length) '0' ++ digits n

/-- The greatest number of 32 bits. -/
def maxWord32 : Nat := 0xFFFFFFFF

/-- The greatest number of 64 bits. -/
def maxWord64 : Nat := 0xFFFFFFFFFFFFFFFF

/-- The greatest signed number of 64 bits. -/
def maxSigned64 : Nat := 0x7FFFFFFFFFFFFFFF

end Overdue.Text
