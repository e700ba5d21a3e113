import Overdue.Text.Integer
import Overdue.Text.Blank
import Overdue.Text.Mark

/-!
# Directions

Which way characters are written, and the rule that keeps a piece of text from being mistaken for
another one when it is shown among pieces of the other direction.
-/

namespace Overdue.Text

/-- The direction of a character. -/
inductive Direction where
  | left
  | right
  | europeanDigit
  | arabicDigit
  /-- The direction of what stands around it. -/
  | neutral
  /-- The direction of the character before it. -/
  | nonspacing
deriving DecidableEq, Repr

namespace Direction

/-- The characters that are written from right to left. -/
def rightward : List (Nat × Nat) := Table.ranges [
  "5be-5f4 608 60b 60d 61b-64a 66d-6d5 6e5-6e6 6ee-6ef 6fa-7f5 7fa-8c9 2135-2138 fb1d-fbc2",
  "fbd3-fd3d fd50-fd8f fd92-fdc7 fdf0-fdfc fe71-fefc 10800-1091b 10920-10b35 10b40-10d23",
  "10d40-10d65 10d6f-10d8f 10e80-10ec7 10f00-10ff6 1e800-1eebb"]

/-- The digits that numbers in Arabic script are made of. -/
def arabicDigits : List (Nat × Nat) := Table.ranges [
  "660-669 66b-66c 10d30-10d39 10e60-10e7e"]

/-- The digits of European numbers that are not ASCII. -/
def europeanDigits : List (Nat × Nat) := Table.ranges [
  "6f0-6f9 102e1-102fb"]

/-- The characters without a direction that are not ASCII. -/
def neutrals : List (Nat × Nat) := Table.ranges [
  "a1-b1 b6-bf d7 f7 2b9-2ba 2c2-2cf 2d2-2df 2e5-2ed 2ef-2ff 374-375 387 3f6 58a-58f 606-607",
  "609-60a 60c 60e-60f 66a 6de 6e9 7f6-7f9 9f2-9f3 9fb af1 bf3-bfa c78-c7e e3f f3a-f3d 1390-1399",
  "1400 169b-169c 17db 17f0-180a 1940-1945 19de-19ff 200c-208b 20a0-2104 2108 2114-2125 2127-2129",
  "212e 213a 2140-214d 218a-2335 237b-2394 2396-26ab 26ad-27ff 2900-2bff 2ce5-2cea 2cf9-2cff",
  "2e00-2e9e 2ea0-2ef2 3001-3004 3008-3020 3030 3036-3037 303d-303f 30a0 30fb 31c0-31e5 4dc0-4dff",
  "a490-a4c6 a60d-a60f a673-a67f a700-a721 a788 a828-a82b a838-a839 a874-a877 ab6a-ab6b fbc3-fbd2",
  "fd3e-fd4f fd90-fd91 fdc8-fdcf fdfd-fe5e ff5f-ff65 ffe0-ffee 10101 10140-1018c 10190-101a0",
  "1091f 10b39-10b3f 10d6e 10ed0-10ed8 11052-11065 11660-1166c 11fd5-11ff1 16fe2 1cc00-1cef0",
  "1d1e9-1d245 1d300-1d356 1d6c1 1d6db 1d6fb 1d715 1d735 1d74f 1d76f 1d789 1d7a9 1d7c3 1e2ff",
  "1eef0-1f12f 1f16d-1f16f 1f1ad 1f260-1fbfa"]

/-- The direction of a character. -/
def of (c : Char) : Direction :=
  if c.toNat < 0x80 then
    if c.isAlpha then left else if isDigit c then europeanDigit else neutral
  else if isNonspacing c then nonspacing
  else if Table.covers rightward c then right
  else if Table.covers arabicDigits c then arabicDigit
  else if Table.covers europeanDigits c then europeanDigit
  else if Table.covers neutrals c then neutral
  else left

/-- Whether text with a character of the direction has to be told apart from other text. -/
def isRightward : Direction → Bool
  | right | arabicDigit => true
  | _ => false

/-- Whether directions may follow the first one of a piece from left to right. -/
def followLeft (s : List Direction) : Bool :=
  s.all (fun d => !d.isRightward) &&
    (dropEnding (· == nonspacing) s).getLast?.all fun d => d == left || d == europeanDigit

/-- Whether directions may follow the first one of a piece from right to left. -/
def followRight (s : List Direction) : Bool :=
  s.all (· != left) && !(s.contains europeanDigit && s.contains arabicDigit) &&
    (dropEnding (· == nonspacing) s).getLast?.all fun d =>
      d == right || d == europeanDigit || d == arabicDigit

/-- Whether a piece of text keeps its order among others: it begins with a letter, keeps to the
direction of that letter, and ends with a letter or a digit. -/
def keepsOrder (s : List Char) : Bool :=
  match s.map of with
  | [] => true
  | left :: s => followLeft s
  | right :: s => followRight s
  | _ => false

end Direction

end Overdue.Text
