import Overdue.Json.Value
import Overdue.Text.Integer

/-!
# Reading JSON

The value that a text denotes, if it is JSON from its first character to its last.
-/

namespace Overdue

namespace Json

/-- The text without the white space that JSON allows between its parts. -/
def skipSpace (s : List Char) : List Char :=
  s.dropWhile fun c => c == ' ' || c == '\n' || c == '\t' || c == '\r'

/-- The number that four hexadecimal digits denote. -/
def hexValue4? (a b c d : Char) : Option Nat := do
  let high := 16 * (← Text.hexValue? a) + (← Text.hexValue? b)
  return 256 * high + 16 * (← Text.hexValue? c) + (← Text.hexValue? d)

/-- The character that a letter after a backslash stands for. -/
def unescape? : Char → Option Char
  | '"' => some '"'
  | '\\' => some '\\'
  | '/' => some '/'
  | 'b' => some '\x08'
  | 'f' => some '\x0c'
  | 'n' => some '\n'
  | 'r' => some '\r'
  | 't' => some '\t'
  | _ => none

/-- A part of a string: a character, or half of a surrogate pair. -/
inductive Piece where
  | char (c : Char)
  | half (n : Nat)
deriving DecidableEq, Repr

/-- The part of a string that an escaped number stands for. -/
def Piece.ofNat (n : Nat) : Piece :=
  if 0xD800 ≤ n ∧ n ≤ 0xDFFF then half n else char (Char.ofNat n)

/-- The character that two halves of a surrogate pair stand for. -/
def pair? (high low : Nat) : Option Char :=
  if high ≤ 0xDBFF ∧ 0xDC00 ≤ low then
    some (Char.ofNat (0x10000 + 0x400 * (high - 0xD800) + (low - 0xDC00)))
  else none

/-- The text that the parts of a string make up. There is none if a half is left alone. -/
def join? : List Piece → Option (List Char)
  | [] => some []
  | .char c :: rest => (join? rest).map (c :: ·)
  | .half high :: .half low :: rest => do return (← pair? high low) :: (← join? rest)
  | .half _ :: _ => none

/-- Puts a part before a string that is read. -/
def consPiece (p : Piece) : Option (List Piece × List Char) → Option (List Piece × List Char) :=
  Option.map fun (s, rest) => (p :: s, rest)

/-- Reads a string behind its opening quote. -/
def readString : List Char → Option (List Piece × List Char)
  | [] => none
  | '"' :: rest => some ([], rest)
  | '\\' :: 'u' :: a :: b :: c :: d :: rest =>
    match hexValue4? a b c d with
    | none => none
    | some n => consPiece (.ofNat n) (readString rest)
  | '\\' :: c :: rest =>
    match unescape? c with
    | none => none
    | some x => consPiece (.char x) (readString rest)
  | c :: rest => if c.toNat < 0x20 then none else consPiece (.char c) (readString rest)

/-- The digits at the start of a text, and the rest. -/
def spanDigits (s : List Char) : List Char × List Char :=
  s.span fun c => '0'.toNat ≤ c.toNat && c.toNat ≤ '9'.toNat

/-- Reads the digits before the point: a zero alone, or any that do not begin with a zero. -/
def readWhole : List Char → Option (List Char × List Char)
  | '0' :: rest => some (['0'], rest)
  | s =>
    match spanDigits s with
    | ([], _) => none
    | (ds, rest) => some (ds, rest)

/-- Reads a point and the digits after it, if a point is next. -/
def readFraction : List Char → Option (List Char × List Char)
  | '.' :: s =>
    match spanDigits s with
    | ([], _) => none
    | (ds, rest) => some ('.' :: ds, rest)
  | s => some ([], s)

/-- A sign, if one is next. -/
def spanSign : List Char → List Char × List Char
  | '+' :: s => (['+'], s)
  | '-' :: s => (['-'], s)
  | s => ([], s)

/-- Reads an exponent, if one is next. -/
def readExponent : List Char → Option (List Char × List Char)
  | [] => some ([], [])
  | c :: s =>
    if c = 'e' ∨ c = 'E' then
      let (sign, s) := spanSign s
      match spanDigits s with
      | ([], _) => none
      | (ds, rest) => some (c :: sign ++ ds, rest)
    else some ([], c :: s)

/-- Reads a number and keeps how it is written. -/
def readNumber (s : List Char) : Option (List Char × List Char) := do
  let (sign, s) := match s with
    | '-' :: s => (['-'], s)
    | s => ([], s)
  let (whole, s) ← readWhole s
  let (fraction, s) ← readFraction s
  let (exponent, s) ← readExponent s
  return (sign ++ whole ++ fraction ++ exponent, s)

/-- The string that some parts make up. -/
def ofPieces (pieces : List Piece) : Json :=
  match join? pieces with
  | some s => string (String.ofList s)
  | none => garbled

/-- The object of some members, whose names are still in parts. -/
def ofMembers (members : List (List Piece × Json)) : Json :=
  match members.mapM fun (name, v) => (join? name).map fun name => (String.ofList name, v) with
  | some members => object members
  | none => garbled

/-- Reads a value that has no parts. -/
def readScalar (s : List Char) : Option (Json × List Char) :=
  match s with
  | 'n' :: 'u' :: 'l' :: 'l' :: rest => some (null, rest)
  | 't' :: 'r' :: 'u' :: 'e' :: rest => some (bool true, rest)
  | 'f' :: 'a' :: 'l' :: 's' :: 'e' :: rest => some (bool false, rest)
  | '"' :: rest => (readString rest).map fun (s, rest) => (ofPieces s, rest)
  | s => (readNumber s).map fun (literal, rest) => (number (String.ofList literal), rest)

mutual

/-- Reads a value and leaves the rest of the text. The first argument bounds the calls that are
nested. -/
def readValue : Nat → List Char → Option (Json × List Char)
  | 0, _ => none
  | fuel + 1, s =>
    match skipSpace s with
    | '[' :: s =>
      match skipSpace s with
      | ']' :: rest => some (array [], rest)
      | s => (readItems fuel s).map fun (items, rest) => (array items, rest)
    | '\x7b' :: s =>
      match skipSpace s with
      | '\x7d' :: rest => some (object [], rest)
      | s => (readMembers fuel s).map fun (members, rest) => (ofMembers members, rest)
    | s => readScalar s

/-- Reads at least one item, and the bracket after the last. -/
def readItems : Nat → List Char → Option (List Json × List Char)
  | 0, _ => none
  | fuel + 1, s =>
    match readValue fuel s with
    | none => none
    | some (x, s) =>
      match skipSpace s with
      | ']' :: rest => some ([x], rest)
      | ',' :: s => (readItems fuel s).map fun (xs, rest) => (x :: xs, rest)
      | _ => none

/-- Reads at least one member, and the bracket after the last. -/
def readMembers : Nat → List Char → Option (List (List Piece × Json) × List Char)
  | 0, _ => none
  | fuel + 1, s =>
    match skipSpace s with
    | '"' :: s =>
      match readString s with
      | none => none
      | some (name, s) =>
        match skipSpace s with
        | ':' :: s =>
          match readValue fuel s with
          | none => none
          | some (v, s) =>
            match skipSpace s with
            | '\x7d' :: rest => some ([(name, v)], rest)
            | ',' :: s => (readMembers fuel s).map fun (ms, rest) => ((name, v) :: ms, rest)
            | _ => none
        | _ => none
    | _ => none

end

/-- The value that a text denotes. Every two nested calls use up a character. -/
def parse? (text : String) : Option Json :=
  let s := text.toList
  match readValue (2 * s.length + 2) s with
  | some (v, rest) => if (skipSpace rest).isEmpty then some v else none
  | none => none

end Json

end Overdue
