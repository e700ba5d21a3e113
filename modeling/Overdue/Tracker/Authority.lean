import Overdue.Domain.Name
import Overdue.Text.Integer
import Overdue.Text.Lines
import Overdue.Text.Utf8

/-!
# Authorities

The part of an address that says which server it means: perhaps a user, the host, and perhaps a
port. A host is a name or a number of four or of sixteen bytes, and a name that ends like a number
has to be one.
-/

namespace Overdue

namespace Authority

/-! ## Names -/

/-- The marks that the name of a host may hold beside letters and digits. -/
def marks : List Char := "!$&'()*+,-.;=_~".toList

/-- What the name of a host may hold, if it is ASCII. -/
def isNameChar (c : Char) : Bool :=
  c.isAlphanum || marks.contains c

/-- The bytes of a text, in which some may be escaped. -/
def unescaped : List Char → List UInt8
  | [] => []
  | '%' :: a :: b :: s =>
    match Text.hexValue? a, Text.hexValue? b with
    | some x, some y => UInt8.ofNat (16 * x + y) :: unescaped s
    | _, _ => 0x25 :: unescaped (a :: b :: s)
  | c :: s => Text.Utf8.encode (String.singleton c) ++ unescaped s

/-- The folded form of the name of a host, if it is one of a domain. -/
def domain? (host : List Char) : Option (List Char) :=
  Domain.fold? (Text.Utf8.decode (unescaped host)).toList

/-! ## Numbers of four bytes -/

/-- The number that some digits stand for. -/
def numeral? (base : Nat) (digits : List Char) : Option Nat :=
  digits.foldlM (fun n d => do
    let value ← Text.hexValue? d
    if value < base then return base * n + value else none) 0

/-- Reads a part of a number: hexadecimal behind `0x`, and octal behind any other zero. -/
def part? : List Char → Option Nat
  | [] => none
  | '0' :: c :: s => if c = 'x' ∨ c = 'X' then numeral? 16 s else numeral? 8 (c :: s)
  | s => numeral? 10 s

/-- The parts between the dots, without an empty one at the end. -/
def parts (host : List Char) : List (List Char) :=
  let parts := Text.splitAll '.' host
  if parts.getLast? = some [] then parts.dropLast else parts

/-- Whether the last part looks like a number. -/
def endsInNumber (host : List Char) : Bool :=
  (parts host).getLast?.any fun last =>
    (!last.isEmpty && last.all Text.isDigit) || (part? last).isSome

/-- Whether some numbers make up four bytes: the last one fills those that the others leave. -/
def fillFour : List Nat → Bool
  | [] => false
  | numbers =>
    numbers.length ≤ 4 && numbers.dropLast.all (· ≤ 0xFF) &&
      numbers.getLast?.any (· < Nat.pow 256 (5 - numbers.length))

/-- Whether a host is a number of four bytes. -/
def isFourBytes (host : List Char) : Bool :=
  ((parts host).mapM part?).any fillFour

/-- Whether a host is a name, or a number in place of one. -/
def isName (host : List Char) : Bool :=
  (domain? host).any fun name =>
    !name.isEmpty && name.all (fun c => isNameChar c || 0x80 ≤ c.toNat) &&
      (!endsInNumber name || isFourBytes name)

/-! ## Numbers of sixteen bytes -/

/-- A byte as decimal digits, without a zero before them. -/
def isByte (s : List Char) : Bool :=
  match s with
  | '0' :: _ :: _ => false
  | s => s.all Text.isDigit && (Text.nat? 0xFF s).isSome

/-- Two bytes as hexadecimal digits. -/
def isPair (s : List Char) : Bool :=
  !s.isEmpty && s.length ≤ 4 && s.all fun c => (Text.hexValue? c).isSome

/-- The number of pairs that some pieces are. The last one may stand for two of them, as four
decimal bytes. -/
def pairs? (bytesAtEnd : Bool) : List (List Char) → Option Nat
  | [] => some 0
  | [s] =>
    let bytes := Text.splitAll '.' s
    if isPair s then some 1
    else if bytesAtEnd && bytes.length = 4 && bytes.all isByte then some 2
    else none
  | s :: rest => if isPair s then (pairs? bytesAtEnd rest).map (· + 1) else none

/-- The pieces between colons, none of an empty text. -/
def pieces (s : List Char) : List (List Char) :=
  if s.isEmpty then [] else Text.splitAll ':' s

/-- The text before and after the first two colons in a row. -/
def splitGap? : List Char → Option (List Char × List Char)
  | ':' :: ':' :: s => some ([], s)
  | [] => none
  | c :: s => (splitGap? s).map fun (before, after) => (c :: before, after)

/-- Whether a text is a number of sixteen bytes. Two colons in a row stand for all the zeros that
are missing. -/
def isSixteenBytes (s : List Char) : Bool :=
  match splitGap? s with
  | none => pairs? true (pieces s) = some 8
  | some (before, after) =>
    match pairs? false (pieces before), pairs? true (pieces after) with
    | some m, some n => m + n ≤ 7
    | _, _ => false

/-! ## Hosts and ports -/

/-- Whether a text is a number of sixteen bytes in brackets. -/
def isBracketed (host : List Char) : Bool :=
  host.head? = some '[' && host.getLast? = some ']' && isSixteenBytes host.tail.dropLast

/-- Whether a text is a host as the well-known schemes have it. -/
def isHost (host : List Char) : Bool :=
  isName host || isBracketed host

/-- Whether a text is a host as all other schemes have it, which take no name for a number. -/
def isPlainHost (host : List Char) : Bool :=
  (!host.isEmpty && host.all isNameChar) || isBracketed host

/-- A host apart from the port, which begins at the first colon outside brackets. -/
def splitPort (inBrackets : Bool) : List Char → List Char × List Char
  | [] => ([], [])
  | c :: s =>
    if c = ':' ∧ ¬inBrackets then ([], c :: s)
    else
      let (host, port) := splitPort (c = '[' ∨ (inBrackets ∧ c ≠ ']')) s
      (c :: host, port)

/-- The greatest port. -/
def maxPort : Nat := 0xFFFF

/-- Whether a text is a port behind its colon, or nothing. -/
def isPort (s : List Char) : Bool :=
  (Text.continueNat maxPort 0 s.tail).toOption.isSome

/-- Whether a text is an authority, given what a host is. The user is what stands before the last
at sign. -/
def isValid (isHost : List Char → Bool) (s : List Char) : Bool :=
  let (host, port) := splitPort false (Text.afterLast '@' s)
  isHost host && isPort port

end Authority

end Overdue
