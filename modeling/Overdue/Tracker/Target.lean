import Overdue.Text.Blank
import Overdue.Text.Utf8

/-!
# Request targets

The path and the query of an address as a request carries them, by the rules for web addresses:
steps up and down the path are taken, what is not allowed is written as bytes in hexadecimal, and
the fragment is left out.
-/

namespace Overdue

namespace Target

/-- An upper-case hexadecimal digit. -/
def hexDigit (n : Nat) : Char :=
  (Nat.digitChar n).toUpper

/-- A byte in escaped form. -/
def escapeByte (b : UInt8) : List Char :=
  ['%', hexDigit (b.toNat / 16), hexDigit (b.toNat % 16)]

/-- A character, escaped unless it is a printable ASCII character that is not among `special`. -/
def escape (special : List Char) (c : Char) : List Char :=
  if 0x20 ≤ c.toNat && c.toNat < 0x7F && !special.contains c then [c]
  else (Text.Utf8.encode (String.singleton c)).flatMap escapeByte

/-- The printable characters that are escaped in a path. -/
def specialInPath : List Char := [' ', '"', '#', '<', '>', '?', '\x60', '\x7b', '\x7d']

/-- The printable characters that are escaped in a query. -/
def specialInQuery : List Char := [' ', '"', '#', '<', '>', '\x27']

/-- The printable characters that are escaped in a fragment. -/
def specialInFragment : List Char := [' ', '"', '<', '>', '\x60']

/-- The number of dots of a segment that consists of dots alone, each of which may be escaped. -/
def dots? : List Char → Option Nat
  | [] => some 0
  | '.' :: s => (dots? s).map (· + 1)
  | '%' :: '2' :: 'e' :: s => (dots? s).map (· + 1)
  | '%' :: '2' :: 'E' :: s => (dots? s).map (· + 1)
  | _ => none

/-- A slash of either kind. -/
def isSlash (c : Char) : Bool :=
  c == '/' || c == '\\'

/-- The segments of a path, which slashes of either kind separate. -/
def segments : List Char → List (List Char)
  | [] => [[]]
  | c :: cs =>
    if isSlash c then [] :: segments cs
    else
      match segments cs with
      | [] => [[c]]
      | segment :: rest => (c :: segment) :: rest

/-- The name of a drive: a letter and a colon or a bar. -/
def isDrive : List Char → Bool
  | [letter, mark] => letter.isAlpha && (mark == ':' || mark == '|')
  | _ => false

/-- One step back along the segments that are taken, but not out of a drive. -/
def back : List (List Char) → List (List Char)
  | [] => []
  | segment :: taken => if isDrive segment then segment :: taken else taken

/-- Walks along some segments, with those taken so far listed backwards. One dot stays and two go
back; at the end they leave an empty segment. -/
def walk (taken : List (List Char)) : List (List Char) → List (List Char)
  | [] => taken.reverse
  | segment :: rest =>
    match dots? segment with
    | some 1 => walk (if rest.isEmpty then [] :: taken else taken) rest
    | some 2 => walk (if rest.isEmpty then [] :: back taken else back taken) rest
    | _ => walk (segment.flatMap (escape specialInPath) :: taken) rest

/-- Some segments as a path, which is never empty. -/
def ofSegments : List (List Char) → List Char
  | [] => ['/']
  | taken => taken.flatMap fun segment => '/' :: segment

/-- The path as it is sent. What stands before its first slash is no part of it. -/
def path (s : List Char) : List Char :=
  ofSegments (walk [] (segments s).tail)

/-- Characters that an address loses, wherever they stand in it. -/
def isDropped (c : Char) : Bool :=
  c == '\t' || c == '\n' || c == '\r'

/-- Spaces and control characters, which an address loses at both ends. -/
def isMargin (c : Char) : Bool :=
  c.toNat ≤ 0x20

/-- An address as it is read. -/
def significant (s : List Char) : List Char :=
  (Text.dropEnding isMargin (s.dropWhile isMargin)).filter fun c => !isDropped c

/-- What stands before the first question mark. -/
def beforeQuery (s : List Char) : List Char :=
  s.takeWhile (· != '?')

/-- The query as it is sent, with its question mark. -/
def query (s : List Char) : List Char :=
  match s.dropWhile (· != '?') with
  | [] => []
  | _ :: query => '?' :: query.flatMap (escape specialInQuery)

/-- What stands before the fragment. -/
def beforeFragment (s : List Char) : List Char :=
  s.takeWhile (· != '#')

/-- The target that a request carries, given what follows the server in an address as it is read.
The fragment is no part of it. -/
def ofRest (s : List Char) : List Char :=
  let s := beforeFragment s
  path (beforeQuery s) ++ query s

/-- The directory of a target, with its segments listed backwards. -/
def directory (target : List Char) : List (List Char) :=
  (segments (beforeQuery target)).tail.dropLast.reverse

/-- The target that a reference without a server leads to from another target. An empty one leads
back to it, and a path that does not begin with a slash starts in its directory. -/
def join (base s : List Char) : List Char :=
  let s := beforeFragment s
  match s.head? with
  | none => base
  | some '?' => beforeQuery base ++ query s
  | some c =>
    if isSlash c then ofRest s
    else ofSegments (walk (directory base) (segments (beforeQuery s))) ++ query s

/-! ## Addresses of a server -/

/-- The greatest length of an address. -/
def maxLength : Nat := 65534

/-- The fragment as an address holds it, with its number sign. -/
def fragment (s : List Char) : List Char :=
  match s.dropWhile (· != '#') with
  | [] => []
  | _ :: fragment => '#' :: fragment.flatMap (escape specialInFragment)

/-- A target, unless it makes an address too long together with its server and with the fragment of
the text that led to it. -/
def fitting? (server target s : List Char) : Option String :=
  if server.length + target.length + (fragment s).length ≤ maxLength then
    some (String.ofList target)
  else none

/-- What follows the server in an address as it is read, if it is an address of the server. -/
def restOn? (server address : List Char) : Option (List Char) := do
  let rest ← server.isPrefixOf? address
  if rest.head?.all fun c => isSlash c || c == '?' || c == '#' then some rest else none

end Target

end Overdue
