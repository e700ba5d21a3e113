import Overdue.Json.Reader
import Overdue.Text.Blank
import Overdue.Text.Integer
import Overdue.Text.Lines
import Overdue.Text.Utf8

/-!
# Responses

A response as it stands on a connection: a line with its status, a line for each field, an empty
line, and a body whose end the fields tell. Interim responses may come before it. An octet is
written here as the character of its number.
-/

namespace Overdue

/-- What is read of a response. -/
structure Response where
  status : Nat
  /-- Where the response says that something else is to be asked. -/
  location : Option String
  body : String
deriving DecidableEq, Repr

namespace Response

/-- The octets of a text. -/
def octets (s : String) : List Char :=
  (Text.Utf8.encode s).map fun b => Char.ofNat b.toNat

/-- The text of some octets. -/
def text (s : List Char) : String :=
  Text.Utf8.decode (s.map fun c => UInt8.ofNat c.toNat)

/-- Statuses that only say that the response is still to come. -/
def isInterim (status : Nat) : Bool :=
  100 ≤ status && status < 200 && status != 101

/-- Statuses under which a body is never read. -/
def isBodiless (status : Nat) : Bool :=
  status == 101 || status == 204 || status == 304

/-- Statuses that ask for the same again at the location. -/
def isRepetition (status : Nat) : Bool :=
  status == 307 || status == 308

/-- Statuses under which the location is to be asked. -/
def isRedirection (status : Nat) : Bool :=
  status == 301 || status == 302 || status == 303 || isRepetition status

/-- Statuses of success. -/
def isSuccess (status : Nat) : Bool :=
  200 ≤ status && status < 300

/-! ## Heads -/

/-- A field: its name in lower case, and its value. -/
structure Field where
  name : String
  value : List Char
deriving DecidableEq, Repr

/-- What stands before a body. -/
structure Head where
  /-- Whether the response is of the older version, which knows no chunks. -/
  isOld : Bool
  status : Nat
  fields : List Field
deriving DecidableEq, Repr

/-- What follows a line end, before which a carriage return may stand. -/
def endLine? : List Char → Option (List Char)
  | '\n' :: s => some s
  | '\r' :: '\n' :: s => some s
  | _ => none

/-- What follows any empty lines. -/
def skipEmptyLines : List Char → List Char
  | '\n' :: s => skipEmptyLines s
  | '\r' :: '\n' :: s => skipEmptyLines s
  | s => s

/-- The space and the tab, which surround the value of a field. -/
def isPadding (c : Char) : Bool :=
  c == ' ' || c == '\t'

/-- What a line may hold: anything but control characters other than the tab. -/
def isContent (c : Char) : Bool :=
  c == '\t' || (0x20 ≤ c.toNat && c.toNat != 0x7F)

/-- What the name of a field may hold. -/
def isNameChar (c : Char) : Bool :=
  c.isAlphanum || "!#$%&'*+-.^_`|~".toList.contains c

/-- Reads a line with a status: the version, three digits and perhaps words that explain them. -/
def statusLine? (s : List Char) : Option ((Bool × Nat) × List Char) := do
  match ← "HTTP/1.".toList.isPrefixOf? s with
  | version :: ' ' :: a :: b :: c :: s =>
    let status := 100 * Text.digitValue a + 10 * Text.digitValue b + Text.digitValue c
    let s ← match s with
      | ' ' :: s => endLine? (s.dropWhile isContent)
      | s => endLine? s
    if (version == '0' || version == '1') && [a, b, c].all Text.isDigit && a != '0' then
      return ((version == '0', status), s)
    else none
  | _ => none

/-- Reads a line with a field. -/
def field? (s : List Char) : Option (Field × List Char) :=
  match s.takeWhile isNameChar, s.dropWhile isNameChar with
  | [], _ => none
  | name, ':' :: s => do
    let value := Text.dropEnding isPadding ((s.takeWhile isContent).dropWhile isPadding)
    return (⟨String.ofList (name.map Char.toLower), value⟩, ← endLine? (s.dropWhile isContent))
  | _, _ => none

/-- Reads fields up to an empty line, but not more than `room`. -/
def fields? (room : Nat) (s : List Char) : Option (List Field × List Char) :=
  match endLine? s, room with
  | some s, _ => some ([], s)
  | none, 0 => none
  | none, room + 1 => do
    let (field, s) ← field? s
    let (fields, s) ← fields? room s
    return (field :: fields, s)

/-- The number of fields that there may be. -/
def maxFields : Nat := 100

/-- Reads a head. -/
def head? (s : List Char) : Option (Head × List Char) := do
  let ((isOld, status), s) ← statusLine? (skipEmptyLines s)
  let (fields, s) ← fields? maxFields s
  return (⟨isOld, status, fields⟩, s)

/-- Reads heads until one is not interim, but not more than `room`. -/
def finalHead? : Nat → List Char → Option (Head × List Char)
  | 0, _ => none
  | room + 1, s => do
    let (head, s) ← head? s
    if isInterim head.status then finalHead? room s else return (head, s)

/-- The values of the fields of a name. -/
def Head.values (head : Head) (name : String) : List (List Char) :=
  (head.fields.filter fun field => field.name == name).map Field.value

/-! ## Bodies -/

/-- How far a body goes. -/
inductive Extent where
  | nothing
  | octets (n : Nat)
  /-- Up to a last chunk, which is empty. -/
  | chunks
  /-- Up to the end of the connection. -/
  | everything
deriving DecidableEq, Repr

/-- The greatest length of a body. -/
def maxLength : Nat := Text.maxWord64 - 2

/-- Whether all octets are ASCII. -/
def isAscii (s : List Char) : Bool :=
  s.all fun c => c.toNat < 0x80

/-- Reads a length, which is made of digits alone. -/
def readLength? (s : List Char) : Option Nat :=
  if s.all Text.isDigit then Text.nat? maxLength s else none

/-- The length of a body by the values that tell it, each of which may be a list. All of them have
to agree. -/
def length? (values : List (List Char)) : Option Nat := do
  let parts := values.flatMap (Text.splitAll ',')
  match ← parts.mapM fun part => readLength? (Text.trim part) with
  | [] => none
  | n :: others => if values.all isAscii && others.all (· == n) then some n else none

/-- Whether the last of the encodings that a value lists is the one in chunks. -/
def isChunked (value : List Char) : Bool :=
  isAscii value &&
    (Text.trim (Text.afterLast ',' value)).map Char.toLower == "chunked".toList

/-- How far the body behind a head goes, if the head tells it without contradiction. -/
def Head.extent? (head : Head) : Option Extent :=
  if isBodiless head.status then some .nothing
  else
    match (head.values "transfer-encoding").getLast?, head.values "content-length" with
    | some encoding, _ =>
      if head.isOld then none
      else if isChunked encoding then some .chunks
      else some .everything
    | none, [] => some .everything
    | none, lengths => (length? lengths).map .octets

/-- Where the reading of chunks stands. -/
inductive Stage where
  /-- Before the first digit of a size. -/
  | start
  | size (n : Nat)
  /-- Behind the size, where only blanks may follow. -/
  | blank (n : Nat)
  /-- In what extends the line of a size. -/
  | extension (n : Nat)
  /-- At the line feed behind a size. -/
  | sized (n : Nat)
  /-- In a chunk of which `n + 1` octets are missing. -/
  | data (n : Nat)
  /-- At the carriage return behind a chunk. -/
  | filled
  /-- At the line feed behind a chunk. -/
  | closed
deriving DecidableEq, Repr

/-- Where a character behind the digits of a size leads. -/
def Stage.behind? (n : Nat) (c : Char) : Option Stage :=
  if isPadding c then some (blank n)
  else if c = ';' then some (extension n)
  else if c = '\r' then some (sized n)
  else none

/-- Where a character leads before and behind a chunk. -/
def Stage.next? : Stage → Char → Option Stage
  | start, c => (Text.hexValue? c).map size
  | size n, c =>
    match Text.hexValue? c with
    | some d => some (size (16 * n + d)) |>.filter fun _ => 16 * n + d ≤ Text.maxWord64
    | none => behind? n c
  | blank n, c => behind? n c
  | filled, c => if c = '\r' then some closed else none
  | closed, c => if c = '\n' then some start else none
  | extension _, _ | sized _, _ | data _, _ => none

/-- The fields behind the last chunk, as lines and octets up to the empty line that ends them. -/
structure Trailer where
  lines : Nat
  octets : Nat
deriving DecidableEq, Repr

/-- Measures a trailer. A carriage return and a line feed end each of its lines, and no other
carriage return stands there. `fresh` says whether a line begins. -/
def Trailer.measure? (fresh : Bool) : List Char → Option Trailer
  | [] => none
  | '\r' :: '\n' :: s =>
    if fresh then some ⟨0, 2⟩
    else (measure? true s).map fun t => ⟨t.lines + 1, t.octets + 2⟩
  | c :: s =>
    if c = '\r' then none
    else (measure? false s).map fun t => ⟨t.lines, t.octets + 1⟩

/-- The number of octets that a trailer, or all extensions together, may have. -/
def maxExtra : Nat := 16383

/-- Whether a trailer comes next that can be read. It may not hold more fields than lines. -/
def hasTrailer (s : List Char) : Bool :=
  (Trailer.measure? true s).any fun t =>
    t.lines ≤ maxFields && t.octets ≤ maxExtra && (fields? t.lines s).isSome

/-- Reads chunks: the octets in them. Fields may follow the last one. There may be no more than
`room` octets in extensions. -/
def unchunked? (room : Nat) : Stage → List Char → Option (List Char)
  | _, [] => none
  | .sized 0, c :: s => if c = '\n' ∧ hasTrailer s then some [] else none
  | .sized (n + 1), c :: s => if c = '\n' then unchunked? room (.data n) s else none
  | .data 0, c :: s => (unchunked? room .filled s).map (c :: ·)
  | .data (n + 1), c :: s => (unchunked? room (.data n) s).map (c :: ·)
  | .extension n, c :: s =>
    if c = '\r' then unchunked? room (.sized n) s
    else if c = '\n' ∨ room = 0 then none
    else unchunked? (room - 1) (.extension n) s
  | stage, c :: s => (stage.next? c).bind fun stage => unchunked? room stage s

/-- The body of an extent, unless it breaks off. -/
def Extent.body? : Extent → List Char → Option (List Char)
  | nothing, _ => some []
  | octets n, s => if n ≤ s.length then some (s.take n) else none
  | chunks, s => unchunked? maxExtra .start s
  | everything, s => some s

/-- Reads a response. Of several locations the first one counts, and a body that breaks off is lost
as a whole. -/
def read? (s : String) : Option Response := do
  let s := octets s
  let (head, s) ← finalHead? s.length s
  let extent ← head.extent?
  return {
    status := head.status
    location := (head.values "location").head?.map text
    body := text ((extent.body? s).getD []) }

end Response

end Overdue
