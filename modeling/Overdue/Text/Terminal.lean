import Overdue.Text.Utf8

/-!
# Terminal control

What a terminal shows of a text: control characters other than white space are left out, and so
are the sequences that an escape character opens.
-/

namespace Overdue.Text

/-- What a character is part of. -/
inductive Sequence where
  | plain
  /-- Right after an escape character. -/
  | escape
  /-- An escape sequence of more than one character. -/
  | long
  /-- A control sequence, which a letter ends. -/
  | control
  /-- A command, which a bell ends. -/
  | command
  /-- A device control string before its parameters. -/
  | device
  /-- A device control string at its parameters. -/
  | parameters
  /-- A device control string after its parameters. -/
  | details
  /-- A string that goes on until it is terminated. -/
  | string
deriving DecidableEq, Repr

namespace Sequence

/-- The escape character. -/
def opener : Char := '\x1b'

/-- The white space among the control characters. -/
def isSpacing (c : Char) : Bool :=
  c == '\t' || c == '\n' || c == '\x0c' || c == '\r'

/-- Characters at which any sequence is given up. -/
def isCancel (c : Char) : Bool :=
  c == '\x18' || c == '\x1a'

/-- The byte that terminates a string, wherever it stands in a character. -/
def terminator : UInt8 := 0x9C

/-- Whether a character terminates a string. -/
def isTerminating (c : Char) : Bool :=
  (Utf8.encode (String.singleton c)).contains terminator

/-- What an escape character opens together with the character after it. -/
def opened (c : Char) : Sequence :=
  if c == '[' then control
  else if c == ']' then command
  else if c == 'P' then device
  else if c == 'X' || c == '^' || c == '_' then string
  else if c.toNat < 0x30 then long
  else plain

/-- What a printable ASCII character leads on to within a sequence. -/
def proceed (s : Sequence) (c : Char) : Sequence :=
  match s with
  | escape => opened c
  | long => if c.toNat < 0x30 then long else plain
  | control => if c.toNat < 0x40 then control else plain
  | device => if c.toNat < 0x30 then details else if c.toNat < 0x40 then parameters else string
  | parameters => if c.toNat < 0x30 then details else if c.toNat < 0x3C then parameters else string
  | details => if c.toNat < 0x30 then details else string
  | s => s

/-- Whether the white space among the control characters ends the sequence and is shown. -/
def yieldsToSpacing : Sequence → Bool
  | escape | long | control => true
  | _ => false

/-- Whether a character is shown, and what the next one is part of. -/
def read (s : Sequence) (c : Char) : Bool × Sequence :=
  if c = opener then (false, escape)
  else if isCancel c then (false, plain)
  else if s = plain then (isSpacing c || (0x20 ≤ c.toNat && c.toNat != 0x7F), plain)
  else if s.yieldsToSpacing && isSpacing c then (true, plain)
  else if s = command && c == '\x07' then (false, plain)
  else if s = string && isTerminating c then (false, plain)
  else if c.toNat < 0x20 || 0x7F ≤ c.toNat then (false, s)
  else (false, s.proceed c)

/-- What is shown of a text from within a sequence. -/
def shown (s : Sequence) : List Char → List Char
  | [] => []
  | c :: cs =>
    let (isShown, next) := s.read c
    if isShown then c :: shown next cs else shown next cs

end Sequence

/-- What a terminal shows of a text. -/
def shownText (s : String) : String :=
  String.ofList (Sequence.shown .plain s.toList)

end Overdue.Text
