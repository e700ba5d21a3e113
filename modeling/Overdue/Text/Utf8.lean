/-!
# UTF-8

Bytes as text. Where the bytes are no UTF-8, each longest piece that could begin a character but
does not go on as one is read as U+FFFD.
-/

namespace Overdue.Text.Utf8

/-- The character that stands for bytes that are no text. -/
def replacement : Char := '\uFFFD'

/-- A character of which some bytes are read: `missing` more follow, the next one between `low` and
`high`, and `value` holds the bits so far. -/
structure Pending where
  missing : Nat
  low : Nat
  high : Nat
  value : Nat
deriving DecidableEq, Repr

/-- What a byte is when no character is under way. -/
inductive Start where
  | complete (c : Char)
  | lead (p : Pending)
deriving DecidableEq, Repr

/-- The start of a character, by its first byte. -/
def start (b : Nat) : Start :=
  if b < 0x80 then .complete (Char.ofNat b)
  else if b < 0xC2 then .complete replacement
  else if b < 0xE0 then .lead ⟨1, 0x80, 0xBF, b - 0xC0⟩
  else if b = 0xE0 then .lead ⟨2, 0xA0, 0xBF, 0⟩
  else if b = 0xED then .lead ⟨2, 0x80, 0x9F, 0xD⟩
  else if b < 0xF0 then .lead ⟨2, 0x80, 0xBF, b - 0xE0⟩
  else if b = 0xF0 then .lead ⟨3, 0x90, 0xBF, 0⟩
  else if b < 0xF4 then .lead ⟨3, 0x80, 0xBF, b - 0xF0⟩
  else if b = 0xF4 then .lead ⟨3, 0x80, 0x8F, 4⟩
  else .complete replacement

/-- Continues with the rest of the bytes. -/
def continueWith : Option Pending → List UInt8 → List Char
  | none, [] => []
  | some _, [] => [replacement]
  | none, b :: bs =>
    match start b.toNat with
    | .complete c => c :: continueWith none bs
    | .lead p => continueWith (some p) bs
  | some p, b :: bs =>
    let n := b.toNat
    if p.low ≤ n ∧ n ≤ p.high then
      let value := 64 * p.value + (n - 0x80)
      if p.missing = 1 then Char.ofNat value :: continueWith none bs
      else continueWith (some ⟨p.missing - 1, 0x80, 0xBF, value⟩) bs
    else
      match start n with
      | .complete c => replacement :: c :: continueWith none bs
      | .lead q => replacement :: continueWith (some q) bs

/-- The text that the bytes stand for. -/
def decode (bytes : List UInt8) : String :=
  String.ofList (continueWith none bytes)

/-- The bytes of a text. -/
def encode (s : String) : List UInt8 :=
  s.toUTF8.data.toList

end Overdue.Text.Utf8
