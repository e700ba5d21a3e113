import Overdue.Digest.Sha256
import Overdue.Finding.Basic
import Overdue.Text.Utf8

/-!
# Identifiers

A name for a finding that depends on its file, its kind and its body, and not on the line, so that
moving a line does not make another finding of it.
-/

namespace Overdue

/-- The text that an identifier is computed from. -/
def identifiedText (file : String) (kind : Kind) (body : String) : String :=
  file ++ ":" ++ kind.name ++ ":" ++ trimmed body

/-- A byte in two hexadecimal digits. -/
def hexByte (b : UInt8) : List Char :=
  [Nat.digitChar (b.toNat / 16), Nat.digitChar (b.toNat % 16)]

/-- The identifier: the first four bytes of the digest, in hexadecimal. -/
def identifierOf (file : String) (kind : Kind) (body : String) : String :=
  let bytes := Digest.Sha256.digest (Text.Utf8.encode (identifiedText file kind body))
  "TODO-" ++ String.ofList ((bytes.take 4).flatMap hexByte)

/-- The identifier of a finding. -/
def Finding.identifier (f : Finding) : String :=
  identifierOf f.file f.note.kind f.note.body

end Overdue
