import Overdue.Calendar.Written
import Overdue.Finding.Basic
import Overdue.Json.Printer
import Overdue.Json.Range
import Overdue.Json.Reader

/-!
# Findings as records

A finding as a JSON object: the place, the note, the commit it is attributed to, and whether
it is expired. What is written is read back; a record that is read may hold other members too, but
none of its own twice.
-/

namespace Overdue

namespace Json

/-- A string, or null when there is none. -/
def ofString? : Option String → Json
  | some s => string s
  | none => null

/-- A natural number. -/
def ofNat (n : Nat) : Json :=
  number (String.ofList (Text.digits n))

end Json

namespace Date

/-- A date as a record holds it. -/
def toJson (d : Date) : Json :=
  .string d.text

/-- Reads a date of a record. -/
def ofJson? (v : Json) : Option Date := do
  match read true (← v.string?).toList with
  | .ok d => some d
  | .error _ => none

end Date

namespace Kind

/-- Reads the kind of a record: its name, or an object that has it as its only member and says
nothing about it. -/
def ofJson? : Json → Option Kind
  | .string s => [todo, fixme].find? fun kind => kind.name == s
  | .object [(s, .null)] => [todo, fixme].find? fun kind => kind.name == s
  | .object [(s, .object [])] => [todo, fixme].find? fun kind => kind.name == s
  | _ => none

end Kind

namespace Attribution

/-- The commit as a record. -/
def toJson (a : Attribution) : Json :=
  .object [
    ("revision_id", .string a.revision),
    ("author_name", .string a.author),
    ("author_contact", .ofString? a.contact),
    ("commit_date", a.committed.toJson)]

/-- Reads the values of a record of a commit. -/
def ofValues? (revision author contact committed : Json) : Option Attribution := do
  return {
    revision := ← revision.string?
    author := ← author.string?
    contact := ← contact.nullable? Json.string?
    committed := ← Date.ofJson? committed }

/-- Reads the record of a commit, which may also be the bare list of its values. -/
def ofJson? : Json → Option Attribution
  | .object ms => do
    ofValues? (← Json.required? ms "revision_id") (← Json.required? ms "author_name")
      (← Json.optional? ms "author_contact") (← Json.required? ms "commit_date")
  | .array [revision, author, contact, committed] => ofValues? revision author contact committed
  | _ => none

end Attribution

namespace Finding

/-- The finding as a record. -/
def toJson (f : Finding) : Json :=
  .object [
    ("file", .string f.file),
    ("line", .ofNat f.line.toNat),
    ("kind", .string f.note.kind.name),
    ("due_date", .ofString? (f.note.due.map Date.text)),
    ("body", .string f.note.body),
    ("attribution", f.attribution.toJson),
    ("is_expired", .bool f.expired)]

/-- Reads a finding. -/
def ofJson? (v : Json) : Option Finding := do
  let ms ← v.object?
  let file ← (← Json.required? ms "file").string?
  let line ← (← Json.required? ms "line").natUpTo? Text.maxWord32
  let kind ← Kind.ofJson? (← Json.required? ms "kind")
  let due ← (← Json.optional? ms "due_date").nullable? Date.ofJson?
  let body ← (← Json.required? ms "body").string?
  let attribution ← Attribution.ofJson? (← Json.required? ms "attribution")
  let expired ← (← Json.required? ms "is_expired").bool?
  return ⟨file, UInt32.ofNat line, ⟨kind, due, body⟩, attribution, expired⟩

/-- The names of the members of a record. -/
def memberNames : List String :=
  ["file", "line", "kind", "due_date", "body", "attribution", "is_expired"]

/-- Whether a member is one of a record's own, or one that is taken in before it is passed over:
that one must be whole, and no deeper than `depth`. What a record of a commit holds besides its own
members is passed over unread. -/
def isAdmitted (depth : Nat) (m : String × Json) : Bool :=
  memberNames.contains m.1 || (m.2.isWhole && m.2.depth ≤ depth)

/-- Reads a finding with other members of limited depth. -/
def ofJsonWithin? (depth : Nat) (v : Json) : Option Finding := do
  if (← v.object?).all (isAdmitted depth) then ofJson? v else none

/-- The greatest depth to which a text is taken in. -/
def maxDepth : Nat := 127

/-- Reads a text that holds one finding. -/
def read? (text : String) : Option Finding := do
  ofJsonWithin? (maxDepth - 1) (← Json.parse? text)

/-- Reads a text that holds a list of findings. -/
def readAll? (text : String) : Option (List Finding) := do
  (← (← Json.parse? text).array?).mapM (ofJsonWithin? (maxDepth - 2))

/-- The finding as a text on one line. -/
def record (f : Finding) : String :=
  f.toJson.text .compact

/-- A list of findings as a text of one line for each item and member. -/
def records (findings : List Finding) : String :=
  (Json.array (findings.map toJson)).text .indented

end Finding

end Overdue
