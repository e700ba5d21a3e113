import Overdue.Text.Blank
import Overdue.Text.Integer
import Overdue.Text.Lines
import Overdue.Text.Quoted

/-!
# Hosted repositories

Where a repository is hosted, and the links into it that reports and issues show.
-/

namespace Overdue

/-- A repository on a server, at a revision. -/
structure Hosting where
  /-- The address of the server, which does not end in a slash. -/
  server : String
  owner : String
  name : String
  /-- The commit that links to files lead to. -/
  revision : String
deriving DecidableEq, Repr

/-- A text that does not name a repository. -/
structure MalformedRepository where
  text : String
deriving DecidableEq, Repr

/-- The error as a message shows it. -/
def MalformedRepository.message (e : MalformedRepository) : String :=
  "repository must be `owner/name`, got " ++ Text.quoted e.text

namespace Hosting

/-- An address without the slashes at its end. -/
def withoutSlashes (address : String) : String :=
  String.ofList (Text.dropEnding (· == '/') address.toList)

/-- The owner and the name in a text: what stands before and after its only slash. -/
def ownerAndName? (repository : List Char) : Option (List Char × List Char) := do
  let (owner, name) ← Text.splitFirst? '/' repository
  if owner.isEmpty || name.isEmpty || name.contains '/' then none else return (owner, name)

/-- The repository that a text names on a server. -/
def named (server repository revision : String) : Except MalformedRepository Hosting :=
  match ownerAndName? repository.toList with
  | some (owner, name) =>
    .ok ⟨withoutSlashes server, String.ofList owner, String.ofList name, revision⟩
  | none => .error ⟨repository⟩

/-- The link to the repository. -/
def link (h : Hosting) : String :=
  h.server ++ "/" ++ h.owner ++ "/" ++ h.name

/-- The link to a line of a file. -/
def fileLink (h : Hosting) (file : String) (line : UInt32) : String :=
  h.link ++ "/blob/" ++ h.revision ++ "/" ++ file ++ "#L" ++
    String.ofList (Text.digits line.toNat)

/-- The link to a commit. -/
def commitLink (h : Hosting) (revision : String) : String :=
  h.link ++ "/commit/" ++ revision

end Hosting

end Overdue
