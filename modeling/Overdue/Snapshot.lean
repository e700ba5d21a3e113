import Overdue.Json.Canonical
import Overdue.Json.Reader
import Overdue.Program

/-!
# Snapshots

A world as a JSON text: the day, the files, what git answers and what the tracker answers. What a
snapshot says nothing of is not there.
-/

namespace Overdue

namespace Snapshot

/-- The value of a member that may be missing, read by `decode`. -/
def member? (ms : List (String × Json)) (name : String) (decode : Json → Option α) :
    Option (Option α) := do
  (← Json.optional? ms name).nullable? decode

/-- The value of a member, or `default` when it is missing. -/
def memberOr (ms : List (String × Json)) (name : String) (decode : Json → Option α) (default : α) :
    Option α := do
  return (← member? ms name decode).getD default

/-- A text as bytes. -/
def bytes? (v : Json) : Option (List UInt8) :=
  v.string?.map Text.Utf8.encode

/-- A reply of git: what it writes to `stdout` and `stderr`, and its `code` unless it is `killed`. -/
def reply? (ms : List (String × Json)) : Option Git.Reply := do
  let killed ← memberOr ms "killed" Json.bool? false
  let code ← memberOr ms "code" (Json.natUpTo? 255) 0
  return {
    output := ← memberOr ms "stdout" bytes? []
    complaint := ← memberOr ms "stderr" bytes? []
    ending := if killed then .killed else .exited (UInt8.ofNat code) }

/-- The reply for a line, with its `file` and its number. -/
def blame? (v : Json) : Option ((String × UInt32) × Git.Reply) := do
  let ms ← v.object?
  let file ← (← Json.required? ms "file").string?
  let line ← (← Json.required? ms "line").natUpTo? Text.maxWord32
  return ((file, UInt32.ofNat line), ← reply? ms)

/-- What git answers: to `grep`, and to `blame` for each line. -/
def repository? (v : Json) : Option Git.Repository := do
  let ms ← v.object?
  let blames ← memberOr ms "blame" (fun v => do (← v.array?).mapM blame?) []
  return {
    search := ← memberOr ms "grep" (fun v => do reply? (← v.object?)) { ending := .exited 1 }
    blame := fun file line => (blames.lookup (file, line)).getD { ending := .exited 128 } }

/-- An answer of the tracker: its `status` and its `body`, which may be any value. -/
def answer? (v : Json) : Option Answer := do
  let ms ← v.object?
  return .answered (← memberOr ms "status" Json.nat? 200) (← memberOr ms "body" (some ·.content) "")

/-- What the tracker answers: to the listing of `issues`, about `commits` and to creations. -/
def server? (v : Json) : Option Server := do
  let ms ← v.object?
  let commits ← memberOr ms "commits" Json.object? []
  let commits ← commits.mapM fun (revision, v) => do return (revision, ← answer? v)
  let creations ← memberOr ms "create" (fun v => do (← v.array?).mapM answer?) []
  return {
    address := ← memberOr ms "address" Json.string? ""
    page := Server.pages (← memberOr ms "issues" answer? .dropped) fun revision =>
      (commits.lookup revision).getD .dropped
    creation := fun n => creations.getD n .dropped }

/-- A file with its `path` and its `content`, or a directory when it has none. -/
def node? (v : Json) : Option (Place × Node) := do
  let ms ← v.object?
  let path ← (← Json.required? ms "path").string?
  let content ← member? ms "content" Json.string?
  return ((Files.names path).filter (· != ""), (content.map Node.file).getD .directory)

/-- The files, and the directory that is the current one. -/
def files? (ms : List (String × Json)) : Option Files := do
  return {
    nodes := ← memberOr ms "files" (fun v => do (← v.array?).mapM node?) []
    current := (Files.names (← memberOr ms "directory" Json.string? "")).filter (· != "") }

/-- The world that a text describes. -/
def read? (text : String) : Option World := do
  let ms ← (← Json.parse? text).object?
  return {
    files := ← files? ms
    git := ← repository? (← Json.required? ms "git")
    server := ← memberOr ms "server" server? ⟨"", fun _ => .dropped, fun _ => .dropped⟩
    today := ← Date.ofJson? (← Json.required? ms "today") }

/-- The files of a tree that another does not have in the same form, by their paths. -/
def changed (before after : Files) : List (String × String) :=
  after.nodes.filterMap fun (place, node) =>
    match node with
    | .file content =>
      if before.content? place == some content then none
      else some ("/" ++ "/".intercalate place, content)
    | .directory => none

end Snapshot

end Overdue
