import Overdue.Git.Match
import Overdue.Git.Reply

/-!
# Repositories

A working tree, by what git answers when it is run there. Searching it gives the candidates of a
survey and blaming a line its history; both fail when git does.
-/

namespace Overdue

namespace Git

/-- A run of git. -/
inductive Command where
  /-- Searches all tracked text files for the markers. -/
  | search
  /-- Asks which commit last touched a line. -/
  | blame (file : String) (line : UInt32)
deriving DecidableEq, Repr

/-- What is searched for: the markers, in any letter case. -/
def markerPattern : String := "(TODO|FIXME)"

/-- The arguments that git is given. -/
def Command.arguments : Command → List String
  | search => ["grep", "-I", "-n", "-z", "-i", "-E", "--no-color", "-e", markerPattern]
  | blame file line =>
    let n := String.ofList (Text.digits line.toNat)
    ["blame", "--line-porcelain", "-L", n ++ "," ++ n, "--", file]

/-- Why git could not be started. -/
inductive LaunchError where
  /-- The directory that it is to run in is gone. -/
  | missingDirectory
  /-- An argument holds a character that no argument can hold. -/
  | nulInArgument
deriving DecidableEq, Repr

/-- The error as a message shows it. -/
def LaunchError.message : LaunchError → String
  | missingDirectory => "No such file or directory (os error 2)"
  | nulInArgument => "nul byte found in provided data"

/-- Why a working tree does not answer. -/
inductive Error where
  | notStarted (cause : LaunchError)
  | failed (command : Command) (ending : Ending) (complaint : String)
deriving DecidableEq, Repr

namespace Error

/-- The error in one line. -/
def message : Error → String
  | notStarted cause => "failed to run git: " ++ cause.message
  | failed command ending complaint =>
    "`git " ++ " ".intercalate command.arguments ++ "` exited with " ++ ending.text ++ ": " ++
      complaint

/-- The error and what caused it. -/
def causes : Error → List String
  | notStarted cause => [message (notStarted cause), cause.message]
  | e => [e.message]

end Error

/-- What git answers in a working tree. -/
structure Repository where
  /-- The working tree is still there. -/
  present : Bool := true
  search : Reply
  blame : String → UInt32 → Reply
  /-- How long it takes to blame a line, in milliseconds. -/
  delay : String → UInt32 → Nat := fun _ _ => 0

namespace Repository

/-- Why a run cannot be started, if it cannot. -/
def launchError? (r : Repository) (command : Command) : Option LaunchError :=
  if command.arguments.any fun a => a.toList.contains '\x00' then some .nulInArgument
  else if r.present then none
  else some .missingDirectory

/-- The reply to a command. -/
def reply (r : Repository) : Command → Reply
  | .search => r.search
  | .blame file line => r.blame file line

/-- Runs git. -/
def run (r : Repository) (command : Command) : Except Error Reply :=
  match r.launchError? command with
  | some cause => .error (.notStarted cause)
  | none => .ok (r.reply command)

/-- Those of some runs that were started at all. -/
def started (r : Repository) (commands : List Command) : List Command :=
  commands.filter fun c => (r.launchError? c).isNone

/-- The error of a run that did not go well. -/
def failure (command : Command) (reply : Reply) : Error :=
  .failed command reply.ending (trimmed reply.complaintText)

/-- A search that finds nothing ends with code 1 and says nothing. -/
def foundNothing (reply : Reply) : Bool :=
  reply.ending == .exited 1 && reply.complaint.isEmpty

/-- All lines that mention a marker in a comment. -/
def candidates (r : Repository) : Except Error (List Candidate) := do
  let reply ← r.run .search
  if reply.succeeded || foundNothing reply then return Git.candidates reply.text
  else throw (failure .search reply)

/-- The blame record of a line. -/
def record (r : Repository) (file : String) (line : UInt32) : Except Error String := do
  let reply ← r.run (.blame file line)
  if reply.succeeded then return reply.text else throw (failure (.blame file line) reply)

/-- The history that git tells. -/
def history (r : Repository) : History := fun file line =>
  { record := (r.record file line).toOption
    delay := r.delay file line }

end Repository

end Git

end Overdue
