import Overdue.Snapshot

/-!
# The executable

Takes its options from the command line and the environment and the world from standard input, and
brings about what the program comes to.
-/

namespace Overdue

/-- The variables that the program looks at. -/
def readEnvironment : IO Environment := do
  let found ← Environment.keys.mapM fun key => do return (key, ← IO.getEnv key)
  return fun key => (found.lookup key).join

/-- Writes what there is to write. -/
def carryOut (before : Files) (e : Execution) : IO UInt32 := do
  IO.print e.output
  for (path, content) in Snapshot.changed before e.files do
    IO.FS.writeFile path content
  if let some complaint := e.complaint then IO.eprintln complaint
  return e.exitCode.toUInt32

/-- Takes the world from standard input and executes the program in it. -/
def start (arguments : List String) : IO UInt32 := do
  let env ← readEnvironment
  let text ← (← IO.getStdin).readToEnd
  match Snapshot.read? text with
  | some world => carryOut world.files (.of env arguments world)
  | none =>
    IO.eprintln "standard input holds no snapshot"
    return 2

end Overdue

/-- Runs the program. -/
def main (arguments : List String) : IO UInt32 :=
  Overdue.start arguments
