import Overdue.Run

/-!
# The program

The command line as a whole: reading the settings and making the run, up to the exit code.
-/

namespace Overdue

namespace Halt

/-- What the program is called. -/
def programName : String := "todo-expiry"

/-- What is written to standard output. -/
def output : Halt → String
  | help => "Usage: " ++ programName ++ " [OPTIONS]\n"
  | version => programName ++ " 0.1.0\n"
  | misuse _ => ""

/-- The exit code. -/
def exitCode : Halt → UInt8
  | misuse _ => 2
  | _ => 0

end Halt

/-- What comes of the program. -/
structure Execution where
  exitCode : UInt8
  output : String
  /-- What is wrong, if something is. -/
  complaint : Option String
  files : Files
  commands : List Git.Command
  requests : List Request

namespace Execution

/-- The program ends before it does anything. -/
def ofHalt (world : World) (halt : Halt) : Execution where
  exitCode := halt.exitCode
  output := halt.output
  complaint :=
    match halt with
    | .misuse e => some e.message
    | _ => none
  files := world.files
  commands := []
  requests := []

/-- The program makes a run. -/
def ofRun (r : Run) : Execution where
  exitCode := r.exitCode
  output := r.output
  complaint :=
    match r.result with
    | .error e => some e.message
    | .ok _ => none
  files := r.files
  commands := r.commands
  requests := r.requests

/-- Executes the program. -/
def of (env : Environment) (arguments : List String) (world : World) : Execution :=
  match Settings.read env arguments with
  | .ok settings => ofRun (settings.run world)
  | .error halt => ofHalt world halt

end Execution

end Overdue
