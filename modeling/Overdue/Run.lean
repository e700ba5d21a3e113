import Overdue.CommandLine.Settings
import Overdue.Files
import Overdue.Git.Scan
import Overdue.Report.Format
import Overdue.Tracker.Filing

/-!
# Runs

A run scans the working tree, reports what it finds, adds the report to the summary file and files
issues for what is expired. Whatever the tracker answers has no part in how a run ends.
-/

namespace Overdue

/-- What surrounds a run. -/
structure World where
  files : Files
  git : Git.Repository
  server : Server
  /-- The day in UTC. -/
  today : Date

/-- Why a run fails. -/
inductive Fatal where
  | malformedRepository (cause : MalformedRepository)
  | rootNotFound (root : String)
  | scan (cause : Git.ScanError)
  | summary (file : String) (cause : FileError)
deriving DecidableEq

namespace Fatal

/-- The error and what caused it, from the outside in. -/
def causes : Fatal → List String
  | malformedRepository cause => ["invalid --repository", cause.message]
  | rootNotFound root => ["opening repository", "repository root not found: " ++ root]
  | scan cause => "scanning TODO comments" :: cause.causes
  | summary file cause => ["opening summary file " ++ file, cause.message]

/-- The error in one line. -/
def message (e : Fatal) : String :=
  ": ".intercalate e.causes

end Fatal

/-- What comes of a run. -/
structure Run where
  /-- What is written to standard output. -/
  output : String
  files : Files
  commands : List Git.Command
  requests : List Request
  result : Except Fatal (List Finding)

namespace Run

/-- A run that fails before anything is done. -/
def failed (world : World) (e : Fatal) : Run :=
  ⟨"", world.files, [], [], .error e⟩

/-- The number of expired findings. -/
def expiredCount (r : Run) : Nat :=
  match r.result with
  | .ok findings => countExpired findings
  | .error _ => 0

/-- The exit code: 2 if the run fails, else 1 if some finding is expired. -/
def exitCode (r : Run) : UInt8 :=
  match r.result with
  | .ok findings => if anyExpired findings then 1 else 0
  | .error _ => 2

end Run

namespace Settings

/-- The survey that is to be made. -/
def survey (s : Settings) (today : Date) : Survey where
  today := s.today.getD today
  concurrency := s.concurrency
  deadline := some (Duration.ofSeconds s.timeout)

/-- The files after the report was added to the summary, if there is one. -/
def summarize (s : Settings) (hosting : Option Hosting) (files : Files) (findings : List Finding) :
    Except Fatal Files :=
  match s.summaryFile with
  | none => .ok files
  | some file =>
    (files.append file (Markdown.text hosting findings)).mapError fun e => .summary file e

/-- The requests by which issues are filed. None are sent unless that is asked for, and without a
token or a repository. -/
def file (s : Settings) (hosting : Option Hosting) (server : Server) (findings : List Finding) :
    List Request :=
  match s.createIssues, s.token, hosting with
  | true, some token, some hosting =>
    let client := Client.of s.apiUrl token hosting
    Exchange.allRequests ((Filing.of client hosting s.labels).run server [] findings).sent
  | _, _, _ => []

/-- Makes a run. -/
def run (s : Settings) (world : World) : Run :=
  match s.hosting with
  | .error e => .failed world (.malformedRepository e)
  | .ok hosting =>
    if world.files.isDirectory s.repoRoot then
      let scan := world.git.scan (s.survey world.today)
      match scan.result with
      | .error e => { Run.failed world (.scan e) with commands := scan.commands }
      | .ok findings =>
        let output := s.format.report hosting findings
        match s.summarize hosting world.files findings with
        | .error e => { Run.failed world e with output, commands := scan.commands }
        | .ok files =>
          { output
            files
            commands := scan.commands
            requests := s.file hosting world.server findings
            result := .ok findings }
    else .failed world (.rootNotFound s.repoRoot)

end Settings

end Overdue
