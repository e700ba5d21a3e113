import Overdue.CommandLine.Arguments
import Overdue.Survey.Basic
import Overdue.Tracker.Filing
import Overdue.Tracker.Hosting

/-!
# Settings

All that a run is told: by the command line, where that is silent by variables of the environment,
and else by default.
-/

namespace Overdue

/-- The value of each variable that is set. A variable may be set to the empty text. -/
abbrev Environment := String → Option String

/-- What a run is told. -/
structure Settings where
  repoRoot : String
  concurrency : Nat
  /-- In seconds. -/
  timeout : Nat
  /-- The day that counts as today, if one is given. -/
  today : Option Date
  format : Format
  summaryFile : Option String
  createIssues : Bool
  /-- What the tracker is accessed with. It is not blank. -/
  token : Option String
  /-- Owner and name of the repository. An empty text is the same as none. -/
  repository : Option String
  revision : String
  serverUrl : String
  apiUrl : String
  labels : List String
  verbose : Bool
deriving DecidableEq

namespace Environment

/-- The variables that settings are taken from. -/
def keys : List String :=
  ["GITHUB_STEP_SUMMARY", "INPUT_CREATE-ISSUES", "GITHUB_TOKEN", "INPUT_GITHUB-TOKEN",
   "GITHUB_REPOSITORY", "GITHUB_SHA", "GITHUB_SERVER_URL", "GITHUB_API_URL", "INPUT_ISSUE-LABELS"]

/-- The value of a path variable, which must not be empty. -/
def path? (env : Environment) (p : Parameter) (key : String) :
    Except UsageError (Option String) :=
  match env key with
  | none => .ok none
  | some value => (p.readPath value).map some

/-- The texts that say no, in any letter case. -/
def refusals : List String := ["", "n", "no", "f", "false", "off", "0"]

/-- Whether a variable is set, and not to one of the texts that say no. -/
def isOn (env : Environment) (key : String) : Bool :=
  (env key).any fun value => !refusals.contains (value.map Char.toLower)

end Environment

namespace Settings

/-- A text that is not blank. -/
def unlessBlank (s : String) : Option String :=
  if Text.allBlank s.toList then none else some s

/-- The token: the first that is given at all, unless it is blank. -/
def chosenToken (choices : Choices) (env : Environment) : Option String :=
  ((choices.token.or (env "GITHUB_TOKEN")).or (env "INPUT_GITHUB-TOKEN")).bind unlessBlank

/-- The settings that some choices make up with an environment. -/
def ofChoices (choices : Choices) (env : Environment) : Except UsageError Settings := do
  let summaryFile ← match choices.summaryFile with
    | some file => pure (some file)
    | none => Environment.path? env .summaryFile "GITHUB_STEP_SUMMARY"
  return {
    repoRoot := choices.repoRoot.getD "."
    concurrency := choices.concurrency.getD defaultConcurrency
    timeout := choices.timeout.getD 300
    today := choices.today
    format := choices.format.getD .text
    summaryFile
    createIssues := choices.createIssues || Environment.isOn env "INPUT_CREATE-ISSUES"
    token := chosenToken choices env
    repository := choices.repository.or (env "GITHUB_REPOSITORY")
    revision := (choices.revision.or (env "GITHUB_SHA")).getD "HEAD"
    serverUrl := (choices.serverUrl.or (env "GITHUB_SERVER_URL")).getD "https://github.com"
    apiUrl := (choices.apiUrl.or (env "GITHUB_API_URL")).getD "https://api.github.com"
    labels :=
      (choices.labels.or ((env "INPUT_ISSUE-LABELS").map Parameter.labelsIn)).getD
        [Filing.defaultLabel]
    verbose := choices.verbose }

/-- Reads the settings. -/
def read (env : Environment) (arguments : List String) : Except Halt Settings := do
  let choices ← Choices.ofArguments arguments
  (ofChoices choices env).mapError .misuse

/-- Where the repository is hosted, if that is told. -/
def hosting (s : Settings) : Except MalformedRepository (Option Hosting) :=
  match s.repository with
  | none => .ok none
  | some repository =>
    if repository.isEmpty then .ok none
    else (Hosting.named s.serverUrl repository s.revision).map some

end Settings

end Overdue
