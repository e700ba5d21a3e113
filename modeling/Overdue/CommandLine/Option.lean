/-!
# Options

The parameters and the flags of the command line, by their names.
-/

namespace Overdue

/-- The options that take a value. -/
inductive Parameter where
  | repoRoot
  | concurrency
  | timeout
  | today
  | format
  | summaryFile
  | token
  | repository
  | revision
  | serverUrl
  | apiUrl
  | labels
deriving DecidableEq, Repr

namespace Parameter

/-- All parameters. -/
def all : List Parameter :=
  [repoRoot, concurrency, timeout, today, format, summaryFile, token, repository, revision,
   serverUrl, apiUrl, labels]

/-- The name, without the hyphens before it. -/
def name : Parameter → String
  | repoRoot => "repo-root"
  | concurrency => "concurrency"
  | timeout => "timeout-secs"
  | today => "today"
  | format => "format"
  | summaryFile => "summary-file"
  | token => "github-token"
  | repository => "repository"
  | revision => "sha"
  | serverUrl => "server-url"
  | apiUrl => "api-url"
  | labels => "issue-labels"

/-- What stands for the value in messages: the name in capitals. -/
def placeholder (p : Parameter) : String :=
  p.name.map fun c => if c = '-' then '_' else c.toUpper

/-- The parameter as messages show it. -/
def shown (p : Parameter) : String :=
  "--" ++ p.name ++ " <" ++ p.placeholder ++ ">"

/-- The parameter of a name. -/
def ofName? (s : String) : Option Parameter :=
  all.find? fun p => p.name == s

end Parameter

/-- The options that take no value. -/
inductive Flag where
  | createIssues
  | verbose
  | help
  | version
deriving DecidableEq, Repr

namespace Flag

/-- All flags. -/
def all : List Flag :=
  [createIssues, verbose, help, version]

/-- The name, without the hyphens before it. -/
def name : Flag → String
  | createIssues => "create-issues"
  | verbose => "verbose"
  | help => "help"
  | version => "version"

/-- The letter that may stand for the name. -/
def letter? : Flag → Option Char
  | createIssues => none
  | verbose => some 'v'
  | help => some 'h'
  | version => some 'V'

/-- The flag as messages show it. -/
def shown (f : Flag) : String :=
  "--" ++ f.name

/-- The flag of a name. -/
def ofName? (s : String) : Option Flag :=
  all.find? fun f => f.name == s

/-- The flag of a letter. -/
def ofLetter? (c : Char) : Option Flag :=
  all.find? fun f => f.letter? == some c

end Flag

end Overdue
