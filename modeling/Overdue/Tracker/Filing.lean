import Overdue.Tracker.Exchange
import Overdue.Tracker.IssueText

/-!
# Filing issues

An issue is made for every expired finding that has none. Which finding an issue is for is told by
the identifier in its text; what fails for one finding leaves the others alone.
-/

namespace Overdue

/-- How many expired findings got an issue, had one already, or could not get one. -/
structure Tally where
  created : Nat := 0
  skipped : Nat := 0
  failed : Nat := 0
deriving DecidableEq, Repr

/-- How issues are filed. -/
structure Filing where
  client : Client
  hosting : Hosting
  labels : List String

/-- How far the filing has come: the calls that were sent, the identifiers for which an issue was
made, and the counts. -/
structure Filed where
  sent : List Exchange
  identifiers : List String := []
  tally : Tally := {}

namespace Filing

/-- The label that issues get when no other is given. -/
def defaultLabel : String := "expired-todo"

/-- The filing with the given labels, or with the default one if there are none. -/
def of (client : Client) (hosting : Hosting) (labels : List String) : Filing :=
  ⟨client, hosting, if labels.isEmpty then [defaultLabel] else labels⟩

/-- The issue for a finding whose commit belongs to an account, if it does. -/
def draft (filing : Filing) (f : Finding) (login : Option String) : Draft where
  title := f.issueTitle
  body := f.issueBody f.identifier (f.mention login) filing.hosting
  labels := filing.labels
  assignees := login.toList

/-- Makes the issue for a finding. That its commit belongs to nobody is no hindrance. -/
def make (filing : Filing) (server : Server) (sent : List Exchange) (f : Finding) :
    List Exchange × Except Failure Issue :=
  let (sent, login) := filing.client.login server sent f.attribution.revision
  filing.client.create server sent (filing.draft f login.toOption.join)

/-- Whether a finding has its issue, among those that were listed or those just made. -/
def isTracked (listed : List Issue) (identifiers : List String) (identifier : String) : Bool :=
  identifiers.contains identifier || listed.any fun issue => issue.mentions identifier

/-- Files the issue of one finding. -/
def file (filing : Filing) (server : Server) (listed : List Issue) (p : Filed) (f : Finding) :
    Filed :=
  if isTracked listed p.identifiers f.identifier then
    { p with tally.skipped := p.tally.skipped + 1 }
  else
    match filing.make server p.sent f with
    | (sent, .ok _) =>
      { p with
        sent
        identifiers := f.identifier :: p.identifiers
        tally.created := p.tally.created + 1 }
    | (sent, .error _) => { p with sent, tally.failed := p.tally.failed + 1 }

/-- Files the issues of all findings that are expired, in their order. When the open issues cannot
be listed, there are taken to be none. -/
def run (filing : Filing) (server : Server) (sent : List Exchange) (findings : List Finding) :
    Filed :=
  match findings.filter Finding.expired with
  | [] => ⟨sent, [], {}⟩
  | expired =>
    let (sent, listed) := filing.client.issues server sent
    expired.foldl (filing.file server (listed.toOption.getD [])) ⟨sent, [], {}⟩

end Filing

end Overdue
