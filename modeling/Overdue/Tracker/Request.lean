import Overdue.Tracker.Hosting
import Overdue.Tracker.Issue
import Overdue.Tracker.Target

/-!
# Requests

What the tracker is asked, and the request that each question becomes.
-/

namespace Overdue

/-- What the tracker is asked to do. -/
inductive Call where
  /-- To list the first page of the open issues. -/
  | issues
  /-- To tell the accounts that belong to a commit. -/
  | commit (revision : String)
  /-- To make an issue. -/
  | create (draft : Draft)
deriving DecidableEq, Repr

/-- The path of a call within the repository. -/
def Call.path : Call → String
  | issues => "issues?state=open&per_page=100"
  | commit revision => "commits/" ++ revision
  | create _ => "issues"

/-- The draft that a call carries. -/
def Call.content? : Call → Option Json
  | create draft => some draft.toJson
  | _ => none

/-- The methods of requests. -/
inductive Method where
  | get
  | post
deriving DecidableEq, Repr

/-- The name of a method. -/
def Method.name : Method → String
  | get => "GET"
  | post => "POST"

/-- The method that a call is made with. -/
def Call.method : Call → Method
  | create _ => .post
  | _ => .get

/-- A request as it is sent. -/
structure Request where
  method : Method
  target : String
  authorization : String
  accept : String
  agent : String
  contentType : Option String
  body : Option Json

/-- Whether a request is to make an issue. -/
def Request.isCreation (r : Request) : Bool :=
  r.method == .post

/-- The request for another target that a redirection makes of a request. Unless the same is asked
for again, nothing is sent with it. -/
def Request.redirected (r : Request) (again : Bool) (target : String) : Request :=
  if again then { r with target }
  else { r with method := .get, target, contentType := none, body := none }

/-- A client for one repository of a tracker. -/
structure Client where
  /-- The address of the tracker's interface, which does not end in a slash. -/
  address : String
  token : String
  owner : String
  name : String
deriving DecidableEq, Repr

namespace Client

/-- The name under which a client presents itself. -/
def agent : String := "todo-expiry/0.1.0"

/-- The form in which answers are wanted. -/
def accept : String := "application/vnd.github+json"

/-- The client for a repository. -/
def of (address token : String) (hosting : Hosting) : Client :=
  ⟨Hosting.withoutSlashes address, token, hosting.owner, hosting.name⟩

/-- The address that a call is sent to. -/
def addressOf (c : Client) (call : Call) : String :=
  c.address ++ "/repos/" ++ c.owner ++ "/" ++ c.name ++ "/" ++ call.path

/-- The token holds no control character but tabs, so that a header can carry it. -/
def hasUsableToken (c : Client) : Bool :=
  c.token.toList.all fun x => (0x20 ≤ x.toNat && x.toNat != 0x7F) || x == '\t'

/-- What grants access. White space at the end of a header is no part of it. -/
def authorization (c : Client) : String :=
  String.ofList <|
    Text.dropEnding (fun x => x == ' ' || x == '\t') ("Bearer ".toList ++ c.token.toList)

/-- The target of a request to an address, if that is an address of the server. -/
def targetOn? (server address : String) : Option String := do
  let rest ← Target.restOn? server.toList (Target.significant address.toList)
  Target.fitting? server.toList (Target.ofRest rest) rest

/-- The request that a call becomes, if it can be sent to the server. -/
def request? (c : Client) (server : String) (call : Call) : Option Request := do
  let target ← targetOn? server (c.addressOf call)
  if c.hasUsableToken then
    return {
      method := call.method
      target
      authorization := c.authorization
      accept
      agent
      contentType := call.content?.map fun _ => "application/json"
      body := call.content? }
  else none

end Client

end Overdue
