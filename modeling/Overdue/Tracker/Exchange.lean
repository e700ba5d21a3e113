import Overdue.Tracker.Location
import Overdue.Tracker.Server

/-!
# Exchanges

What a client does to have a call answered. Where a response names another location, the request
goes there, up to a number of times. The exchanges are kept in order, as the only state.
-/

namespace Overdue

/-- A call with the requests that it took: its own, and one for each location that was named. -/
structure Exchange where
  call : Call
  requests : List Request

namespace Exchange

/-- The requests of some exchanges. -/
def allRequests (sent : List Exchange) : List Request :=
  sent.flatMap Exchange.requests

/-- The number of requests to make an issue. -/
def countCreations (sent : List Exchange) : Nat :=
  (allRequests sent).countP Request.isCreation

end Exchange

/-- How a request goes on. -/
inductive Course where
  /-- It ends, with a response if one arrives. -/
  | ends (response : Option Response)
  | goesOn (request : Request)

/-- How a request goes on for which a response arrives. A location that leads nowhere is ignored. -/
def Response.course (response : Response) (server : Server) (request : Request) : Course :=
  if isRedirection response.status then
    match response.location.bind (Location.resolve? server.address request.target) with
    | none => .ends (some response)
    | some .elsewhere => .ends none
    | some (.here target) => .goesOn (request.redirected (isRepetition response.status) target)
  else .ends (some response)

namespace Server

/-- How a request goes on that is sent after some creations. -/
def course (server : Server) (creations : Nat) (request : Request) : Course :=
  match (server.answer creations request).received? with
  | none => .ends none
  | some response => response.course server request

/-- Sends a request, and up to `room` more that it leads to: all of them, and the response in which
they end. -/
def converse (server : Server) (room creations : Nat) (request : Request) :
    List Request × Option Response :=
  match server.course creations request with
  | .ends response => ([request], response)
  | .goesOn next =>
    match room with
    | 0 => ([request], none)
    | room + 1 =>
      let creations := if request.isCreation then creations + 1 else creations
      let (requests, response) := server.converse room creations next
      (request :: requests, response)

end Server

/-- Why a call brings no result. -/
inductive Failure where
  /-- There is no request that could be sent. -/
  | unsent
  /-- No answer arrived. -/
  | unanswered
  /-- The answer was not one of success. -/
  | refused (status : Nat) (body : String)
  /-- The answer was not in the form that was expected. -/
  | unreadable
deriving DecidableEq, Repr

namespace Failure

/-- What is said of an answer that was not one of success. A filing only counts what fails, so that
the text stands apart from the failure: it is for whoever makes a single call. -/
def refusalMessage (status : Nat) (body : String) : String :=
  "server returned " ++ String.ofList (Text.digits status) ++ ": " ++ body

end Failure

/-- What a response comes to, if success is to be read by `decode`. -/
def Response.result (decode : Json → Option α) (response : Response) : Except Failure α :=
  if isSuccess response.status then
    match (Json.parse? response.body).bind decode with
    | some a => .ok a
    | none => .error .unreadable
  else .error (.refused response.status response.body)

namespace Client

/-- How often a request may be led to another location. -/
def maxRedirections : Nat := 10

/-- What comes of a conversation. -/
def outcome (decode : Json → Option α) : Option Response → Except Failure α
  | some response => response.result decode
  | none => .error .unanswered

/-- Makes a call after those that were sent before: the exchanges by then, and what it comes to. -/
def make (c : Client) (server : Server) (decode : Json → Option α) (sent : List Exchange)
    (call : Call) : List Exchange × Except Failure α :=
  match c.request? server.address call with
  | none => (sent, .error .unsent)
  | some request =>
    let (requests, response) :=
      server.converse maxRedirections (Exchange.countCreations sent) request
    (sent ++ [⟨call, requests⟩], outcome decode response)

/-- Reads a list of issues. -/
def decodeIssues (v : Json) : Option (List Issue) := do
  (← v.array?).mapM Issue.ofJson?

/-- Lists the open issues. -/
def issues (c : Client) (server : Server) (sent : List Exchange) :
    List Exchange × Except Failure (List Issue) :=
  c.make server decodeIssues sent .issues

/-- Asks to whom a commit belongs. -/
def login (c : Client) (server : Server) (sent : List Exchange) (revision : String) :
    List Exchange × Except Failure (Option String) :=
  c.make server Account.ofCommit? sent (.commit revision)

/-- Makes an issue. -/
def create (c : Client) (server : Server) (sent : List Exchange) (draft : Draft) :
    List Exchange × Except Failure Issue :=
  c.make server Issue.ofJson? sent (.create draft)

end Client

end Overdue
