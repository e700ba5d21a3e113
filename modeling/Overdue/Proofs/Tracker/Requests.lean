import Mathlib.Data.List.Basic
import Overdue.Proofs.Tracker.Account
import Overdue.Proofs.Tracker.Filing
import Overdue.Proofs.Tracker.Plain

/-!
# What a filing asks for

A run lists the open issues and then treats each expired finding by those before it (`run_spec`):
the finding is left alone if it has its issue, else its commit is asked for and an issue is posted.
Each question is a request to a path of the repository, perhaps with those that redirections make
of it.
-/

namespace Overdue

/-- The requests with which some exchanges begin. -/
def Exchange.ownRequests (sent : List Exchange) : List Request :=
  sent.flatMap fun x => x.requests.take 1

lemma Exchange.ownRequests_append (xs ys : List Exchange) :
    ownRequests (xs ++ ys) = ownRequests xs ++ ownRequests ys :=
  List.flatMap_append

/-- Exchanges of one request each are their own requests. -/
lemma Exchange.allRequests_eq_ownRequests {sent : List Exchange}
    (h : ∀ x ∈ sent, ∃ request, x.requests = [request]) : allRequests sent = ownRequests sent := by
  refine List.flatMap_congr fun x m => ?_
  obtain ⟨request, own⟩ := h x m
  rw [own, List.take_succ_cons, List.take_zero]

/-! ## Questions -/

namespace Client

open Target

/-- A request is made to a path of the repository, with a content if there is one. -/
structure IsRequestTo (c : Client) (server : String) (method : Method) (path : String)
    (content : Option Json) (r : Request) : Prop where
  method : r.method = method
  target : targetOn? server (c.address ++ "/repos/" ++ c.owner ++ "/" ++ c.name ++ "/" ++ path) =
    some r.target
  body : r.body = content

/-- An exchange begins with a request to a path of the repository, may be led on ten times, and is
over with a response, unless there is none. -/
def Asks (c : Client) (server : Server) (creations : Nat) (method : Method) (path : String)
    (content : Option Json) (x : Exchange) (response : Option Response) : Prop :=
  ∃ request, c.IsRequestTo server.address method path content request ∧
    server.Converses 10 creations request x.requests response

variable {c : Client} {server : Server} {creations : Nat} {method : Method} {path : String}
  {content : Option Json} {x : Exchange} {response : Option Response}

lemma isRequestTo_of_request? {address : String} {call : Call} {r : Request}
    (h : c.request? address call = some r) :
    c.IsRequestTo address call.method call.path call.content? r := by
  obtain ⟨target, found, built⟩ := Option.bind_eq_some_iff.1 h
  obtain ⟨-, ⟨⟩⟩ := Option.ite_none_right_eq_some.1 built
  exact ⟨rfl, found, rfl⟩

lemma Conducts.asks (h : c.Conducts server creations x response) {call : Call}
    (same : x.call = call) :
    c.Asks server creations call.method call.path call.content? x response := by
  obtain ⟨request, built, converses⟩ := h
  rw [same] at built
  exact ⟨request, isRequestTo_of_request? built, converses⟩

lemma Asks.of_answersAtOnce (h : c.Asks server creations method path content x response)
    (atOnce : server.AnswersAtOnce) :
    ∃ request, c.IsRequestTo server.address method path content request ∧
      x.requests = [request] ∧ response = (server.answer creations request).received? := by
  obtain ⟨request, isRequest, converses⟩ := h
  exact ⟨request, isRequest,
    converses.of_course_eq_ends (Server.course_of_isFinal (atOnce creations request))⟩

lemma Asks.exists_requests_eq (h : c.Asks server creations method path content x response)
    (atOnce : server.AnswersAtOnce) : ∃ request, x.requests = [request] := by
  obtain ⟨request, -, own, -⟩ := h.of_answersAtOnce atOnce
  exact ⟨request, own⟩

/-- Where the names are plain, an exchange begins at the path itself. -/
lemma Asks.ownRequests (h : c.Asks server creations method path content x response)
    (plain : c.IsPlainFor server.address) (isPlain : IsPlainTarget ('/' :: path.toList)) :
    (Exchange.ownRequests [x]).map (fun r => (r.method.name, r.target)) =
      [(method.name, "/repos/" ++ c.owner ++ "/" ++ c.name ++ "/" ++ path)] := by
  obtain ⟨request, isRequest, converses⟩ := h
  obtain ⟨led, requests⟩ := converses.exists_eq_cons
  rw [Exchange.ownRequests, List.flatMap_singleton, requests, List.take_succ_cons, List.take_zero,
    List.map_singleton, isRequest.method, plain.eq_of_targetOn? isPlain isRequest.target]

end Client

namespace Filing

variable {filing : Filing} {server : Server} {findings : List Finding} {before log : List Entry}
  {f : Finding} {e : Entry}

/-! ## One finding -/

/-- A finding has its issue already: one that is listed, with the identifier in its title or in its
body, or one that was made for a finding before it. -/
def IsKnown (filing : Filing) (server : Server) (before : List Entry) (f : Finding) : Prop :=
  (∃ issue ∈ filing.listed server, f.identifier.toList <:+: issue.title.toList ∨
    ∃ body, issue.body = some body ∧ f.identifier.toList <:+: body.toList) ∨
  ∃ e ∈ before, e.isCreated ∧ e.finding.identifier = f.identifier

/-- Who is named as the author of a finding whose commit belongs to an account, if it does. -/
def authorOf (f : Finding) : Option String → String
  | some login => "@" ++ login
  | none => if f.attribution.author = "" then "Unknown" else f.attribution.author

/-- What is posted for a finding whose commit belongs to an account, if it does. -/
def posted (filing : Filing) (f : Finding) (login : Option String) : Json :=
  .object <|
    [("title", .string ("[TODO] Expired: " ++ (f.file ++ ":" ++
        String.ofList (Text.digits f.line.toNat)))),
     ("body", .string (f.issueBody f.identifier (authorOf f login) filing.hosting)),
     ("labels", .array (filing.labels.map .string))] ++
    login.toList.map fun l => ("assignees", .array [.string l])

/-- What becomes of a finding behind those of some entries. A finding that has its issue takes
nothing. For any other its commit is asked for and then an issue is posted, which is made if the
answer in which that ends is one of success that can be read. -/
structure Treats (filing : Filing) (server : Server) (before : List Entry) (e : Entry) : Prop where
  known : filing.IsKnown server before e.finding → e.isSkipped ∧ e.sent = []
  unknown : ¬filing.IsKnown server before e.finding →
    ∃ asking making reply login answer, e.sent = [asking, making] ∧
      filing.client.Asks server (Exchange.countCreations (sentIn before)) .get
        ("commits/" ++ e.finding.attribution.revision) none asking reply ∧
      (∀ l, login = some l ↔ Response.NamesOwner reply l) ∧
      filing.client.Asks server (Exchange.countCreations (sentIn before)) .post
        "issues" (some (filing.posted e.finding login)) making answer ∧
      (e.isCreated ↔ ∃ made v issue, answer = some made ∧ 200 ≤ made.status ∧ made.status < 300 ∧
        Json.parse? made.body = some v ∧ Issue.ofJson? v = some issue) ∧
      (e.isFailed ↔ ¬e.isCreated)

lemma isKnown_iff : filing.IsKnown server before f ↔
    isTracked (filing.listed server) (filedIn before) f.identifier := by
  simp only [isTracked_iff, mem_filedIn, or_comm, IsKnown, Issue.mentions, Bool.or_eq_true,
    Text.contains_iff, Option.any_eq_true]

lemma toJson_draft (filing : Filing) (f : Finding) (login : Option String) :
    (filing.draft f login).toJson = filing.posted f login := by
  have author : f.mention login = authorOf f login := by
    cases login with
    | none => exact if_congr String.isEmpty_iff rfl rfl
    | some login => rfl
  rw [posted, ← author]
  cases login <;> rfl

/-- The requests for the listing and for the commits of some findings can be built, and hence those
for issues. -/
structure CanSend (filing : Filing) (server : Server) (findings : List Finding) : Prop where
  issues : (filing.client.request? server.address .issues).isSome
  commit : ∀ f ∈ findings, f.expired →
    (filing.client.request? server.address (.commit f.attribution.revision)).isSome

lemma treats_entry (sendable : filing.CanSend server findings) (m : f ∈ findings)
    (expired : f.expired) : filing.Treats server before (filing.entry server before f) := by
  constructor
  · intro known
    rw [finding_entry, isKnown_iff] at known
    rw [entry, if_pos known]
    exact ⟨rfl, rfl⟩
  · intro unknown
    rw [finding_entry, isKnown_iff, ← isSkipped_entry] at unknown
    rw [finding_entry]
    have commit := sendable.commit f m expired
    obtain ⟨asking, making, reply, answer, sent, call, conducts, call', conducts', issue, failed⟩ :=
      exists_calls commit (fun draft => Client.isSome_request?_create draft sendable.issues commit)
        unknown
    refine ⟨asking, making, reply, _, answer, sent, conducts.asks call,
      fun _ => Response.join_content?_eq_some_iff, ?_, ?_, ?_⟩
    · rw [← toJson_draft]
      exact conducts'.asks call'
    · simp only [issue, Option.isSome_iff_exists, Response.content?_eq_some_iff]
      rw [exists_comm]
      exact exists_congr fun made => exists_comm
    · rw [failed, issue, Option.not_isSome_iff_eq_none]

/-! ## The whole run -/

lemma tallyOf_sum (log : List Entry) :
    (tallyOf log).created + (tallyOf log).skipped + (tallyOf log).failed = log.length := by
  induction log with
  | nil => rfl
  | cons e log ih =>
    have once : [e].countP Entry.isCreated + [e].countP Entry.isSkipped +
        [e].countP Entry.isFailed = 1 := by
      obtain ⟨f, sent, none | issue | cause⟩ := e <;> rfl
    simp only [tallyOf, List.countP_cons, List.countP_nil, List.length_cons] at ih once ⊢
    omega

lemma Entry.isSkipped_eq_false (h : e.isFailed ↔ ¬e.isCreated) : e.isSkipped = false := by
  obtain ⟨f, sent, none | issue | cause⟩ := e
  · exact absurd (h.2 Bool.false_ne_true) Bool.false_ne_true
  · rfl
  · rfl

/-- If an entry has exchanges, they begin at the commit and at the issues of the repository. -/
lemma Treats.ownRequests (h : filing.Treats server before e)
    (plain : filing.client.IsPlainFor server.address)
    (revision : Attribution.isRevision e.finding.attribution.revision.toList) :
    let repository := "/repos/" ++ filing.client.owner ++ "/" ++ filing.client.name ++ "/"
    (Exchange.ownRequests e.sent).map (fun r => (r.method.name, r.target)) =
      if e.isSkipped then []
      else [("GET", repository ++ ("commits/" ++ e.finding.attribution.revision)),
        ("POST", repository ++ "issues")] := by
  intro repository
  by_cases known : filing.IsKnown server before e.finding
  · obtain ⟨skipped, sent⟩ := h.known known
    rw [sent, if_pos skipped]
    rfl
  · obtain ⟨asking, making, reply, login, answer, sent, asks, -, makes, -, failed⟩ :=
      h.unknown known
    have commit := asks.ownRequests plain (.commit revision)
    have issue := makes.ownRequests plain .issues
    have both : Exchange.ownRequests [asking, making] =
        Exchange.ownRequests [asking] ++ Exchange.ownRequests [making] :=
      Exchange.ownRequests_append [asking] [making]
    rw [sent, Entry.isSkipped_eq_false failed, if_neg Bool.false_ne_true, both, List.map_append,
      commit, issue]
    rfl

/-- Where no answer is an interim one, the exchanges of an entry are its own requests. -/
lemma Treats.exists_requests_eq (h : filing.Treats server before e) (atOnce : server.AnswersAtOnce)
    {x : Exchange} (m : x ∈ e.sent) : ∃ request, x.requests = [request] := by
  by_cases known : filing.IsKnown server before e.finding
  · rw [(h.known known).2] at m
    cases m
  · obtain ⟨asking, making, reply, login, answer, sent, asks, -, makes, -⟩ := h.unknown known
    rw [sent, List.mem_pair] at m
    rcases m with rfl | rfl
    · exact asks.exists_requests_eq atOnce
    · exact makes.exists_requests_eq atOnce

lemma treats_of_concat (sendable : filing.CanSend server findings)
    (here : before ++ [e] <+: filing.log server findings) : filing.Treats server before e := by
  have member : e ∈ filing.log server findings :=
    here.subset (List.mem_append_right before List.mem_cons_self)
  obtain ⟨m, expired⟩ := List.mem_filter.1 (finding_mem_of_mem_log member)
  rw [eq_entry_of_concat here]
  exact treats_entry sendable m expired

lemma exists_listing (sendable : filing.CanSend server findings)
    (some : findings.filter Finding.expired ≠ []) :
    ∃ listing answer,
      filing.client.Asks server 0 .get "issues?state=open&per_page=100" none listing answer ∧
      filing.listed server = (Response.content? Client.decodeIssues answer).getD [] ∧
      (filing.run server [] findings).sent = listing :: sentIn (filing.log server findings) := by
  obtain ⟨listing, found⟩ := Client.exists_exchange?_of_isSome sendable.issues
  obtain ⟨call, answer, conducts, issues⟩ := Client.exists_of_exchange? found
  refine ⟨listing, answer, conducts.asks call, by rw [listed, issues], ?_⟩
  rw [(reflects_run some).sent, opening, found]
  rfl

/-- The exchanges of a run begin at the listing and where those of its entries begin. -/
lemma ownRequests_run (sendable : filing.CanSend server findings)
    (some : findings.filter Finding.expired ≠ [])
    (plain : filing.client.IsPlainFor server.address)
    (revisions : ∀ f ∈ findings, f.expired →
      Attribution.isRevision f.attribution.revision.toList) :
    let repository := "/repos/" ++ filing.client.owner ++ "/" ++ filing.client.name ++ "/"
    (Exchange.ownRequests (filing.run server [] findings).sent).map
        (fun r => (r.method.name, r.target)) =
      ("GET", repository ++ "issues?state=open&per_page=100") ::
        (filing.log server findings).flatMap fun e =>
          if e.isSkipped then []
          else [("GET", repository ++ ("commits/" ++ e.finding.attribution.revision)),
            ("POST", repository ++ "issues")] := by
  intro repository
  let log := filing.log server findings
  obtain ⟨listing, answer, asks, -, sent⟩ := exists_listing sendable some
  have first := asks.ownRequests plain .listing
  have split : Exchange.ownRequests (listing :: sentIn log) =
      Exchange.ownRequests [listing] ++ Exchange.ownRequests (sentIn log) :=
    Exchange.ownRequests_append [listing] _
  have entries : (Exchange.ownRequests (sentIn log)).map (fun r => (r.method.name, r.target)) =
      log.flatMap fun e =>
        (Exchange.ownRequests e.sent).map fun r => (r.method.name, r.target) := by
    simp only [Exchange.ownRequests, sentIn, List.flatMap_assoc, List.map_flatMap]
  rw [sent, split, List.map_append, first, entries, List.singleton_append]
  refine congrArg _ (List.flatMap_congr fun e m => ?_)
  obtain ⟨before, here⟩ := exists_prefix_of_mem m
  obtain ⟨member, expired⟩ := List.mem_filter.1 (finding_mem_of_mem_log m)
  exact (treats_of_concat sendable here).ownRequests plain (revisions _ member expired)

lemma allRequests_run (sendable : filing.CanSend server findings) (atOnce : server.AnswersAtOnce) :
    Exchange.allRequests (filing.run server [] findings).sent =
      Exchange.ownRequests (filing.run server [] findings).sent := by
  refine Exchange.allRequests_eq_ownRequests fun x m => ?_
  rcases eq_or_ne (findings.filter Finding.expired) [] with none | some
  · rw [run_of_none_expired none] at m
    cases m
  · obtain ⟨listing, answer, asks, -, sent⟩ := exists_listing sendable some
    rw [sent] at m
    rcases List.mem_cons.1 m with rfl | m
    · exact asks.exists_requests_eq atOnce
    · obtain ⟨e, member, m⟩ := List.mem_flatMap.1 m
      obtain ⟨before, here⟩ := exists_prefix_of_mem member
      exact (treats_of_concat sendable here).exists_requests_eq atOnce m

/-- A run asks for nothing when nothing is expired. Else it lists the open issues, and then there is
an entry for each expired finding, which is treated by those before it; the counts are those of the
entries. Where no name needs an escape, the targets are the paths themselves. Where no answer is an
interim one, each exchange is its own request and comes to the answer to it. -/
theorem run_spec (sendable : filing.CanSend server findings) :
    let filed := filing.run server [] findings
    let log := filing.log server findings
    let repository := "/repos/" ++ filing.client.owner ++ "/" ++ filing.client.name ++ "/"
    (findings.filter Finding.expired = [] → filed.sent = [] ∧ filed.tally = ⟨0, 0, 0⟩) ∧
    (findings.filter Finding.expired ≠ [] →
      (∃ listing answer,
        filing.client.Asks server 0 .get "issues?state=open&per_page=100" none listing answer ∧
        filing.listed server = (Response.content? Client.decodeIssues answer).getD [] ∧
        filed.sent = listing :: sentIn log) ∧
      log.map Entry.finding = findings.filter Finding.expired ∧
      (∀ before e, before ++ [e] <+: log → filing.Treats server before e) ∧
      filed.tally = tallyOf log ∧
      filed.tally.created + filed.tally.skipped + filed.tally.failed =
        (findings.filter Finding.expired).length ∧
      (filing.client.IsPlainFor server.address →
        (∀ f ∈ findings, f.expired → Attribution.isRevision f.attribution.revision.toList) →
        (Exchange.ownRequests filed.sent).map (fun r => (r.method.name, r.target)) =
          ("GET", repository ++ "issues?state=open&per_page=100") :: log.flatMap fun e =>
            if e.isSkipped then []
            else [("GET", repository ++ ("commits/" ++ e.finding.attribution.revision)),
              ("POST", repository ++ "issues")])) ∧
    (server.AnswersAtOnce →
      Exchange.allRequests filed.sent = Exchange.ownRequests filed.sent ∧
      ∀ creations method path content x answer,
        filing.client.Asks server creations method path content x answer →
          ∃ request, filing.client.IsRequestTo server.address method path content request ∧
            x.requests = [request] ∧
            answer = (server.answer creations request).received?) := by
  intro filed log repository
  refine ⟨fun none => ?_, fun some => ⟨exists_listing sendable some, map_finding_log _ _ _,
    fun before e here => treats_of_concat sendable here, tally_run _ _ _, ?_,
    ownRequests_run sendable some⟩, fun atOnce => ⟨allRequests_run sendable atOnce,
    fun creations method path content x answer asks => asks.of_answersAtOnce atOnce⟩⟩
  · rw [show filed = _ from run_of_none_expired none]
    exact ⟨rfl, rfl⟩
  · rw [show filed.tally = _ from tally_run _ _ _, tallyOf_sum, ← map_finding_log filing server,
      List.length_map]

/-! ### A run of each outcome -/

/-- A server that lists one issue, knows one commit, and makes one issue and no other. -/
def oneIssueServer : Server where
  address := "http://t"
  page := Server.pages
    (.answered 200 "[\x7b\"number\":7,\"title\":\"t\",\"body\":\"TODO-4e2f582b\"\x7d]")
    fun revision =>
      if revision = "bbbbbbbbbbbbbbbbbbbbbbbbbbbbbbbbbbbbbbbb" then
        .answered 200 "\x7b\"author\":\x7b\"login\":\"c\"\x7d\x7d"
      else .answered 404 "no such commit"
  creation := fun n =>
    if n = 0 then .answered 201 "\x7b\"number\":1002\x7d"
    else .answered 500 "\x7b\"number\":1003\x7d"

/-- A filing at this server. -/
def oneIssueFiling : Filing :=
  let hosting : Hosting := ⟨"https://github.com", "o", "r", "HEAD"⟩
  Filing.of (Client.of "http://t" "k" hosting) hosting []

/-- A finding for which there is no issue yet. -/
def newFinding : Finding :=
  ⟨"a.py", 1, ⟨.todo, some ⟨2022, 2, 3, by decide⟩, "x"⟩,
    ⟨"bbbbbbbbbbbbbbbbbbbbbbbbbbbbbbbbbbbbbbbb", "B", none, ⟨2023, 4, 5, by decide⟩⟩, true⟩

/-- A finding for which there is no issue yet either, of a commit that is not known. -/
def foreignFinding : Finding where
  file := "b.py"
  line := 1
  note := newFinding.note
  attribution := ⟨"cccccccccccccccccccccccccccccccccccccccc", "", none, ⟨2023, 4, 5, by decide⟩⟩
  expired := true

/-- Some findings: a new one, one that has moved from it, one whose issue is listed, a foreign one,
and one that is not expired. -/
def mixedFindings : List Finding :=
  [newFinding, { newFinding with line := 2 }, { newFinding with note := ⟨.fixme, none, "y"⟩ },
   foreignFinding, { newFinding with expired := false }]

lemma answersAtOnce_oneIssueServer : oneIssueServer.AnswersAtOnce := by
  intro creations request status body answered
  rw [Server.answer] at answered
  cases method : request.method with
  | get =>
    simp only [method, oneIssueServer, Server.pages] at answered
    repeat' split at answered
    all_goals
      cases answered
      rfl
  | post =>
    simp only [method, oneIssueServer] at answered
    split at answered
    all_goals
      cases answered
      rfl

theorem run_spec_of_moved_finding :
    let filed := oneIssueFiling.run oneIssueServer [] mixedFindings
    let own := Exchange.ownRequests filed.sent
    oneIssueFiling.CanSend oneIssueServer mixedFindings ∧
    oneIssueFiling.client.IsPlainFor oneIssueServer.address ∧
    (∀ f ∈ mixedFindings, f.expired → Attribution.isRevision f.attribution.revision.toList) ∧
    oneIssueServer.AnswersAtOnce ∧ Exchange.allRequests filed.sent = own ∧
    filed.tally.created + filed.tally.skipped + filed.tally.failed = 4 ∧
    own.map (fun r => (r.method.name, r.target)) =
      [("GET", "/repos/o/r/issues?state=open&per_page=100"),
       ("GET", "/repos/o/r/commits/bbbbbbbbbbbbbbbbbbbbbbbbbbbbbbbbbbbbbbbb"),
       ("POST", "/repos/o/r/issues"),
       ("GET", "/repos/o/r/commits/cccccccccccccccccccccccccccccccccccccccc"),
       ("POST", "/repos/o/r/issues")] ∧
    filed.tally = ⟨1, 2, 1⟩ ∧
    (own.filterMap fun r => (r.body.bind Json.object?).map fun members =>
        (members.filter fun m => m.1 != "body").map fun m => (m.1, m.2.text .compact)) =
      [[("title", "\"[TODO] Expired: a.py:1\""), ("labels", "[\"expired-todo\"]"),
        ("assignees", "[\"c\"]")],
       [("title", "\"[TODO] Expired: b.py:1\""), ("labels", "[\"expired-todo\"]")]] ∧
    (own.filterMap fun r => r.posted? "body") =
      ["## Expired TODO Comment\n\n**Identifier**: `TODO-619de326`\n\n" ++
         "### Details\n- **Type**: TODO\n- **Comment**: x\n- **Due Date**: 2022-02-03\n" ++
         "- **File**: [a.py:1](https://github.com/o/r/blob/HEAD/a.py#L1)\n" ++
         "- **Last Updated**: [2023-04-05](https://github.com/o/r/commit/" ++
         "bbbbbbbbbbbbbbbbbbbbbbbbbbbbbbbbbbbbbbbb)\n- **Author**: @c\n\n" ++
         "### Full Comment\n```\nTODO [2022-02-03]: x\n```\n\n---\n" ++
         "*This issue was generated automatically from an expired TODO comment.*\n" ++
         "*The identifier is derived from the file, type and comment, so moving the line " ++
         "does not open a duplicate.*\n",
       foreignFinding.issueBody "TODO-03819c53" "Unknown" oneIssueFiling.hosting] := by
  have sendable : oneIssueFiling.CanSend oneIssueServer mixedFindings :=
    ⟨by decide +kernel, by decide +kernel⟩
  have plain : oneIssueFiling.client.IsPlainFor oneIssueServer.address :=
    ⟨by decide +kernel, by decide +kernel, ⟨by decide +kernel, by decide, by decide⟩,
      ⟨by decide +kernel, by decide, by decide⟩⟩
  have revisions : ∀ f ∈ mixedFindings, f.expired →
      Attribution.isRevision f.attribution.revision.toList := by decide +kernel
  obtain ⟨-, run, once⟩ := run_spec sendable
  obtain ⟨-, -, -, -, sum, requests⟩ := run (by decide)
  refine ⟨sendable, plain, revisions, answersAtOnce_oneIssueServer,
    (once answersAtOnce_oneIssueServer).1, sum, (requests plain revisions).trans ?_, ?_⟩
  · decide +kernel
  · decide +kernel

/-- A redirection behind an interim answer makes a call take more than its own request, and what
comes of the last one counts. -/
theorem run_of_interim_answer :
    let server : Server := {
      address := "http://t"
      page := Server.pages (.answered 200 "[]") fun _ => .answered 404 "no such commit"
      creation := fun n =>
        if n = 0 then
          .answered 100
            "HTTP/1.1 307 X\r\nLocation: /moved\r\nContent-Length: 0\r\nConnection: close\r\n\r\n"
        else .answered 201 "\x7b\"number\":1002\x7d" }
    let hosting : Hosting := ⟨"https://github.com", "o", "r", "HEAD"⟩
    let filing := Filing.of (Client.of "http://t" "k" hosting) hosting []
    let f : Finding :=
      ⟨"a.py", 1, ⟨.todo, some ⟨2021, 10, 10, by decide⟩, "x"⟩,
        ⟨"bbbbbbbbbbbbbbbbbbbbbbbbbbbbbbbbbbbbbbbb", "B", none, ⟨2023, 5, 11, by decide⟩⟩, true⟩
    let filed := filing.run server [] [f]
    (Exchange.allRequests filed.sent).map Request.method = [.get, .get, .post, .post] ∧
    (Exchange.allRequests filed.sent).map Request.target =
      ["/repos/o/r/issues?state=open&per_page=100",
       "/repos/o/r/commits/bbbbbbbbbbbbbbbbbbbbbbbbbbbbbbbbbbbbbbbb",
       "/repos/o/r/issues", "/moved"] ∧
    filed.tally.created = 1 ∧ filed.tally.failed = 0 := by
  decide +kernel

end Filing

end Overdue
