import Overdue.Proofs.Tracker.Account
import Overdue.Proofs.Tracker.Filing
import Overdue.Proofs.Tracker.Target

/-!
# Assignees

The account that a commit belongs to is assigned to the issue and named as its author, and so is
nobody and the author of the blame record where no account is known. Whatever comes of the question
about the commit, the issue is posted (`posts_issue`).
-/

namespace Overdue

/-- What a request says under a name in the object that it posts. -/
def Request.says? (r : Request) (name : String) : Option Json.Member :=
  (r.body.bind Json.object?).map fun members => Json.member members name

namespace Filing

variable {filing : Filing} {server : Server} {findings : List Finding}

/-- A request posts the issue of a finding, with some accounts as its assignees and with an author
in the line for it. -/
structure Credits (filing : Filing) (r : Request) (f : Finding) (assigned : Json.Member)
    (author : String) : Prop where
  method : r.method = .post
  assignees : r.says? "assignees" = some assigned
  body : r.posted? "body" = some (f.issueAbove f.identifier filing.hosting ++ "- **Author**: " ++
    author ++ "\n" ++ f.issueBelow f.identifier filing.hosting)

/-- What a draft says of its assignees. -/
def assigned : Option String → Json.Member
  | some login => .only (.array [.string login])
  | none => .missing

lemma credits_of_body {r : Request} {f : Finding} {login : Option String} (method : r.method = .post)
    (body : r.body = some (filing.draft f login).toJson) :
    filing.Credits r f (assigned login) (f.mention login) := by
  refine ⟨method, ?_, ?_⟩
  · rw [Request.says?, body]
    cases login <;> rfl
  · rw [Request.posted?_eq_body body, draft, Finding.issueBody_eq]

lemma exists_post {creations : Nat} {x : Exchange} {answer : Option Response} {f : Finding}
    {login : Option String} (conducts : filing.client.Conducts server creations x answer)
    (call : x.call = .create (filing.draft f login)) :
    ∃ post, x.requests.head? = some post ∧ filing.Credits post f (assigned login) (f.mention login) := by
  obtain ⟨post, built, converses⟩ := conducts
  obtain ⟨led, requests⟩ := converses.exists_eq_cons
  obtain ⟨method, body⟩ := Client.method_and_body_of_request? built
  rw [call] at method body
  exact ⟨post, by rw [requests, List.head?_cons], credits_of_body method body⟩

lemma sent_infix_run {before : List Entry} {e : Entry}
    (here : before ++ [e] <+: filing.log server findings) :
    e.sent <:+: (filing.run server [] findings).sent := by
  have some : findings.filter Finding.expired ≠ [] := by
    intro none
    rw [log_of_none_expired none, List.prefix_nil] at here
    simp at here
  obtain ⟨after, log⟩ := here
  rw [(reflects_run some).sent, ← log, sentIn_append, sentIn_append]
  exact ⟨filing.opening server ++ sentIn before, sentIn after, by simp [sentIn]⟩

/-- Whatever the call for a commit comes to, the issue is posted right behind it: assigned to the
account that the commit belongs to and with it as the author, if the reply names one, else assigned
to nobody and with the author of the blame record. Where the request for the commit is answered at
once, the call is this request and the reply is the answer to it. -/
theorem posts_issue (issues : (filing.client.request? server.address .issues).isSome) :
    (filing.log server findings).map Entry.finding = findings.filter Finding.expired ∧
    (filing.run server [] findings).tally = tallyOf (filing.log server findings) ∧
    ∀ before e request, before ++ [e] <+: filing.log server findings → ¬e.isSkipped →
      filing.client.request? server.address (.commit e.finding.attribution.revision) = some request →
      e.sent <:+: (filing.run server [] findings).sent ∧
      ∃ asking making reply post, e.sent = [asking, making] ∧
        server.Converses Client.maxRedirections (Exchange.countCreations (sentIn before)) request
          asking.requests reply ∧
        making.requests.head? = some post ∧
        (∀ login, Response.NamesOwner reply login →
          filing.Credits post e.finding (.only (.array [.string login])) ("@" ++ login)) ∧
        ((∀ login, ¬Response.NamesOwner reply login) →
          filing.Credits post e.finding .missing
            (if e.finding.attribution.author = "" then "Unknown"
              else e.finding.attribution.author)) ∧
        ((server.page request.target).IsFinal →
          asking.requests = [request] ∧ reply = (server.page request.target).received?) := by
  refine ⟨map_finding_log _ _ _, tally_run _ _ _, fun before e request here unskipped built => ?_⟩
  have asked : (filing.client.request? server.address
      (.commit e.finding.attribution.revision)).isSome := Option.isSome_of_eq_some built
  have same : e = filing.entry server before e.finding := eq_entry_of_concat here
  rw [same] at unskipped
  -- for a finding without an issue both calls are made, whatever the first one comes to
  obtain ⟨asking, making, reply, answer, sent, call, conducts, call', conducts', -⟩ :=
    exists_calls asked (fun draft => Client.isSome_request?_create draft issues asked) unskipped
  rw [← same] at sent
  obtain ⟨post, first, credits⟩ := exists_post conducts' call'
  have own : filing.client.request? server.address asking.call = some request := by rw [call, built]
  refine ⟨?_, asking, making, reply, post, sent, ?_, first, fun login owner => ?_, fun nobody => ?_,
    fun final => ?_⟩
  · exact sent_infix_run here
  · obtain ⟨request', built', converses⟩ := conducts
    rw [own, Option.some.injEq] at built'
    exact built' ▸ converses
  · rwa [Response.join_content?_eq_some_iff.2 owner] at credits
  · have unnamed : (Response.content? Account.ofCommit? reply).join = none := by
      rw [Option.eq_none_iff_forall_ne_some]
      exact fun login owner => nobody login (Response.join_content?_eq_some_iff.1 owner)
    have author : e.finding.mention none = if e.finding.attribution.author = "" then "Unknown"
        else e.finding.attribution.author := by
      rw [Finding.mention]
      exact if_congr String.isEmpty_iff rfl rfl
    rwa [unnamed, author] at credits
  · have get : request.method = .get := (Client.method_and_body_of_request? built).1
    have page (creations : Nat) : server.answer creations request = server.page request.target := by
      rw [Server.answer, get]
    obtain ⟨requests, response⟩ := conducts.of_isFinal own ((page _).symm ▸ final)
    exact ⟨requests, response.trans (by rw [page])⟩

theorem posts_issue_of_linked_author :
    let server : Server := {
      address := "http://t"
      page := Server.pages (.answered 200 "[]") fun _ =>
        .answered 200 "\x7b\"author\":\x7b\"login\":\"c\"\x7d\x7d"
      creation := fun _ => .answered 201 "\x7b\"number\":1002\x7d" }
    let hosting : Hosting := ⟨"https://github.com", "o", "r", "HEAD"⟩
    let filing := Filing.of (Client.of "http://t" "k" hosting) hosting []
    let f : Finding :=
      ⟨"a.py", 1, ⟨.todo, some ⟨2021, 10, 10, by decide⟩, "x"⟩,
        ⟨"bbbbbbbbbbbbbbbbbbbbbbbbbbbbbbbbbbbbbbbb", "B", none, ⟨2023, 5, 11, by decide⟩⟩, true⟩
    (filing.client.request? server.address .issues).isSome ∧
      ∃ post ∈ Exchange.allRequests (filing.run server [] [f]).sent,
        filing.Credits post f (.only (.array [.string "c"])) "@c" := by
  intro server hosting filing f
  obtain ⟨issues, asked, target, unskipped⟩ :
      (filing.client.request? server.address .issues).isSome ∧
      (filing.client.request? server.address (.commit f.attribution.revision)).isSome ∧
      (filing.client.request? server.address (.commit f.attribution.revision)).map Request.target =
        some "/repos/o/r/commits/bbbbbbbbbbbbbbbbbbbbbbbbbbbbbbbbbbbbbbbb" ∧
      ¬(filing.entry server [] f).isSkipped := by decide +kernel
  obtain ⟨request, built⟩ := Option.isSome_iff_exists.1 asked
  rw [built, Option.map_some, Option.some.injEq] at target
  have own : (filing.entry server [] f).finding = f := finding_entry [] f
  have here : [] ++ [filing.entry server [] f] <+: filing.log server [f] := ⟨[], rfl⟩
  obtain ⟨inRun, asking, making, reply, post, sent, -, first, credited, -, atOnce⟩ :=
    (posts_issue issues).2.2 _ _ request here unskipped (own.symm ▸ built)
  have final : (server.page request.target).IsFinal := by
    rw [target]
    rintro _ _ ⟨⟩
    rfl
  have owner : Response.NamesOwner reply "c" := by
    rw [(atOnce final).2, target, ← Response.join_content?_eq_some_iff]
    decide +kernel
  have credits := credited "c" owner
  rw [own] at credits
  refine ⟨issues, post, List.mem_flatMap.2 ⟨making, inRun.subset ?_, List.mem_of_head? first⟩, credits⟩
  rw [sent]
  exact List.mem_cons_of_mem _ List.mem_cons_self

/-- A redirection behind an interim answer leads the question about the commit to an account, which
the reply to the question does not name. -/
theorem author_of_redirected_question :
    let server : Server := {
      address := "http://t"
      page := Server.pages (.answered 200 "[]") fun revision =>
        if revision = "bbbbbbbbbbbbbbbbbbbbbbbbbbbbbbbbbbbbbbbb" then
          .answered 100 ("HTTP/1.1 301 Moved\r\n" ++
            "Location: /repos/o/r/commits/cccccccccccccccccccccccccccccccccccccccc\r\n" ++
            "Content-Length: 0\r\nConnection: close\r\n\r\n")
        else .answered 200 "\x7b\"author\":\x7b\"login\":\"c\"\x7d\x7d"
      creation := fun _ => .answered 201 "\x7b\"number\":1002\x7d" }
    let hosting : Hosting := ⟨"https://github.com", "o", "r", "HEAD"⟩
    let filing := Filing.of (Client.of "http://t" "k" hosting) hosting []
    let f : Finding :=
      ⟨"a.py", 1, ⟨.todo, some ⟨2021, 10, 10, by decide⟩, "x"⟩,
        ⟨"bbbbbbbbbbbbbbbbbbbbbbbbbbbbbbbbbbbbbbbb", "B", none, ⟨2023, 5, 11, by decide⟩⟩, true⟩
    let filed := filing.run server [] [f]
    (server.page "/repos/o/r/commits/bbbbbbbbbbbbbbbbbbbbbbbbbbbbbbbbbbbbbbbb").received?.map
        Response.status = some 301 ∧
    filed.tally.skipped = 0 ∧
    (Exchange.allRequests filed.sent).map Request.target =
      ["/repos/o/r/issues?state=open&per_page=100",
       "/repos/o/r/commits/bbbbbbbbbbbbbbbbbbbbbbbbbbbbbbbbbbbbbbbb",
       "/repos/o/r/commits/cccccccccccccccccccccccccccccccccccccccc",
       "/repos/o/r/issues"] ∧
    ∃ post ∈ Exchange.allRequests filed.sent, post.method = .post ∧
      post.posted? "body" = some (f.issueBody f.identifier "@c" hosting) := by
  decide +kernel

end Filing

end Overdue
