import Mathlib.Data.List.Basic
import Overdue.Proofs.Tracker.Filing

/-!
# Filing again

An issue mentions the identifier of the finding that it was made for, and the identifier depends on
nothing but the file, the kind and the body of the finding. So a run that finds the issues of
another one in its listing leaves the findings alone that have them.
-/

namespace Overdue

namespace Finding

/-- Two findings have the same comment in the same file, wherever it stands there. -/
def SameComment (f g : Finding) : Prop :=
  f.file = g.file ∧ f.note.kind = g.note.kind ∧ trimmed f.note.body = trimmed g.note.body

lemma SameComment.identifier_eq {f g : Finding} (h : f.SameComment g) :
    f.identifier = g.identifier := by
  obtain ⟨file, kind, body⟩ := h
  simp only [identifier, identifierOf, identifiedText, file, kind, body]

lemma anyExpired_eq_false {findings : List Finding} (h : findings.filter expired = []) :
    anyExpired findings = false := by
  rw [anyExpired, List.any_eq_false]
  exact List.filter_eq_nil_iff.1 h

lemma anyExpired_eq_true {findings : List Finding} (h : findings.filter expired ≠ []) :
    anyExpired findings = true := by
  obtain ⟨f, m⟩ := List.exists_mem_of_ne_nil _ h
  exact List.any_eq_true.2 ⟨f, List.mem_filter.1 m⟩

end Finding

namespace Filing

variable {filing : Filing} {server : Server} {findings : List Finding} {request : Request}
  {issues : List Issue} {log : List Entry} {e : Entry}

/-! ## Listed issues -/

/-- The request for the open issues is answered with a list of them. -/
structure Lists (filing : Filing) (server : Server) (request : Request) (issues : List Issue) :
    Prop where
  built : filing.client.request? server.address .issues = some request
  answered :
    Response.content? Client.decodeIssues (server.answer 0 request).received? = some issues

/-- A listing that is answered takes its own request, and all its issues are seen. -/
lemma Lists.opening_eq (h : filing.Lists server request issues) :
    filing.opening server = [⟨.issues, [request]⟩] ∧ filing.listed server = issues := by
  obtain ⟨answer, received, success⟩ := Response.exists_of_content? h.answered
  have converses := server.converse_spec Client.maxRedirections 0 request
  obtain ⟨requests, response⟩ := converses.of_course_eq_ends
    (Server.course_eq_ends_of_isSuccess received success)
  constructor
  · rw [opening, Client.exchange?, h.built, Option.map_some, requests, Option.toList_some]
  · have result : (filing.client.result server Client.decodeIssues 0 .issues).toOption =
        some issues := by
      rw [Client.result, h.built]
      exact (Client.toOption_outcome _).trans (by rw [response, ← received, h.answered])
    rw [listed, result, Option.getD_some]

/-- A page that can be read is a listing. -/
lemma Lists.of_page {s : List Char}
    (built : filing.client.request? server.address .issues = some request)
    (page : server.page request.target = .answered 200 (String.ofList s))
    (read : (Json.readValue (2 * s.length + 2) s).any fun (v, rest) =>
      rest.isEmpty && Client.decodeIssues v == some issues) :
    filing.Lists server request issues := by
  obtain ⟨⟨v, rest⟩, value, read⟩ := (Option.any_eq_true _ _).1 read
  obtain ⟨ended, decoded⟩ := Bool.and_eq_true_iff.1 read
  have parsed : Json.parse? (String.ofList s) = some v := by
    rw [Json.parse?, String.toList_ofList]
    simp only [value, List.isEmpty_iff.1 ended]
    rfl
  have answer : server.answer 0 request = .answered 200 (String.ofList s) := by
    rw [Server.answer, (Client.method_and_body_of_request? built).1]
    exact page
  have received : (server.answer 0 request).received? = some ⟨200, none, String.ofList s⟩ := by
    rw [answer]
    rfl
  refine ⟨built, ?_⟩
  rw [received]
  show (Json.parse? (String.ofList s)).bind Client.decodeIssues = some issues
  rw [parsed]
  exact eq_of_beq decoded

lemma Lists.allRequests_run (h : filing.Lists server request issues) (findings : List Finding) :
    Exchange.allRequests (filing.run server [] findings).sent =
      if anyExpired findings then
        request :: Exchange.allRequests (sentIn (filing.log server findings))
      else [] := by
  rcases eq_or_ne (findings.filter Finding.expired) [] with none | some
  · rw [run_of_none_expired none, Finding.anyExpired_eq_false none]
    rfl
  · rw [(reflects_run some).sent, h.opening_eq.1, Finding.anyExpired_eq_true some]
    rfl

lemma skipped_of_mentions (m : e ∈ filing.log server findings) {issue : Issue}
    (listed : issue ∈ filing.listed server) (mentions : issue.mentions e.finding.identifier) :
    e.isSkipped ∧ e.sent = [] := by
  obtain ⟨before, here⟩ := exists_prefix_of_mem m
  rw [eq_entry_of_concat here, entry, if_pos (isTracked_iff.2 (.inr ⟨issue, listed, mentions⟩))]
  exact ⟨rfl, rfl⟩

/-! ## Issues that are kept -/

/-- For all that was created by a log, some issues have what was posted. -/
def Keeps (issues : List Issue) (log : List Entry) : Prop :=
  ∀ e ∈ log, e.isCreated → ∀ r ∈ Exchange.allRequests e.sent, r.isCreation →
    ∃ issue ∈ issues, issue.HasPosted r

lemma exists_asksFor_of_attempt {creations : Nat} {f : Finding}
    (created : (filing.attempt server creations f).isCreated) :
    ∃ r ∈ Exchange.allRequests (filing.attempt server creations f).sent,
      r.isCreation ∧ filing.AsksFor r f := by
  cases made : filing.client.result server Issue.ofJson? creations
      (filing.creation server creations f) with
  | error cause =>
    rw [attempt, Entry.isCreated, made] at created
    cases created
  | ok issue =>
    obtain ⟨x, found⟩ := Client.exists_exchange?_of_result made
    obtain ⟨call, response, ⟨request, built, converses⟩, -⟩ := Client.exists_of_exchange? found
    obtain ⟨led, requests⟩ := converses.exists_eq_cons
    have own : request ∈ x.requests := by
      rw [requests]
      exact List.mem_cons_self
    have creation : request.isCreation := by
      rw [Request.isCreation, (Client.method_and_body_of_request? built).1, call]
      rfl
    refine ⟨request, ?_, creation, asksFor_of_exchange? found own creation⟩
    rw [attempt, found]
    exact List.mem_flatMap.2 ⟨x, List.mem_append_right _ List.mem_cons_self, own⟩

/-- Issues that keep what was created mention the identifiers of its findings. -/
lemma Keeps.mentions (h : Keeps issues (filing.log server findings))
    (m : e ∈ filing.log server findings) (created : e.isCreated) :
    ∃ issue ∈ issues, issue.mentions e.finding.identifier := by
  have asked : ∃ r ∈ Exchange.allRequests e.sent, r.isCreation ∧ filing.AsksFor r e.finding := by
    obtain ⟨before, here⟩ := exists_prefix_of_mem m
    have eq := eq_entry_of_concat here
    rw [entry] at eq
    split at eq
    case isTrue =>
      rw [eq] at created
      cases created
    case isFalse =>
      rw [eq] at created
      rw [eq]
      exact exists_asksFor_of_attempt created
  obtain ⟨r, posted, creation, asks⟩ := asked
  obtain ⟨issue, kept, made⟩ := h e m created r posted creation
  exact ⟨issue, kept, asks.mentions made⟩

/-- If the issues that were listed are kept as well, only of findings that failed none is known. -/
lemma Keeps.mentions_of_not_isFailed (h : Keeps issues (filing.log server findings))
    (listed : ∀ issue ∈ filing.listed server, issue ∈ issues)
    (m : e ∈ filing.log server findings) (succeeded : ¬e.isFailed) :
    ∃ issue ∈ issues, issue.mentions e.finding.identifier := by
  obtain ⟨before, here⟩ := exists_prefix_of_mem m
  have eq := eq_entry_of_concat here
  rw [entry] at eq
  split at eq
  case isTrue tracked =>
    rcases isTracked_iff.1 tracked with filed | ⟨issue, found, mentions⟩
    · obtain ⟨e', member, created, same⟩ := mem_filedIn.1 filed
      rw [← same]
      exact h.mentions (here.subset (List.mem_append_left _ member)) created
    · exact ⟨issue, listed issue found, mentions⟩
  case isFalse =>
    refine h.mentions m ?_
    rw [eq] at succeeded ⊢
    rw [(Entry.isCreated_iff rfl).2] at succeeded
    rw [(Entry.isCreated_iff rfl).1, Option.isSome_iff_ne_none]
    exact succeeded

/-! ## Two runs -/

variable {first second : Filing} {server' : Server}

/-- Whatever a run lists that keeps the issues of another one, it takes nothing for a finding with
the comment of one that got its issue there. If none failed there and the issues are kept that were
listed there, the run takes nothing but its listing for the same findings. -/
theorem skipped_of_keeps (lists : second.Lists server' request issues)
    (keeps : Keeps issues (first.log server findings)) (findings' : List Finding) :
    let filed := second.run server' [] findings'
    let log := second.log server' findings'
    (log.map Entry.finding = findings'.filter Finding.expired ∧ filed.tally = tallyOf log ∧
      Exchange.allRequests filed.sent =
        if anyExpired findings' then request :: Exchange.allRequests (sentIn log) else []) ∧
    (∀ e ∈ log, (∃ e' ∈ first.log server findings, e'.isCreated ∧
      e'.finding.SameComment e.finding) → e.isSkipped ∧ e.sent = []) ∧
    ((first.run server [] findings).tally.failed = 0 →
      (∀ issue ∈ first.listed server, issue ∈ issues) →
        Exchange.allRequests (second.run server' [] findings).sent =
          if anyExpired findings then [request] else []) := by
  intro filed log
  have seen : second.listed server' = issues := lists.opening_eq.2
  refine ⟨⟨map_finding_log _ _ _, tally_run _ _ _, lists.allRequests_run _⟩, ?_, ?_⟩
  · rintro e m ⟨e', member, created, same⟩
    obtain ⟨issue, kept, mentions⟩ := keeps.mentions member created
    rw [same.identifier_eq] at mentions
    exact skipped_of_mentions m (seen ▸ kept) mentions
  · intro failed listed
    rw [tally_run, tallyOf, List.countP_eq_zero] at failed
    -- every finding has its entry in both logs, and did not fail in the first one
    have silent : sentIn (second.log server' findings) = [] := by
      refine List.flatMap_eq_nil_iff.2 fun e m => ?_
      have expired : e.finding ∈ (first.log server findings).map Entry.finding := by
        rw [map_finding_log]
        exact finding_mem_of_mem_log m
      obtain ⟨e', member, same⟩ := List.mem_map.1 expired
      obtain ⟨issue, kept, mentions⟩ :=
        keeps.mentions_of_not_isFailed listed member (failed e' member)
      rw [same] at mentions
      exact (skipped_of_mentions m (seen ▸ kept) mentions).2
    rw [lists.allRequests_run, silent]
    rfl

theorem skipped_of_moved_finding :
    let server : Server := {
      address := "http://t"
      page := Server.pages (.answered 200 "[]") fun _ => .answered 404 "no such commit"
      creation := fun _ => .answered 201 "\x7b\"number\":1002\x7d" }
    let hosting : Hosting := ⟨"http://g", "o", "r", "HEAD"⟩
    let filing := Filing.of (Client.of "http://t" "k" hosting) hosting []
    let f : Finding :=
      ⟨"a.py", 1, ⟨.todo, some ⟨2021, 10, 10, by decide⟩, "x"⟩,
        ⟨"bbbbbbbbbbbbbbbbbbbbbbbbbbbbbbbbbbbbbbbb", "B", none, ⟨2023, 5, 11, by decide⟩⟩, true⟩
    let issue : Issue :=
      ⟨1002, "[TODO] Expired: a.py:1", some (f.issueBody f.identifier "B" hosting)⟩
    let body := (f.issueLines f.identifier "B" hosting).flatMap fun line => line.toList ++ ['\n']
    let page :=
      "[\x7b\"number\":1002,\"title\":\"[TODO] Expired: a.py:1\",\"body\":\"".toList ++
        body.flatMap Json.escapeChar ++ "\"\x7d]".toList
    let server' : Server := {
      address := "http://t"
      page := fun _ => .answered 200 (String.ofList page)
      creation := fun _ => .dropped }
    ∃ request, filing.Lists server' request [issue] ∧ Keeps [issue] (filing.log server [f]) ∧
      (∀ e ∈ filing.log server' [{ f with line := 7 }], e.isSkipped) ∧
      Exchange.allRequests (filing.run server' [] [f]).sent = [request] := by
  intro server hosting filing f issue body page server'
  have built : (filing.client.request? server'.address .issues).isSome := by decide +kernel
  obtain ⟨request, built⟩ := Option.isSome_iff_exists.1 built
  obtain ⟨read, posted, created, failed, listed⟩ :
      ((Json.readValue (2 * page.length + 2) page).any fun (v, rest) =>
        rest.isEmpty && Client.decodeIssues v == some [issue]) ∧
      (∀ r ∈ Exchange.allRequests (sentIn (filing.log server [f])), r.isCreation →
        ∃ issue' ∈ [issue], issue'.HasPosted r) ∧
      (filing.run server [] [f]).tally.created = 1 ∧
      (filing.run server [] [f]).tally.failed = 0 ∧ filing.listed server = [] := by decide +kernel
  have lists : filing.Lists server' request [issue] := .of_page built rfl read
  have keeps : Keeps [issue] (filing.log server [f]) := by
    intro e m _ r member
    obtain ⟨x, sent, member⟩ := List.mem_flatMap.1 member
    exact posted r (List.mem_flatMap.2 ⟨x, List.mem_flatMap.2 ⟨e, m, sent⟩, member⟩)
  have filed : ∃ e ∈ filing.log server [f], e.isCreated := by
    rw [tally_run, tallyOf] at created
    exact List.countP_pos_iff.1 (Nat.lt_of_lt_of_eq Nat.one_pos created.symm)
  obtain ⟨-, skipped, again⟩ := skipped_of_keeps lists keeps [{ f with line := 7 }]
  refine ⟨request, lists, keeps, fun e m => ?_, again failed fun issue m => ?_⟩
  · obtain ⟨e', m', created'⟩ := filed
    have own : e'.finding = f := List.mem_singleton.1 (finding_mem_of_mem_log m')
    have moved : e.finding = { f with line := 7 } := List.mem_singleton.1 (finding_mem_of_mem_log m)
    refine (skipped e m ⟨e', m', created', ?_⟩).1
    rw [own, moved]
    exact ⟨rfl, rfl, rfl⟩
  · rw [listed] at m
    cases m

end Filing

end Overdue
