import Overdue.Proofs.Text.Blank
import Overdue.Proofs.Tracker.Filing

/-!
# What requests are authorized by

All requests of a run carry what its client grants access with, those that redirections lead to
included (`authorization_of_mem_run`). And a run sends some just if there is a request for something
that it may ask for (`allRequests_run_ne_nil_iff`).
-/

namespace Overdue

open Text

/-! ## Tokens -/

/-- A token of printable ASCII characters, none of which is a space. -/
def IsSolid (token : String) : Prop :=
  ∀ c ∈ token.toList, 0x20 < c.toNat ∧ c.toNat < 0x7F

lemma Request.authorization_redirected (request : Request) (again : Bool) (target : String) :
    (request.redirected again target).authorization = request.authorization := by
  cases again <;> rfl

lemma Server.Converses.authorization_of_mem {server : Server} {room creations : Nat}
    {request : Request} {requests : List Request} {response : Option Response}
    (h : server.Converses room creations request requests response) :
    ∀ r ∈ requests, r.authorization = request.authorization := by
  induction h with
  | ends _ => exact List.forall_mem_singleton.2 rfl
  | stops _ => exact List.forall_mem_singleton.2 rfl
  | leads course _ ih =>
    obtain ⟨_, -, -, -, target, rfl⟩ := course_eq_goesOn course
    rw [Request.authorization_redirected] at ih
    exact List.forall_mem_cons.2 ⟨rfl, ih⟩

namespace Client

variable {c : Client} {server : Server} {creations : Nat} {call : Call} {x : Exchange}

lemma hasUsableToken_of_isSolid (solid : IsSolid c.token) : c.hasUsableToken := by
  rw [hasUsableToken, List.all_eq_true]
  intro a mem
  obtain ⟨above, below⟩ := solid a mem
  simp only [Bool.or_eq_true, Bool.and_eq_true, decide_eq_true_eq, bne_iff_ne]
  omega

/-- Nothing is cut off behind a token that does not end in a space. -/
lemma authorization_of_isSolid (solid : IsSolid c.token) (ne_empty : c.token ≠ "") :
    c.authorization = "Bearer " ++ c.token := by
  rcases List.eq_nil_or_concat' c.token.toList with none | ⟨s, last, chars⟩
  · exact absurd (String.toList_eq_nil_iff.1 none) ne_empty
  · have above : 0x20 < last.toNat := (solid last (by simp [chars])).1
    have kept : (last == ' ' || last == '\t') = false := by
      rw [Bool.or_eq_false_iff, beq_eq_false_iff_ne, beq_eq_false_iff_ne]
      refine ⟨?_, ?_⟩ <;>
      · rintro rfl
        exact absurd above (by decide)
    rw [← String.toList_inj, authorization, String.toList_ofList, String.toList_append, chars,
      ← List.append_assoc, dropEnding_append_cons kept, dropEnding]

lemma authorization_of_request? {address : String} {request : Request}
    (h : c.request? address call = some request) : request.authorization = c.authorization := by
  obtain ⟨target, -, built⟩ := Option.bind_eq_some_iff.1 h
  obtain ⟨-, same⟩ := Option.ite_none_right_eq_some.1 built
  cases same
  rfl

lemma authorization_of_exchange? (h : c.exchange? server creations call = some x) :
    ∀ r ∈ x.requests, r.authorization = c.authorization := by
  obtain ⟨-, response, ⟨request, built, converses⟩, -⟩ := exists_of_exchange? h
  rw [← authorization_of_request? built]
  exact converses.authorization_of_mem

lemma requests_ne_nil_of_exchange? (h : c.exchange? server creations call = some x) :
    x.requests ≠ [] := by
  obtain ⟨-, response, ⟨request, built, converses⟩, -⟩ := exists_of_exchange? h
  obtain ⟨led, requests⟩ := converses.exists_eq_cons
  rw [requests]
  exact List.cons_ne_nil _ _

/-- Whether an issue can be posted does not depend on the issue. -/
lemma request?_create_eq_none {address : String} {draft : Draft}
    (h : c.request? address (.create draft) = none) (draft' : Draft) :
    c.request? address (.create draft') = none := by
  rw [← Option.not_isSome_iff_eq_none, isSome_request?_iff] at h ⊢
  exact h

lemma exchange?_eq_none_iff :
    c.exchange? server creations call = none ↔ c.request? server.address call = none :=
  Option.map_eq_none_iff

end Client

/-! ## Runs -/

namespace Filing

/-- What may be asked for to file the issues of some findings. -/
inductive Asks (findings : List Finding) : Call → Prop where
  | issues : Asks findings .issues
  | commit {f : Finding} : f ∈ findings.filter Finding.expired →
      Asks findings (.commit f.attribution.revision)
  | create {draft : Draft} : Asks findings (.create draft)

variable {filing : Filing} {server : Server} {findings : List Finding} {x : Exchange}

lemma exists_exchange?_of_mem_entry {before : List Entry} {f : Finding}
    (expired : f ∈ findings.filter Finding.expired) (mem : x ∈ (filing.entry server before f).sent) :
    ∃ creations call, Asks findings call ∧
      filing.client.exchange? server creations call = some x := by
  rw [entry] at mem
  split at mem
  case isTrue => cases mem
  case isFalse =>
    rw [attempt, List.mem_append, Option.mem_toList, Option.mem_toList] at mem
    rcases mem with asked | made
    · exact ⟨_, _, .commit expired, asked⟩
    · exact ⟨_, _, .create, made⟩

/-- All that a run sends is asked for. -/
lemma exists_exchange?_of_mem_run (mem : x ∈ (filing.run server [] findings).sent) :
    ∃ creations call, Asks findings call ∧
      filing.client.exchange? server creations call = some x := by
  rcases eq_or_ne (findings.filter Finding.expired) [] with none | some
  · rw [run_of_none_expired none] at mem
    cases mem
  · rw [(reflects_run some).sent, List.mem_append] at mem
    rcases mem with listing | later
    · exact ⟨_, _, .issues, Option.mem_toList.1 listing⟩
    · obtain ⟨e, logged, mem⟩ := List.mem_flatMap.1 later
      obtain ⟨before, here⟩ := exists_prefix_of_mem logged
      rw [eq_entry_of_concat here] at mem
      exact exists_exchange?_of_mem_entry (finding_mem_of_mem_log logged) mem

lemma authorization_of_mem_run :
    ∀ r ∈ Exchange.allRequests (filing.run server [] findings).sent,
      r.authorization = filing.client.authorization := by
  intro r mem
  obtain ⟨x, sent, mem⟩ := List.mem_flatMap.1 mem
  obtain ⟨creations, call, -, found⟩ := exists_exchange?_of_mem_run sent
  exact Client.authorization_of_exchange? found r mem

/-- An issue is made by an exchange. -/
lemma sent_ne_nil_of_isCreated {e : Entry} (mem : e ∈ filing.log server findings)
    (created : e.isCreated) : e.sent ≠ [] := by
  obtain ⟨before, here⟩ := exists_prefix_of_mem mem
  rw [eq_entry_of_concat here, entry] at created ⊢
  split at created
  case isTrue => cases created
  case isFalse untracked =>
    rw [if_neg untracked]
    cases made : filing.client.result server Issue.ofJson? (Exchange.countCreations (sentIn before))
        (filing.creation server (Exchange.countCreations (sentIn before)) e.finding) with
    | error cause =>
      rw [attempt, Entry.isCreated, made] at created
      cases created
    | ok issue =>
      obtain ⟨x, found⟩ := Client.exists_exchange?_of_result made
      rw [attempt, found]
      simp

/-- A finding behind some for which nothing was sent is not known, and so its issue is attempted. -/
lemma sent_eq_of_mem_log (unlisted : filing.listed server = [])
    (unsent : sentIn (filing.log server findings) = []) {e : Entry}
    (mem : e ∈ filing.log server findings) :
    ∃ creations, e = filing.attempt server creations e.finding := by
  obtain ⟨before, here⟩ := exists_prefix_of_mem mem
  have unfiled : filedIn before = [] := by
    rw [filedIn, List.map_eq_nil_iff, List.filter_eq_nil_iff]
    intro e' mem' created
    have logged : e' ∈ filing.log server findings := here.subset (List.mem_append_left _ mem')
    exact sent_ne_nil_of_isCreated logged created (List.flatMap_eq_nil_iff.1 unsent e' logged)
  have untracked : ¬isTracked (filing.listed server) (filedIn before) e.finding.identifier := by
    rw [isTracked_iff, unfiled, unlisted]
    simp
  refine ⟨Exchange.countCreations (sentIn before), ?_⟩
  have entry := eq_entry_of_concat here
  rwa [Filing.entry, if_neg untracked] at entry

/-- If a run sends nothing, there is no request for anything that it may ask for. -/
lemma request?_eq_none_of_sent_eq_nil (some : findings.filter Finding.expired ≠ [])
    (nothing : (filing.run server [] findings).sent = []) {call : Call} (asked : Asks findings call) :
    filing.client.request? server.address call = none := by
  rw [(reflects_run some).sent, List.append_eq_nil_iff] at nothing
  obtain ⟨unopened, unsent⟩ := nothing
  have listing : filing.client.request? server.address .issues = none :=
    Client.exchange?_eq_none_iff.1 (Option.toList_eq_nil_iff.1 unopened)
  have unlisted : filing.listed server = [] := by
    rw [listed, Client.result, listing]
    rfl
  have attempts : ∀ f ∈ findings.filter Finding.expired,
      filing.client.request? server.address (.commit f.attribution.revision) = none ∧
        ∀ draft, filing.client.request? server.address (.create draft) = none := by
    intro f expired
    rw [← map_finding_log filing server, List.mem_map] at expired
    obtain ⟨e, mem, rfl⟩ := expired
    obtain ⟨creations, same⟩ := sent_eq_of_mem_log unlisted unsent mem
    have sent : e.sent = [] := List.flatMap_eq_nil_iff.1 unsent e mem
    rw [same, attempt, List.append_eq_nil_iff, Option.toList_eq_nil_iff, Option.toList_eq_nil_iff]
      at sent
    exact ⟨Client.exchange?_eq_none_iff.1 sent.1,
      Client.request?_create_eq_none (Client.exchange?_eq_none_iff.1 sent.2)⟩
  cases asked with
  | issues => exact listing
  | commit expired => exact (attempts _ expired).1
  | create =>
    obtain ⟨f, expired⟩ := List.exists_mem_of_ne_nil _ some
    exact (attempts f expired).2 _

/-- A run sends requests just if there is one for something that it may ask for. -/
lemma allRequests_run_ne_nil_iff (some : findings.filter Finding.expired ≠ []) :
    Exchange.allRequests (filing.run server [] findings).sent ≠ [] ↔
      ∃ call, Asks findings call ∧ (filing.client.request? server.address call).isSome := by
  constructor
  · intro requests
    by_contra none
    refine requests (List.flatMap_eq_nil_iff.2 fun x sent => ?_)
    obtain ⟨creations, call, asked, found⟩ := exists_exchange?_of_mem_run sent
    refine absurd ⟨call, asked, ?_⟩ none
    rw [← Option.ne_none_iff_isSome]
    intro unsent
    rw [Client.exchange?_eq_none_iff.2 unsent] at found
    cases found
  · rintro ⟨call, asked, built⟩ nothing
    have unsent : (filing.run server [] findings).sent = [] := by
      rw [List.eq_nil_iff_forall_not_mem]
      intro x sent
      obtain ⟨creations, call, -, found⟩ := exists_exchange?_of_mem_run sent
      exact Client.requests_ne_nil_of_exchange? found (List.flatMap_eq_nil_iff.1 nothing x sent)
    rw [request?_eq_none_of_sent_eq_nil some unsent asked] at built
    cases built

end Filing

end Overdue
