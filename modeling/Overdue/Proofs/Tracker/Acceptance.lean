import Mathlib.Data.List.Basic
import Overdue.Proofs.Tracker.Filing

/-!
# Accepted creations

A tracker may accept a creation and yet answer it with something that cannot be read. The finding
then counts as one without an issue, so that another one with its identifier is filed once more.
Nothing else makes a tracker accept two issues for one identifier in a run.
-/

namespace Overdue

namespace Filing

variable {filing : Filing} {server : Server} {log : List Entry} {findings : List Finding}

/-- Two requests are for findings with the same identifier. -/
def AskForSame (filing : Filing) (r s : Request) : Prop :=
  ∃ f g, filing.AsksFor r f ∧ filing.AsksFor s g ∧ f.identifier = g.identifier

/-- The answer to an accepted creation tells of no issue. -/
def IsUnreadable (post : Request × Response) : Prop :=
  Response.content? Issue.ofJson? (some post.2) = none

/-- The creations of some exchanges that are accepted. -/
def acceptedIn (server : Server) (sent : List Exchange) : List (Request × Response) :=
  server.accepted 0 (Exchange.allRequests sent)

lemma acceptedIn_append (xs ys : List Exchange) : acceptedIn server (xs ++ ys) =
    acceptedIn server xs ++
      server.accepted (Exchange.countCreations xs) (Exchange.allRequests ys) := by
  rw [acceptedIn, Exchange.allRequests_append, Server.accepted_append, Nat.zero_add]
  rfl

/-- The attempt to make an issue is accepted at most once, and the finding gets its issue if the
answer can be read. -/
lemma accepted_attempt (filing : Filing) (server : Server) (creations : Nat) (f : Finding) :
    server.accepted creations (Exchange.allRequests (filing.attempt server creations f).sent) = [] ∨
      ∃ post, server.accepted creations
          (Exchange.allRequests (filing.attempt server creations f).sent) = [post] ∧
        filing.AsksFor post.1 f ∧
        (¬IsUnreadable post → (filing.attempt server creations f).isCreated) := by
  have asks : Exchange.countCreations
      (filing.client.exchange? server creations (.commit f.attribution.revision)).toList = 0 :=
    Client.countCreations_exchange? rfl
  rw [attempt, Exchange.allRequests_append, Server.accepted_append, Server.accepted_eq_nil asks,
    List.nil_append, show List.countP _ _ = 0 from asks, Nat.add_zero]
  cases found : filing.client.exchange? server creations (filing.creation server creations f) with
  | none => exact .inl rfl
  | some x =>
    obtain ⟨-, response, ⟨request, -, converses⟩, result⟩ := Client.exists_of_exchange? found
    rw [Option.toList_some, Exchange.allRequests, List.flatMap_singleton]
    rcases converses.accepted with none | ⟨last, answer, one, rfl⟩
    · exact .inl none
    · have m : (last, answer) ∈ server.accepted creations x.requests := by
        rw [one]
        exact List.mem_cons_self
      obtain ⟨member, creation⟩ := Server.mem_of_mem_accepted m
      refine .inr ⟨(last, answer), one, asksFor_of_exchange? found member creation, ?_⟩
      intro readable
      rw [(Entry.isCreated_iff rfl).1, result, Option.isSome_iff_ne_none]
      exact readable

/-- What a log tells of the creations that were accepted. -/
structure Accounts (filing : Filing) (server : Server) (log : List Entry) : Prop where
  asks : ∀ post ∈ acceptedIn server (sentIn log), ∃ e ∈ log,
    filing.AsksFor post.1 e.finding ∧ (¬IsUnreadable post → e.isCreated)
  apart : (acceptedIn server (sentIn log)).Pairwise fun a b =>
    filing.AskForSame a.1 b.1 → IsUnreadable a

lemma Accounts.extend (h : filing.Accounts server log) (f : Finding) :
    filing.Accounts server (filing.extend server log f) := by
  have older {post : Request × Response} {e : Entry} (m : post ∈ acceptedIn server (sentIn log)) :
      ∃ e' ∈ log ++ [e], filing.AsksFor post.1 e'.finding ∧ (¬IsUnreadable post → e'.isCreated) := by
    obtain ⟨e', m, asks⟩ := h.asks post m
    exact ⟨e', List.mem_append_left _ m, asks⟩
  have grown (e : Entry) : acceptedIn server (sentIn (log ++ [e])) =
      acceptedIn server (sentIn log) ++ server.accepted
        (Exchange.countCreations (sentIn log)) (Exchange.allRequests e.sent) := by
    rw [sentIn_append, acceptedIn_append, sentIn, sentIn, List.flatMap_singleton]
  rw [Filing.extend, entry]
  split
  case isTrue tracked =>
    constructor
    · intro post m
      rw [grown, Exchange.allRequests_nil, Server.accepted_eq_nil rfl, List.append_nil] at m
      exact older m
    · rw [grown, Exchange.allRequests_nil, Server.accepted_eq_nil rfl, List.append_nil]
      exact h.apart
  case isFalse untracked =>
    rcases filing.accepted_attempt server (Exchange.countCreations (sentIn log)) f with
      none | ⟨post, one, asks, created⟩
    · constructor
      · intro post m
        rw [grown, none, List.append_nil] at m
        exact older m
      · rw [grown, none, List.append_nil]
        exact h.apart
    · constructor
      · intro post' m
        rw [grown, one] at m
        rcases List.mem_append.1 m with m | m
        · exact older m
        · obtain rfl := List.mem_singleton.1 m
          exact ⟨_, List.mem_append_right _ List.mem_cons_self, asks, created⟩
      · rw [grown, one, List.pairwise_append]
        refine ⟨h.apart, List.pairwise_singleton _ _, fun a m b m' same => ?_⟩
        obtain rfl := List.mem_singleton.1 m'
        obtain ⟨f', g, asks', asks'', same⟩ := same
        by_contra readable
        -- the entry that the first answer comes from has made the finding known
        obtain ⟨e, member, asked, created⟩ := h.asks a m
        refine untracked (isTracked_iff.2 (.inl (mem_filedIn.2 ⟨e, member, created readable, ?_⟩)))
        rw [asked.identifier_eq asks', same, asks''.identifier_eq asks]

lemma Accounts.foldl (h : filing.Accounts server log) (findings : List Finding) :
    filing.Accounts server (findings.foldl (filing.extend server) log) := by
  induction findings generalizing log with
  | nil => exact h
  | cons f findings ih => exact ih (h.extend f)

lemma accounts_log (filing : Filing) (server : Server) (findings : List Finding) :
    filing.Accounts server (filing.log server findings) := by
  have start : filing.Accounts server [] := ⟨fun _ m => absurd m List.not_mem_nil, .nil⟩
  exact start.foldl _

lemma acceptedIn_run (h : findings.filter Finding.expired ≠ []) :
    acceptedIn server (filing.run server [] findings).sent =
      acceptedIn server (sentIn (filing.log server findings)) := by
  rw [(reflects_run h).sent, acceptedIn_append, countCreations_opening, acceptedIn,
    Server.accepted_eq_nil countCreations_opening, List.nil_append]
  rfl

lemma acceptedIn_run_of_none_expired (h : findings.filter Finding.expired = []) :
    acceptedIn server (filing.run server [] findings).sent = [] := by
  rw [run_of_none_expired h]
  rfl

lemma exists_asksFor {post : Request × Response}
    (m : post ∈ acceptedIn server (filing.run server [] findings).sent) :
    ∃ f ∈ findings, f.expired ∧ filing.AsksFor post.1 f := by
  rcases eq_or_ne (findings.filter Finding.expired) [] with none | some
  · rw [acceptedIn_run_of_none_expired none] at m
    cases m
  · rw [acceptedIn_run some] at m
    obtain ⟨e, member, asks, -⟩ := (filing.accounts_log server findings).asks post m
    obtain ⟨m, expired⟩ := List.mem_filter.1 (finding_mem_of_mem_log member)
    exact ⟨e.finding, m, expired, asks⟩

lemma pairwise_acceptedIn (filing : Filing) (server : Server) (findings : List Finding) :
    (acceptedIn server (filing.run server [] findings).sent).Pairwise fun a b =>
      filing.AskForSame a.1 b.1 → IsUnreadable a := by
  rcases eq_or_ne (findings.filter Finding.expired) [] with none | some
  · rw [acceptedIn_run_of_none_expired none]
    exact .nil
  · rw [acceptedIn_run some]
    exact (filing.accounts_log server findings).apart

/-- Every creation that is accepted in a run is for an expired finding. Of two for the same
identifier, the first was answered with something that cannot be read; so there are no two just if
none that was answered like that is followed by another one. -/
theorem pairwise_accepted (filing : Filing) (server : Server) (findings : List Finding) :
    let posts := acceptedIn server (filing.run server [] findings).sent
    (∀ post ∈ posts, ∃ f ∈ findings, f.expired ∧ filing.AsksFor post.1 f) ∧
    (posts.Pairwise fun a b => filing.AskForSame a.1 b.1 → IsUnreadable a) ∧
    ((posts.Pairwise fun a b => ¬filing.AskForSame a.1 b.1) ↔
      posts.Pairwise fun a b => IsUnreadable a → ¬filing.AskForSame a.1 b.1) := by
  intro posts
  have apart := pairwise_acceptedIn filing server findings
  refine ⟨fun post m => exists_asksFor m, apart, fun h => ?_, fun h => ?_⟩
  · refine h.imp ?_
    intro a b alone _
    exact alone
  · exact (apart.and h).imp fun ⟨unreadable, alone⟩ same => alone (unreadable same) same

/-- Two creations for one identifier are accepted when the first one is answered with something that
cannot be read. -/
theorem accepted_twice_of_unreadable_answer :
    let server : Server := {
      address := "http://t"
      page := Server.pages (.answered 200 "[]") fun _ => .answered 404 "no such commit"
      creation := fun _ => .answered 201 "oops" }
    let hosting : Hosting := ⟨"https://github.com", "o", "r", "HEAD"⟩
    let filing := Filing.of (Client.of "http://t" "k" hosting) hosting []
    let f : Finding :=
      ⟨"a.py", 1, ⟨.todo, some ⟨2021, 10, 10, by decide⟩, "x"⟩,
        ⟨"bbbbbbbbbbbbbbbbbbbbbbbbbbbbbbbbbbbbbbbb", "B", none, ⟨2023, 5, 11, by decide⟩⟩, true⟩
    let posts := acceptedIn server (filing.run server [] [f, { f with line := 2 }]).sent
    ¬posts.Pairwise fun a b => ¬filing.AskForSame a.1 b.1 := by
  intro server hosting filing f posts apart
  have identifier {g : Finding} (m : g ∈ [f, { f with line := 2 }]) :
      g.identifier = f.identifier := by
    rcases List.mem_pair.1 m with rfl | rfl <;> rfl
  have two : posts.length = 2 := by decide +kernel
  obtain ⟨a, b, both⟩ := List.length_eq_two.1 two
  have asked (post : Request × Response) (m : post ∈ [a, b]) :
      ∃ g ∈ [f, { f with line := 2 }], g.expired ∧ filing.AsksFor post.1 g :=
    exists_asksFor (both ▸ m)
  obtain ⟨g, m, -, asks⟩ := asked a List.mem_cons_self
  obtain ⟨g', m', -, asks'⟩ := asked b (List.mem_cons_of_mem _ List.mem_cons_self)
  rw [both, List.pairwise_pair] at apart
  exact apart ⟨g, g', asks, asks', (identifier m).trans (identifier m').symm⟩

end Filing

end Overdue
