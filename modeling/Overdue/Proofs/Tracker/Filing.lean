import Mathlib.Data.List.Basic
import Overdue.Proofs.Tracker.Exchange
import Overdue.Proofs.Tracker.IssueText

/-!
# The log of a filing

What a filing does is kept as a log with an entry for each expired finding. An entry follows from
those before it (`eq_entry_of_concat`), and the state at the end from all of them (`reflects_run`):
from the exchanges of the entries, the identifiers of those that were created, and their counts.
-/

namespace Overdue

namespace Filing

/-! ## The log -/

/-- What the filing of a finding takes and comes to. Nothing comes of a finding that has its issue
already. -/
structure Entry where
  finding : Finding
  sent : List Exchange
  result : Option (Except Failure Issue)

namespace Entry

/-- The finding had its issue already. -/
def isSkipped (e : Entry) : Bool :=
  match e.result with
  | none => true
  | some _ => false

/-- The finding got an issue. -/
def isCreated (e : Entry) : Bool :=
  match e.result with
  | some (.ok _) => true
  | _ => false

/-- The finding could not get an issue. -/
def isFailed (e : Entry) : Bool :=
  match e.result with
  | some (.error _) => true
  | _ => false

end Entry

/-- The counts of a log. -/
def tallyOf (log : List Entry) : Tally :=
  ⟨log.countP Entry.isCreated, log.countP Entry.isSkipped, log.countP Entry.isFailed⟩

/-- The identifiers for which there is an issue by a log. -/
def filedIn (log : List Entry) : List String :=
  (log.filter Entry.isCreated).map fun e => e.finding.identifier

/-- The exchanges of a log. -/
def sentIn (log : List Entry) : List Exchange :=
  log.flatMap Entry.sent

variable (filing : Filing) (server : Server)

/-- The listing of the open issues. -/
def opening : List Exchange :=
  (filing.client.exchange? server 0 .issues).toList

/-- The issues that are listed, if they are. -/
def listed : List Issue :=
  (filing.client.result server Client.decodeIssues 0 .issues).toOption.getD []

/-- The account to which the commit of a finding belongs, if that is found out. -/
def login (creations : Nat) (f : Finding) : Option String :=
  (filing.client.result server Account.ofCommit? creations
    (.commit f.attribution.revision)).toOption.join

/-- What asks for the issue of a finding. -/
def creation (creations : Nat) (f : Finding) : Call :=
  .create (filing.draft f (filing.login server creations f))

/-- The attempt to make an issue for a finding after some creations. -/
def attempt (creations : Nat) (f : Finding) : Entry where
  finding := f
  sent :=
    (filing.client.exchange? server creations (.commit f.attribution.revision)).toList ++
      (filing.client.exchange? server creations (filing.creation server creations f)).toList
  result :=
    some (filing.client.result server Issue.ofJson? creations (filing.creation server creations f))

/-- What becomes of a finding after those of a log. -/
def entry (log : List Entry) (f : Finding) : Entry :=
  if isTracked (filing.listed server) (filedIn log) f.identifier then ⟨f, [], none⟩
  else filing.attempt server (Exchange.countCreations (sentIn log)) f

/-- The log with the entry of one more finding. -/
def extend (log : List Entry) (f : Finding) : List Entry :=
  log ++ [filing.entry server log f]

/-- The log of all findings that are expired, in their order. -/
def log (findings : List Finding) : List Entry :=
  (findings.filter Finding.expired).foldl (filing.extend server) []

variable {filing : Filing} {server : Server} {log : List Entry}

/-! ## One finding -/

lemma countCreations_opening : Exchange.countCreations (filing.opening server) = 0 :=
  Client.countCreations_exchange? rfl

/-- To make an issue is to attempt it after what was sent before. -/
lemma make_eq (sent : List Exchange) (f : Finding) :
    ∃ result, filing.make server sent f =
        (sent ++ (filing.attempt server (Exchange.countCreations sent) f).sent, result) ∧
      (filing.attempt server (Exchange.countCreations sent) f).result = some result := by
  -- the question about the commit takes no creation, so that both calls come after the same ones
  have asks : (Call.commit f.attribution.revision).method = .get := rfl
  refine ⟨_, ?_, rfl⟩
  rw [make, Client.login, Client.make_eq]
  simp only [Client.create, Client.make_eq, Exchange.countCreations_append,
    Client.countCreations_exchange? asks, Nat.add_zero, List.append_assoc]
  rfl

/-- All creations of an attempt ask for the issue of its finding. -/
lemma asksFor_of_exchange? {creations : Nat} {f : Finding} {x : Exchange}
    (h : filing.client.exchange? server creations (filing.creation server creations f) = some x)
    {r : Request} (m : r ∈ x.requests) (creation : r.isCreation) : filing.AsksFor r f := by
  obtain ⟨call, response, ⟨request, built, converses⟩, -⟩ := Client.exists_of_exchange? h
  refine ⟨filing.login server creations f, ?_⟩
  rw [(converses.body_of_mem m creation).2, (Client.method_and_body_of_request? built).2, call]
  rfl

lemma isTracked_iff {issues : List Issue} {identifiers : List String} {identifier : String} :
    isTracked issues identifiers identifier ↔
      identifier ∈ identifiers ∨ ∃ issue ∈ issues, issue.mentions identifier := by
  rw [isTracked, Bool.or_eq_true, List.contains_iff_mem, List.any_eq_true]

@[simp] lemma sentIn_append (xs ys : List Entry) : sentIn (xs ++ ys) = sentIn xs ++ sentIn ys :=
  List.flatMap_append

lemma mem_filedIn {identifier : String} :
    identifier ∈ filedIn log ↔ ∃ e ∈ log, e.isCreated ∧ e.finding.identifier = identifier := by
  simp only [filedIn, List.mem_map, List.mem_filter, and_assoc]

lemma mem_filedIn_concat {e : Entry} {identifier : String} : identifier ∈ filedIn (log ++ [e]) ↔
    identifier ∈ filedIn log ∨ e.isCreated ∧ e.finding.identifier = identifier := by
  simp only [mem_filedIn, List.mem_append, List.mem_singleton, or_and_right, exists_or,
    exists_eq_left]

/-- The state behind an entry. -/
def Entry.addTo (e : Entry) (p : Filed) : Filed where
  sent := p.sent ++ e.sent
  identifiers := if e.isCreated then e.finding.identifier :: p.identifiers else p.identifiers
  tally :=
    match e.result with
    | none => { p.tally with skipped := p.tally.skipped + 1 }
    | some (.ok _) => { p.tally with created := p.tally.created + 1 }
    | some (.error _) => { p.tally with failed := p.tally.failed + 1 }

/-- What a log tells of the state of a filing. -/
structure Reflects (filing : Filing) (server : Server) (log : List Entry) (p : Filed) : Prop where
  sent : p.sent = filing.opening server ++ sentIn log
  identifiers : ∀ identifier, identifier ∈ p.identifiers ↔ identifier ∈ filedIn log
  tally : p.tally = tallyOf log

namespace Reflects

variable {p : Filed}

lemma countCreations (h : filing.Reflects server log p) :
    Exchange.countCreations p.sent = Exchange.countCreations (sentIn log) := by
  rw [h.sent, Exchange.countCreations_append, countCreations_opening, Nat.zero_add]

lemma isTracked (h : filing.Reflects server log p) (issues : List Issue) (identifier : String) :
    isTracked issues p.identifiers identifier = isTracked issues (filedIn log) identifier := by
  rw [Bool.eq_iff_iff, isTracked_iff, isTracked_iff, h.identifiers]

lemma addTo (h : filing.Reflects server log p) (e : Entry) :
    filing.Reflects server (log ++ [e]) (e.addTo p) := by
  refine ⟨?_, fun identifier => ?_, ?_⟩
  · simp [Entry.addTo, h.sent, sentIn]
  · rw [mem_filedIn_concat, ← h.identifiers, Entry.addTo]
    cases e.isCreated with
    | true => simp only [if_true, List.mem_cons, true_and, or_comm, eq_comm]
    | false => simp only [Bool.false_eq_true, if_false, false_and, or_false]
  · obtain ⟨f, sent, result⟩ := e
    cases result with
    | none => simp [Entry.addTo, tallyOf, h.tally, Entry.isCreated, Entry.isSkipped, Entry.isFailed]
    | some result =>
      cases result <;>
        simp [Entry.addTo, tallyOf, h.tally, Entry.isCreated, Entry.isSkipped, Entry.isFailed]

/-- The filing of one more finding does what its entry tells. -/
lemma file_eq (h : filing.Reflects server log p) (f : Finding) :
    filing.file server (filing.listed server) p f = (filing.entry server log f).addTo p := by
  rw [file, entry, h.isTracked]
  split
  case isTrue => simp [Entry.addTo, Entry.isCreated]
  case isFalse =>
    obtain ⟨result, made, same⟩ := filing.make_eq p.sent f
    rw [h.countCreations] at made same
    rw [made, Entry.addTo, Entry.isCreated, same]
    cases result <;> rfl

lemma foldl (h : filing.Reflects server log p) (findings : List Finding) :
    filing.Reflects server (findings.foldl (filing.extend server) log)
      (findings.foldl (filing.file server (filing.listed server)) p) := by
  induction findings generalizing log p with
  | nil => exact h
  | cons f findings ih =>
    rw [List.foldl_cons, List.foldl_cons, h.file_eq]
    exact ih (h.addTo _)

end Reflects

/-! ## The run -/

variable {findings : List Finding}

lemma run_of_none_expired (h : findings.filter Finding.expired = []) :
    filing.run server [] findings = ⟨[], [], {}⟩ := by
  rw [run, h]

lemma reflects_run (h : findings.filter Finding.expired ≠ []) :
    filing.Reflects server (filing.log server findings) (filing.run server [] findings) := by
  have start : filing.Reflects server [] ⟨filing.opening server, [], {}⟩ :=
    ⟨(List.append_nil _).symm, fun _ => Iff.rfl, rfl⟩
  rw [run]
  split
  case h_1 none => exact absurd none h
  case h_2 expired some =>
    rw [Client.issues, Client.make_eq]
    exact start.foldl _

lemma log_of_none_expired (h : findings.filter Finding.expired = []) :
    filing.log server findings = [] := by
  rw [log, h, List.foldl_nil]

lemma tally_run (filing : Filing) (server : Server) (findings : List Finding) :
    (filing.run server [] findings).tally = tallyOf (filing.log server findings) := by
  rcases eq_or_ne (findings.filter Finding.expired) [] with none | some
  · rw [run_of_none_expired none, log_of_none_expired none]
    rfl
  · exact (reflects_run some).tally

@[simp] lemma finding_entry (log : List Entry) (f : Finding) :
    (filing.entry server log f).finding = f := by
  rw [entry]
  split <;> rfl

lemma map_finding_extend (findings : List Finding) (log : List Entry) :
    (findings.foldl (filing.extend server) log).map Entry.finding =
      log.map Entry.finding ++ findings := by
  induction findings generalizing log with
  | nil => exact (List.append_nil _).symm
  | cons f findings ih =>
    rw [List.foldl_cons, ih, extend, List.map_append, List.map_singleton, finding_entry,
      List.append_assoc, List.singleton_append]

/-- There is an entry for each finding that is expired. -/
lemma map_finding_log (filing : Filing) (server : Server) (findings : List Finding) :
    (filing.log server findings).map Entry.finding = findings.filter Finding.expired :=
  map_finding_extend _ []

lemma finding_mem_of_mem_log {e : Entry} (m : e ∈ filing.log server findings) :
    e.finding ∈ findings.filter Finding.expired := by
  rw [← map_finding_log filing server]
  exact List.mem_map_of_mem m

/-- Each entry tells what becomes of its finding after those before it. -/
lemma eq_entry_of_concat {before : List Entry} {e : Entry}
    (h : before ++ [e] <+: filing.log server findings) :
    e = filing.entry server before e.finding := by
  suffices all : ∀ (findings : List Finding) (log : List Entry),
      (∀ before e, before ++ [e] <+: log → e = filing.entry server before e.finding) →
      ∀ before e, before ++ [e] <+: findings.foldl (filing.extend server) log →
        e = filing.entry server before e.finding from
    all _ [] (fun _ _ m => by simp at m) _ _ h
  intro findings
  induction findings with
  | nil => exact fun _ follows => follows
  | cons f findings ih =>
    intro log follows
    refine ih _ fun before e m => ?_
    -- the entry is either the newest one or already an entry of the log
    rcases List.prefix_concat_iff.1 m with same | m
    · obtain ⟨rfl, own⟩ := List.append_inj' same rfl
      rw [List.singleton_inj.1 own, finding_entry]
    · exact follows before e m

lemma exists_prefix_of_mem {e : Entry} (m : e ∈ log) : ∃ before, before ++ [e] <+: log := by
  obtain ⟨before, after, rfl⟩ := List.append_of_mem m
  exact ⟨before, after, by rw [List.append_assoc, List.singleton_append]⟩

/-! ## The calls of an entry -/

lemma isSkipped_entry {log : List Entry} {f : Finding} : (filing.entry server log f).isSkipped ↔
    isTracked (filing.listed server) (filedIn log) f.identifier := by
  rw [entry]
  split
  case isTrue tracked => exact iff_of_true rfl tracked
  case isFalse untracked => exact iff_of_false Bool.false_ne_true untracked

lemma Entry.isCreated_iff {e : Entry} {result : Except Failure Issue} (h : e.result = some result) :
    (e.isCreated ↔ result.toOption.isSome) ∧ (e.isFailed ↔ result.toOption = none) := by
  rw [Entry.isCreated, Entry.isFailed, h]
  cases result <;> simp [Except.toOption]

/-- For a finding without an issue two calls are made if they can be: its commit is asked for, and
then an issue, which is made if the answer in which that ends is one of success that can be read. -/
lemma exists_calls {before : List Entry} {f : Finding}
    (commit : (filing.client.request? server.address (.commit f.attribution.revision)).isSome)
    (create : ∀ draft, (filing.client.request? server.address (.create draft)).isSome)
    (unskipped : ¬(filing.entry server before f).isSkipped) :
    ∃ asking making reply answer, (filing.entry server before f).sent = [asking, making] ∧
      asking.call = .commit f.attribution.revision ∧
      filing.client.Conducts server (Exchange.countCreations (sentIn before)) asking reply ∧
      making.call = .create (filing.draft f (Response.content? Account.ofCommit? reply).join) ∧
      filing.client.Conducts server (Exchange.countCreations (sentIn before)) making answer ∧
      ((filing.entry server before f).isCreated ↔
        (Response.content? Issue.ofJson? answer).isSome) ∧
      ((filing.entry server before f).isFailed ↔
        Response.content? Issue.ofJson? answer = none) := by
  rw [isSkipped_entry] at unskipped
  rw [entry, if_neg unskipped]
  let creations := Exchange.countCreations (sentIn before)
  obtain ⟨asking, asked⟩ := Client.exists_exchange?_of_isSome commit
  obtain ⟨making, made⟩ :
      ∃ x, filing.client.exchange? server creations (filing.creation server creations f) = some x :=
    Client.exists_exchange?_of_isSome (create _)
  obtain ⟨call, reply, conducts, account⟩ := Client.exists_of_exchange? asked
  obtain ⟨call', answer, conducts', issue⟩ := Client.exists_of_exchange? made
  refine ⟨asking, making, reply, answer, ?_, call, conducts, ?_, conducts', ?_⟩
  · rw [attempt, asked, made]
    rfl
  · rw [call', creation, login, account]
  · rw [← issue]
    exact Entry.isCreated_iff rfl

end Filing

end Overdue
