import Mathlib.Data.List.Basic
import Overdue.Proofs.Finding.Identifier
import Overdue.Tracker.Filing

/-!
# Identifiers in the texts of issues

The body of an issue says for which identifier it was made, whatever the fields of its finding hold:
the identifier stands in it (`identifier_infix_issueBody`) and can be read back from it
(`identifier_eq_of_issueBody_eq`). So do the request that posts the body and the issue that is made
of it.
-/

namespace Overdue

namespace Finding

variable {f g : Finding} {mention mention' : String} {hosting hosting' : Hosting}

lemma backtick_not_mem_identifier (f : Finding) : '\x60' ∉ f.identifier.toList :=
  f.not_mem_identifier (by decide) (by decide)

/-- What stands before the identifier in the body of an issue. -/
def issueOpening : List Char :=
  "## Expired TODO Comment".toList ++ "\n".toList ++ "".toList ++ "\n".toList ++
    "**Identifier**: \x60".toList

/-- The identifier comes right behind the opening, and a backtick after it. -/
lemma toList_issueBody (f : Finding) (identifier mention : String) (hosting : Hosting) :
    ∃ rest, (f.issueBody identifier mention hosting).toList =
      issueOpening ++ (identifier.toList ++ '\x60' :: rest) := by
  obtain ⟨others, lines⟩ : ∃ others, f.issueLines identifier mention hosting =
      "## Expired TODO Comment" :: "" :: ("**Identifier**: \x60" ++ identifier ++ "\x60") :: others :=
    ⟨_, rfl⟩
  have tick : "\x60".toList = ['\x60'] := by decide
  refine ⟨"\n".toList ++ (others.map (· ++ "\n")).flatMap String.toList, ?_⟩
  rw [issueBody, lines, String.toList_join]
  unfold issueOpening
  simp only [List.map_cons, List.flatMap_cons, String.toList_append, List.append_assoc, tick,
    List.cons_append, List.nil_append]

lemma identifier_infix_issueBody (f : Finding) (identifier mention : String) (hosting : Hosting) :
    identifier.toList <:+: (f.issueBody identifier mention hosting).toList := by
  obtain ⟨rest, body⟩ := f.toList_issueBody identifier mention hosting
  exact ⟨issueOpening, '\x60' :: rest, by rw [body, List.append_assoc]⟩

lemma identifier_eq_of_issueBody_eq
    (h : f.issueBody f.identifier mention hosting = g.issueBody g.identifier mention' hosting') :
    f.identifier = g.identifier := by
  obtain ⟨rest, body⟩ := f.toList_issueBody f.identifier mention hosting
  obtain ⟨rest', body'⟩ := g.toList_issueBody g.identifier mention' hosting'
  rw [h, body', List.append_cancel_left_eq] at body
  -- no identifier holds a backtick, so that it ends at the first one
  have cut : Text.splitFirst? '\x60' (f.identifier.toList ++ '\x60' :: rest) =
      some (f.identifier.toList, rest) :=
    Text.splitFirst?_eq_some_iff.2 ⟨rfl, f.backtick_not_mem_identifier⟩
  rw [← body, Text.splitFirst?_eq_some_iff.2 ⟨rfl, g.backtick_not_mem_identifier⟩,
    Option.some.injEq, Prod.mk.injEq] at cut
  exact (String.toList_inj.1 cut.1).symm

/-! ## The line of the author -/

section

variable (f : Finding) (identifier author : String) (hosting : Hosting)

/-- The body of an issue above the line of the author. -/
def issueAbove : String :=
  String.join (((f.issueLines identifier "" hosting).take 10).map (· ++ "\n"))

/-- The body of an issue below the line of the author. -/
def issueBelow : String :=
  String.join (((f.issueLines identifier "" hosting).drop 11).map (· ++ "\n"))

/-- Whoever is named as the author is named in one line only. -/
lemma issueLines_eq : f.issueLines identifier author hosting =
    (f.issueLines identifier "" hosting).take 10 ++ ("- **Author**: " ++ author) ::
      (f.issueLines identifier "" hosting).drop 11 :=
  rfl

lemma issueBody_eq : f.issueBody identifier author hosting =
    f.issueAbove identifier hosting ++ "- **Author**: " ++ author ++ "\n" ++
      f.issueBelow identifier hosting := by
  rw [issueBody, issueLines_eq, issueAbove, issueBelow, List.map_append, List.map_cons,
    String.join_append, String.join_cons]
  simp only [String.append_assoc]

end

end Finding

/-- The text that a request posts under a name. -/
def Request.posted? (r : Request) (name : String) : Option String := do
  (← Json.required? (← (← r.body).object?) name).string?

/-- An issue has the title and the body that a request posts. -/
def Issue.HasPosted (issue : Issue) (r : Request) : Prop :=
  r.posted? "title" = some issue.title ∧ r.posted? "body" = issue.body

instance (issue : Issue) (r : Request) : Decidable (issue.HasPosted r) :=
  inferInstanceAs (Decidable (_ ∧ _))

lemma Request.posted?_eq_body {r : Request} {d : Draft} (h : r.body = some d.toJson) :
    r.posted? "body" = some d.body := by
  rw [posted?, h, Draft.toJson]
  cases d.assignees with
  | nil => rfl
  | cons login logins => rfl

namespace Filing

variable {filing : Filing} {r : Request} {f g : Finding}

/-- A request is to make the issue of a finding. -/
def AsksFor (filing : Filing) (r : Request) (f : Finding) : Prop :=
  ∃ login, r.body = some (filing.draft f login).toJson

lemma AsksFor.exists_posted?_eq (h : filing.AsksFor r f) :
    ∃ mention, r.posted? "body" = some (f.issueBody f.identifier mention filing.hosting) := by
  obtain ⟨login, body⟩ := h
  refine ⟨f.mention login, ?_⟩
  rw [Request.posted?_eq_body body, draft]

lemma AsksFor.identifier_eq (h : filing.AsksFor r f) (h' : filing.AsksFor r g) :
    f.identifier = g.identifier := by
  obtain ⟨mention, body⟩ := h.exists_posted?_eq
  obtain ⟨mention', body'⟩ := h'.exists_posted?_eq
  rw [body, Option.some.injEq] at body'
  exact Finding.identifier_eq_of_issueBody_eq body'

/-- An issue that was made for a finding mentions its identifier. -/
lemma AsksFor.mentions (h : filing.AsksFor r f) {issue : Issue} (made : issue.HasPosted r) :
    issue.mentions f.identifier := by
  obtain ⟨mention, body⟩ := h.exists_posted?_eq
  rw [Issue.mentions, ← made.2, body, Option.any_some, Bool.or_eq_true, Text.contains_iff]
  exact .inr (Text.contains_iff.2 (f.identifier_infix_issueBody _ _ _))

end Filing

end Overdue
