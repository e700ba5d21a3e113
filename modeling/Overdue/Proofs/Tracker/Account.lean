import Mathlib.Data.Option.Basic
import Overdue.Proofs.Tracker.Exchange

/-!
# Owners of commits

What a commit says of the accounts of its author and its committer, as a relation on values
(`IsCommit`), and the account that it belongs to by that (`Response.NamesOwner`). Both accounts have
to be in order, whichever of them is chosen.
-/

namespace Overdue

namespace Account

variable {v : Json} {members : List (String × Json)} {name login : String}
  {told author committer owner : Option String}

/-- A value is an account with a login. -/
inductive HasLogin : Json → String → Prop where
  | object {members : List (String × Json)} {login : String} :
      Json.member members "login" = .only (.string login) →
      HasLogin (.object members) login
  | array {login : String} : HasLogin (.array [.string login]) login

/-- A value that may be null tells of an account, or of none. -/
inductive Tells : Json → Option String → Prop where
  | nobody : Tells .null none
  | account {v : Json} {login : String} : HasLogin v login → Tells v (some login)

/-- What the members of a commit tell under a name. A missing member is no account. -/
inductive TellsUnder (members : List (String × Json)) (name : String) : Option String → Prop where
  | missing : Json.member members name = .missing → TellsUnder members name none
  | only {v : Json} {told : Option String} :
      Json.member members name = .only v → Tells v told → TellsUnder members name told

/-- A value is a commit with the accounts of an author and a committer. -/
inductive IsCommit : Json → (author committer : Option String) → Prop where
  | object {members : List (String × Json)} {author committer : Option String} :
      TellsUnder members "author" author → TellsUnder members "committer" committer →
      IsCommit (.object members) author committer
  | array {v w : Json} {author committer : Option String} :
      Tells v author → Tells w committer → IsCommit (.array [v, w]) author committer

/-! ## Reading -/

lemma string?_eq_some_iff : v.string? = some login ↔ v = .string login := by
  cases v <;> simp [Json.string?]

lemma required?_eq_some_iff : Json.required? members name = some v ↔
    Json.member members name = .only v := by
  rw [Json.required?]
  split <;> simp_all

lemma login?_eq_some_iff : login? v = some login ↔ HasLogin v login := by
  constructor
  · intro read
    unfold login? at read
    split at read
    case h_1 members =>
      obtain ⟨w, member, text⟩ := Option.bind_eq_some_iff.1 read
      rw [string?_eq_some_iff.1 text, required?_eq_some_iff] at member
      exact .object member
    case h_2 w =>
      rw [string?_eq_some_iff.1 read]
      exact .array
    case h_3 => cases read
  · rintro (member | _)
    · exact Option.bind_eq_some_iff.2 ⟨_, required?_eq_some_iff.2 member, rfl⟩
    · rfl

lemma HasLogin.ne_null (h : HasLogin v login) : v ≠ .null := by
  cases h <;> exact nofun

lemma nullable?_eq_some_iff : v.nullable? login? = some told ↔ Tells v told := by
  constructor
  · intro read
    unfold Json.nullable? at read
    split at read
    case h_1 =>
      cases read
      exact .nobody
    case h_2 =>
      obtain ⟨login, found, rfl⟩ := Option.map_eq_some_iff.1 read
      exact .account (login?_eq_some_iff.1 found)
  · rintro (_ | account)
    · rfl
    · unfold Json.nullable?
      split
      case h_1 => exact absurd rfl account.ne_null
      case h_2 => rw [login?_eq_some_iff.2 account, Option.map_some]

lemma optional?_eq_some_iff : (Json.optional? members name).bind (Json.nullable? login?) = some told ↔
    TellsUnder members name told := by
  rw [Json.optional?]
  constructor
  · intro read
    split at read
    case h_1 v only => exact .only only (nullable?_eq_some_iff.1 read)
    case h_2 missing =>
      cases read
      exact .missing missing
    case h_3 => cases read
  · rintro (missing | ⟨only, tells⟩)
    · rw [missing]
      rfl
    · rw [only]
      exact nullable?_eq_some_iff.2 tells

lemma ofCommit?_eq_some_iff : ofCommit? v = some owner ↔
    ∃ author committer, IsCommit v author committer ∧ owner = responsible author committer := by
  constructor
  · intro read
    unfold ofCommit? at read
    split at read
    case h_1 members =>
      simp only [Option.bind_eq_bind, ← Option.bind_assoc] at read
      obtain ⟨author, written, read⟩ := Option.bind_eq_some_iff.1 read
      obtain ⟨committer, committed, read⟩ := Option.bind_eq_some_iff.1 read
      cases read
      exact ⟨author, committer, .object (optional?_eq_some_iff.1 written)
        (optional?_eq_some_iff.1 committed), rfl⟩
    case h_2 =>
      obtain ⟨author, written, read⟩ := Option.bind_eq_some_iff.1 read
      obtain ⟨committer, committed, read⟩ := Option.bind_eq_some_iff.1 read
      cases read
      exact ⟨author, committer, .array (nullable?_eq_some_iff.1 written)
        (nullable?_eq_some_iff.1 committed), rfl⟩
    case h_3 => cases read
  · rintro ⟨author, committer, (⟨written, committed⟩ | ⟨written, committed⟩), rfl⟩
    · simp only [ofCommit?, Option.bind_eq_bind, ← Option.bind_assoc]
      rw [optional?_eq_some_iff.2 written, Option.bind_some, optional?_eq_some_iff.2 committed]
      rfl
    · rw [ofCommit?, nullable?_eq_some_iff.2 written, nullable?_eq_some_iff.2 committed]
      rfl

/-- The author comes first, and the tracker itself is nobody. -/
lemma responsible_eq_some_iff : responsible author committer = some login ↔
    author = some login ∨ author = none ∧ committer = some login ∧ login ≠ proxy := by
  cases author with
  | some other => simp [responsible]
  | none => simp [responsible, Option.filter_eq_some_iff]

end Account

namespace Response

variable {response : Option Response} {login : String}

/-- An answer of success is a commit that belongs to an account: that of its author, or if it has
none that of its committer, unless the tracker itself has made the commit. -/
def NamesOwner (response : Option Response) (login : String) : Prop :=
  ∃ answer v author committer, response = some answer ∧
    200 ≤ answer.status ∧ answer.status < 300 ∧ Json.parse? answer.body = some v ∧
    Account.IsCommit v author committer ∧
    (author = some login ∨ author = none ∧ committer = some login ∧ login ≠ "web-flow")

lemma content?_eq_some_iff {α : Type} {decode : Json → Option α} {a : α} :
    content? decode response = some a ↔ ∃ answer v, response = some answer ∧
      200 ≤ answer.status ∧ answer.status < 300 ∧ Json.parse? answer.body = some v ∧
      decode v = some a := by
  simp only [content?, Option.bind_eq_some_iff, Option.filter_eq_some_iff, isSuccess,
    Bool.and_eq_true, decide_eq_true_eq]
  constructor
  · rintro ⟨answer, ⟨given, low, high⟩, v, parsed, decoded⟩
    exact ⟨answer, v, given, low, high, parsed, decoded⟩
  · rintro ⟨answer, v, given, low, high, parsed, decoded⟩
    exact ⟨answer, ⟨given, low, high⟩, v, parsed, decoded⟩

lemma join_content?_eq_some_iff :
    (content? Account.ofCommit? response).join = some login ↔ NamesOwner response login := by
  rw [Option.join_eq_some_iff, content?_eq_some_iff]
  constructor
  · rintro ⟨answer, v, given, low, high, parsed, decoded⟩
    obtain ⟨author, committer, commit, owner⟩ := Account.ofCommit?_eq_some_iff.1 decoded
    exact ⟨answer, v, author, committer, given, low, high, parsed, commit,
      Account.responsible_eq_some_iff.1 owner.symm⟩
  · rintro ⟨answer, v, author, committer, given, low, high, parsed, commit, owner⟩
    exact ⟨answer, v, given, low, high, parsed, Account.ofCommit?_eq_some_iff.2
      ⟨author, committer, commit, (Account.responsible_eq_some_iff.2 owner).symm⟩⟩

end Response

end Overdue
