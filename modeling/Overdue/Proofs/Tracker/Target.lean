import Mathlib.Data.List.TakeWhile
import Overdue.Proofs.Text.Blank
import Overdue.Proofs.Tracker.Exchange

/-!
# Calls that can be sent

All addresses of a client are the same up to the slash before the path of the call. A server that the
listing of the issues and a commit are both asked of ends before this slash, so that an issue can be
posted to it as well (`Client.isSome_request?_create`).
-/

namespace Overdue

open Text

namespace Target

variable {server address rest : List Char}

/-! ## Addresses as they are read -/

/-- How an address is read before a slash, whatever follows it. -/
def leading (s : List Char) : List Char :=
  (s.dropWhile isMargin).filter fun c => !isDropped c

/-- How an address is read behind a slash, whatever stands before it. -/
def trailing (s : List Char) : List Char :=
  (dropEnding isMargin s).filter fun c => !isDropped c

lemma significant_append_slash (s t : List Char) :
    significant (s ++ '/' :: t) = leading s ++ '/' :: trailing t := by
  have kept : ('/' :: t).dropWhile isMargin = '/' :: t := List.dropWhile_cons_of_neg (by decide)
  have start : (s ++ '/' :: t).dropWhile isMargin = s.dropWhile isMargin ++ '/' :: t := by
    rw [List.dropWhile_append, kept]
    split
    case isTrue empty => rw [List.isEmpty_iff.1 empty, List.nil_append]
    case isFalse => rfl
  rw [significant, start, dropEnding_append_cons (by decide), List.filter_append,
    List.filter_cons_of_pos (by decide), leading, trailing]

/-- What may follow a server in an address: nothing, or something that cannot be part of the server. -/
def IsBehindServer (rest : List Char) : Prop :=
  ∀ c ∈ rest.head?, isSlash c ∨ c = '?' ∨ c = '#'

lemma restOn?_eq_some_iff : restOn? server address = some rest ↔
    server ++ rest = address ∧ IsBehindServer rest := by
  simp only [restOn?, Option.bind_eq_bind, Option.bind_eq_some_iff,
    List.isPrefixOf?_eq_some_iff_append_eq, Option.ite_none_right_eq_some, Option.all_eq_true,
    Bool.or_eq_true, beq_iff_eq, or_assoc]
  constructor
  · rintro ⟨_, split, behind, ⟨⟩⟩
    exact ⟨split, behind⟩
  · rintro ⟨split, behind⟩
    exact ⟨rest, split, behind, rfl⟩

/-- A server ends before the slash behind which two of its addresses differ, if what stands there in
one of them cannot follow a server. -/
lemma exists_append_of_restOn? {s t t' rest' : List Char} {a b : Char} (ne : a ≠ b)
    (h : restOn? server (s ++ '/' :: a :: t) = some rest)
    (h' : restOn? server (s ++ '/' :: b :: t') = some rest')
    (letter : ¬IsBehindServer (a :: t)) : ∃ l, s = server ++ l := by
  obtain ⟨split, behind⟩ := restOn?_eq_some_iff.1 h
  obtain ⟨split', -⟩ := restOn?_eq_some_iff.1 h'
  rcases List.append_eq_append_iff.1 split with ⟨l, rfl, -⟩ | ⟨l, rfl, more⟩
  · exact ⟨l, rfl⟩
  · -- otherwise it holds the slash, and perhaps the letter behind it, which is not in both addresses
    match l with
    | [] => exact ⟨[], by simp⟩
    | [c] =>
      rw [List.singleton_append, List.cons.injEq] at more
      exact absurd (more.2 ▸ behind) letter
    | c :: d :: l =>
      rw [List.append_assoc, List.append_cancel_left_eq] at split'
      simp only [List.cons_append, List.cons.injEq] at more split'
      exact absurd (more.2.1.trans split'.2.1) ne

/-! ## Lengths -/

/-- The number of characters that a server is followed by in an address with a rest. -/
def extent (s : List Char) : Nat :=
  (ofRest s).length + (fragment s).length

lemma length_flatMap_le_append {f : Char → List Char} (s t : List Char) :
    (s.flatMap f).length ≤ ((s ++ t).flatMap f).length := by
  rw [List.flatMap_append, List.length_append]
  exact Nat.le_add_right _ _

lemma bne_of_not_mem {k : Char} {s : List Char} (h : k ∉ s) : ∀ c ∈ s, (c != k) = true :=
  fun _ mem => bne_iff_ne.2 fun same => h (same ▸ mem)

lemma takeWhile_append_cons {k : Char} {s : List Char} (h : k ∉ s) (t : List Char) :
    (s ++ k :: t).takeWhile (· != k) = s := by
  rw [List.takeWhile_append_of_pos (bne_of_not_mem h), List.takeWhile_cons_of_neg (by simp),
    List.append_nil]

lemma dropWhile_append_cons {k : Char} {s : List Char} (h : k ∉ s) (t : List Char) :
    (s ++ k :: t).dropWhile (· != k) = k :: t := by
  rw [List.dropWhile_append_of_pos (bne_of_not_mem h), List.dropWhile_cons_of_neg (by simp)]

/-- A query makes an address no shorter, whether there is one before it or not. -/
lemma length_path_query_le (s t : List Char) :
    (path (beforeQuery s) ++ query s).length ≤
      (path (beforeQuery (s ++ '?' :: t)) ++ query (s ++ '?' :: t)).length := by
  rw [List.length_append, List.length_append]
  by_cases mem : '?' ∈ s
  · obtain ⟨front, back, rfl, first⟩ := List.eq_append_cons_of_mem mem
    have whole : (front ++ '?' :: back) ++ '?' :: t = front ++ '?' :: (back ++ '?' :: t) := by simp
    have longer := length_flatMap_le_append (f := escape specialInQuery) back ('?' :: t)
    simp only [whole, beforeQuery, query, takeWhile_append_cons first, dropWhile_append_cons first,
      List.length_cons]
    omega
  · have before : beforeQuery s = s := List.takeWhile_eq_self_iff.2 (bne_of_not_mem mem)
    have nothing : query s = [] := by rw [query, List.dropWhile_eq_nil_iff.2 (bne_of_not_mem mem)]
    rw [before, nothing, beforeQuery, takeWhile_append_cons mem]
    exact Nat.add_le_add_left (Nat.zero_le _) _

lemma extent_le_append_query (s t : List Char) : extent s ≤ extent (s ++ '?' :: t) := by
  by_cases mem : '#' ∈ s
  · obtain ⟨front, back, rfl, first⟩ := List.eq_append_cons_of_mem mem
    have whole : (front ++ '#' :: back) ++ '?' :: t = front ++ '#' :: (back ++ '?' :: t) := by simp
    have longer := length_flatMap_le_append (f := escape specialInFragment) back ('?' :: t)
    simp only [extent, ofRest, fragment, whole, beforeFragment, takeWhile_append_cons first,
      dropWhile_append_cons first, List.length_cons]
    omega
  · have before : beforeFragment s = s := List.takeWhile_eq_self_iff.2 (bne_of_not_mem mem)
    have nothing : fragment s = [] := by
      rw [fragment, List.dropWhile_eq_nil_iff.2 (bne_of_not_mem mem)]
    have after : beforeFragment (s ++ '?' :: t) = s ++ '?' :: beforeFragment t := by
      rw [beforeFragment, List.takeWhile_append_of_pos (bne_of_not_mem mem),
        List.takeWhile_cons_of_pos (by decide), beforeFragment]
    rw [extent, extent, ofRest, ofRest, before, after, nothing]
    exact Nat.le_trans (length_path_query_le s _) (Nat.le_add_right _ _)

end Target

namespace Client

open Target

variable {c : Client} {server address : String}

lemma isSome_targetOn?_iff : (targetOn? server address).isSome ↔
    ∃ rest, restOn? server.toList (significant address.toList) = some rest ∧
      server.toList.length + extent rest ≤ maxLength := by
  simp only [targetOn?, Option.bind_eq_bind, Option.isSome_bind, Option.any_eq_true, fitting?,
    Option.isSome_ite, extent, Nat.add_assoc]

/-- What stands before the slash before the path of a call. -/
def base (c : Client) : List Char :=
  (c.address ++ "/repos/" ++ c.owner ++ "/" ++ c.name).toList

lemma toList_addressOf (c : Client) (call : Call) :
    (c.addressOf call).toList = c.base ++ '/' :: call.path.toList := by
  simp [addressOf, base]

lemma significant_addressOf (c : Client) (call : Call) :
    significant (c.addressOf call).toList = leading c.base ++ '/' :: trailing call.path.toList := by
  rw [toList_addressOf, significant_append_slash]

lemma trailing_commit (revision : String) :
    ∃ rest, trailing (Call.commit revision).path.toList = 'c' :: rest := by
  have slash : (Call.commit revision).path.toList = "commits".toList ++ '/' :: revision.toList := by
    simp [Call.path]
  rw [slash, trailing, dropEnding_append_cons (by decide)]
  exact ⟨_, rfl⟩

/-- An issue can be posted where the issues are listed and a commit can be asked for. -/
lemma isSome_request?_create {revision : String} (draft : Draft)
    (issues : (c.request? address .issues).isSome)
    (commit : (c.request? address (.commit revision)).isSome) :
    (c.request? address (.create draft)).isSome := by
  obtain ⟨listed, token⟩ := isSome_request?_iff.1 issues
  obtain ⟨asked, -⟩ := isSome_request?_iff.1 commit
  obtain ⟨rest, here, fits⟩ := isSome_targetOn?_iff.1 listed
  obtain ⟨rest', here', -⟩ := isSome_targetOn?_iff.1 asked
  obtain ⟨revision', letter⟩ := trailing_commit revision
  have listing : trailing Call.issues.path.toList =
      'i' :: ("ssues".toList ++ '?' :: "state=open&per_page=100".toList) := by
    decide
  have path : (Call.create draft).path = "issues" := rfl
  have posting : trailing (Call.create draft).path.toList = "issues".toList := by
    rw [path]
    decide
  rw [significant_addressOf, listing] at here
  rw [significant_addressOf, letter] at here'
  have apart : ¬IsBehindServer ('c' :: revision') := fun behind => absurd (behind 'c' rfl) (by decide)
  obtain ⟨l, front⟩ := exists_append_of_restOn? (by decide) here' here apart
  -- the address of the issues is that of the listing without its query, hence no longer
  have after := (restOn?_eq_some_iff.1 here).1
  have behind := (restOn?_eq_some_iff.1 here).2
  rw [front, List.append_assoc, List.append_cancel_left_eq] at after
  have query : rest = (l ++ "/issues".toList) ++ '?' :: "state=open&per_page=100".toList := by
    rw [after]
    simp
  have shorter : extent (l ++ "/issues".toList) ≤ extent rest := query ▸ extent_le_append_query _ _
  have first : (l ++ "/issues".toList).head? = rest.head? := by
    rw [query]
    cases l <;> rfl
  refine isSome_request?_iff.2 ⟨isSome_targetOn?_iff.2 ⟨l ++ "/issues".toList, ?_, ?_⟩, token⟩
  · refine restOn?_eq_some_iff.2 ⟨?_, ?_⟩
    · rw [significant_addressOf, posting, front, List.append_assoc]
      rfl
    · rw [IsBehindServer, first]
      exact behind
  · exact Nat.le_trans (Nat.add_le_add_left shorter _) fits

end Client

end Overdue
