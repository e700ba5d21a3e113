import Mathlib.Data.List.TakeWhile
import Overdue.History.Attribution
import Overdue.Proofs.Text.Digits
import Overdue.Proofs.Tracker.Target

/-!
# Targets that are carried as they are

An address is rewritten where it holds what a target may not hold. Where the names in it are plain,
nothing has to be rewritten, so that the target is what the address says behind the server
(`Client.IsPlainFor.eq_of_targetOn?`).
-/

namespace Overdue

open Text

namespace Target

/-! ## Plain segments -/

/-- What no part of an address has to escape: letters, digits and three marks. -/
def isPlain (c : Char) : Bool :=
  c.isAlpha || isDigit c || c == '-' || c == '_' || c == '.'

/-- A segment that a path holds as it is: plain characters, which are not a step along the path. -/
structure IsPlain (segment : List Char) : Prop where
  chars : segment.all isPlain
  stays : segment ≠ ['.']
  rises : segment ≠ ['.', '.']

lemma bounds_of_isPlain {c : Char} (h : isPlain c) : 0x20 < c.toNat ∧ c.toNat < 0x7F := by
  simp only [isPlain, Bool.or_eq_true, isAlpha_iff, isDigit_iff, beq_iff_eq] at h
  rcases h with (((letter | digit) | rfl) | rfl) | rfl
  · omega
  · omega
  all_goals decide

lemma isPlain_of_isRevision {revision : List Char} (h : Attribution.isRevision revision) :
    IsPlain revision := by
  rw [Attribution.isRevision, Bool.and_eq_true, beq_iff_eq, List.all_eq_true] at h
  obtain ⟨length, hex⟩ := h
  refine ⟨List.all_eq_true.2 fun c mem => ?_, ?_, ?_⟩
  · have digit := hex c mem
    simp only [Attribution.isHexDigit, Bool.or_eq_true, Bool.and_eq_true,
      decide_eq_true_eq] at digit
    rw [isPlain]
    rcases digit with (digit | lower) | upper
    · simp only [digit, Bool.or_true, Bool.true_or]
    · have letter : c.isAlpha := isAlpha_iff.2 (.inr ⟨lower.1, lower.2.trans (by decide)⟩)
      simp only [letter, Bool.true_or]
    · have letter : c.isAlpha := isAlpha_iff.2 (.inl ⟨upper.1, upper.2.trans (by decide)⟩)
      simp only [letter, Bool.true_or]
  · rintro rfl
    simp at length
  · rintro rfl
    simp at length

lemma ne_of_isPlain {c d : Char} (h : isPlain c) (other : isPlain d = false) : c ≠ d := by
  rintro rfl
  rw [h] at other
  cases other

lemma escape_of_mem {special : List Char} {c : Char} (printable : 0x20 ≤ c.toNat ∧ c.toNat < 0x7F)
    (h : c ∉ special) : escape special c = [c] := by
  simp [escape, printable, h]

lemma escape_of_isPlain {special : List Char} {c : Char} (h : isPlain c)
    (none : special.any isPlain = false) : escape special c = [c] := by
  refine escape_of_mem ⟨(bounds_of_isPlain h).1.le, (bounds_of_isPlain h).2⟩ fun mem => ?_
  exact List.any_eq_false.1 none c mem h

lemma flatMap_escape {special s : List Char} (h : ∀ c ∈ s, escape special c = [c]) :
    s.flatMap (escape special) = s := by
  rw [List.flatMap_congr h]
  exact List.flatMap_singleton' s

namespace IsPlain

variable {segment : List Char} {segments : List (List Char)}

lemma isPlain_of_mem (h : IsPlain segment) {c : Char} (mem : c ∈ segment) : isPlain c :=
  List.all_eq_true.1 h.chars c mem

lemma flatMap_escape (h : IsPlain segment) : segment.flatMap (escape specialInPath) = segment := by
  refine Target.flatMap_escape fun c mem => ?_
  exact escape_of_isPlain (h.isPlain_of_mem mem) (by decide)

lemma not_mem (h : IsPlain segment) {c : Char} (other : isPlain c = false) : c ∉ segment :=
  fun mem => ne_of_isPlain (h.isPlain_of_mem mem) other rfl

lemma isSlash_eq_false (h : IsPlain segment) : ∀ c ∈ segment, isSlash c = false := by
  intro c mem
  have plain := h.isPlain_of_mem mem
  rw [isSlash, Bool.or_eq_false_iff, beq_eq_false_iff_ne, beq_eq_false_iff_ne]
  exact ⟨ne_of_isPlain plain (by decide), ne_of_isPlain plain (by decide)⟩

end IsPlain

lemma eq_replicate_of_dots? {s : List Char} {n : Nat} (h : dots? s = some n) (plain : '%' ∉ s) :
    s = List.replicate n '.' := by
  induction s using dots?.induct generalizing n with
  | case1 => cases h; rfl
  | case2 s ih =>
    rw [dots?] at h
    obtain ⟨m, rest, rfl⟩ := Option.map_eq_some_iff.1 h
    rw [ih rest (fun mem => plain (List.mem_cons_of_mem _ mem)), List.replicate_succ]
  | case3 s => exact absurd List.mem_cons_self plain
  | case4 s => exact absurd List.mem_cons_self plain
  | case5 s none dot lower upper =>
    rw [dots?.eq_5 s none dot lower upper] at h
    cases h

lemma segments_of_not_slash {s : List Char} (h : ∀ c ∈ s, isSlash c = false) :
    segments s = [s] := by
  induction s with
  | nil => rfl
  | cons c s ih =>
    obtain ⟨here, there⟩ := List.forall_mem_cons.1 h
    simp [segments, here, ih there]

lemma segments_append_slash {s : List Char} (h : ∀ c ∈ s, isSlash c = false) (t : List Char) :
    segments (s ++ '/' :: t) = s :: segments t := by
  induction s with
  | nil => rfl
  | cons c s ih =>
    obtain ⟨here, there⟩ := List.forall_mem_cons.1 h
    simp [segments, here, ih there]

lemma segments_append_flatMap {s : List Char} {ss : List (List Char)}
    (h : ∀ segment ∈ s :: ss, ∀ c ∈ segment, isSlash c = false) :
    segments (s ++ ss.flatMap fun segment => '/' :: segment) = s :: ss := by
  induction ss generalizing s with
  | nil => simpa using segments_of_not_slash (h s List.mem_cons_self)
  | cons t ss ih =>
    obtain ⟨here, there⟩ := List.forall_mem_cons.1 h
    rw [List.flatMap_cons, List.cons_append, segments_append_slash here, ih there]

lemma walk_of_isPlain {ss : List (List Char)} (h : ∀ s ∈ ss, IsPlain s) (taken : List (List Char)) :
    walk taken ss = taken.reverse ++ ss := by
  induction ss generalizing taken with
  | nil => exact (List.append_nil _).symm
  | cons s ss ih =>
    obtain ⟨here, there⟩ := List.forall_mem_cons.1 h
    have dots {n : Nat} (step : dots? s = some n) : s = List.replicate n '.' :=
      eq_replicate_of_dots? step (here.not_mem (by decide))
    rw [walk]
    split
    case h_1 step => exact absurd (dots step) here.stays
    case h_2 step => exact absurd (dots step) here.rises
    case h_3 => rw [here.flatMap_escape, ih there, List.reverse_cons, List.append_assoc]; rfl

lemma ofSegments_cons {segment : List Char} {ss : List (List Char)} (nonempty : ss ≠ []) :
    ofSegments (segment :: ss) = '/' :: (segment ++ ofSegments ss) := by
  cases ss with
  | nil => exact absurd rfl nonempty
  | cons s ss => rfl

lemma path_ofSegments {ss : List (List Char)} (nonempty : ss ≠ []) (h : ∀ s ∈ ss, IsPlain s) :
    path (ofSegments ss) = ofSegments ss := by
  cases ss with
  | nil => exact absurd rfl nonempty
  | cons s ss =>
    have cut : segments (ofSegments (s :: ss)) = [] :: s :: ss :=
      segments_append_slash (s := []) (by simp) _ |>.trans
        (congrArg _ (segments_append_flatMap fun segment mem => (h segment mem).isSlash_eq_false))
    rw [path, cut, List.tail_cons, walk_of_isPlain h]
    rfl

lemma significant_of_solid {s : List Char} (h : ∀ c ∈ s, 0x20 < c.toNat) : significant s = s := by
  have solid : ∀ c ∈ s, isMargin c = false := fun c mem => by
    rw [isMargin, decide_eq_false_iff_not]
    exact Nat.not_le_of_lt (h c mem)
  have start : s.dropWhile isMargin = s := by
    cases s with
    | nil => rfl
    | cons c s => exact List.dropWhile_cons_of_neg (by simp [solid c List.mem_cons_self])
  have ending : dropEnding isMargin s = s :=
    dropEnding_eq_self_iff.2 fun c last => solid c (List.mem_of_getLast? last)
  rw [significant, start, ending, List.filter_eq_self]
  intro c mem
  rw [Bool.not_eq_true', Bool.eq_false_iff]
  intro dropped
  simp only [isDropped, Bool.or_eq_true, beq_iff_eq] at dropped
  rcases dropped with (rfl | rfl) | rfl
  all_goals exact absurd (h _ mem) (by decide)

lemma not_mem_ofSegments {ss : List (List Char)} {c : Char} (h : ∀ s ∈ ss, IsPlain s)
    (other : isPlain c = false) (ne : c ≠ '/') : c ∉ ofSegments ss := by
  cases ss with
  | nil => simpa [ofSegments] using ne
  | cons s ss =>
    rw [ofSegments, List.mem_flatMap]
    · rintro ⟨segment, mem, here⟩
      rcases List.mem_cons.1 here with slash | here
      · exact ne slash
      · exact (h segment mem).not_mem other here
    · exact List.cons_ne_nil s ss

/-- A plain character, or one that separates the parts of a query. -/
def isPlainInQuery (c : Char) : Bool :=
  isPlain c || c == '=' || c == '&'

/-- What may stand behind the path of an address for it to be carried as it is: nothing, or a query
of such characters. -/
def IsPlainQuery (query : List Char) : Prop :=
  query = [] ∨ ∃ parts, query = '?' :: parts ∧ parts.all isPlainInQuery

lemma solid_and_escape_of_isPlainInQuery {c : Char} (h : isPlainInQuery c) :
    0x20 < c.toNat ∧ escape specialInQuery c = [c] := by
  simp only [isPlainInQuery, Bool.or_eq_true, beq_iff_eq] at h
  rcases h with (plain | rfl) | rfl
  · exact ⟨(bounds_of_isPlain plain).1, escape_of_isPlain plain (by decide)⟩
  · decide
  · decide

lemma IsPlainQuery.solid {query : List Char} (h : IsPlainQuery query) :
    ∀ c ∈ query, 0x20 < c.toNat := by
  intro c mem
  rcases h with rfl | ⟨parts, rfl, plain⟩
  · cases mem
  · rcases List.mem_cons.1 mem with rfl | mem
    · decide
    · exact (solid_and_escape_of_isPlainInQuery (List.all_eq_true.1 plain c mem)).1

lemma ofRest_of_isPlain {ss : List (List Char)} {rest : List Char} (nonempty : ss ≠ [])
    (h : ∀ s ∈ ss, IsPlain s) (plain : IsPlainQuery rest) :
    ofRest (ofSegments ss ++ rest) = ofSegments ss ++ rest := by
  have mark : '?' ∉ ofSegments ss := not_mem_ofSegments h (by decide) (by decide)
  have sign : '#' ∉ ofSegments ss := not_mem_ofSegments h (by decide) (by decide)
  rcases plain with rfl | ⟨parts, rfl, plain⟩
  · rw [List.append_nil, ofRest, beforeFragment, List.takeWhile_eq_self_iff.2 (bne_of_not_mem sign),
      beforeQuery, List.takeWhile_eq_self_iff.2 (bne_of_not_mem mark), path_ofSegments nonempty h,
      query, List.dropWhile_eq_nil_iff.2 (bne_of_not_mem mark), List.append_nil]
  · have kept : ∀ c ∈ parts, escape specialInQuery c = [c] := fun c mem =>
      (solid_and_escape_of_isPlainInQuery (List.all_eq_true.1 plain c mem)).2
    have sign' : '#' ∉ ofSegments ss ++ '?' :: parts := by
      rw [List.mem_append, List.mem_cons]
      rintro (here | mark | here)
      · exact sign here
      · cases mark
      · exact absurd (List.all_eq_true.1 plain '#' here) (by decide)
    rw [ofRest, beforeFragment, List.takeWhile_eq_self_iff.2 (bne_of_not_mem sign'), beforeQuery,
      takeWhile_append_cons mark, path_ofSegments nonempty h, query, dropWhile_append_cons mark]
    dsimp only
    rw [flatMap_escape kept]

/-- A target that is carried as it is: plain segments, and perhaps a query behind the last one. -/
inductive IsPlainTarget : List Char → Prop where
  | last {segment query : List Char} :
    IsPlain segment → IsPlainQuery query →
    IsPlainTarget ('/' :: (segment ++ query))
  | cons {segment rest : List Char} :
    IsPlain segment → IsPlainTarget rest →
    IsPlainTarget ('/' :: (segment ++ rest))

namespace IsPlainTarget

variable {s : List Char}

lemma exists_ofSegments (h : IsPlainTarget s) : ∃ ss query, ss ≠ [] ∧
    (∀ segment ∈ ss, IsPlain segment) ∧ IsPlainQuery query ∧ s = ofSegments ss ++ query := by
  induction h with
  | @last segment query plain plain' =>
    refine ⟨[segment], query, List.cons_ne_nil _ _, List.forall_mem_singleton.2 plain, plain', ?_⟩
    simp [ofSegments]
  | @cons segment rest plain _ ih =>
    obtain ⟨ss, query, nonempty, others, plain', rfl⟩ := ih
    refine ⟨segment :: ss, query, List.cons_ne_nil _ _, List.forall_mem_cons.2 ⟨plain, others⟩,
      plain', ?_⟩
    rw [ofSegments_cons nonempty, List.cons_append, List.append_assoc]

lemma ofRest_eq (h : IsPlainTarget s) : ofRest s = s := by
  obtain ⟨ss, query, nonempty, plain, plain', rfl⟩ := h.exists_ofSegments
  exact ofRest_of_isPlain nonempty plain plain'

lemma solid (h : IsPlainTarget s) : ∀ c ∈ s, 0x20 < c.toNat := by
  have slash : 0x20 < '/'.toNat := by decide
  induction h with
  | last plain plain' =>
    exact List.forall_mem_cons.2 ⟨slash, List.forall_mem_append.2
      ⟨fun c mem => (bounds_of_isPlain (plain.isPlain_of_mem mem)).1, plain'.solid⟩⟩
  | cons plain _ ih =>
    exact List.forall_mem_cons.2 ⟨slash, List.forall_mem_append.2
      ⟨fun c mem => (bounds_of_isPlain (plain.isPlain_of_mem mem)).1, ih⟩⟩

lemma issues : IsPlainTarget ('/' :: "issues".toList) :=
  @last "issues".toList [] ⟨by decide, by decide, by decide⟩ (.inl rfl)

lemma listing : IsPlainTarget ('/' :: "issues?state=open&per_page=100".toList) :=
  @last "issues".toList "?state=open&per_page=100".toList ⟨by decide, by decide, by decide⟩
    (.inr ⟨"state=open&per_page=100".toList, rfl, by decide⟩)

lemma commit {revision : String} (h : Attribution.isRevision revision.toList) :
    IsPlainTarget ('/' :: ("commits/" ++ revision).toList) := by
  have parts : ("commits/" ++ revision).toList =
      "commits".toList ++ '/' :: (revision.toList ++ []) := by simp
  rw [parts]
  exact .cons ⟨by decide, by decide, by decide⟩ (.last (isPlain_of_isRevision h) (.inl rfl))

end IsPlainTarget

end Target

namespace Client

open Target

variable {c : Client} {server path target : String}

/-- A client for a server itself, with names that need no escape. -/
structure IsPlainFor (c : Client) (server : String) : Prop where
  address : c.address = server
  solid : server.toList.all fun x => 0x20 < x.toNat
  owner : IsPlain c.owner.toList
  name : IsPlain c.name.toList

lemma eq_of_targetOn? (solid : server.toList.all fun x => 0x20 < x.toNat)
    (plain : IsPlainTarget path.toList) (found : targetOn? server (server ++ path) = some target) :
    target = path := by
  obtain ⟨rest, here, fits⟩ := Option.bind_eq_some_iff.1 found
  have read : significant (server ++ path).toList = server.toList ++ path.toList := by
    rw [String.toList_append]
    refine significant_of_solid (List.forall_mem_append.2 ⟨fun x mem => ?_, plain.solid⟩)
    exact of_decide_eq_true (List.all_eq_true.1 solid x mem)
  rw [read] at here
  obtain rfl := List.append_cancel_left (restOn?_eq_some_iff.1 here).1
  obtain ⟨-, ⟨⟩⟩ := Option.ite_none_right_eq_some.1 fits
  rw [plain.ofRest_eq, String.ofList_toList]

lemma IsPlainFor.eq_of_targetOn? (h : c.IsPlainFor server)
    (plain : IsPlainTarget ('/' :: path.toList))
    (found : targetOn? server (c.address ++ "/repos/" ++ c.owner ++ "/" ++ c.name ++ "/" ++ path) =
      some target) : target = "/repos/" ++ c.owner ++ "/" ++ c.name ++ "/" ++ path := by
  have parts : ("/repos/" ++ c.owner ++ "/" ++ c.name ++ "/" ++ path).toList =
      '/' :: ("repos".toList ++ '/' :: (c.owner.toList ++ '/' :: (c.name.toList ++
        '/' :: path.toList))) := by simp
  refine Client.eq_of_targetOn? h.solid ?_ ?_
  · rw [parts]
    exact .cons ⟨by decide, by decide, by decide⟩ (.cons h.owner (.cons h.name plain))
  · rw [← found, h.address]
    simp only [String.append_assoc]

end Client

end Overdue
