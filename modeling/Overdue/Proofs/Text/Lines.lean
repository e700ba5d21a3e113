import Mathlib.Data.List.Forall2
import Mathlib.Data.Nat.Find
import Overdue.Proofs.Text.Blank
import Overdue.Text.Lines

/-!
# Lines and cuts

What the pieces of a text may hold, how a text is made up of lines that are ended, and where one
text first occurs in another.
-/

namespace Overdue.Text

lemma newline_not_mem {s line : List Char} (h : line ∈ lines s) : '\n' ∉ line := by
  induction s generalizing line with
  | nil => cases h
  | cons c cs ih =>
    rw [lines] at h
    split at h
    case isTrue =>
      rcases List.mem_cons.1 h with rfl | h
      · exact List.not_mem_nil
      · exact ih h
    case isFalse notFeed =>
      split at h
      case isTrue => exact ih h
      case isFalse =>
        have first {l : List Char} (rest : '\n' ∉ l) : '\n' ∉ c :: l :=
          List.not_mem_cons_of_ne_of_not_mem (Ne.symm notFeed) rest
        split at h
        case h_1 =>
          obtain rfl := List.mem_singleton.1 h
          exact first List.not_mem_nil
        case h_2 l ls eq =>
          rw [eq] at ih
          rcases List.mem_cons.1 h with rfl | h
          · exact first (ih List.mem_cons_self)
          · exact ih (List.mem_cons_of_mem _ h)

lemma mem_of_mem_lines {s line : List Char} (h : line ∈ lines s) : ∀ c ∈ line, c ∈ s := by
  induction s generalizing line with
  | nil => cases h
  | cons c cs ih =>
    have later {l : List Char} (m : l ∈ lines cs) : ∀ d ∈ l, d ∈ c :: cs := fun d hd =>
      List.mem_cons_of_mem c (ih m d hd)
    rw [lines] at h
    split at h
    case isTrue =>
      rcases List.mem_cons.1 h with rfl | h
      · exact fun _ m => absurd m List.not_mem_nil
      · exact later h
    case isFalse =>
      split at h
      case isTrue => exact later h
      case isFalse =>
        split at h
        case h_1 =>
          obtain rfl := List.mem_singleton.1 h
          exact fun d m => List.mem_singleton.1 m ▸ List.mem_cons_self
        case h_2 l ls eq =>
          rw [eq] at later
          rcases List.mem_cons.1 h with rfl | h
          · exact List.forall_mem_cons.2 ⟨List.mem_cons_self, later List.mem_cons_self⟩
          · exact later (List.mem_cons_of_mem _ h)

lemma lines_ne_nil {s : List Char} (h : s ≠ []) : lines s ≠ [] := by
  induction s with
  | nil => exact absurd rfl h
  | cons c cs ih =>
    rw [lines]
    split
    case isTrue => exact List.cons_ne_nil _ _
    case isFalse =>
      split
      case isTrue isReturn =>
        apply ih
        rintro rfl
        cases isReturn.2
      case isFalse =>
        split
        case h_1 => exact List.cons_ne_nil _ _
        case h_2 => exact List.cons_ne_nil _ _

/-- The text has no line that is not ended. -/
def IsEnded (s : List Char) : Prop :=
  s = [] ∨ s.getLast? = some '\n'

/-- The lines of a text whose last line is ended are not changed by what follows. -/
lemma lines_append {s : List Char} (h : IsEnded s) (t : List Char) :
    lines (s ++ t) = lines s ++ lines t := by
  induction s with
  | nil => rfl
  | cons c cs ih =>
    by_cases last : cs = []
    · subst last
      obtain rfl : c = '\n' := by simpa [IsEnded] using h
      simp [lines]
    · have ended : IsEnded cs := by
        rw [IsEnded, List.getLast?_cons_of_ne_nil last] at h
        exact .inr (h.resolve_left (List.cons_ne_nil _ _))
      have head : (cs ++ t).head? = cs.head? := List.head?_append_of_ne_nil _ last
      rw [List.cons_append, lines, lines, head, ih ended]
      split
      case isTrue => rfl
      case isFalse =>
        split
        case isTrue => rfl
        case isFalse =>
          cases eq : lines cs with
          | nil => exact absurd eq (lines_ne_nil last)
          | cons line rest => rfl

/-- The text without a carriage return at its end. -/
def withoutReturn (s : List Char) : List Char :=
  if s.getLast? = some '\r' then s.dropLast else s

lemma eq_or_eq_concat_withoutReturn (s : List Char) :
    s = withoutReturn s ∨ s = withoutReturn s ++ ['\r'] := by
  rw [withoutReturn]
  split
  case isTrue last =>
    obtain ⟨t, rfl⟩ := List.getLast?_eq_some_iff.1 last
    rw [List.dropLast_concat]
    exact .inr rfl
  case isFalse => exact .inl rfl

lemma withoutReturn_prefix_self (s : List Char) : withoutReturn s <+: s := by
  rcases eq_or_eq_concat_withoutReturn s with eq | eq
  · exact ⟨[], (List.append_nil _).trans eq.symm⟩
  · exact ⟨['\r'], eq.symm⟩

lemma withoutReturn_cons_of_ne_nil (c : Char) {s : List Char} (h : s ≠ []) :
    withoutReturn (c :: s) = c :: withoutReturn s := by
  rw [withoutReturn, withoutReturn, List.getLast?_cons_of_ne_nil h, List.dropLast_cons_of_ne_nil h]
  split
  case isTrue => rfl
  case isFalse => rfl

lemma withoutReturn_append_cons {c : Char} (h : c ≠ '\r') (s t : List Char) :
    withoutReturn (s ++ c :: t) = s ++ c :: withoutReturn t := by
  induction s with
  | nil =>
    cases t with
    | nil => simp [withoutReturn, h]
    | cons d t => exact withoutReturn_cons_of_ne_nil c (List.cons_ne_nil _ _)
  | cons d s ih =>
    rw [List.cons_append, withoutReturn_cons_of_ne_nil d (by simp), ih, List.cons_append]

lemma getLast?_ne_return {s : List Char} (h : trim s = s) : s.getLast? ≠ some '\r' := by
  intro last
  obtain ⟨front, rfl⟩ := List.getLast?_eq_some_iff.1 last
  rw [trim_concat (by decide)] at h
  have shorter := (trim_sublist front).length_le
  rw [h, List.length_append, List.length_singleton] at shorter
  omega

lemma trim_withoutReturn (s : List Char) : trim (withoutReturn s) = trim s := by
  rcases eq_or_eq_concat_withoutReturn s with eq | eq
  · rw [← eq]
  · nth_rewrite 2 [eq]
    exact (trim_concat (by decide) _).symm

lemma allBlank_withoutReturn (s : List Char) : allBlank (withoutReturn s) ↔ allBlank s := by
  rcases eq_or_eq_concat_withoutReturn s with eq | eq
  · rw [← eq]
  · nth_rewrite 2 [eq]
    rw [allBlank_append, and_iff_left (by decide)]

/-- A text without line feeds is one line, without the carriage return at its end. -/
lemma lines_concat {s : List Char} (h : '\n' ∉ s) : lines (s ++ ['\n']) = [withoutReturn s] := by
  induction s with
  | nil => rfl
  | cons c cs ih =>
    obtain ⟨feed, line⟩ := not_or.1 (mt List.mem_cons.2 h)
    rw [List.cons_append, lines, if_neg (Ne.symm feed), ih line]
    by_cases last : cs = []
    · subst last
      by_cases isReturn : c = '\r' <;> simp [withoutReturn, isReturn]
    · have head : (cs ++ ['\n']).head? ≠ some '\n' := by
        rw [List.head?_append_of_ne_nil _ last]
        exact fun eq => line (List.mem_of_head? eq)
      rw [if_neg fun eq => head eq.2, withoutReturn_cons_of_ne_nil c last]

lemma lines_of_not_mem {s : List Char} (h : '\n' ∉ s) (ne_nil : s ≠ []) : lines s = [s] := by
  induction s with
  | nil => exact absurd rfl ne_nil
  | cons c cs ih =>
    obtain ⟨feed, line⟩ := not_or.1 (mt List.mem_cons.2 h)
    rw [lines, if_neg (Ne.symm feed), if_neg fun eq => line (List.mem_of_head? eq.2)]
    by_cases last : cs = []
    · subst last
      rfl
    · rw [ih line last]

/-- A text has as many lines as line feeds if there is nothing behind the last one. -/
lemma length_lines_of_isEnded {s : List Char} (h : IsEnded s) : (lines s).length = s.count '\n' := by
  induction s with
  | nil => rfl
  | cons c cs ih =>
    by_cases last : cs = []
    · subst last
      obtain rfl : c = '\n' := by simpa [IsEnded] using h
      rfl
    · have ended : IsEnded cs := by
        rw [IsEnded, List.getLast?_cons_of_ne_nil last] at h
        exact .inr (h.resolve_left (List.cons_ne_nil _ _))
      rw [lines, List.count_cons, ← ih ended]
      split
      case isTrue feed => simp [feed]
      case isFalse notFeed =>
        split
        case isTrue => simp [notFeed]
        case isFalse =>
          cases eq : lines cs with
          | nil => exact absurd eq (lines_ne_nil last)
          | cons line rest => simp [notFeed]

lemma lines_flatMap_concat {pieces : List (List Char)} (h : ∀ p ∈ pieces, '\n' ∉ p) :
    lines (pieces.flatMap (· ++ ['\n'])) = pieces.map withoutReturn := by
  induction pieces with
  | nil => rfl
  | cons piece pieces ih =>
    obtain ⟨here, there⟩ := List.forall_mem_cons.1 h
    rw [List.flatMap_cons, lines_append (.inr List.getLast?_concat), lines_concat here, ih there]
    rfl

/-- A line that is read as it is: it holds no line feed, and no carriage return ends it. -/
def IsLine (s : List Char) : Prop :=
  '\n' ∉ s ∧ s.getLast? ≠ some '\r'

instance (s : List Char) : Decidable (IsLine s) :=
  inferInstanceAs (Decidable (_ ∧ _))

namespace IsLine

variable {s t : List Char}

lemma withoutReturn_eq (h : IsLine s) : withoutReturn s = s :=
  if_neg h.2

lemma append (hs : IsLine s) (ht : IsLine t) : IsLine (s ++ t) := by
  refine ⟨List.not_mem_append hs.1 ht.1, ?_⟩
  rw [List.getLast?_append]
  have own := ht.2
  cases last : t.getLast? with
  | none => exact hs.2
  | some c =>
    rw [last] at own
    exact own

/-- What stands before the end of a line may end in a carriage return. -/
lemma append_of_ne_nil (hs : '\n' ∉ s) (ht : IsLine t) (ne_nil : t ≠ []) : IsLine (s ++ t) := by
  refine ⟨List.not_mem_append hs ht.1, ?_⟩
  rw [List.getLast?_append_of_ne_nil _ ne_nil]
  exact ht.2

lemma of_trim (line : '\n' ∉ s) (trimmed : trim s = s) : IsLine s :=
  ⟨line, getLast?_ne_return trimmed⟩

end IsLine

lemma lines_flatMap_of_isLine {pieces : List (List Char)} (h : ∀ p ∈ pieces, IsLine p) :
    lines (pieces.flatMap (· ++ ['\n'])) = pieces := by
  rw [lines_flatMap_concat fun p mem => (h p mem).1]
  exact (List.map_congr_left fun p mem => (h p mem).withoutReturn_eq).trans (List.map_id _)

/-- Cut at its line feeds, a text of pieces that are ended has nothing behind the last one. -/
lemma splitOn_flatMap_concat {pieces : List (List Char)} (h : ∀ p ∈ pieces, '\n' ∉ p) :
    (pieces.flatMap (· ++ ['\n'])).splitOn '\n' = pieces ++ [[]] := by
  induction pieces with
  | nil => rfl
  | cons piece pieces ih =>
    obtain ⟨here, there⟩ := List.forall_mem_cons.1 h
    have cut (rest : List Char) : (piece ++ '\n' :: rest).splitOn '\n' =
        piece.splitOn '\n' ++ rest.splitOn '\n' :=
      List.splitOnP_append_cons piece rest (beq_self_eq_true '\n')
    rw [List.flatMap_cons, List.append_assoc, List.singleton_append, cut,
      List.splitOn_eq_singleton here, ih there, List.singleton_append, List.cons_append]

lemma toList_join_lines (ls : List String) : (String.join (ls.map (· ++ "\n"))).toList =
    (ls.map String.toList).flatMap (· ++ ['\n']) := by
  rw [String.toList_join, List.flatMap_map, List.flatMap_map]
  simp only [String.toList_append]
  rfl

/-- Pieces that are ended take more lines than there are pieces if one of them holds a line feed. -/
lemma length_lines_flatMap_concat_eq_iff {pieces : List (List Char)} :
    (lines (pieces.flatMap (· ++ ['\n']))).length = pieces.length ↔ ∀ p ∈ pieces, '\n' ∉ p := by
  have length : (lines (pieces.flatMap (· ++ ['\n']))).length =
      pieces.length + (pieces.map (List.count '\n')).sum := by
    induction pieces with
    | nil => rfl
    | cons piece pieces ih =>
      have ended : IsEnded (piece ++ ['\n']) := .inr List.getLast?_concat
      rw [List.flatMap_cons, lines_append ended, List.length_append, ih,
        length_lines_of_isEnded ended]
      simp only [List.count_append, List.count_singleton_self, List.length_cons, List.map_cons,
        List.sum_cons]
      omega
  rw [length, Nat.add_eq_left, List.sum_eq_zero_iff_forall_eq_nat, List.forall_mem_map]
  simp only [List.count_eq_zero]

/-- The line that a piece of a text between line feeds is: the piece, perhaps without the carriage
return at its end. -/
def IsLineOf (line piece : List Char) : Prop :=
  line = piece ∨ line = withoutReturn piece

/-- The pieces of a text between line feeds are its lines, and an empty one at the end is none. -/
lemma exists_lines_intercalate (piece : List Char) (pieces : List (List Char))
    (h : ∀ p ∈ piece :: pieces, '\n' ∉ p) : ∃ ls, List.Forall₂ IsLineOf ls (piece :: pieces) ∧
      (lines (List.intercalate ['\n'] (piece :: pieces)) = ls ∨
        lines (List.intercalate ['\n'] (piece :: pieces)) ++ [[]] = ls) := by
  induction pieces generalizing piece with
  | nil =>
    refine ⟨[piece], .cons (.inl rfl) .nil, ?_⟩
    rw [List.intercalate_singleton]
    by_cases empty : piece = []
    · subst empty
      exact .inr rfl
    · exact .inl (lines_of_not_mem (h piece List.mem_cons_self) empty)
  | cons next pieces ih =>
    obtain ⟨here, there⟩ := List.forall_mem_cons.1 h
    obtain ⟨ls, related, eq⟩ := ih next there
    have split : lines (List.intercalate ['\n'] (piece :: next :: pieces)) =
        withoutReturn piece :: lines (List.intercalate ['\n'] (next :: pieces)) := by
      rw [List.intercalate_cons_cons, lines_append (.inr List.getLast?_concat), lines_concat here]
      rfl
    refine ⟨withoutReturn piece :: ls, .cons (.inr rfl) related, ?_⟩
    rw [split]
    exact eq.imp (congrArg _) (congrArg _)

/-- What stands after the last separator is the piece behind all of them. -/
lemma exists_append_afterLast (sep : Char) (s : List Char) : ∃ front,
    s = front ++ afterLast sep s ∧ (front = [] ∨ front.getLast? = some sep) ∧
      sep ∉ afterLast sep s := by
  refine ⟨(s.reverse.dropWhile (· != sep)).reverse, ?_, ?_, ?_⟩
  · rw [afterLast, ← List.reverse_append, List.takeWhile_append_dropWhile, List.reverse_reverse]
  · rw [List.getLast?_reverse, List.reverse_eq_nil_iff]
    cases eq : s.reverse.dropWhile (· != sep) with
    | nil => exact .inl rfl
    | cons c cs =>
      have last := List.head?_dropWhile_not (· != sep) s.reverse
      rw [eq] at last
      exact .inr (by simpa using last)
  · rw [afterLast, List.mem_reverse]
    intro m
    simpa using List.all_eq_true.1 List.all_takeWhile _ m

lemma afterLast_of_not_mem {sep : Char} {s : List Char} (h : sep ∉ s) : afterLast sep s = s := by
  obtain ⟨front, eq, last, -⟩ := exists_append_afterLast sep s
  rcases last with rfl | last
  · exact eq.symm
  · exact absurd (eq ▸ List.mem_append_left _ (List.mem_of_getLast? last)) h

/-- A cut at the first separator is the one that leaves none before it. -/
lemma splitFirst?_eq_some_iff {sep : Char} {s before after : List Char} :
    splitFirst? sep s = some (before, after) ↔ s = before ++ sep :: after ∧ sep ∉ before := by
  induction s generalizing before after with
  | nil => simp [splitFirst?]
  | cons c cs ih =>
    rw [splitFirst?]
    split
    case isTrue same =>
      subst same
      cases before with
      | nil => simp
      | cons d before =>
        simp only [Option.some.injEq, Prod.mk.injEq, reduceCtorEq, false_and, List.cons_append,
          List.cons.injEq, List.mem_cons, not_or, false_iff]
        rintro ⟨⟨rfl, -⟩, distinct, -⟩
        exact distinct rfl
    case isFalse distinct =>
      cases before with
      | nil => simp [distinct]
      | cons d before =>
        have head : sep ≠ c := Ne.symm distinct
        simp only [Option.map_eq_some_iff, Prod.exists, ih, Prod.mk.injEq, List.cons.injEq,
          List.cons_append, List.mem_cons, not_or]
        constructor
        · rintro ⟨_, _, ⟨rfl, absent⟩, ⟨rfl, rfl⟩, rfl⟩
          exact ⟨⟨rfl, rfl⟩, head, absent⟩
        · rintro ⟨⟨rfl, rfl⟩, -, absent⟩
          exact ⟨_, _, ⟨rfl, absent⟩, ⟨rfl, rfl⟩, rfl⟩

lemma splitFirst?_eq_none_iff {sep : Char} {s : List Char} : splitFirst? sep s = none ↔ sep ∉ s := by
  rw [Option.eq_none_iff_forall_ne_some, Prod.forall]
  constructor
  · intro uncut m
    obtain ⟨before, after, eq, absent⟩ := List.eq_append_cons_of_mem m
    exact uncut before after (splitFirst?_eq_some_iff.2 ⟨eq, absent⟩)
  · rintro absent before after cut
    rw [(splitFirst?_eq_some_iff.1 cut).1] at absent
    exact absent (List.mem_append_right before List.mem_cons_self)

lemma splitFirst?_append {sep : Char} {before : List Char} (h : sep ∉ before) (after : List Char) :
    splitFirst? sep (before ++ sep :: after) = some (before, after) :=
  splitFirst?_eq_some_iff.2 ⟨rfl, h⟩

/-- A cut at a character that a piece does not hold is behind that piece. -/
lemma exists_of_append_eq {l r x y : List Char} {k : Char} (h : l ++ r = x ++ k :: y)
    (absent : k ∉ l) : ∃ z, x = l ++ z ∧ r = z ++ k :: y := by
  rcases List.append_eq_append_iff.1 h with ⟨z, rfl, rfl⟩ | ⟨z, rfl, eq⟩
  · exact ⟨z, rfl, rfl⟩
  · cases z with
    | nil => exact ⟨[], by simp, by simpa using eq.symm⟩
    | cons k' z =>
      obtain ⟨rfl, -⟩ := List.cons.inj eq
      exact absurd (List.mem_append_right x List.mem_cons_self) absent

/-- The last occurrence of a character cuts a text in one way. -/
lemma append_cons_inj {s t s' t' : List Char} {k : Char} (h : s ++ k :: t = s' ++ k :: t')
    (ht : k ∉ t) (ht' : k ∉ t') : s = s' ∧ t = t' := by
  have reversed : t.reverse ++ k :: s.reverse = t'.reverse ++ k :: s'.reverse := by
    simpa using congrArg List.reverse h
  have absent : k ∉ t.reverse := mt List.mem_reverse.1 ht
  have absent' : k ∉ t'.reverse := mt List.mem_reverse.1 ht'
  have cut := splitFirst?_append absent s.reverse
  rw [reversed, splitFirst?_append absent', Option.some.injEq, Prod.mk.injEq] at cut
  exact ⟨List.reverse_injective cut.2.symm, List.reverse_injective cut.1.symm⟩

lemma contains_iff {needle s : List Char} : contains needle s ↔ needle <:+: s := by
  induction s with
  | nil => rw [contains, List.isEmpty_iff, List.infix_nil]
  | cons c cs ih =>
    rw [contains, Bool.or_eq_true, ih, List.isPrefixOf_iff_prefix, List.infix_cons_iff]

/-- At one place a piece cuts a text in one way. -/
lemma append_append_inj {s t s' t' w : List Char} (h : s ++ w ++ t = s' ++ w ++ t')
    (len : s.length = s'.length) : s = s' ∧ t = t' := by
  rw [List.append_assoc, List.append_assoc] at h
  obtain ⟨same, rest⟩ := List.append_inj h len
  exact ⟨same, List.append_cancel_left rest⟩

/-- A text is cut around the first place where another one stands in it. -/
structure IsFirstCut (needle before after text : List Char) : Prop where
  eq : text = before ++ needle ++ after
  first : ∀ before' after', text = before' ++ needle ++ after' → before.length ≤ before'.length

lemma exists_isFirstCut {needle text : List Char} (h : needle <:+: text) :
    ∃ before after, IsFirstCut needle before after text := by
  classical
  have places : ∃ n before after, text = before ++ needle ++ after ∧ before.length = n := by
    obtain ⟨before, after, eq⟩ := h
    exact ⟨_, before, after, eq.symm, rfl⟩
  obtain ⟨before, after, eq, len⟩ := Nat.find_spec places
  refine ⟨before, after, eq, fun before' after' eq' => ?_⟩
  rw [len]
  exact Nat.find_min' places ⟨before', after', eq', rfl⟩

namespace IsFirstCut

variable {needle before after before' after' text : List Char}

lemma unique (h : IsFirstCut needle before after text) (h' : IsFirstCut needle before' after' text) :
    before = before' ∧ after = after' :=
  append_append_inj (h.eq.symm.trans h'.eq)
    (Nat.le_antisymm (h.first _ _ h'.eq) (h'.first _ _ h.eq))

/-- The first place of a piece without white space is still the first in the trimmed text. -/
lemma trim (h : IsFirstCut needle before after text) (ne_nil : needle ≠ [])
    (solid : ∀ c ∈ needle, isBlank c = false) :
    IsFirstCut needle (skipBlank before) (dropEnding isBlank after) (trim text) := by
  have cut := trim_append_append (s := before) (t := after) ne_nil solid
  rw [← h.eq] at cut
  refine ⟨cut, fun before' after' cut' => ?_⟩
  obtain ⟨gap, -, start⟩ := exists_append_skipBlank before
  obtain ⟨ending, -, rest⟩ := exists_append_dropEnding isBlank after
  -- a place in the trimmed text is one in the text, behind the gap
  have whole : text = (gap ++ before') ++ needle ++ (after' ++ ending) := by
    rw [h.eq, ← start, ← rest]
    have same := congrArg (fun s => gap ++ s ++ ending) (cut.symm.trans cut')
    simpa only [List.append_assoc] using same
  have left := h.first _ _ whole
  rw [← start, List.length_append, List.length_append] at left
  exact Nat.le_of_add_le_add_left left

end IsFirstCut

end Overdue.Text
