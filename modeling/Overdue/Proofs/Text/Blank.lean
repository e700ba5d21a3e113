import Mathlib.Data.List.DropRight
import Overdue.Text.Blank

/-!
# White space at the ends of texts

A text is the white space at its start and what `skipBlank` leaves, so that a reader which skips
white space sees through any amount of it.
-/

namespace Overdue.Text

lemma isBlank_newline : isBlank '\n' := by
  decide

lemma allBlank_iff {s : List Char} : allBlank s ↔ ∀ c ∈ s, isBlank c :=
  List.all_eq_true

@[simp] lemma allBlank_append (s t : List Char) : allBlank (s ++ t) ↔ allBlank s ∧ allBlank t := by
  simp [allBlank]

lemma isUpper_iff {c : Char} : c.isUpper ↔ 0x41 ≤ c.toNat ∧ c.toNat ≤ 0x5A := by
  change decide (0x41 ≤ c.val ∧ c.val ≤ 0x5A) = true ↔ _
  rw [decide_eq_true_iff, UInt32.le_iff_toNat_le, UInt32.le_iff_toNat_le]
  rfl

lemma isLower_iff {c : Char} : c.isLower ↔ 0x61 ≤ c.toNat ∧ c.toNat ≤ 0x7A := by
  change (decide (0x61 ≤ c.val) && decide (c.val ≤ 0x7A)) = true ↔ _
  rw [Bool.and_eq_true, decide_eq_true_iff, decide_eq_true_iff, UInt32.le_iff_toNat_le,
    UInt32.le_iff_toNat_le]
  rfl

lemma isAlpha_iff {c : Char} : c.isAlpha ↔
    0x41 ≤ c.toNat ∧ c.toNat ≤ 0x5A ∨ 0x61 ≤ c.toNat ∧ c.toNat ≤ 0x7A := by
  rw [← isUpper_iff, ← isLower_iff]
  exact Bool.or_eq_true_iff

lemma isAlpha_of_isBlank {c : Char} (h : isBlank c) : c.isAlpha = false := by
  rw [Bool.eq_false_iff, ne_eq, isAlpha_iff]
  simp only [isBlank, Bool.or_eq_true, Bool.and_eq_true, decide_eq_true_eq, beq_iff_eq] at h
  omega

lemma skipBlank_append {gap : List Char} (h : allBlank gap) (s : List Char) :
    skipBlank (gap ++ s) = skipBlank s :=
  List.dropWhile_append_of_pos (allBlank_iff.1 h)

lemma skipBlank_cons {c : Char} (h : isBlank c = false) (s : List Char) :
    skipBlank (c :: s) = c :: s :=
  List.dropWhile_cons_of_neg (by rw [h]; exact Bool.false_ne_true)

lemma skipBlank_append_cons {gap : List Char} (h : allBlank gap) {c : Char}
    (hc : isBlank c = false) (s : List Char) : skipBlank (gap ++ c :: s) = c :: s := by
  rw [skipBlank_append h, skipBlank_cons hc]

/-- What `skipBlank` takes off is white space. -/
lemma exists_append_skipBlank (s : List Char) : ∃ gap, allBlank gap ∧ gap ++ skipBlank s = s := by
  refine ⟨s.takeWhile isBlank, ?_, List.takeWhile_append_dropWhile⟩
  exact allBlank_iff.2 fun c m => List.all_eq_true.1 List.all_takeWhile c m

lemma skipBlank_skipBlank (s : List Char) : skipBlank (skipBlank s) = skipBlank s :=
  List.dropWhile_idempotent isBlank s

lemma isBlank_of_skipBlank_eq_cons {c : Char} {s t : List Char} (h : skipBlank s = c :: t) :
    isBlank c = false := by
  have := List.head?_dropWhile_not isBlank s
  rw [show s.dropWhile isBlank = c :: t from h] at this
  simpa using this

lemma trim_skipBlank (s : List Char) : trim (skipBlank s) = trim s := by
  rw [trim, trim, skipBlank_skipBlank]

lemma allBlank_of_skipBlank_eq_nil {s : List Char} (h : skipBlank s = []) : allBlank s := by
  obtain ⟨gap, blank, eq⟩ := exists_append_skipBlank s
  rwa [← eq, h, List.append_nil]

/-- Without the white space at its start a text is one line if there is nothing else above any of
its line feeds. -/
lemma newline_mem_skipBlank_iff {s : List Char} : '\n' ∈ skipBlank s ↔
    ∃ above below, s = above ++ '\n' :: below ∧ ¬allBlank above := by
  obtain ⟨gap, blank, eq⟩ := exists_append_skipBlank s
  constructor
  · intro m
    obtain ⟨above, below, cut⟩ := List.append_of_mem m
    refine ⟨gap ++ above, below, by rw [← eq, cut, List.append_assoc], fun h => ?_⟩
    -- otherwise the line feed would have been skipped with the white space above it
    have above_blank : allBlank above := ((allBlank_append _ _).1 h).2
    have skipped : skipBlank s = skipBlank ('\n' :: below) := by
      rw [← skipBlank_skipBlank, cut, skipBlank_append above_blank]
    have len := congrArg List.length (cut.symm.trans skipped)
    have shorter : (skipBlank ('\n' :: below)).length ≤ below.length := by
      rw [show skipBlank ('\n' :: below) = skipBlank below from
        List.dropWhile_cons_of_pos isBlank_newline]
      exact (List.dropWhile_sublist _).length_le
    simp only [List.length_append, List.length_cons] at len
    omega
  · rintro ⟨above, below, rfl, h⟩
    have kept : skipBlank (above ++ '\n' :: below) = skipBlank above ++ '\n' :: below := by
      rw [skipBlank, List.dropWhile_append]
      split
      · rename_i empty
        exact absurd (allBlank_of_skipBlank_eq_nil (List.isEmpty_iff.1 empty)) h
      · rfl
    rw [kept]
    exact List.mem_append_right _ List.mem_cons_self

/-! ## Trimming -/

lemma dropEnding_eq_rdropWhile (p : Char → Bool) (s : List Char) :
    dropEnding p s = s.rdropWhile p := by
  induction s with
  | nil => rfl
  | cons c s ih =>
    rw [dropEnding, ih, List.rdropWhile, List.rdropWhile, List.reverse_cons, List.dropWhile_append]
    cases s.reverse.dropWhile p with
    | nil => by_cases h : p c <;> simp [h]
    | cons d t => simp

lemma dropEnding_append_cons {p : Char → Bool} {c : Char} (h : p c = false) (s t : List Char) :
    dropEnding p (s ++ c :: t) = s ++ c :: dropEnding p t := by
  induction s with
  | nil =>
    rw [List.nil_append, List.nil_append, dropEnding]
    split
    case h_1 empty => rw [h, empty]; rfl
    case h_2 => rfl
  | cons d s ih =>
    rw [List.cons_append, List.cons_append, dropEnding, ih]
    split
    case h_1 empty => cases s <;> cases empty
    case h_2 => rfl

lemma skipBlank_append_of_solid (s : List Char) {c : Char} (h : isBlank c = false) (t : List Char) :
    skipBlank (s ++ c :: t) = skipBlank s ++ c :: t := by
  have kept : (c :: t).dropWhile isBlank = c :: t := skipBlank_cons h t
  rw [skipBlank, List.dropWhile_append, kept]
  split
  case isTrue empty => rw [skipBlank, List.isEmpty_iff.1 empty, List.nil_append]
  case isFalse => rfl

/-- A text is trimmed on both sides of a piece without white space. -/
lemma trim_append_append {s w t : List Char} (ne_nil : w ≠ [])
    (solid : ∀ c ∈ w, isBlank c = false) :
    trim (s ++ w ++ t) = skipBlank s ++ w ++ dropEnding isBlank t := by
  rcases List.eq_nil_or_concat' w with rfl | ⟨w₀, d, rfl⟩
  · exact absurd rfl ne_nil
  · have start : skipBlank (s ++ (w₀ ++ [d]) ++ t) = skipBlank s ++ (w₀ ++ [d]) ++ t := by
      cases w₀ with
      | nil => simpa using skipBlank_append_of_solid s (solid d (by simp)) t
      | cons c w₁ => simpa using skipBlank_append_of_solid s (solid c (by simp)) (w₁ ++ d :: t)
    have ending := dropEnding_append_cons (solid d (by simp)) (skipBlank s ++ w₀) t
    rw [trim, start]
    simpa using ending

/-- A piece without white space is still there after the text around it is trimmed. -/
lemma infix_trim {s w t : List Char} (solid : ∀ c ∈ w, isBlank c = false) :
    w <:+: trim (s ++ w ++ t) := by
  by_cases ne_nil : w = []
  · subst ne_nil
    exact List.nil_infix
  · exact ⟨skipBlank s, dropEnding isBlank t, (trim_append_append ne_nil solid).symm⟩

lemma dropEnding_eq_nil_iff {p : Char → Bool} {s : List Char} :
    dropEnding p s = [] ↔ ∀ c ∈ s, p c := by
  rw [dropEnding_eq_rdropWhile, List.rdropWhile_eq_nil_iff]

lemma exists_append_dropEnding (p : Char → Bool) (s : List Char) :
    ∃ ending, (∀ c ∈ ending, p c) ∧ dropEnding p s ++ ending = s := by
  refine ⟨s.rtakeWhile p, fun c => List.mem_rtakeWhile_imp, ?_⟩
  rw [dropEnding_eq_rdropWhile, List.rdropWhile, List.rtakeWhile, ← List.reverse_append,
    List.takeWhile_append_dropWhile, List.reverse_reverse]

lemma dropEnding_sublist (p : Char → Bool) (s : List Char) : (dropEnding p s).Sublist s := by
  obtain ⟨ending, -, eq⟩ := exists_append_dropEnding p s
  nth_rewrite 2 [← eq]
  exact List.sublist_append_left _ ending

lemma trim_sublist (s : List Char) : (trim s).Sublist s :=
  (dropEnding_sublist isBlank _).trans (List.dropWhile_sublist _)

lemma dropEnding_dropEnding (p : Char → Bool) (s : List Char) :
    dropEnding p (dropEnding p s) = dropEnding p s := by
  simp only [dropEnding_eq_rdropWhile, List.rdropWhile_idempotent]

lemma dropEnding_append {p : Char → Bool} {ending : List Char} (h : ∀ c ∈ ending, p c)
    (s : List Char) : dropEnding p (s ++ ending) = dropEnding p s := by
  have all : ∀ c ∈ ending.reverse, p c := fun c mem => h c (List.mem_reverse.1 mem)
  simp only [dropEnding_eq_rdropWhile, List.rdropWhile, List.reverse_append,
    List.dropWhile_append_of_pos all]

/-- Nothing is cut off a text just if its last character is not to be. -/
lemma dropEnding_eq_self_iff {p : Char → Bool} {s : List Char} :
    dropEnding p s = s ↔ ∀ c ∈ s.getLast?, p c = false := by
  rw [dropEnding_eq_rdropWhile, List.rdropWhile_eq_self_iff]
  rcases List.eq_nil_or_concat' s with rfl | ⟨front, c, rfl⟩ <;> simp

/-- What is left of a text is the text up to an ending to cut off, and nothing is cut off it. -/
lemma dropEnding_eq_iff {p : Char → Bool} {s t : List Char} : dropEnding p s = t ↔
    (∃ ending, (∀ c ∈ ending, p c) ∧ t ++ ending = s) ∧ dropEnding p t = t := by
  constructor
  · rintro rfl
    exact ⟨exists_append_dropEnding p s, dropEnding_dropEnding p s⟩
  · rintro ⟨⟨ending, all, rfl⟩, whole⟩
    rw [dropEnding_append all, whole]

/-- Where one character is to be cut off, the ending consists of copies of it. -/
lemma dropEnding_beq_eq_iff {k : Char} {s t : List Char} : dropEnding (· == k) s = t ↔
    (∃ n, t ++ List.replicate n k = s) ∧ t.getLast? ≠ some k := by
  rw [dropEnding_eq_iff, dropEnding_eq_self_iff]
  refine and_congr ⟨?_, ?_⟩ ⟨?_, ?_⟩
  · rintro ⟨ending, all, eq⟩
    have copies : ending = List.replicate ending.length k :=
      List.eq_replicate_of_mem fun c mem => eq_of_beq (all c mem)
    exact ⟨ending.length, copies ▸ eq⟩
  · rintro ⟨n, eq⟩
    exact ⟨_, fun c mem => beq_iff_eq.2 (List.eq_of_mem_replicate mem), eq⟩
  · exact fun other last => absurd (other k last) (by simp)
  · rintro other c last
    exact beq_eq_false_iff_ne.2 fun same => other (same ▸ last)

lemma skipBlank_concat {c : Char} (h : isBlank c) (s : List Char) :
    skipBlank (s ++ [c]) = if (skipBlank s).isEmpty then [] else skipBlank s ++ [c] := by
  rw [skipBlank, List.dropWhile_append, List.dropWhile_cons_of_pos h]
  rfl

/-- White space behind a text is trimmed off. -/
lemma trim_concat {c : Char} (h : isBlank c) (s : List Char) : trim (s ++ [c]) = trim s := by
  rw [trim, skipBlank_concat h, trim]
  split
  case isTrue empty => rw [List.isEmpty_iff.1 empty]
  case isFalse => exact dropEnding_append (List.forall_mem_singleton.2 h) _

/-- There is nothing to trim off a text without white space. -/
lemma trim_of_solid {s : List Char} (solid : ∀ c ∈ s, isBlank c = false) : trim s = s := by
  have whole : s <:+: trim s := by
    have kept := infix_trim (s := []) (t := []) solid
    rwa [List.nil_append, List.append_nil] at kept
  exact (trim_sublist s).eq_of_length_le whole.length_le

/-- Nor off a text that begins and ends with other characters. -/
lemma trim_cons_concat {c d : Char} (hc : isBlank c = false) (hd : isBlank d = false)
    (s : List Char) : trim (c :: (s ++ [d])) = c :: (s ++ [d]) := by
  rw [trim, skipBlank_cons hc, ← List.cons_append, dropEnding_append_cons hd]
  rfl

lemma trim_trim (s : List Char) : trim (trim s) = trim s := by
  have start : skipBlank (trim s) = trim s := by
    rw [trim]
    cases eq : skipBlank s with
    | nil => rfl
    | cons c t =>
      have solid : isBlank c = false := isBlank_of_skipBlank_eq_cons eq
      have kept : dropEnding isBlank (c :: t) = c :: dropEnding isBlank t :=
        dropEnding_append_cons solid [] t
      rw [kept, skipBlank_cons solid]
  rw [trim, start, trim, dropEnding_dropEnding]

lemma trim_append_of_allBlank (s : List Char) {ending : List Char} (h : allBlank ending) :
    trim (s ++ ending) = trim s := by
  induction ending generalizing s with
  | nil => rw [List.append_nil]
  | cons c ending ih =>
    obtain ⟨here, there⟩ := List.forall_mem_cons.1 (allBlank_iff.1 h)
    rw [List.append_cons, ih (s ++ [c]) (allBlank_iff.2 there), trim_concat here]

/-- What is trimmed off is white space. -/
lemma exists_append_trim (s : List Char) :
    ∃ gap ending, allBlank gap ∧ allBlank ending ∧ gap ++ trim s ++ ending = s := by
  obtain ⟨gap, blank, eq⟩ := exists_append_skipBlank s
  obtain ⟨ending, blank', eq'⟩ := exists_append_dropEnding isBlank (skipBlank s)
  exact ⟨gap, ending, blank, allBlank_iff.2 blank', by rw [List.append_assoc, trim, eq', eq]⟩

/-- White space in front of a text is trimmed off. -/
lemma trim_append {gap : List Char} (h : allBlank gap) (s : List Char) : trim (gap ++ s) = trim s := by
  rw [trim, skipBlank_append h, trim]

end Overdue.Text
