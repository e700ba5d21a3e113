import Overdue.Comment.Language
import Overdue.Proofs.Text.Blank
import Overdue.Proofs.Text.Lines

/-!
# Comments and their delimiters

The comment of a text stands behind the leftmost delimiter that has one behind it, where
delimiters may overlap (`commentText?_spec`). On one line that is the first delimiter, unless it ends
the line.
-/

namespace Overdue.CommentStyle

open Text

/-- No character of a delimiter is white space, a letter of a marker or a colon. -/
lemma delimiter_spec (style : CommentStyle) : style.delimiter ≠ [] ∧
    ∀ c ∈ style.delimiter, isBlank c = false ∧ c.isAlpha = false ∧ c ≠ ':' := by
  cases style <;> simp [delimiter] <;> decide

/-! ## The text behind a delimiter -/

/-- What stands behind a delimiter has a comment in it: it is not empty, does not end in a line
feed, and has nothing but white space above any of its line feeds. -/
structure HasComment (rest : List Char) : Prop where
  ne_nil : rest ≠ []
  not_ended : rest.getLast? ≠ some '\n'
  blank_above : ∀ above below, rest = above ++ '\n' :: below → allBlank above

/-- The comment in what stands behind a delimiter: that text without its leading white space, or
its last character if it is white space alone. -/
def commentOf (rest : List Char) : List Char :=
  if allBlank rest then rest.getLast?.toList else skipBlank rest

lemma hasComment_of_line {rest : List Char} (line : '\n' ∉ rest) (h : rest ≠ []) :
    HasComment rest := by
  refine ⟨h, fun last => line (List.mem_of_getLast? last), fun above below eq => absurd ?_ line⟩
  rw [eq]
  exact List.mem_append_right above List.mem_cons_self

/-- White space alone has a comment in it unless it is empty or ends in a line feed. -/
lemma hasComment_iff_of_allBlank {rest : List Char} (blank : allBlank rest) :
    HasComment rest ↔ rest ≠ [] ∧ rest.getLast? ≠ some '\n' := by
  refine ⟨fun h => ⟨h.ne_nil, h.not_ended⟩, fun h => ⟨h.1, h.2, ?_⟩⟩
  rintro above below rfl
  exact ((allBlank_append _ _).1 blank).1

/-- Any other text has a comment in it if it is one line without its leading white space. -/
lemma hasComment_iff_of_not_allBlank {rest : List Char} (solid : ¬allBlank rest) :
    HasComment rest ↔ '\n' ∉ skipBlank rest := by
  rw [newline_mem_skipBlank_iff]
  constructor
  · rintro h ⟨above, below, eq, notBlank⟩
    exact notBlank (h.blank_above above below eq)
  · intro h
    have blank_above : ∀ above below, rest = above ++ '\n' :: below → allBlank above := by
      intro above below eq
      by_contra notBlank
      exact h ⟨above, below, eq, notBlank⟩
    refine ⟨?_, fun last => ?_, blank_above⟩
    · rintro rfl
      exact solid rfl
    · obtain ⟨above, rfl⟩ := List.getLast?_eq_some_iff.1 last
      exact solid ((allBlank_append _ _).2 ⟨blank_above above [] rfl, rfl⟩)

lemma commentAfter?_eq_some_iff {rest comment : List Char} :
    commentAfter? rest = some comment ↔ HasComment rest ∧ comment = commentOf rest := by
  by_cases blank : allBlank rest
  · have skipped : skipBlank rest = [] := by
      have := skipBlank_append blank []
      rwa [List.append_nil] at this
    rw [hasComment_iff_of_allBlank blank, commentOf, if_pos blank, commentAfter?, skipped]
    cases last : rest.getLast? with
    | none => simp [List.getLast?_eq_none_iff.1 last]
    | some c =>
      have ne_nil : rest ≠ [] := by
        rintro rfl
        cases last
      by_cases feed : c = '\n' <;> simp [feed, ne_nil, eq_comm]
  · have ne_nil : skipBlank rest ≠ [] := fun empty => blank (allBlank_of_skipBlank_eq_nil empty)
    rw [hasComment_iff_of_not_allBlank blank, commentOf, if_neg blank, commentAfter?]
    split
    case h_1 empty => exact absurd empty ne_nil
    case h_2 =>
      rw [Option.ite_none_left_eq_some, List.contains_iff_mem, Option.some.injEq, eq_comm]

/-! ## The leftmost place -/

/-- A text is cut around a delimiter that has a comment behind it. -/
structure Opens (style : CommentStyle) (before rest text : List Char) : Prop where
  eq : text = before ++ style.delimiter ++ rest
  hasComment : HasComment rest

/-- No other delimiter with a comment behind it is further left. -/
structure OpensFirst (style : CommentStyle) (before rest text : List Char) : Prop
    extends Opens style before rest text where
  first : ∀ before' rest', Opens style before' rest' text → before.length ≤ before'.length

/-- The comment behind the delimiter that a text begins with. -/
def commentAt? (style : CommentStyle) (text : List Char) : Option (List Char) :=
  (style.delimiter.isPrefixOf? text).bind commentAfter?

variable {style : CommentStyle} {text before rest before' rest' comment : List Char}

lemma commentAt?_eq_some_iff : style.commentAt? text = some comment ↔
    ∃ rest, Opens style [] rest text ∧ comment = commentOf rest := by
  simp only [commentAt?, Option.bind_eq_some_iff, List.isPrefixOf?_eq_some_iff_append_eq,
    commentAfter?_eq_some_iff]
  constructor
  · rintro ⟨rest, rfl, hasComment, same⟩
    exact ⟨rest, ⟨rfl, hasComment⟩, same⟩
  · rintro ⟨rest, ⟨rfl, hasComment⟩, same⟩
    exact ⟨rest, rfl, hasComment, same⟩

lemma findComment?_cons (c : Char) (cs : List Char) :
    style.findComment? (c :: cs) = (style.commentAt? (c :: cs)).or (style.findComment? cs) := by
  rw [findComment?, commentAt?]
  cases (style.delimiter.isPrefixOf? (c :: cs)).bind commentAfter? <;> rfl

lemma not_opens_nil : ¬Opens style before rest [] := by
  rintro ⟨eq, -⟩
  have empty := (List.append_eq_nil_iff.1 (List.append_eq_nil_iff.1 eq.symm).1).2
  exact style.delimiter_spec.1 empty

/-- A delimiter behind the first character is one of the other characters' text. -/
lemma opens_cons_iff {c d : Char} {cs : List Char} :
    Opens style (d :: before) rest (c :: cs) ↔ d = c ∧ Opens style before rest cs := by
  constructor
  · rintro ⟨eq, hasComment⟩
    obtain ⟨rfl, rfl⟩ := List.cons.inj eq
    exact ⟨rfl, rfl, hasComment⟩
  · rintro ⟨rfl, rfl, hasComment⟩
    exact ⟨rfl, hasComment⟩

lemma findComment?_eq_none_iff :
    style.findComment? text = none ↔ ∀ before rest, ¬Opens style before rest text := by
  induction text with
  | nil => exact iff_of_true rfl fun _ _ => not_opens_nil
  | cons c cs ih =>
    rw [findComment?_cons, Option.or_eq_none_iff, ih, Option.eq_none_iff_forall_ne_some]
    constructor
    · rintro ⟨here, there⟩ before rest opens
      cases before with
      | nil => exact here _ (commentAt?_eq_some_iff.2 ⟨rest, opens, rfl⟩)
      | cons d before => exact there before rest (opens_cons_iff.1 opens).2
    · intro none
      refine ⟨fun comment found => ?_, fun before rest opens => ?_⟩
      · obtain ⟨rest, opens, -⟩ := commentAt?_eq_some_iff.1 found
        exact none [] rest opens
      · exact none (c :: before) rest (opens_cons_iff.2 ⟨rfl, opens⟩)

lemma exists_opensFirst_of_findComment? (h : style.findComment? text = some comment) :
    ∃ before rest, OpensFirst style before rest text ∧ comment = commentOf rest := by
  induction text with
  | nil => cases h
  | cons c cs ih =>
    rw [findComment?_cons, Option.or_eq_some_iff] at h
    rcases h with here | ⟨notHere, there⟩
    · obtain ⟨rest, opens, same⟩ := commentAt?_eq_some_iff.1 here
      exact ⟨[], rest, ⟨opens, fun _ _ _ => Nat.zero_le _⟩, same⟩
    · obtain ⟨before, rest, ⟨opens, first⟩, same⟩ := ih there
      refine ⟨c :: before, rest, ⟨opens_cons_iff.2 ⟨rfl, opens⟩, fun before' rest' opens' => ?_⟩, same⟩
      cases before' with
      | nil =>
        rw [commentAt?_eq_some_iff.2 ⟨rest', opens', rfl⟩] at notHere
        cases notHere
      | cons d before' => exact Nat.succ_le_succ (first before' rest' (opens_cons_iff.1 opens').2)

/-- There is one leftmost place. -/
lemma OpensFirst.unique (h : OpensFirst style before rest text)
    (h' : OpensFirst style before' rest' text) : rest = rest' :=
  (append_append_inj (h.eq.symm.trans h'.eq)
    (Nat.le_antisymm (h.first _ _ h'.toOpens) (h'.first _ _ h.toOpens))).2

lemma OpensFirst.findComment?_eq (h : OpensFirst style before rest text) :
    style.findComment? text = some (commentOf rest) := by
  cases found : style.findComment? text with
  | none => exact absurd h.toOpens (findComment?_eq_none_iff.1 found before rest)
  | some comment =>
    obtain ⟨before', rest', h', rfl⟩ := exists_opensFirst_of_findComment? found
    rw [h.unique h']

/-- On one line, what opens a comment is the first delimiter, unless it ends the line. -/
lemma exists_opens_iff_of_line (line : '\n' ∉ text) : (∃ before rest, Opens style before rest text) ↔
    ∃ before rest, IsFirstCut style.delimiter before rest text ∧ rest ≠ [] := by
  constructor
  · rintro ⟨before, rest, eq, hasComment⟩
    obtain ⟨before', rest', cut⟩ := exists_isFirstCut ⟨before, rest, eq.symm⟩
    refine ⟨before', rest', cut, fun empty => ?_⟩
    -- the first delimiter would end the line, so that no other one has anything behind it
    have left := cut.first before rest eq
    have len := congrArg List.length (eq.symm.trans cut.eq)
    have pos := List.length_pos_of_ne_nil hasComment.ne_nil
    simp only [List.length_append, empty, List.length_nil] at len
    omega
  · rintro ⟨before, rest, cut, ne_nil⟩
    refine ⟨before, rest, cut.eq, hasComment_of_line (fun newline => line ?_) ne_nil⟩
    rw [cut.eq]
    exact List.mem_append_right _ newline

lemma isSome_commentText?_iff {text : String} : (style.commentText? text).isSome ↔
    ∃ before rest, Opens style before rest text.toList := by
  rw [commentText?, Option.isSome_map, Option.isSome_iff_ne_none, ne_eq, findComment?_eq_none_iff]
  simp only [not_forall, not_not]

/-- A text has a comment just if one opens behind some delimiter, and then it is the one behind the
leftmost of these delimiters. A line has a comment just if something follows its first
delimiter. -/
theorem commentText?_spec (style : CommentStyle) (text : String) :
    (style.commentText? text = none ↔ ∀ before rest, ¬Opens style before rest text.toList) ∧
    ((∃ before rest, Opens style before rest text.toList) →
      ∃ before rest, OpensFirst style before rest text.toList) ∧
    (∀ before rest, OpensFirst style before rest text.toList →
      (¬allBlank rest → style.commentText? text = some (String.ofList (skipBlank rest))) ∧
      (allBlank rest → ∃ c, rest.getLast? = some c ∧
        style.commentText? text = some (String.ofList [c]))) ∧
    ('\n' ∉ text.toList → ((style.commentText? text).isSome ↔
      ∃ before rest, IsFirstCut style.delimiter before rest text.toList ∧ rest ≠ [])) := by
  refine ⟨?_, ?_, fun before rest h => ⟨fun solid => ?_, fun blank => ?_⟩, fun line => ?_⟩
  · rw [commentText?, Option.map_eq_none_iff, findComment?_eq_none_iff]
  · intro opens
    obtain ⟨comment, found⟩ := Option.isSome_iff_exists.1 (isSome_commentText?_iff.2 opens)
    obtain ⟨_, found, -⟩ := Option.map_eq_some_iff.1 found
    obtain ⟨before, rest, h, -⟩ := exists_opensFirst_of_findComment? found
    exact ⟨before, rest, h⟩
  · rw [commentText?, h.findComment?_eq, commentOf, if_neg solid, Option.map_some]
  · have last := List.getLast?_eq_some_getLast h.hasComment.ne_nil
    refine ⟨_, last, ?_⟩
    rw [commentText?, h.findComment?_eq, commentOf, if_pos blank, last, Option.toList_some,
      Option.map_some]
  · rw [isSome_commentText?_iff, exists_opens_iff_of_line line]

theorem commentText?_spec_of_overlap :
    (OpensFirst .doubleDash ['-'] "\n -- y".toList "---\n -- y".toList ∧
      ¬allBlank "\n -- y".toList ∧
      commentText? .doubleDash "---\n -- y" = some (String.ofList (skipBlank "\n -- y".toList))) ∧
    (OpensFirst .doubleSlash [] " \t".toList "// \t".toList ∧ allBlank " \t".toList ∧
      ∃ c, " \t".toList.getLast? = some c ∧
        commentText? .doubleSlash "// \t" = some (String.ofList [c])) ∧
    '\n' ∉ "///".toList ∧ (commentText? .doubleSlash "///").isSome ∧
    ∃ before rest, IsFirstCut ['/', '/'] before rest "///".toList ∧ rest ≠ [] := by
  have solid : ¬allBlank "\n -- y".toList := by decide
  have second : OpensFirst .doubleDash ['-'] "\n -- y".toList "---\n -- y".toList := by
    refine ⟨⟨rfl, (hasComment_iff_of_not_allBlank solid).2 (by decide)⟩, ?_⟩
    intro before' rest' opens
    refine Nat.one_le_iff_ne_zero.2 fun zero => ?_
    -- behind the first delimiter there is a hyphen above the line feed
    have eq := opens.eq
    rw [List.length_eq_zero_iff.1 zero] at eq
    obtain rfl : "-\n -- y".toList = rest' := (List.append_right_inj ['-', '-']).1 eq
    exact absurd (opens.hasComment.blank_above ['-'] " -- y".toList rfl) (by decide)
  have blank : allBlank " \t".toList := by decide
  have start : OpensFirst .doubleSlash [] " \t".toList "// \t".toList :=
    ⟨⟨rfl, (hasComment_iff_of_allBlank blank).2 (by decide)⟩, fun _ _ _ => Nat.zero_le _⟩
  have line : '\n' ∉ "///".toList := by decide
  have first := (commentText?_spec .doubleDash "---\n -- y").2.2.1 _ _ second
  have last := (commentText?_spec .doubleSlash "// \t").2.2.1 _ _ start
  have found := (commentText?_spec .doubleSlash "///").2.2.2 line
  have some : (commentText? .doubleSlash "///").isSome := by decide +kernel
  exact ⟨⟨second, solid, first.1 solid⟩, ⟨start, blank, last.2 blank⟩, line, some, found.1 some⟩

end Overdue.CommentStyle
