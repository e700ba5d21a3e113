import Overdue.Git.Match
import Overdue.Proofs.Comment.Style
import Overdue.Proofs.Note.Reader
import Overdue.Proofs.Text.Lines

/-!
# Markers and comments

A candidate carries the comment delimiter of its file, but its note is read from the whole line, so
that the marker may stand in the code before the delimiter. It does just if the code alone reads as
a note or the delimiter is part of what stands between the marker and its colon
(`marker_after_delimiter_iff`).
-/

namespace Overdue

open Text

/-! ## Delimiters -/

lemma exists_style_of_isComment {file line : String} (h : isComment file line) :
    ∃ style, CommentStyle.ofFile? file = some style ∧ style.delimiter <:+: line.toList := by
  unfold isComment at h
  split at h
  case h_1 style registered =>
    obtain ⟨before, rest, opens⟩ := CommentStyle.isSome_commentText?_iff.1 h
    exact ⟨style, registered, before, rest, opens.eq.symm⟩
  case h_2 => cases h

lemma Git.Match.suffix_of_read? {record : List Char} {m : Git.Match}
    (h : Git.Match.read? record = some m) : m.text.toList <:+ record := by
  simp only [Git.Match.read?, Option.bind_eq_bind, Option.bind_eq_some_iff, Prod.exists] at h
  obtain ⟨file, rest, cut, line, text, cut', n, -, h⟩ := h
  split at h
  case isTrue => cases h
  case isFalse =>
    obtain rfl := Option.some.inj h
    rw [String.toList_ofList, (splitFirst?_eq_some_iff.1 cut).1,
      (splitFirst?_eq_some_iff.1 cut').1]
    exact ⟨file ++ Git.Match.separator :: line ++ [Git.Match.separator], by simp⟩

/-- A candidate is a match that is a comment, but for the white space at the ends of its text. -/
lemma Git.exists_match_of_mem_candidates {output : String} {c : Candidate}
    (h : c ∈ Git.candidates output) : ∃ record ∈ lines output.toList, ∃ m : Git.Match,
      Git.Match.read? record = some m ∧ isComment m.file m.text ∧
        c = ⟨m.file, m.line, trimmed m.text⟩ := by
  obtain ⟨record, line, found⟩ := List.mem_filterMap.1 h
  obtain ⟨m, read, candidate⟩ := Option.bind_eq_some_iff.1 found
  rw [Match.candidate?, Option.ite_none_right_eq_some] at candidate
  exact ⟨record, line, m, read, candidate.1, (Option.some.inj candidate.2).symm⟩

lemma Git.newline_not_mem_text {record : List Char} {m : Git.Match} (line : '\n' ∉ record)
    (read : Git.Match.read? record = some m) : '\n' ∉ m.text.toList :=
  fun newline => line ((Git.Match.suffix_of_read? read).subset newline)

/-- A candidate is one line that carries the delimiter of its file. -/
lemma Git.candidates_spec {output : String} {c : Candidate} (h : c ∈ Git.candidates output) :
    '\n' ∉ c.text.toList ∧ ∃ style, CommentStyle.ofFile? c.file = some style ∧
      style.delimiter <:+: c.text.toList := by
  obtain ⟨record, line, m, read, comment, rfl⟩ := Git.exists_match_of_mem_candidates h
  have trimmed_eq : (trimmed m.text).toList = trim m.text.toList := String.toList_ofList
  obtain ⟨style, registered, before, after, eq⟩ := exists_style_of_isComment comment
  refine ⟨fun newline => ?_, style, registered, ?_⟩
  · rw [trimmed_eq] at newline
    exact Git.newline_not_mem_text (newline_not_mem line) read ((trim_sublist _).subset newline)
  · rw [trimmed_eq, ← eq]
    exact infix_trim fun c m => (style.delimiter_spec.2 c m).1

/-! ## Derivations in front of a delimiter -/

namespace Note

namespace Derivation

variable {text code delimiter after : List Char}

/-- The delimiter is part of the details, behind all of the code. -/
def Spans (d : Derivation text) (code delimiter : List Char) : Prop :=
  ∃ x y, d.details = x ++ delimiter ++ y ∧ code = d.before ++ d.space :: (d.word ++ d.gap ++ x)

/-- A derivation that begins in the code ends there as well, but for its body, or the delimiter is
part of its details. -/
lemma exists_or_spans (d : Derivation text) (eq : text = code ++ delimiter ++ after)
    (nonempty : delimiter ≠ [])
    (spec : ∀ c ∈ delimiter, isBlank c = false ∧ c.isAlpha = false ∧ c ≠ ':')
    (inCode : d.position < code.length) : Nonempty (Derivation code) ∨ d.Spans code delimiter := by
  obtain ⟨k, ks, rfl⟩ := List.exists_cons_of_ne_nil nonempty
  obtain ⟨blank, alpha, -⟩ := spec k List.mem_cons_self
  have noColon : ':' ∉ k :: ks := fun m => (spec ':' m).2.2 rfl
  -- the space is in the code, since the derivation begins there
  obtain ⟨x, rfl, marked⟩ : ∃ x, code = d.before ++ d.space :: x ∧
      d.chars = x ++ (k :: ks ++ after) := by
    have whole := d.text_eq.symm.trans eq
    rw [List.append_assoc] at whole
    rcases List.append_eq_append_iff.1 whole with ⟨a, rfl, cut⟩ | ⟨a, before, -⟩
    · cases a with
      | nil => simp [position] at inCode
      | cons b x =>
        rw [List.cons_append, List.cons.injEq] at cut
        obtain ⟨rfl, cut⟩ := cut
        exact ⟨x, rfl, cut⟩
    · rw [position, before, List.length_append] at inCode
      omega
  -- neither the word nor the gap holds a character of the delimiter
  have absent : k ∉ d.word ++ d.gap := by
    intro m
    rcases List.mem_append.1 m with m | m
    · rw [d.isMarker.isAlpha k m] at alpha
      cases alpha
    · rw [allBlank_iff.1 d.allBlank_gap k m] at blank
      cases blank
  have parts : (d.word ++ d.gap) ++ (d.details ++ ':' :: d.rest) = x ++ k :: (ks ++ after) := by
    rw [← List.append_assoc]
    exact marked
  obtain ⟨z, rfl, behind⟩ := exists_of_append_eq parts absent
  rcases List.append_eq_append_iff.1 behind with ⟨a, rfl, cut⟩ | ⟨a, details, cut⟩
  · cases a with
    | nil => exact absurd (List.cons.inj cut).1 fun eq => noColon (eq ▸ List.mem_cons_self)
    | cons b rest =>
      rw [List.cons_append, List.cons.injEq] at cut
      obtain ⟨rfl, body⟩ := cut
      refine .inl ⟨⟨⟨d.word, d.gap, d.details, d.date, rest, d.isMarker, d.allBlank_gap, d.isDetails,
        ?_⟩, d.before, d.space, d.isBlank_space, ?_⟩⟩
      · intro above below split
        refine d.isBody above (below ++ k :: (ks ++ after)) ?_
        rw [body, split, List.append_assoc, List.cons_append]
      · simp only [Entry.chars, List.append_assoc]
  · have closed : (k :: ks) ++ after = a ++ ':' :: d.rest := cut
    obtain ⟨y, rfl, -⟩ := exists_of_append_eq closed noColon
    exact .inr ⟨z, y, by rw [details, List.append_assoc], by rw [List.append_assoc]⟩

lemma position_lt (d : Derivation text) : d.position < text.length := by
  have len := congrArg List.length d.text_eq
  rw [List.length_append, List.length_cons] at len
  rw [position]
  omega

lemma Spans.position_lt {d : Derivation text} (h : d.Spans code delimiter) :
    d.position < code.length := by
  obtain ⟨x, y, -, rfl⟩ := h
  rw [position, List.length_append, List.length_cons]
  omega

/-- On one line, what derives in a beginning of the text derives in the text. -/
lemma exists_of_prefix {tail : List Char} (d : Derivation code) (eq : text = code ++ tail)
    (line : '\n' ∉ text) : ∃ d' : Derivation text, d'.position = d.position := by
  have whole : text = d.before ++ d.space :: (d.word ++ d.gap ++ d.details ++ ':' :: (d.rest ++ tail)) := by
    rw [eq]
    nth_rewrite 1 [d.text_eq]
    simp only [Entry.chars, List.append_assoc, List.cons_append]
  have isBody : IsBody (d.rest ++ tail) := isBody_of_line fun newline => line (by simp [whole, newline])
  exact ⟨⟨⟨d.word, d.gap, d.details, d.date, d.rest ++ tail, d.isMarker, d.allBlank_gap, d.isDetails,
    isBody⟩, d.before, d.space, d.isBlank_space, whole⟩, rfl⟩

/-- A delimiter that does not stand behind the space before a marker stands before it. -/
lemma after_delimiter_iff (d : Derivation text) (eq : text = code ++ delimiter ++ after)
    (nonempty : delimiter ≠ []) (solid : ∀ c ∈ delimiter, isBlank c = false) :
    code.length + delimiter.length ≤ d.position + 1 ↔ ¬d.position < code.length := by
  have pos := List.length_pos_of_ne_nil nonempty
  constructor
  · intro behind
    omega
  · intro notBefore
    have absent : d.space ∉ delimiter := fun m =>
      Bool.false_ne_true ((solid _ m).symm.trans d.isBlank_space)
    obtain ⟨z, before⟩ : code <+: d.before := by
      refine List.prefix_of_prefix_length_le ?_ ⟨_, d.text_eq.symm⟩ (Nat.le_of_not_lt notBefore)
      exact ⟨delimiter ++ after, by rw [eq, List.append_assoc]⟩
    have cut : delimiter ++ after = z ++ d.space :: d.chars := by
      have whole := eq.symm.trans d.text_eq
      rwa [← before, List.append_assoc, List.append_assoc, List.append_cancel_left_eq] at whole
    obtain ⟨y, rfl, -⟩ := exists_of_append_eq cut absent
    rw [position, ← before]
    simp only [List.length_append]
    omega

end Derivation

end Note

/-- In a candidate with a note, the marker stands behind the first comment delimiter just if the
code before the delimiter has no derivation and no derivation holds the delimiter between its marker
and its colon. -/
theorem marker_after_delimiter_iff {output : String} {c : Candidate} {note : Note}
    (candidate : c ∈ Git.candidates output) (annotated : Note.read? c.text = some note) :
    ∃ style code after, CommentStyle.ofFile? c.file = some style ∧
      IsFirstCut style.delimiter code after c.text.toList ∧
      (∃ d : Note.Derivation c.text.toList, d.IsLeftmost) ∧
      ∀ d : Note.Derivation c.text.toList, d.IsLeftmost →
        (code.length + style.delimiter.length ≤ d.position + 1 ↔
          IsEmpty (Note.Derivation code) ∧
            ∀ d' : Note.Derivation c.text.toList, ¬d'.Spans code style.delimiter) := by
  obtain ⟨line, style, registered, occurs⟩ := Git.candidates_spec candidate
  obtain ⟨code, after, cut⟩ := exists_isFirstCut occurs
  obtain ⟨nonempty, spec⟩ := style.delimiter_spec
  refine ⟨style, code, after, registered, cut, ?_, fun d leftmost => ?_⟩
  · obtain ⟨w, found, -⟩ := Option.bind_eq_some_iff.1 annotated
    obtain ⟨d, leftmost, -⟩ := Note.exists_leftmost_of_find? found
    exact ⟨d, leftmost⟩
  · rw [d.after_delimiter_iff cut.eq nonempty fun c m => (spec c m).1]
    constructor
    · intro behind
      refine ⟨⟨fun d' => ?_⟩, fun d' spans => ?_⟩
      · obtain ⟨d'', same⟩ := d'.exists_of_prefix (cut.eq.trans (List.append_assoc _ _ _)) line
        have := leftmost d''
        have := d'.position_lt
        omega
      · have := leftmost d'
        have := spans.position_lt
        omega
    · rintro ⟨empty, apart⟩ inCode
      rcases d.exists_or_spans cut.eq nonempty spec inCode with ⟨⟨d'⟩⟩ | spans
      · exact empty.elim d'
      · exact apart d spans

theorem marker_after_delimiter_of_trailing_comment :
    (⟨"a.py", 3, "x = 1 # TODO: y"⟩ : Candidate) ∈ Git.candidates "a.py\x003\x00x = 1 # TODO: y\n" ∧
    Note.read? "x = 1 # TODO: y" = some ⟨.todo, none, "y"⟩ ∧
    ∃ style code after, CommentStyle.ofFile? "a.py" = some style ∧
      IsFirstCut style.delimiter code after "x = 1 # TODO: y".toList := by
  have candidate : (⟨"a.py", 3, "x = 1 # TODO: y"⟩ : Candidate) ∈
      Git.candidates "a.py\x003\x00x = 1 # TODO: y\n" := by decide +kernel
  have annotated : Note.read? "x = 1 # TODO: y" = some ⟨.todo, none, "y"⟩ := by decide +kernel
  obtain ⟨style, code, after, registered, cut, -⟩ := marker_after_delimiter_iff candidate annotated
  exact ⟨candidate, annotated, style, code, after, registered, cut⟩

/-- A marker in the code of a line with a trailing comment makes a note of the line. -/
theorem marker_before_delimiter : ∃ style code after,
    (⟨"a.yml", 3, "- todo: x # y"⟩ : Candidate) ∈ Git.candidates "a.yml\x003\x00- todo: x # y\n" ∧
    Note.read? "- todo: x # y" = some ⟨.todo, none, "x # y"⟩ ∧
    CommentStyle.ofFile? "a.yml" = some style ∧
    IsFirstCut style.delimiter code after "- todo: x # y".toList ∧
    ∃ d : Note.Derivation "- todo: x # y".toList, d.IsLeftmost ∧
      d.position + 1 + d.word.length ≤ code.length := by
  have cut : IsFirstCut ['#'] "- todo: x ".toList " y".toList "- todo: x # y".toList := by
    refine ⟨by decide, fun before' after' eq => ?_⟩
    have same : "- todo: x ".toList ++ '#' :: " y".toList = before' ++ '#' :: after' := by
      simpa using eq
    obtain ⟨z, rfl, -⟩ := exists_of_append_eq same (by decide)
    rw [List.length_append]
    omega
  have marker : Note.IsMarker "todo".toList :=
    ⟨.todo, (Note.spells_iff fun _ => Note.isUpper_of_mem_name).2 (by decide)⟩
  have isBody : Note.IsBody " x # y".toList := Note.isBody_iff.2 (by decide +kernel)
  refine ⟨.hash, _, _, by decide +kernel, by decide +kernel, by decide +kernel, cut,
    ⟨⟨"todo".toList, [], [], none, " x # y".toList, marker, rfl, .nothing, isBody⟩, ['-'], ' ', by decide,
      rfl⟩, fun d' => ?_, show 6 ≤ 10 by decide⟩
  -- the text begins with a character that is not white space
  refine Nat.one_le_iff_ne_zero.2 fun zero => ?_
  have start := d'.text_eq
  rw [List.length_eq_zero_iff.1 zero] at start
  have space : d'.space = '-' := (List.cons.inj start).1.symm
  have blank := d'.isBlank_space
  rw [space] at blank
  exact absurd blank (by decide)

end Overdue
