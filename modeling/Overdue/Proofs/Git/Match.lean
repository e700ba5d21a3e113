import Mathlib.Data.List.Basic
import Overdue.Git.Match
import Overdue.Proofs.Text.Blank
import Overdue.Proofs.Text.Integer
import Overdue.Proofs.Text.Lines

/-!
# Matches that are read back

What a search prints for its matches is read as these matches, of which the comments become
candidates, and a record that cannot be read changes nothing about the others
(`candidates_write`). A path may hold anything but the separator and a line feed. With a line feed
in it, only what stands behind the last one is read as the path, so that a line may be attributed to
a file that was never named; `attributed_iff` says when.
-/

namespace Overdue.Git

open Text

/-! ## Records -/

namespace Match

/-- A record: a path, the digits of a line number and a text, with separators between them. -/
def IsRecord (record : List Char) : Prop :=
  ∃ path number text n, record = path ++ separator :: (number ++ separator :: text) ∧
    (separator ∉ path ∧ path ≠ []) ∧ separator ∉ number ∧ nat? maxWord32 number = some n ∧ n ≠ 0

lemma isRecord_of_read? {record : List Char} {m : Match} (h : read? record = some m) :
    IsRecord record := by
  simp only [read?, Option.bind_eq_bind, Option.bind_eq_some_iff, Prod.exists] at h
  obtain ⟨path, rest, cut, number, text, cut', n, read, h⟩ := h
  obtain ⟨rfl, noSeparator⟩ := splitFirst?_eq_some_iff.1 cut
  obtain ⟨rfl, noSeparator'⟩ := splitFirst?_eq_some_iff.1 cut'
  split at h
  case isTrue => cases h
  case isFalse kept =>
    rw [Bool.or_eq_true, not_or, List.isEmpty_iff, beq_iff_eq] at kept
    exact ⟨path, number, text, n, rfl, ⟨noSeparator, kept.1⟩, noSeparator', read, kept.2⟩

/-- What is read as a path ends before the first separator. -/
lemma separator_not_mem_of_read? {record : List Char} {m : Match} (h : read? record = some m) :
    separator ∉ m.file.toList := by
  simp only [read?, Option.bind_eq_bind, Option.bind_eq_some_iff, Prod.exists] at h
  obtain ⟨path, rest, cut, number, text, -, n, -, h⟩ := h
  obtain ⟨-, made⟩ := Option.ite_none_left_eq_some.1 h
  obtain rfl := Option.some.inj made
  rw [String.toList_ofList]
  exact (splitFirst?_eq_some_iff.1 cut).2

lemma prefix_of_read? {record : List Char} {m : Match} (h : read? record = some m) :
    m.file.toList <+: record := by
  simp only [read?, Option.bind_eq_bind, Option.bind_eq_some_iff, Prod.exists] at h
  obtain ⟨path, rest, cut, number, text, -, n, -, h⟩ := h
  obtain ⟨-, made⟩ := Option.ite_none_left_eq_some.1 h
  obtain rfl := Option.some.inj made
  rw [String.toList_ofList]
  exact ⟨_, (splitFirst?_eq_some_iff.1 cut).1.symm⟩

lemma IsRecord.separator_mem {record : List Char} (h : IsRecord record) : separator ∈ record := by
  obtain ⟨path, number, text, n, rfl, -⟩ := h
  exact List.mem_append_right path List.mem_cons_self

lemma ofRecord?_eq_none {record : List Char} (h : ¬IsRecord record) : ofRecord? record = none := by
  rw [ofRecord?]
  cases read : read? record with
  | none => rfl
  | some m => exact absurd (isRecord_of_read? read) h

/-- A carriage return at the end of a record belongs to its text. -/
lemma isRecord_of_withoutReturn {record : List Char} (h : IsRecord (withoutReturn record)) :
    IsRecord record := by
  rcases eq_or_eq_concat_withoutReturn record with eq | eq
  · rwa [eq]
  · obtain ⟨path, number, text, n, eq', fields⟩ := h
    refine ⟨path, number, text ++ ['\r'], n, ?_, fields⟩
    rw [eq, eq']
    simp

lemma read?_fields {path : List Char} (noSeparator : separator ∉ path) (n : Nat)
    (text : List Char) : read? (path ++ separator :: (digits n ++ separator :: text)) =
      if path ≠ [] ∧ 0 < n ∧ n ≤ maxWord32 then
        some ⟨String.ofList path, UInt32.ofNat n, String.ofList text⟩
      else none := by
  have noSeparator' : separator ∉ digits n := not_mem_digits (by decide) n
  simp only [read?, splitFirst?_append noSeparator, splitFirst?_append noSeparator',
    Option.bind_eq_bind, Option.bind_some, nat?_digits]
  cases path with
  | nil => by_cases fits : n ≤ maxWord32 <;> simp [fits]
  | cons c path =>
    cases n with
    | zero => simp
    | succ n => by_cases fits : n + 1 ≤ maxWord32 <;> simp [fits]

end Match

/-! ## Outputs -/

lemma candidates_append {a : String} (h : IsEnded a.toList) (b : String) :
    candidates (a ++ b) = candidates a ++ candidates b := by
  rw [candidates, String.toList_append, lines_append h, List.filterMap_append]
  rfl

/-- A line of an output has the candidate of its record. -/
lemma candidates_concat {record : List Char} (h : '\n' ∉ record) :
    candidates (String.ofList (record ++ ['\n'])) =
      (Match.ofRecord? (withoutReturn record)).toList := by
  rw [candidates, String.toList_ofList, lines_concat h, List.filterMap_cons]
  cases Match.ofRecord? (withoutReturn record) <;> rfl

lemma candidates_eq_nil {output : String} (h : Match.separator ∉ output.toList) :
    candidates output = [] := by
  refine List.filterMap_eq_nil_iff.2 fun record line => Match.ofRecord?_eq_none fun isRecord => ?_
  exact h (mem_of_mem_lines line _ isRecord.separator_mem)

/-- A line as a search prints it, whatever its path holds and however great its number is. -/
structure Printed where
  path : String
  number : Nat
  text : String

namespace Printed

/-- The line in the output of a search. -/
def chars (p : Printed) : List Char :=
  p.path.toList ++ Match.separator :: digits p.number ++ Match.separator :: p.text.toList ++ ['\n']

/-- The fields are free of what ends them. -/
structure IsVerbatim (p : Printed) : Prop where
  separator_not_mem : Match.separator ∉ p.path.toList
  newline_not_mem : '\n' ∉ p.text.toList

/-- The path as it is read: what stands behind its last line feed. -/
def file (p : Printed) : String :=
  String.ofList (afterLast '\n' p.path.toList)

/-- The text as it is read. -/
def line (p : Printed) : String :=
  String.ofList (withoutReturn p.text.toList)

/-- The line is read as a match. -/
def IsRead (p : Printed) : Prop :=
  p.file ≠ "" ∧ 0 < p.number ∧ p.number ≤ maxWord32

instance (p : Printed) : Decidable p.IsRead :=
  inferInstanceAs (Decidable (_ ∧ _ ∧ _))

/-- The candidate that is read from the line. -/
def candidate? (p : Printed) : Option Candidate :=
  if p.IsRead then Match.candidate? ⟨p.file, UInt32.ofNat p.number, p.line⟩ else none

lemma ofRecord?_eq {p : Printed} {path : List Char} (noSeparator : Match.separator ∉ path)
    (file : String.ofList path = p.file) : Match.ofRecord? (withoutReturn
      (path ++ Match.separator :: (digits p.number ++ Match.separator :: p.text.toList))) =
      p.candidate? := by
  have isRead : path ≠ [] ∧ 0 < p.number ∧ p.number ≤ maxWord32 ↔ p.IsRead := by
    rw [IsRead, ← file, ← String.toList_inj.ne, String.toList_ofList]
    exact Iff.rfl
  rw [withoutReturn_append_cons (by decide), withoutReturn_append_cons (by decide), Match.ofRecord?,
    Match.read?_fields noSeparator, file, candidate?]
  by_cases h : p.IsRead
  · rw [if_pos h, if_pos (isRead.2 h), Option.bind_some, line]
  · rw [if_neg h, if_neg (mt isRead.1 h), Option.bind_none]

/-- A printed line has one candidate at most, whose file is what stands behind the last line feed
of the path. -/
lemma candidates_chars {p : Printed} (h : p.IsVerbatim) :
    candidates (String.ofList p.chars) = p.candidate?.toList := by
  obtain ⟨front, path, ended, noFeed⟩ := exists_append_afterLast '\n' p.path.toList
  have noSeparator : Match.separator ∉ front ∧ Match.separator ∉ afterLast '\n' p.path.toList := by
    rw [← not_or, ← List.mem_append, ← path]
    exact h.separator_not_mem
  generalize piece : afterLast '\n' p.path.toList = file at *
  have noFeed' : '\n' ∉ file ++ Match.separator :: (digits p.number ++
      Match.separator :: p.text.toList) := by
    have noDigit : '\n' ∉ digits p.number := not_mem_digits (by decide) _
    simp only [List.mem_append, List.mem_cons, not_or]
    exact ⟨noFeed, by decide, noDigit, by decide, h.newline_not_mem⟩
  have whole : String.ofList p.chars = String.ofList front ++ String.ofList (file ++
      Match.separator :: (digits p.number ++ Match.separator :: p.text.toList) ++ ['\n']) := by
    rw [← String.ofList_append, chars, path]
    simp only [List.append_assoc, List.cons_append]
  have noCandidate : candidates (String.ofList front) = [] :=
    candidates_eq_nil (String.toList_ofList ▸ noSeparator.1)
  rw [whole, candidates_append (String.toList_ofList ▸ ended), noCandidate, List.nil_append,
    candidates_concat noFeed', ofRecord?_eq noSeparator.2 (piece ▸ rfl)]

lemma candidate?_eq_some_iff {p : Printed} {c : Candidate} : p.candidate? = some c ↔
    (p.IsRead ∧ isComment p.file p.line) ∧
      c = ⟨p.file, UInt32.ofNat p.number, trimmed p.line⟩ := by
  simp only [candidate?, Match.candidate?, Option.ite_none_right_eq_some, Option.some.injEq,
    and_assoc, eq_comm (b := c)]

lemma IsRead.toNat_number {p : Printed} (h : p.IsRead) : (UInt32.ofNat p.number).toNat = p.number :=
  UInt32.toNat_ofNat_of_lt (Nat.lt_succ_of_le h.2.2)

end Printed

lemma candidates_flatMap_chars {ps : List Printed} (h : ∀ p ∈ ps, p.IsVerbatim) :
    candidates (String.ofList (ps.flatMap Printed.chars)) = ps.filterMap Printed.candidate? := by
  induction ps with
  | nil => rfl
  | cons p ps ih =>
    obtain ⟨here, there⟩ := List.forall_mem_cons.1 h
    have ended : IsEnded p.chars := .inr List.getLast?_concat
    rw [List.flatMap_cons, String.ofList_append, candidates_append (String.toList_ofList ▸ ended),
      Printed.candidates_chars here, ih there, List.filterMap_cons]
    cases p.candidate? <;> rfl

/-! ## Matches -/

namespace Match

/-- The fields of a match are free of what ends them, and both its path and its line number are
there. -/
structure IsPlain (m : Match) : Prop where
  file_ne_empty : m.file ≠ ""
  separator_not_mem : separator ∉ m.file.toList
  newline_not_mem_file : '\n' ∉ m.file.toList
  line_ne_zero : m.line ≠ 0
  newline_not_mem_text : '\n' ∉ m.text.toList

/-- The match as it is printed. -/
def printed (m : Match) : Printed :=
  ⟨m.file, m.line.toNat, m.text⟩

lemma IsPlain.isVerbatim {m : Match} (h : m.IsPlain) : m.printed.IsVerbatim :=
  ⟨h.separator_not_mem, h.newline_not_mem_text⟩

/-- A match is read as it is, and its text is trimmed if it is a comment. -/
lemma IsPlain.candidate?_printed {m : Match} (h : m.IsPlain) : m.printed.candidate? =
    if isComment m.file m.printed.line then some ⟨m.file, m.line, trimmed m.text⟩ else none := by
  have file : m.printed.file = m.file := by
    rw [Printed.file, printed, afterLast_of_not_mem h.newline_not_mem_file, String.ofList_toList]
  have pos : 0 < m.line.toNat := by
    apply Nat.pos_of_ne_zero
    exact fun zero => h.line_ne_zero (UInt32.toNat_inj.1 zero)
  have isRead : m.printed.IsRead :=
    ⟨file ▸ h.file_ne_empty, pos, Nat.le_of_lt_succ m.line.toNat_lt⟩
  have text : trimmed m.printed.line = trimmed m.text := by
    rw [trimmed, trimmed, Printed.line, String.toList_ofList, trim_withoutReturn]
    rfl
  have line : UInt32.ofNat m.printed.number = m.line := UInt32.ofNat_toNat
  simp only [Printed.candidate?, if_pos isRead, Match.candidate?, file, text, line]

lemma filterMap_printed {ms : List Match} (h : ∀ m ∈ ms, m.IsPlain) :
    ms.filterMap (fun m => m.printed.candidate?) =
      (ms.filter fun m => isComment m.file m.printed.line).map
        fun m => ⟨m.file, m.line, trimmed m.text⟩ := by
  induction ms with
  | nil => rfl
  | cons m ms ih =>
    obtain ⟨here, there⟩ := List.forall_mem_cons.1 h
    rw [List.filterMap_cons, here.candidate?_printed, ih there, List.filter_cons]
    by_cases comment : isComment m.file m.printed.line
    · rw [if_pos comment, if_pos comment, List.map_cons]
    · rw [if_neg comment, if_neg comment]

end Match

/-- The records of matches are read in order as these matches, and those that are comments become
candidates. An output is read line by line, so that what is not a record has no candidate and
changes nothing about the others. -/
theorem candidates_write :
    (∀ ms : List Match, (∀ m ∈ ms, m.IsPlain) →
      candidates (String.ofList (ms.flatMap Match.write)) =
        (ms.filter fun m => isComment m.file (String.ofList (withoutReturn m.text.toList))).map
          fun m => ⟨m.file, m.line, trimmed m.text⟩) ∧
    (∀ a b : String, IsEnded a.toList → candidates (a ++ b) = candidates a ++ candidates b) ∧
    ∀ (a b : String) (record : List Char), IsEnded a.toList → '\n' ∉ record →
      ¬Match.IsRecord record →
      candidates (a ++ String.ofList (record ++ ['\n']) ++ b) = candidates a ++ candidates b := by
  refine ⟨fun ms plain => ?_, fun a b ended => candidates_append ended b, ?_⟩
  · have printed : ms.flatMap Match.write = (ms.map Match.printed).flatMap Printed.chars := by
      rw [List.flatMap_map]
      rfl
    have verbatim : ∀ p ∈ ms.map Match.printed, p.IsVerbatim := by
      intro p mem
      obtain ⟨m, mem', rfl⟩ := List.mem_map.1 mem
      exact (plain m mem').isVerbatim
    rw [printed, candidates_flatMap_chars verbatim, List.filterMap_map]
    exact Match.filterMap_printed plain
  · intro a b record ended line malformed
    have noCandidate : candidates (String.ofList (record ++ ['\n'])) = [] := by
      rw [candidates_concat line,
        Match.ofRecord?_eq_none (mt Match.isRecord_of_withoutReturn malformed)]
      rfl
    have ended' : IsEnded (String.ofList (record ++ ['\n'])).toList :=
      .inr (String.toList_ofList ▸ List.getLast?_concat)
    rw [String.append_assoc, candidates_append ended, candidates_append ended', noCandidate,
      List.nil_append]

theorem candidates_write_of_separator_in_text :
    (∀ m ∈ [(⟨"a:1:b\r.py", 3, "x = 1 # TODO: y\x00z\r"⟩ : Match), ⟨"a.py", 4, "x = 1"⟩], m.IsPlain) ∧
    candidates "a:1:b\r.py\x003\x00x = 1 # TODO: y\x00z\r\na.py\x004\x00x = 1\n" =
      [⟨"a:1:b\r.py", 3, "x = 1 # TODO: y\x00z"⟩] ∧
    IsEnded "a.py\x003\x00# a\n".toList ∧ '\n' ∉ "\x001\x00# b".toList ∧
    ¬Match.IsRecord "\x001\x00# b".toList ∧
    candidates "a.py\x003\x00# a\n\x001\x00# b\na.py\x005\x00# c\n" =
      [⟨"a.py", 3, "# a"⟩, ⟨"a.py", 5, "# c"⟩] := by
  have plain : ∀ m ∈ [(⟨"a:1:b\r.py", 3, "x = 1 # TODO: y\x00z\r"⟩ : Match), ⟨"a.py", 4, "x = 1"⟩],
      m.IsPlain := by
    intro m mem
    rcases List.mem_pair.1 mem with rfl | rfl
    · exact ⟨by decide, by decide +kernel, by decide +kernel, by decide, by decide +kernel⟩
    · exact ⟨by decide, by decide +kernel, by decide +kernel, by decide, by decide +kernel⟩
  have ended : IsEnded "a.py\x003\x00# a\n".toList := .inr (by decide +kernel)
  have line : '\n' ∉ "\x001\x00# b".toList := by decide +kernel
  have malformed : ¬Match.IsRecord "\x001\x00# b".toList := by
    rintro ⟨path, number, text, n, eq, ⟨noSeparator, nonempty⟩, -⟩
    cases path with
    | nil => exact nonempty rfl
    | cons c path =>
      obtain ⟨rfl, -⟩ := List.cons.inj eq
      exact noSeparator List.mem_cons_self
  have read := candidates_write.1 _ plain
  have dropped := candidates_write.2.2 _ "a.py\x005\x00# c\n" _ ended line malformed
  refine ⟨plain, ?_, ended, line, malformed, ?_⟩
  · exact (congrArg candidates (by decide +kernel)).trans (read.trans (by decide +kernel))
  · exact (congrArg candidates (by decide +kernel)).trans (dropped.trans (by decide +kernel))

/-! ## Lines that are attributed to another file -/

/-- The path has a line feed, and what stands behind the last one is read as the path of a
comment. -/
structure Printed.IsMisread (p : Printed) : Prop where
  newline_mem : '\n' ∈ p.path.toList
  isRead : p.IsRead
  isComment : isComment p.file p.line

/-- Every candidate has the path and the number of a printed line, just if the lines that are
misread have those of another line, as they are read. -/
theorem attributed_iff {ps : List Printed} (verbatim : ∀ p ∈ ps, p.IsVerbatim) :
    (∀ c ∈ candidates (String.ofList (ps.flatMap Printed.chars)),
      ∃ p ∈ ps, p.path = c.file ∧ p.number = c.line.toNat) ↔
    ∀ p ∈ ps, p.IsMisread → ∃ p' ∈ ps, p'.path = p.file ∧ p'.number = p.number := by
  rw [candidates_flatMap_chars verbatim]
  constructor
  · intro named p mem misread
    have candidate := Printed.candidate?_eq_some_iff.2 ⟨⟨misread.isRead, misread.isComment⟩, rfl⟩
    obtain ⟨p', mem', path, number⟩ := named _ (List.mem_filterMap.2 ⟨p, mem, candidate⟩)
    exact ⟨p', mem', path, number.trans misread.isRead.toNat_number⟩
  · intro named c found
    obtain ⟨p, mem, candidate⟩ := List.mem_filterMap.1 found
    obtain ⟨⟨isRead, isComment⟩, rfl⟩ := Printed.candidate?_eq_some_iff.1 candidate
    simp only [isRead.toNat_number]
    by_cases feed : '\n' ∈ p.path.toList
    · exact named p mem ⟨feed, isRead, isComment⟩
    · refine ⟨p, mem, ?_, rfl⟩
      rw [Printed.file, afterLast_of_not_mem feed, String.ofList_toList]

theorem attributed_of_namesake :
    (∀ p ∈ [(⟨"a\nb.py", 3, "# TODO: x"⟩ : Printed), ⟨"b.py", 3, "# TODO: y"⟩], p.IsVerbatim) ∧
    Printed.IsMisread ⟨"a\nb.py", 3, "# TODO: x"⟩ ∧
    ∀ c ∈ candidates "a\nb.py\x003\x00# TODO: x\nb.py\x003\x00# TODO: y\n",
      ∃ p ∈ [(⟨"a\nb.py", 3, "# TODO: x"⟩ : Printed), ⟨"b.py", 3, "# TODO: y"⟩],
        p.path = c.file ∧ p.number = c.line.toNat := by
  have verbatim : ∀ p ∈ [(⟨"a\nb.py", 3, "# TODO: x"⟩ : Printed), ⟨"b.py", 3, "# TODO: y"⟩],
      p.IsVerbatim := by
    intro p mem
    rcases List.mem_pair.1 mem with rfl | rfl
    · exact ⟨by decide +kernel, by decide +kernel⟩
    · exact ⟨by decide +kernel, by decide +kernel⟩
  have named := (attributed_iff verbatim).2 fun p mem misread => by
    rcases List.mem_pair.1 mem with rfl | rfl
    · exact ⟨_, List.mem_cons_of_mem _ List.mem_cons_self, by decide +kernel, rfl⟩
    · exact absurd misread.newline_mem (by decide +kernel)
  have output : "a\nb.py\x003\x00# TODO: x\nb.py\x003\x00# TODO: y\n" = String.ofList
      ([⟨"a\nb.py", 3, "# TODO: x"⟩, ⟨"b.py", 3, "# TODO: y"⟩].flatMap Printed.chars) := by
    decide +kernel
  rw [output]
  exact ⟨verbatim, ⟨by decide +kernel, by decide +kernel, by decide +kernel⟩, named⟩

/-- The comment of a file with a line feed in its path is attributed to a file that was not
named. -/
theorem unnamed_of_newline_in_path :
    Printed.IsVerbatim ⟨"a\nb.py", 3, "# TODO: x"⟩ ∧
    ∃ c ∈ candidates (String.ofList
        ([⟨"a\nb.py", 3, "# TODO: x"⟩].flatMap Printed.chars)),
      ∀ p ∈ [(⟨"a\nb.py", 3, "# TODO: x"⟩ : Printed)],
        ¬(p.path = c.file ∧ p.number = c.line.toNat) := by
  refine ⟨⟨by decide +kernel, by decide +kernel⟩, ⟨"b.py", 3, "# TODO: x"⟩, by decide +kernel, ?_⟩
  intro p mem
  obtain rfl := List.mem_singleton.1 mem
  rintro ⟨path, -⟩
  exact absurd path (by decide)

end Overdue.Git
