import Overdue.Proofs.Finding.Found
import Overdue.Proofs.Finding.Identifier
import Overdue.Proofs.Tracker.Hosting
import Overdue.Proofs.Tracker.IssueText

/-!
# The lines of an issue

The body of an issue has the lines of its template, whatever the finding holds. The comment stands
alone between two fences and is read back from there, and other lines tell the identifier, the kind,
the body and the due day (`lines_issueBody`).
-/

namespace Overdue

open Text

namespace Finding

variable {f g : Finding} {hosting : Hosting} {login : Option String} {identifier author : String}

lemma isLine_append {s t : String} (hs : IsLine s.toList) (ht : IsLine t.toList) :
    IsLine (s ++ t).toList := by
  rw [String.toList_append]
  exact hs.append ht

lemma isLine_append_of_ne_nil {s t : String} (hs : '\n' ∉ s.toList) (ht : IsLine t.toList)
    (ne_nil : t.toList ≠ []) : IsLine (s ++ t).toList := by
  rw [String.toList_append]
  exact .append_of_ne_nil hs ht ne_nil

/-! ## What the lines hold -/

lemma isLine_date (day : Date) : IsLine day.text.toList :=
  ⟨day.newline_not_mem_text, fun last =>
    day.not_mem_text (by decide) (by decide) (by decide) (List.mem_of_getLast? last)⟩

lemma isLine_dueOrHyphen (f : Finding) : IsLine f.dueOrHyphen.toList := by
  rw [dueOrHyphen]
  split
  case h_1 day _ => exact isLine_date day
  case h_2 => decide

lemma isLine_kind (kind : Kind) : IsLine kind.name.toList := by
  cases kind <;> decide

lemma isLine_text {n : Note} (body : IsLine n.body.toList) : IsLine n.text.toList := by
  have kind := isLine_kind n.kind
  rw [Note.text]
  split
  case h_1 day _ =>
    have front := isLine_append (isLine_append kind (t := " [") (by decide)) (isLine_date day)
    exact isLine_append (isLine_append front (by decide)) body
  case h_2 => exact isLine_append (isLine_append kind (by decide)) body

lemma IsFound.isLine_body (h : f.IsFound) : IsLine f.note.body.toList :=
  .of_trim h.body.1 h.body.2

lemma IsFound.newline_not_mem_place (h : f.IsFound) : '\n' ∉ f.place.toList := by
  have number : '\n' ∉ digits f.line.toNat := not_mem_digits (by decide) _
  simp [place, lineText, h.newline_not_mem_file, number]

lemma IsFound.newline_not_mem_mention (h : f.IsFound) (account : ∀ l ∈ login, '\n' ∉ l.toList) :
    '\n' ∉ (f.mention login).toList := by
  cases login with
  | some l =>
    rw [mention, String.toList_append]
    exact List.not_mem_append (by decide) (account l rfl)
  | none =>
    rw [mention]
    split
    case isTrue => decide
    case isFalse => exact h.newline_not_mem_author

/-- All lines but that of the author are read as they are. -/
lemma IsFound.isLine_issueLines (h : f.IsFound) (oneLine : hosting.IsOneLine) :
    ∀ l ∈ f.issueLines f.identifier "" hosting, IsLine l.toList := by
  have digest : '\n' ∉ f.identifier.toList := f.not_mem_identifier (by decide) (by decide)
  have identifier : IsLine ("**Identifier**: \x60" ++ f.identifier ++ "\x60").toList :=
    isLine_append_of_ne_nil (by simp [digest]) (by decide) (by decide)
  have kind := isLine_append (s := "- **Type**: ") (by decide) (isLine_kind f.note.kind)
  have body := isLine_append (s := "- **Comment**: ") (by decide) h.isLine_body
  have due := isLine_append (s := "- **Due Date**: ") (by decide) f.isLine_dueOrHyphen
  have link := oneLine.newline_not_mem_fileLink h.newline_not_mem_file f.line
  have file : IsLine ("- **File**: [" ++ f.place ++ "](" ++ hosting.fileLink f.file f.line ++
      ")").toList :=
    isLine_append_of_ne_nil (by simp [h.newline_not_mem_place, link]) (by decide) (by decide)
  have link' := oneLine.newline_not_mem_commitLink h.newline_not_mem_revision
  have updated : IsLine ("- **Last Updated**: [" ++ f.attribution.committed.text ++ "](" ++
      hosting.commitLink f.attribution.revision ++ ")").toList :=
    isLine_append_of_ne_nil (by simp [Date.newline_not_mem_text, link']) (by decide) (by decide)
  have text := isLine_text h.isLine_body
  simp only [issueLines, issueDetails, List.cons_append, List.nil_append, List.forall_mem_cons]
  refine ⟨by decide, by decide, identifier, by decide, by decide, kind, body, due, file, updated,
    by decide, by decide, by decide, by decide, text, by decide, by decide, by decide, by decide,
    by decide, ?_⟩
  exact fun l mem => absurd mem List.not_mem_nil

/-- The lines of an issue are those of its template. The name of the author may lose a carriage
return, since it ends its line. -/
lemma IsFound.lines_issueBody_eq (h : f.IsFound) (oneLine : hosting.IsOneLine)
    (line : '\n' ∉ author.toList) : lines (f.issueBody f.identifier author hosting).toList =
      ((f.issueLines f.identifier "" hosting).take 10).map String.toList ++
        withoutReturn ("- **Author**: " ++ author).toList ::
          ((f.issueLines f.identifier "" hosting).drop 11).map String.toList := by
  -- the author is left out first, since a carriage return at the end of that line would be lost
  have isLine := h.isLine_issueLines oneLine
  have above : ∀ l ∈ (f.issueLines f.identifier "" hosting).take 10, IsLine l.toList :=
    fun l mem => isLine l (List.mem_of_mem_take mem)
  have below : ∀ l ∈ (f.issueLines f.identifier "" hosting).drop 11, IsLine l.toList :=
    fun l mem => isLine l (List.mem_of_mem_drop mem)
  have kept {ls : List String} (all : ∀ l ∈ ls, IsLine l.toList) :
      ls.map (withoutReturn ∘ String.toList) = ls.map String.toList :=
    List.map_congr_left fun l mem => (all l mem).withoutReturn_eq
  have feedless : ∀ p ∈ (f.issueLines f.identifier author hosting).map String.toList, '\n' ∉ p := by
    rw [List.forall_mem_map, issueLines_eq, List.forall_mem_append, List.forall_mem_cons]
    refine ⟨fun l mem => (above l mem).1, ?_, fun l mem => (below l mem).1⟩
    rw [String.toList_append]
    exact List.not_mem_append (by decide) line
  rw [issueBody, toList_join_lines, lines_flatMap_concat feedless, List.map_map, issueLines_eq,
    List.map_append, List.map_cons, kept above, kept below]
  rfl

/-! ## What is read from the lines -/

/-- The line before and the line behind the comment. -/
def fence : List Char := "```".toList

lemma dueOrHyphen_inj (h : f.dueOrHyphen = g.dueOrHyphen) : f.note.due = g.note.due := by
  have longer (day : Date) : day.text ≠ "-" := by
    intro same
    have length := congrArg (List.length ∘ String.toList) same
    simp [Date.text, Date.chars_eq] at length
    omega
  unfold dueOrHyphen at h
  cases due : f.note.due with
  | some day =>
    cases due' : g.note.due with
    | some day' =>
      rw [due, due', ← String.toList_inj] at h
      simpa [Date.text, Date.chars_inj] using h
    | none =>
      rw [due, due'] at h
      exact absurd h (longer day)
  | none =>
    cases due' : g.note.due with
    | some day' =>
      rw [due, due'] at h
      exact absurd h.symm (longer day')
    | none => rfl

/-- The lines that tell what the finding is identified by. -/
lemma IsFound.getElem?_lines_issueBody (h : f.IsFound) (oneLine : hosting.IsOneLine)
    (line : '\n' ∉ author.toList) :
    let ls := lines (f.issueBody f.identifier author hosting).toList
    ls[2]? = some ("**Identifier**: \x60" ++ f.identifier ++ "\x60").toList ∧
    ls[5]? = some ("- **Type**: " ++ f.note.kind.name).toList ∧
    ls[6]? = some ("- **Comment**: " ++ f.note.body).toList ∧
    ls[7]? = some ("- **Due Date**: " ++ f.dueOrHyphen).toList := by
  intro ls
  have eq : ls = _ := h.lines_issueBody_eq oneLine line
  rw [eq]
  exact ⟨rfl, rfl, rfl, rfl⟩

lemma not_fence_prefix_text (n : Note) : ¬fence <+: n.text.toList := by
  rw [Note.text]
  cases n.kind <;> split <;> simp [fence, Kind.name]

lemma not_fence_prefix_author (author : String) :
    ¬fence <+: withoutReturn ("- **Author**: " ++ author).toList := by
  intro opens
  have whole : fence <+: ("- **Author**: " ++ author).toList :=
    opens.trans (withoutReturn_prefix_self _)
  simp [fence] at whole

/-- No line begins like a fence but the fences themselves. -/
lemma not_fence_prefix_issueLines (f : Finding) (identifier : String) (hosting : Hosting) :
    (∀ l ∈ (f.issueLines identifier "" hosting).take 10, ¬fence <+: l.toList) ∧
      ∀ l ∈ (f.issueLines identifier "" hosting).drop 16, ¬fence <+: l.toList := by
  constructor <;> simp [issueLines, issueDetails, fence]

/-- An issue takes the same number of lines for every finding. Its only two fences have a single line
between them, which is read as the note of the finding. Four lines above them tell the identifier,
the kind, the body and the due day, so that findings with the same lines there have these in common. -/
theorem lines_issueBody (scanned : f.IsScanned) (oneLine : hosting.IsOneLine)
    (account : ∀ l ∈ login, '\n' ∉ l.toList) :
    let ls := lines (f.issueBody f.identifier (f.mention login) hosting).toList
    ls.length = 20 ∧
    (∃ above line below, ls = above ++ [fence, line, fence] ++ below ∧
      (∀ l ∈ line :: (above ++ below), ¬fence <+: l) ∧
      Note.read? (" " ++ String.ofList line) = some f.note) ∧
    (ls[2]? = some ("**Identifier**: \x60" ++ f.identifier ++ "\x60").toList ∧
      ls[5]? = some ("- **Type**: " ++ f.note.kind.name).toList ∧
      ls[6]? = some ("- **Comment**: " ++ f.note.body).toList ∧
      ls[7]? = some ("- **Due Date**: " ++ f.dueOrHyphen).toList) ∧
    (∀ g : Finding, ∀ hosting' login', g.IsScanned → hosting'.IsOneLine →
      (∀ l ∈ login', '\n' ∉ l.toList) →
      let ls' := lines (g.issueBody g.identifier (g.mention login') hosting').toList
      (ls[2]? = ls'[2]? → f.identifier = g.identifier) ∧
      (ls[5]? = ls'[5]? → f.note.kind = g.note.kind) ∧
      (ls[6]? = ls'[6]? → f.note.body = g.note.body) ∧
      (ls[7]? = ls'[7]? → f.note.due = g.note.due)) := by
  intro ls
  have found := scanned.isFound
  have line := found.newline_not_mem_mention account
  have eq : ls = _ := found.lines_issueBody_eq oneLine line
  have told := found.getElem?_lines_issueBody oneLine line
  refine ⟨by rw [eq]; rfl, ?_, told, ?_⟩
  · obtain ⟨above, below⟩ := f.not_fence_prefix_issueLines f.identifier hosting
    have named := not_fence_prefix_author (f.mention login)
    refine ⟨((f.issueLines f.identifier "" hosting).take 10).map String.toList ++
      withoutReturn ("- **Author**: " ++ f.mention login).toList ::
        ["".toList, "### Full Comment".toList], f.note.text.toList,
      ((f.issueLines f.identifier "" hosting).drop 16).map String.toList, eq, ?_, ?_⟩
    · simp only [List.forall_mem_cons, List.forall_mem_append, List.forall_mem_map]
      exact ⟨not_fence_prefix_text f.note, ⟨above, named, by decide, by decide, nofun⟩, below⟩
    · rw [String.ofList_toList]
      exact Note.read?_text found.due_year found.body.1 found.body.2
  · intro g hosting' login' scanned' oneLine' account' ls'
    obtain ⟨identifier, kind, body, due⟩ := told
    obtain ⟨identifier', kind', body', due'⟩ := scanned'.isFound.getElem?_lines_issueBody oneLine'
      (scanned'.isFound.newline_not_mem_mention account')
    refine ⟨fun same => ?_, fun same => ?_, fun same => ?_, fun same => ?_⟩
    · rw [identifier, identifier', Option.some.injEq] at same
      exact String.toList_inj.1 (by simpa using same)
    · rw [kind, kind', Option.some.injEq] at same
      exact Kind.name_inj (String.toList_inj.1 (by simpa using same))
    · rw [body, body', Option.some.injEq] at same
      exact String.toList_inj.1 (by simpa using same)
    · rw [due, due', Option.some.injEq] at same
      exact dueOrHyphen_inj (String.toList_inj.1 (by simpa using same))

theorem lines_issueBody_of_overdueFinding :
    let f := Git.overdueFinding
    let hosting : Hosting := ⟨"https://github.com", "o", "r", "HEAD"⟩
    let ls := lines (f.issueBody f.identifier (f.mention (some "c")) hosting).toList
    f.IsScanned ∧ hosting.IsOneLine ∧ ls.length = 20 ∧
      ∃ above line below, ls = above ++ [fence, line, fence] ++ below ∧
        Note.read? (" " ++ String.ofList line) = some ⟨.todo, some ⟨2020, 1, 1, by decide⟩, "a"⟩ := by
  intro f hosting ls
  have scanned : f.IsScanned := ⟨_, _, _, Git.scan_overdueTree, List.mem_cons_self⟩
  have oneLine : hosting.IsOneLine := ⟨by decide, by decide⟩
  have account : ∀ l ∈ some "c", '\n' ∉ l.toList := by
    rintro _ ⟨⟩
    decide
  obtain ⟨length, ⟨above, line, below, split, -, read⟩, -⟩ := lines_issueBody scanned oneLine account
  exact ⟨scanned, oneLine, length, above, line, below, split, read⟩

end Finding

end Overdue
