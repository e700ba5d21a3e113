import Mathlib.Data.List.Basic
import Overdue.Files

/-!
# Appending to a file

A text is appended just if the path leads to a place that is no directory. What was at the place
then stands before the text, and all other places are as they were.
-/

namespace Overdue

namespace Files

variable {fs fs' : Files} {path text : String} {place other : Place}

/-- A path leads to a place where there is a file or where one can be made. -/
def IsWritable (fs : Files) (path : String) (place : Place) : Prop :=
  fs.filePlace path = .ok place ∧ fs.node? place ≠ some .directory

/-- The tree has a text appended at a place, and nothing else is changed. -/
structure Appends (fs : Files) (place : Place) (text : String) (fs' : Files) : Prop where
  content : fs'.content? place = some ((fs.content? place).getD "" ++ text)
  others : ∀ other, other ≠ place → fs'.node? other = fs.node? other
  current : fs'.current = fs.current

lemma lookup_filter_ne (h : other ≠ place) (nodes : List (Place × Node)) :
    (nodes.filter fun n => n.1 != place).lookup other = nodes.lookup other := by
  induction nodes with
  | nil => rfl
  | cons n nodes ih =>
    obtain ⟨p, node⟩ := n
    rw [List.filter_cons]
    split
    case isTrue => rw [List.lookup_cons, List.lookup_cons, ih]
    case isFalse same =>
      have same : p = place := by simpa using same
      rw [ih, List.lookup_cons, same, beq_false_of_ne h]

lemma node?_put_self (h : place ≠ []) (fs : Files) (content : String) :
    (fs.put place content).node? place = some (.file content) := by
  have proper : place.isEmpty = false := by simpa using h
  simp [node?, put, proper]

lemma node?_put_of_ne (h : other ≠ place) (fs : Files) (content : String) :
    (fs.put place content).node? other = fs.node? other := by
  rw [node?, node?, put, List.lookup_cons, beq_false_of_ne h, lookup_filter_ne h]

/-- The top is a directory, so that nothing can be written there. -/
lemma IsWritable.ne_nil (h : fs.IsWritable path place) : place ≠ [] := by
  rintro rfl
  exact h.2 rfl

lemma append_of_filePlace (h : fs.filePlace path = .ok place) (text : String) :
    fs.append path text = match fs.node? place with
      | some .directory => .error .isDirectory
      | some (.file content) => .ok (fs.put place (content ++ text))
      | none => .ok (fs.put place text) := by
  rw [append, h]
  rfl

lemma append_eq (h : fs.IsWritable path place) (text : String) :
    fs.append path text = .ok (fs.put place ((fs.content? place).getD "" ++ text)) := by
  obtain ⟨found, free⟩ := h
  rw [append_of_filePlace found, content?]
  cases node : fs.node? place with
  | none =>
    dsimp only
    rw [Option.getD_none, String.empty_append]
  | some n =>
    cases n with
    | directory => exact absurd node free
    | file content => rfl

lemma appends_put (h : place ≠ []) (fs : Files) (text : String) :
    fs.Appends place text (fs.put place ((fs.content? place).getD "" ++ text)) := by
  refine ⟨?_, fun other ne => node?_put_of_ne ne fs _, rfl⟩
  rw [content?, node?_put_self h]

lemma exists_isWritable_of_append (h : fs.append path text = .ok fs') :
    ∃ place, fs.IsWritable path place := by
  cases found : fs.filePlace path with
  | error e =>
    rw [append, found] at h
    cases h
  | ok place =>
    refine ⟨place, found, fun directory => ?_⟩
    rw [append_of_filePlace found, directory] at h
    cases h

lemma append_spec (fs : Files) (path text : String) :
    (∃ place fs', fs.IsWritable path place ∧ fs.append path text = .ok fs' ∧
      fs.Appends place text fs') ∨
    (∃ e, fs.append path text = .error e) ∧ ∀ place, ¬fs.IsWritable path place := by
  cases appended : fs.append path text with
  | ok fs' =>
    obtain ⟨place, writable⟩ := exists_isWritable_of_append appended
    rw [append_eq writable, Except.ok.injEq] at appended
    exact .inl ⟨place, fs', writable, rfl, appended ▸ appends_put writable.ne_nil fs text⟩
  | error e =>
    refine .inr ⟨⟨e, rfl⟩, fun place writable => ?_⟩
    rw [append_eq writable] at appended
    cases appended

end Files

end Overdue
