import Overdue.Finding.Identifier
import Overdue.Git.Match
import Overdue.Note.Reader
import Overdue.Proofs.Text.Lines

/-!
# What an identifier is computed from

A path and a body may both hold colons and the names of kinds, so that one text may be put together
from two notes: where the path of one goes on as the body of the other begins
(`identifiedText_eq_iff`). Apart from these, notes share an identifier only if the digests of two
texts begin with the same four bytes.
-/

namespace Overdue

open Text

variable {file file' : String} {kind kind' : Kind} {body body' : String}

/-- The path of the second note is that of the first with a colon, its kind and a text behind it,
and the body of the first, behind its colon, is that text with the kind and the body of the second
behind it. -/
def RunsInto (file : String) (kind : Kind) (body file' : String) (kind' : Kind) (body' : String) :
    Prop :=
  ∃ x, file' = file ++ ":" ++ kind.name ++ x ∧
    ":" ++ trimmed body = x ++ ":" ++ kind'.name ++ ":" ++ trimmed body'

lemma Kind.name_inj {kind kind' : Kind} (h : kind.name = kind'.name) : kind = kind' := by
  cases kind <;> cases kind' <;> revert h <;> decide

lemma Kind.colon_not_mem_name (kind : Kind) : ':' ∉ kind.name.toList := by
  cases kind <;> decide

lemma toList_identifiedText (file : String) (kind : Kind) (body : String) :
    (identifiedText file kind body).toList =
      file.toList ++ ':' :: (kind.name.toList ++ ':' :: (trimmed body).toList) := by
  simp [identifiedText]

/-- A text that is put together in two ways has its first colon of these behind the shorter path. -/
lemma eq_or_runsInto {z : List Char} (path : file'.toList = file.toList ++ z)
    (rest : ':' :: (kind.name.toList ++ ':' :: (trimmed body).toList) =
      z ++ ':' :: (kind'.name.toList ++ ':' :: (trimmed body').toList)) :
    (file = file' ∧ kind = kind' ∧ trimmed body = trimmed body') ∨
      RunsInto file kind body file' kind' body' := by
  cases z with
  | nil =>
    rw [List.nil_append, List.cons.injEq] at rest
    have cut := splitFirst?_append kind.colon_not_mem_name (trimmed body).toList
    rw [rest.2, splitFirst?_append kind'.colon_not_mem_name, Option.some.injEq, Prod.mk.injEq] at cut
    rw [List.append_nil] at path
    exact .inl ⟨String.toList_inj.1 path.symm, Kind.name_inj (String.toList_inj.1 cut.1.symm),
      String.toList_inj.1 cut.2.symm⟩
  | cons c z =>
    rw [List.cons_append, List.cons.injEq] at rest
    obtain ⟨rfl, rest⟩ := rest
    -- no kind holds a colon, so that the longer path goes on behind the kind of the shorter one
    obtain ⟨x, rfl, more⟩ := exists_of_append_eq rest kind.colon_not_mem_name
    refine .inr ⟨String.ofList x, ?_, ?_⟩
    · rw [← String.toList_inj, path]
      simp
    · rw [← String.toList_inj]
      simpa using more

lemma RunsInto.identifiedText_eq (h : RunsInto file kind body file' kind' body') :
    identifiedText file kind body = identifiedText file' kind' body' := by
  obtain ⟨x, rfl, rest⟩ := h
  have behind : identifiedText file kind body = file ++ ":" ++ kind.name ++ (":" ++ trimmed body) := by
    rw [identifiedText, String.append_assoc]
  rw [behind, rest, identifiedText]
  simp only [String.append_assoc]

/-! ## Digests -/

lemma not_mem_hexByte {c : Char} (digit : ∀ n < 16, c ≠ Nat.digitChar n) (b : UInt8) :
    c ∉ hexByte b := by
  have small := b.toNat_lt
  simp only [hexByte, List.mem_cons, List.not_mem_nil, or_false, not_or]
  exact ⟨digit _ (by omega), digit _ (by omega)⟩

lemma hexByte_inj {a b : UInt8} (h : hexByte a = hexByte b) : a = b := by
  have digit : ∀ m < 16, ∀ n < 16, Nat.digitChar m = Nat.digitChar n → m = n := by decide
  have ha := a.toNat_lt
  have hb := b.toNat_lt
  rw [hexByte, hexByte, List.cons.injEq, List.cons.injEq] at h
  have high := digit _ (by omega) _ (by omega) h.1
  have low := digit _ (by omega) _ (by omega) h.2.1
  exact UInt8.toNat_inj.1 (by omega)

lemma flatMap_hexByte_inj {as bs : List UInt8} (h : as.flatMap hexByte = bs.flatMap hexByte) :
    as = bs := by
  induction as generalizing bs with
  | nil =>
    cases bs with
    | nil => rfl
    | cons b bs => cases h
  | cons a as ih =>
    cases bs with
    | nil => cases h
    | cons b bs =>
      rw [List.flatMap_cons, List.flatMap_cons] at h
      obtain ⟨head, tail⟩ := List.append_inj h rfl
      rw [hexByte_inj head, ih tail]

lemma Text.Utf8.encode_inj {s t : String} : Utf8.encode s = Utf8.encode t ↔ s = t := by
  rw [Utf8.encode, Utf8.encode, Array.toList_inj, ← ByteArray.ext_iff, String.toUTF8_eq_toByteArray,
    String.toUTF8_eq_toByteArray, String.toByteArray_inj]

lemma identifierOf_eq_iff : identifierOf file kind body = identifierOf file' kind' body' ↔
    (Digest.Sha256.digest (Utf8.encode (identifiedText file kind body))).take 4 =
      (Digest.Sha256.digest (Utf8.encode (identifiedText file' kind' body'))).take 4 := by
  constructor
  · intro same
    simp only [identifierOf, ← String.toList_inj, String.toList_append, String.toList_ofList,
      List.append_cancel_left_eq] at same
    exact flatMap_hexByte_inj same
  · intro same
    rw [identifierOf, identifierOf, same]

lemma Finding.not_mem_identifier {c : Char} (opening : c ∉ "TODO-".toList)
    (digit : ∀ n < 16, c ≠ Nat.digitChar n) (f : Finding) : c ∉ f.identifier.toList := by
  simp only [identifier, identifierOf, String.toList_append, String.toList_ofList, List.mem_append,
    List.mem_flatMap, opening, false_or, not_exists, not_and]
  exact fun b _ => not_mem_hexByte digit b

/-! ## Texts of two notes -/

/-- The bytes of two notes that are digested are the same just if file, kind and trimmed body are, or
the path of one note runs into the body of the other. Their identifiers are the same just if the
digests of these bytes begin with the same four. -/
theorem identifiedText_eq_iff :
    (Utf8.encode (identifiedText file kind body) =
        Utf8.encode (identifiedText file' kind' body') ↔
      (file = file' ∧ kind = kind' ∧ trimmed body = trimmed body') ∨
        RunsInto file kind body file' kind' body' ∨ RunsInto file' kind' body' file kind body) ∧
    (identifierOf file kind body = identifierOf file' kind' body' ↔
      (Digest.Sha256.digest (Utf8.encode (identifiedText file kind body))).take 4 =
        (Digest.Sha256.digest (Utf8.encode (identifiedText file' kind' body'))).take 4) := by
  refine ⟨?_, identifierOf_eq_iff⟩
  rw [Utf8.encode_inj]
  constructor
  · intro same
    rw [← String.toList_inj, toList_identifiedText, toList_identifiedText] at same
    rcases List.append_eq_append_iff.1 same with ⟨z, path, rest⟩ | ⟨z, path, rest⟩
    · exact (eq_or_runsInto path rest).imp_right .inl
    · rcases eq_or_runsInto path rest with ⟨file, kind, body⟩ | runs
      · exact .inl ⟨file.symm, kind.symm, body.symm⟩
      · exact .inr (.inr runs)
  · rintro (⟨rfl, rfl, same⟩ | runs | runs)
    · rw [identifiedText, identifiedText, same]
    · exact runs.identifiedText_eq
    · exact runs.identifiedText_eq.symm

/-- Two candidates of one search, in different files and with different bodies, for which the same
text is digested. -/
theorem identifiedText_eq_of_colons : ∃ c ∈ Git.candidates
      "Makefile\x001\x00# TODO: x.py:TODO:c\nMakefile:TODO:x.py\x001\x00# TODO: c\n",
    ∃ c' ∈ Git.candidates
      "Makefile\x001\x00# TODO: x.py:TODO:c\nMakefile:TODO:x.py\x001\x00# TODO: c\n",
    ∃ note note', Note.read? c.text = some note ∧ Note.read? c'.text = some note' ∧
      c.file ≠ c'.file ∧ trimmed note.body ≠ trimmed note'.body ∧
      identifiedText c.file note.kind note.body = identifiedText c'.file note'.kind note'.body := by
  have found : Git.candidates
      "Makefile\x001\x00# TODO: x.py:TODO:c\nMakefile:TODO:x.py\x001\x00# TODO: c\n" =
        [⟨"Makefile", 1, "# TODO: x.py:TODO:c"⟩, ⟨"Makefile:TODO:x.py", 1, "# TODO: c"⟩] := by
    decide +kernel
  rw [found]
  exact ⟨_, List.mem_cons_self, _, List.mem_cons_of_mem _ List.mem_cons_self,
    ⟨.todo, none, "x.py:TODO:c"⟩, ⟨.todo, none, "c"⟩, by decide +kernel⟩

end Overdue
