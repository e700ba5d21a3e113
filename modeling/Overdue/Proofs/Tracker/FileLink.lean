import Overdue.Proofs.Finding.Found
import Overdue.Tracker.Hosting

/-!
# Links to lines of files

A link holds the path of its file as it is, and an address ends its path at the first question mark or
number sign. So a link leads to its line just if the path holds neither, and still no two lines
share a link (`fileLink_spec`).
-/

namespace Overdue

open Text

/-! ## Addresses -/

/-- A character that ends the path of an address: behind it come the query or the fragment. -/
def endsPath (c : Char) : Bool :=
  c == '?' || c == '#'

/-- What an address leads to. -/
def pathOf (address : String) : List Char :=
  address.toList.takeWhile fun c => !endsPath c

/-- What an address says beyond that, as where to look there. -/
def behindPath (address : String) : List Char :=
  address.toList.dropWhile fun c => !endsPath c

section

variable {p : Char → Bool} {c : Char}

lemma takeWhile_append_cons_of_neg (h : p c = false) (s t : List Char) :
    (s ++ c :: t).takeWhile p = s.takeWhile p := by
  induction s with
  | nil => exact List.takeWhile_cons_of_neg (by simp [h])
  | cons d s ih =>
    rw [List.cons_append, List.takeWhile_cons, List.takeWhile_cons, ih]

lemma dropWhile_append_cons_of_neg (h : p c = false) (s t : List Char) :
    (s ++ c :: t).dropWhile p = s.dropWhile p ++ c :: t := by
  induction s with
  | nil => exact List.dropWhile_cons_of_neg (by simp [h])
  | cons d s ih =>
    rw [List.cons_append, List.dropWhile_cons, List.dropWhile_cons, ih]
    split <;> rfl

end

/-! ## Links -/

namespace Hosting

/-- No part of where a repository is hosted ends the path of a link. -/
structure IsInPath (h : Hosting) : Prop where
  server : ∀ c ∈ h.server.toList, !endsPath c
  owner : ∀ c ∈ h.owner.toList, !endsPath c
  name : ∀ c ∈ h.name.toList, !endsPath c
  revision : ∀ c ∈ h.revision.toList, !endsPath c

/-- What stands before the path of a file in the links to it. -/
def directory (h : Hosting) : List Char :=
  (h.server ++ "/" ++ h.owner ++ "/" ++ h.name ++ "/blob/" ++ h.revision ++ "/").toList

/-- An address leads to a file of the repository, and there to a line. It does so by the path as it
is, so that no address leads to a file whose path holds what ends the path of an address. -/
structure LeadsTo (h : Hosting) (address file : String) (line : UInt32) : Prop where
  path : pathOf address = h.directory ++ file.toList
  line : behindPath address = '#' :: 'L' :: digits line.toNat

variable {h : Hosting}

lemma toList_fileLink (h : Hosting) (file : String) (line : UInt32) :
    (h.fileLink file line).toList = h.directory ++ (file.toList ++ '#' :: 'L' :: digits line.toNat) := by
  simp [fileLink, link, directory]

lemma IsInPath.of_mem_directory (inPath : h.IsInPath) : ∀ c ∈ h.directory, !endsPath c := by
  simp only [Hosting.directory, String.toList_append, List.forall_mem_append]
  have slash : ∀ c ∈ "/".toList, !endsPath c := by simp [endsPath]
  have blob : ∀ c ∈ "/blob/".toList, !endsPath c := by simp [endsPath]
  exact ⟨⟨⟨⟨⟨⟨⟨inPath.server, slash⟩, inPath.owner⟩, slash⟩, inPath.name⟩, blob⟩,
    inPath.revision⟩, slash⟩

lemma pathOf_fileLink (inPath : h.IsInPath) (file : String) (line : UInt32) :
    pathOf (h.fileLink file line) = h.directory ++ pathOf file := by
  have ends : (fun c => !endsPath c) '#' = false := rfl
  rw [pathOf, toList_fileLink, List.takeWhile_append_of_pos inPath.of_mem_directory]
  exact congrArg _ (takeWhile_append_cons_of_neg ends _ _)

lemma behindPath_fileLink (inPath : h.IsInPath) (file : String) (line : UInt32) :
    behindPath (h.fileLink file line) = behindPath file ++ '#' :: 'L' :: digits line.toNat := by
  have ends : (fun c => !endsPath c) '#' = false := rfl
  rw [behindPath, toList_fileLink, List.dropWhile_append_of_pos inPath.of_mem_directory]
  exact dropWhile_append_cons_of_neg ends _ _

/-- The number sign before the line is the last one, so that it separates the two. -/
lemma fileLink_inj {file file' : String} {line line' : UInt32} :
    h.fileLink file line = h.fileLink file' line' ↔ file = file' ∧ line = line' := by
  constructor
  · intro same
    have chars := congrArg String.toList same
    rw [toList_fileLink, toList_fileLink, List.append_cancel_left_eq] at chars
    have absent (n : Nat) : '#' ∉ 'L' :: digits n :=
      List.not_mem_cons_of_ne_of_not_mem (by decide) (not_mem_digits (by decide) n)
    obtain ⟨path, number⟩ := append_cons_inj chars (absent _) (absent _)
    exact ⟨String.toList_injective path,
      UInt32.toNat_inj.1 (digits_injective (List.cons.inj number).2)⟩
  · rintro ⟨rfl, rfl⟩
    rfl

lemma leadsTo_fileLink_iff (inPath : h.IsInPath) (file : String) (line : UInt32) :
    h.LeadsTo (h.fileLink file line) file line ↔ ∀ c ∈ file.toList, !endsPath c := by
  constructor
  · intro leads
    have whole : pathOf file = file.toList := by
      have path := leads.path
      rwa [pathOf_fileLink inPath, List.append_cancel_left_eq] at path
    exact List.takeWhile_eq_self_iff.1 whole
  · intro plain
    have whole : pathOf file = file.toList := List.takeWhile_eq_self_iff.2 plain
    have rest : behindPath file = [] := List.dropWhile_eq_nil_iff.2 plain
    exact ⟨by rw [pathOf_fileLink inPath, whole], by rw [behindPath_fileLink inPath, rest]; rfl⟩

/-- A link is cut where the path of its file is, at the first character that ends the path of an
address. So it leads to the line just if the path holds none, and still tells all lines apart. -/
theorem fileLink_spec (inPath : h.IsInPath) (file : String) (line : UInt32) :
    (pathOf (h.fileLink file line) = h.directory ++ pathOf file ∧
      behindPath (h.fileLink file line) = behindPath file ++ '#' :: 'L' :: digits line.toNat) ∧
    (h.LeadsTo (h.fileLink file line) file line ↔ '#' ∉ file.toList ∧ '?' ∉ file.toList) ∧
    ∀ file' line', h.fileLink file line = h.fileLink file' line' ↔ file = file' ∧ line = line' := by
  refine ⟨⟨pathOf_fileLink inPath file line, behindPath_fileLink inPath file line⟩, ?_,
    fun _ _ => fileLink_inj⟩
  rw [leadsTo_fileLink_iff inPath]
  constructor
  · intro plain
    exact ⟨fun sign => Bool.false_ne_true (plain '#' sign),
      fun mark => Bool.false_ne_true (plain '?' mark)⟩
  · rintro ⟨sign, mark⟩ c mem
    have other : c ≠ '?' ∧ c ≠ '#' := ⟨fun same => mark (same ▸ mem), fun same => sign (same ▸ mem)⟩
    simpa [endsPath] using other

theorem fileLink_spec_of_plain_path :
    let h : Hosting := ⟨"https://github.com", "o", "r", "HEAD"⟩
    h.IsInPath ∧ h.LeadsTo (h.fileLink "src/a.py" 12) "src/a.py" 12 := by
  intro h
  have inPath : h.IsInPath := by constructor <;> simp [h, endsPath]
  exact ⟨inPath, (fileLink_spec inPath "src/a.py" 12).2.1.2 ⟨by decide, by decide⟩⟩

/-- A number sign in the path of a file cuts the link short. This one leads to the file `a`, and there
to no line. -/
theorem fileLink_of_number_sign : ∃ (f : Finding) (h : Hosting),
    f.IsScanned ∧ h.IsInPath ∧ f.file = "a#b.py" ∧ f.line = 3 ∧
    pathOf (h.fileLink f.file f.line) = h.directory ++ "a".toList ∧
    behindPath (h.fileLink f.file f.line) = "#b.py#L3".toList ∧
    ¬h.LeadsTo (h.fileLink f.file f.line) f.file f.line := by
  let r : Git.Repository := {
    search := ⟨Utf8.encode "a#b.py\x003\x00# TODO: x\n", [], .exited 0⟩
    blame := fun _ _ => ⟨Utf8.encode
      "bbbbbbbbbbbbbbbbbbbbbbbbbbbbbbbbbbbbbbbb 1\nauthor B\ncommitter-time 1683763200", [],
      .exited 0⟩ }
  let f : Finding := ⟨"a#b.py", 3, ⟨.todo, none, "x"⟩,
    ⟨"bbbbbbbbbbbbbbbbbbbbbbbbbbbbbbbbbbbbbbbb", "B", none, ⟨2023, 5, 11, by decide⟩⟩, false⟩
  let h : Hosting := ⟨"https://github.com", "o", "r", "HEAD"⟩
  have scanned : f.IsScanned :=
    @Git.Repository.isScanned_of_mem_kept _ r ⟨rfl, .inl rfl⟩ ⟨2024, 1, 1, by decide⟩
      (by decide +kernel)
  have inPath : h.IsInPath := by constructor <;> simp [h, endsPath]
  refine ⟨f, h, scanned, inPath, rfl, rfl, ?_, ?_, fun leads => ?_⟩
  · have cut : pathOf f.file = "a".toList := by simp [pathOf, f, endsPath]
    rw [pathOf_fileLink inPath, cut]
  · have rest : behindPath f.file = "#b.py".toList := by simp [behindPath, f, endsPath]
    rw [behindPath_fileLink inPath, rest]
    change "#b.py".toList ++ '#' :: 'L' :: digits 3 = "#b.py#L3".toList
    decide +kernel
  · exact Bool.false_ne_true ((leadsTo_fileLink_iff inPath _ _).1 leads '#' (by decide))

end Hosting

end Overdue
