import Overdue.Proofs.Text.Digits
import Overdue.Proofs.Text.Lines
import Overdue.Tracker.Hosting

/-!
# Hosted repositories

A text names a repository just if there is one slash in it, and that at neither end. What it names
on a server depends on the server's address up to the slashes at its end (`named_spec`).

A link holds the parts of a hosted repository, and the path or the revision that it leads to, as
they are. So it is one line where all of these are.
-/

namespace Overdue

open Text

namespace Hosting

/-! ## Names -/

section

variable {s owner name : List Char}

/-- A text is the owner and the name of a repository, with a slash between them. -/
def IsOwnerAndName (s owner name : List Char) : Prop :=
  s = owner ++ '/' :: name ∧ (owner ≠ [] ∧ '/' ∉ owner) ∧ name ≠ [] ∧ '/' ∉ name

lemma ownerAndName?_eq_some_iff :
    ownerAndName? s = some (owner, name) ↔ IsOwnerAndName s owner name := by
  rw [ownerAndName?]
  constructor
  · intro h
    obtain ⟨⟨owner, name⟩, cut, h⟩ := Option.bind_eq_some_iff.1 h
    obtain ⟨eq, absent⟩ := splitFirst?_eq_some_iff.1 cut
    obtain ⟨proper, same⟩ := Option.ite_none_left_eq_some.1 h
    cases same
    simp only [Bool.or_eq_true, List.isEmpty_iff, List.contains_iff_mem, not_or] at proper
    exact ⟨eq, ⟨proper.1.1, absent⟩, proper.1.2, proper.2⟩
  · rintro ⟨eq, ⟨nonempty, absent⟩, nonempty', absent'⟩
    rw [splitFirst?_eq_some_iff.2 ⟨eq, absent⟩]
    simp [nonempty, nonempty', absent']

/-- A text names a repository: there is one slash in it, and that at neither end. -/
def NamesRepository (s : List Char) : Prop :=
  s.count '/' = 1 ∧ s.head? ≠ some '/' ∧ s.getLast? ≠ some '/'

instance (s : List Char) : Decidable (NamesRepository s) :=
  inferInstanceAs (Decidable (_ ∧ _))

/-- Wherever a slash cuts a text that names a repository, it cuts it into the owner and the name. -/
lemma isOwnerAndName_iff :
    IsOwnerAndName s owner name ↔ NamesRepository s ∧ s = owner ++ '/' :: name := by
  rw [IsOwnerAndName, and_comm]
  refine and_congr_left ?_
  rintro rfl
  have single : (owner ++ '/' :: name).count '/' = 1 ↔ '/' ∉ owner ∧ '/' ∉ name := by
    rw [List.count_append, List.count_cons_self, ← List.count_eq_zero, ← List.count_eq_zero]
    omega
  rw [NamesRepository, single]
  constructor
  · rintro ⟨⟨nonempty, absent⟩, nonempty', absent'⟩
    refine ⟨⟨absent, absent'⟩, fun first => ?_, fun last => ?_⟩
    · rw [List.head?_append_of_ne_nil _ nonempty] at first
      exact absent (List.mem_of_head? first)
    · rw [List.getLast?_append_of_ne_nil _ (List.cons_ne_nil _ _),
        List.getLast?_cons_of_ne_nil nonempty'] at last
      exact absent' (List.mem_of_getLast? last)
  · rintro ⟨⟨absent, absent'⟩, first, last⟩
    refine ⟨⟨?_, absent⟩, ?_, absent'⟩
    · rintro rfl
      exact first rfl
    · rintro rfl
      exact last List.getLast?_concat

lemma exists_isOwnerAndName_iff :
    (∃ owner name, IsOwnerAndName s owner name) ↔ NamesRepository s := by
  simp only [isOwnerAndName_iff, exists_and_left, and_iff_left_iff_imp]
  intro names
  have present : 0 < s.count '/' := names.1 ▸ Nat.one_pos
  exact List.append_of_mem (List.count_pos_iff.1 present)

end

/-! ## Addresses of servers -/

/-- So many slashes in a row. -/
def slashes (n : Nat) : String :=
  String.ofList (List.replicate n '/')

/-- Two addresses differ in nothing but the slashes at their ends. -/
def SameUpToSlashes (address address' : String) : Prop :=
  ∃ server m n, server ++ slashes m = address ∧ server ++ slashes n = address'

section

variable {address address' server : String}

lemma withoutSlashes_eq_iff : withoutSlashes address = server ↔
    (∃ n, server ++ slashes n = address) ∧ server.toList.getLast? ≠ some '/' := by
  rw [withoutSlashes, ← String.toList_inj, String.toList_ofList, dropEnding_beq_eq_iff]
  simp only [← String.toList_inj, String.toList_append, slashes, String.toList_ofList]

lemma withoutSlashes_append_slashes (address : String) (n : Nat) :
    withoutSlashes (address ++ slashes n) = withoutSlashes address := by
  have cut : ∀ c ∈ (slashes n).toList, c == '/' := by
    rw [slashes, String.toList_ofList]
    exact fun c mem => beq_iff_eq.2 (List.eq_of_mem_replicate mem)
  rw [withoutSlashes, String.toList_append, dropEnding_append cut, ← withoutSlashes]

lemma withoutSlashes_eq_withoutSlashes_iff :
    withoutSlashes address = withoutSlashes address' ↔ SameUpToSlashes address address' := by
  constructor
  · intro same
    obtain ⟨⟨m, eq⟩, -⟩ := withoutSlashes_eq_iff.1 same
    obtain ⟨⟨n, eq'⟩, -⟩ := withoutSlashes_eq_iff.1 (rfl : withoutSlashes address' = _)
    exact ⟨withoutSlashes address', m, n, eq, eq'⟩
  · rintro ⟨server, m, n, rfl, rfl⟩
    rw [withoutSlashes_append_slashes, withoutSlashes_append_slashes]

end

/-! ## What is named -/

variable {h h' : Hosting} {address address' repository revision : String}

/-- A hosted repository is the one that a text names on the server at an address. -/
structure IsNamedBy (h : Hosting) (address repository revision : String) : Prop where
  form : NamesRepository repository.toList
  parts : h.owner ++ "/" ++ h.name = repository
  server : ∃ n, h.server ++ slashes n = address
  bare : h.server.toList.getLast? ≠ some '/'
  revision : h.revision = revision

/-- All links into one hosted repository are those into another. -/
structure SharesLinks (h h' : Hosting) : Prop where
  link : h.link = h'.link
  fileLink : ∀ file line, h.fileLink file line = h'.fileLink file line
  commitLink : ∀ revision, h.commitLink revision = h'.commitLink revision

lemma SharesLinks.refl (h : Hosting) : h.SharesLinks h :=
  ⟨rfl, fun _ _ => rfl, fun _ => rfl⟩

lemma named_of_isOwnerAndName {owner name : List Char}
    (parts : IsOwnerAndName repository.toList owner name) : named address repository revision =
      .ok ⟨withoutSlashes address, String.ofList owner, String.ofList name, revision⟩ := by
  rw [named, ownerAndName?_eq_some_iff.2 parts]

lemma named_of_not_namesRepository (malformed : ¬NamesRepository repository.toList) :
    named address repository revision = .error ⟨repository⟩ := by
  rw [named]
  cases cut : ownerAndName? repository.toList with
  | none => rfl
  | some pair =>
    exact absurd (isOwnerAndName_iff.1 (ownerAndName?_eq_some_iff.1 cut)).1 malformed

lemma named_eq_ok_iff :
    named address repository revision = .ok h ↔ h.IsNamedBy address repository revision := by
  constructor
  · intro ok
    by_cases form : NamesRepository repository.toList
    · obtain ⟨owner, name, parts⟩ := exists_isOwnerAndName_iff.2 form
      rw [named_of_isOwnerAndName parts] at ok
      cases ok
      obtain ⟨server, bare⟩ := withoutSlashes_eq_iff.1 (rfl : withoutSlashes address = _)
      refine ⟨form, ?_, server, bare, rfl⟩
      rw [← String.toList_inj, parts.1]
      simp
    · rw [named_of_not_namesRepository form] at ok
      cases ok
  · rintro ⟨form, whole, server, bare, rfl⟩
    have parts : IsOwnerAndName repository.toList h.owner.toList h.name.toList :=
      isOwnerAndName_iff.2 ⟨form, by simp [← whole]⟩
    rw [named_of_isOwnerAndName parts, withoutSlashes_eq_iff.2 ⟨server, bare⟩,
      String.ofList_toList, String.ofList_toList]

lemma exists_named_eq_ok_iff :
    (∃ h, named address repository revision = .ok h) ↔ NamesRepository repository.toList := by
  constructor
  · rintro ⟨h, ok⟩
    exact (named_eq_ok_iff.1 ok).form
  · intro form
    obtain ⟨owner, name, parts⟩ := exists_isOwnerAndName_iff.2 form
    exact ⟨_, named_of_isOwnerAndName parts⟩

lemma named_eq_error_iff {e : MalformedRepository} :
    named address repository revision = .error e ↔
      ¬NamesRepository repository.toList ∧ e = ⟨repository⟩ := by
  by_cases form : NamesRepository repository.toList
  · obtain ⟨h, ok⟩ : ∃ h, named address repository revision = .ok h :=
      exists_named_eq_ok_iff.2 form
    rw [ok]
    exact iff_of_false nofun fun malformed => malformed.1 form
  · rw [named_of_not_namesRepository form, and_iff_right form, Except.error.injEq, eq_comm]

lemma named_append_slashes (address repository revision : String) (n : Nat) :
    named (address ++ slashes n) repository revision = named address repository revision := by
  rw [named, withoutSlashes_append_slashes, ← named]

lemma IsNamedBy.link_eq (told : h.IsNamedBy address repository revision) :
    h.link = h.server ++ ("/" ++ repository) := by
  rw [← told.parts, link]
  simp only [String.append_assoc]

lemma IsNamedBy.server_eq (told : h.IsNamedBy address repository revision) :
    withoutSlashes address = h.server :=
  withoutSlashes_eq_iff.2 ⟨told.server, told.bare⟩

/-- The link to a repository tells the address of its server. -/
lemma sharesLinks_iff (told : h.IsNamedBy address repository revision)
    (told' : h'.IsNamedBy address' repository revision) :
    h.SharesLinks h' ↔ SameUpToSlashes address address' := by
  rw [← withoutSlashes_eq_withoutSlashes_iff]
  constructor
  · intro shared
    have link := shared.link
    rw [told.link_eq, told'.link_eq, String.append_left_inj] at link
    rw [told.server_eq, told'.server_eq, link]
  · intro same
    have ok := named_eq_ok_iff.2 told
    have ok' := named_eq_ok_iff.2 told'
    rw [named, same, ← named, ok'] at ok
    cases ok
    exact .refl h

/-- A text names a repository just if there is one slash in it, and that at neither end. What is
named is made up of the text as it is and of the address without the slashes at its end, so that
more of them change no link, and addresses that differ in anything else do not have the same links.
A text that names none is handed back as it is. -/
theorem named_spec (address repository revision : String) :
    ((∃ h, named address repository revision = .ok h) ↔ NamesRepository repository.toList) ∧
    (∀ h, named address repository revision = .ok h ↔ h.IsNamedBy address repository revision) ∧
    (∀ h, named address repository revision = .ok h →
      (∀ n, ∃ h', named (address ++ slashes n) repository revision = .ok h' ∧ h'.SharesLinks h) ∧
      ∀ address' h', named address' repository revision = .ok h' →
        (h'.SharesLinks h ↔ SameUpToSlashes address' address)) ∧
    ∀ e, named address repository revision = .error e ↔
      ¬NamesRepository repository.toList ∧ e = ⟨repository⟩ := by
  refine ⟨exists_named_eq_ok_iff, fun h => named_eq_ok_iff, fun h ok => ⟨fun n => ?_, ?_⟩,
    fun e => named_eq_error_iff⟩
  · exact ⟨h, (named_append_slashes address repository revision n).trans ok, .refl h⟩
  · intro address' h' ok'
    exact sharesLinks_iff (named_eq_ok_iff.1 ok') (named_eq_ok_iff.1 ok)

theorem named_spec_of_slashes_at_end :
    let h : Hosting := ⟨"https://github.com", "o", "r", "HEAD"⟩
    let other : Hosting := ⟨"http://github.com", "o", "r", "HEAD"⟩
    named "https://github.com//" "o/r" "HEAD" = .ok h ∧
    (∃ h', named ("https://github.com//" ++ slashes 3) "o/r" "HEAD" = .ok h' ∧ h'.SharesLinks h) ∧
    named "http://github.com/" "o/r" "HEAD" = .ok other ∧ ¬other.SharesLinks h ∧
    named "https://github.com" "o//r" "HEAD" = .error ⟨"o//r"⟩ := by
  intro h other
  have once : NamesRepository "o/r".toList := by decide
  have twice : ¬NamesRepository "o//r".toList := by decide
  obtain ⟨-, named_iff, links, -⟩ := named_spec "https://github.com//" "o/r" "HEAD"
  have ok := (named_iff h).2 ⟨once, rfl, ⟨2, rfl⟩, by decide, rfl⟩
  have ok' := ((named_spec _ _ _).2.1 other).2 ⟨once, rfl, ⟨1, rfl⟩, by decide, rfl⟩
  have apart : ¬SameUpToSlashes "http://github.com/" "https://github.com//" :=
    mt withoutSlashes_eq_withoutSlashes_iff.2 (by decide)
  obtain ⟨more, same_iff⟩ := links h ok
  exact ⟨ok, more 3, ok', mt (same_iff _ other ok').1 apart,
    ((named_spec _ _ _).2.2.2 _).2 ⟨twice, rfl⟩⟩

/-! ## Links of one line -/

/-- No link into the repository takes more than one line because of where it is hosted. -/
structure IsOneLine (h : Hosting) : Prop where
  link : '\n' ∉ h.link.toList
  revision : '\n' ∉ h.revision.toList

namespace IsOneLine

lemma newline_not_mem_fileLink (oneLine : h.IsOneLine) {file : String} (path : '\n' ∉ file.toList)
    (line : UInt32) : '\n' ∉ (h.fileLink file line).toList := by
  have number : '\n' ∉ digits line.toNat := not_mem_digits (by decide) _
  simp [fileLink, oneLine.link, oneLine.revision, path, number]

lemma newline_not_mem_commitLink (oneLine : h.IsOneLine) {revision : String}
    (hash : '\n' ∉ revision.toList) : '\n' ∉ (h.commitLink revision).toList := by
  simp [commitLink, oneLine.link, hash]

end IsOneLine

end Hosting

end Overdue
