import Mathlib.Data.List.Forall2
import Overdue.Proofs.Calendar.Day
import Overdue.Proofs.History.Facts

/-!
# Reading blame records

The lines of a record may come in any order and between any others. For each key the first line that
gives a usable value counts, whatever else the record holds, the source line included
(`read?_of_isRecord`).
-/

namespace Overdue.Attribution

open Text

variable {revision header author : List Char} {contact : Option (List Char)} {time : Int}
  {above body ls pieces : List (List Char)} {p : List Char → Prop}

/-! ## Records -/

/-- The first word of a line, up to white space or the end. -/
structure IsFirstWord (word line : List Char) : Prop where
  ne_nil : word ≠ []
  solid : ∀ c ∈ word, isBlank c = false
  cut : ∃ gap rest, line = gap ++ word ++ rest ∧ allBlank gap ∧ ∀ c ∈ rest.head?, isBlank c

/-- Lines as a text, with line feeds between them. -/
def textOf (lines : List (List Char)) : String :=
  String.ofList (List.intercalate ['\n'] lines)

/-- A text of lines: below any number of blank ones, a header that starts with the revision, and the
lines of the body. -/
inductive IsRecord (revision : List Char) (body : List (List Char)) : String → Prop where
  | of_header {above : List (List Char)} {header : List Char} :
    (∀ line ∈ above, allBlank line) →
    IsFirstWord revision header →
    (∀ line ∈ above ++ header :: body, '\n' ∉ line) →
    IsRecord revision body (textOf (above ++ header :: body))

/-- A name that is read as it is written. -/
structure IsName (name : List Char) : Prop where
  solid : ¬allBlank name
  last : name.getLast? ≠ some '\r'

/-- Among the lines, the first that name an author, give a mail address and give a time are these,
or none gives a mail address. -/
structure Tells (author : List Char) (contact : Option (List Char)) (time : Int)
    (lines : List (List Char)) : Prop where
  author_first : IsFirst GivesAuthor (keyLine "author" author) lines
  contact_first : ∀ mail ∈ contact,
    IsFirst GivesContact (keyLine "author-mail" ('<' :: (mail ++ ['>']))) lines
  no_contact : contact = none → ∀ line ∈ lines, ¬GivesContact line
  time_first : IsFirst GivesTime (keyLine "committer-time" (decimal time)) lines

/-! ## From the pieces of a text to its lines -/

/-- A carriage return at the end of a line is not seen. -/
def IgnoresReturn (p : List Char → Prop) : Prop :=
  ∀ line, p (withoutReturn line) ↔ p line

lemma ignoresReturn_gives {key : String} (h : IgnoresReturn p) : IgnoresReturn (Gives key p) := by
  intro line
  constructor
  · rintro ⟨value, same, accepted⟩
    rcases eq_or_eq_concat_withoutReturn line with eq | eq
    · exact ⟨value, eq.trans same, accepted⟩
    · have stripped : withoutReturn (value ++ ['\r']) = value := by simp [withoutReturn]
      refine ⟨value ++ ['\r'], ?_, (h _).1 (by rwa [stripped])⟩
      rw [eq, same, keyLine, keyLine, List.append_assoc, List.cons_append]
  · rintro ⟨value, rfl, accepted⟩
    exact ⟨withoutReturn value, withoutReturn_append_cons (by decide) _ _, (h value).2 accepted⟩

lemma ignoresReturn_givesAuthor : IgnoresReturn GivesAuthor :=
  ignoresReturn_gives fun value => not_congr (allBlank_withoutReturn value)

lemma ignoresReturn_givesContact : IgnoresReturn GivesContact :=
  ignoresReturn_gives fun value => by simp only [IsBare, trim_withoutReturn]

lemma ignoresReturn_givesTime : IgnoresReturn GivesTime :=
  ignoresReturn_gives fun value => by simp only [trim_withoutReturn]

lemma IgnoresReturn.iff {line piece : List Char} (h : IgnoresReturn p)
    (isLine : IsLineOf line piece) : p line ↔ p piece := by
  rcases isLine with rfl | rfl
  · rfl
  · exact h piece

/-- A line of a key that does not end in a carriage return is a line as it is. -/
lemma eq_of_isLineOf_keyLine {key : String} {line value : List Char}
    (last : value.getLast? ≠ some '\r') (isLine : IsLineOf line (keyLine key value)) :
    line = keyLine key value := by
  rcases isLine with rfl | rfl
  · rfl
  · have kept : withoutReturn value = value := if_neg last
    rw [keyLine, withoutReturn_append_cons (by decide), kept]

lemma isFirst_cons {l line : List Char} {lines : List (List Char)} :
    IsFirst p line (l :: lines) ↔ l = line ∨ ¬p l ∧ IsFirst p line lines := by
  constructor
  · rintro ⟨_ | ⟨l', before⟩, after, eq, silent⟩
    · exact .inl (List.cons.inj eq).1
    · obtain ⟨rfl, rfl⟩ := List.cons.inj eq
      obtain ⟨here, there⟩ := List.forall_mem_cons.1 silent
      exact .inr ⟨here, before, after, rfl, there⟩
  · rintro (rfl | ⟨here, before, after, rfl, there⟩)
    · exact ⟨[], lines, rfl, nofun⟩
    · exact ⟨l :: before, after, rfl, List.forall_mem_cons.2 ⟨here, there⟩⟩

lemma IsFirst.of_pieces {line : List Char} (ignores : IgnoresReturn p)
    (kept : ∀ l, IsLineOf l line → l = line) (related : List.Forall₂ IsLineOf ls pieces)
    (h : IsFirst p line pieces) : IsFirst p line ls := by
  induction related with
  | nil => exact h
  | @cons l piece ls pieces isLine related ih =>
    rw [isFirst_cons] at h ⊢
    rcases h with rfl | ⟨silent, later⟩
    · exact .inl (kept l isLine)
    · exact .inr ⟨mt (ignores.iff isLine).1 silent, ih later⟩

lemma forall_not_of_pieces (ignores : IgnoresReturn p) (related : List.Forall₂ IsLineOf ls pieces)
    (h : ∀ piece ∈ pieces, ¬p piece) : ∀ line ∈ ls, ¬p line := by
  induction related with
  | nil => exact h
  | cons isLine related ih =>
    rw [List.forall_mem_cons] at h ⊢
    exact ⟨mt (ignores.iff isLine).1 h.1, ih h.2⟩

lemma Tells.of_pieces (name : IsName author) (related : List.Forall₂ IsLineOf ls pieces)
    (h : Tells author contact time pieces) : Tells author contact time ls where
  author_first := h.author_first.of_pieces ignoresReturn_givesAuthor
    (fun _ => eq_of_isLineOf_keyLine name.last) related
  contact_first mail mem := by
    refine (h.contact_first mail mem).of_pieces ignoresReturn_givesContact
      (fun _ => eq_of_isLineOf_keyLine ?_) related
    rw [← List.cons_append, List.getLast?_concat]
    decide
  no_contact absent :=
    forall_not_of_pieces ignoresReturn_givesContact related (h.no_contact absent)
  time_first := by
    refine h.time_first.of_pieces ignoresReturn_givesTime
      (fun _ => eq_of_isLineOf_keyLine fun last => ?_) related
    have solid := isBlank_of_mem_decimal (List.mem_of_getLast? last)
    exact absurd solid (by decide)

/-! ## The header -/

lemma firstWord?_concat {c : Char} (h : isBlank c) (s : List Char) :
    firstWord? (s ++ [c]) = firstWord? s := by
  have start : (skipBlank (s ++ [c])).takeWhile (fun c => !isBlank c) =
      (skipBlank s).takeWhile (fun c => !isBlank c) := by
    rw [skipBlank_concat h]
    split
    case isTrue empty => rw [List.isEmpty_iff.1 empty]
    case isFalse =>
      rw [List.takeWhile_append, List.takeWhile_cons_of_neg (by simpa using h), List.append_nil]
      split
      case isTrue all => exact ((List.takeWhile_prefix _).eq_of_length all).symm
      case isFalse => rfl
  rw [firstWord?, start, firstWord?]

lemma firstWord?_of_isLineOf {line piece : List Char} (isLine : IsLineOf line piece) :
    firstWord? line = firstWord? piece := by
  rcases isLine with rfl | rfl
  · rfl
  · rcases eq_or_eq_concat_withoutReturn piece with eq | eq
    · rw [← eq]
    · nth_rewrite 2 [eq]
      exact (firstWord?_concat (by decide) _).symm

lemma IsFirstWord.firstWord?_eq (h : IsFirstWord revision header) :
    firstWord? header = some revision := by
  obtain ⟨gap, rest, rfl, blank, boundary⟩ := h.cut
  obtain ⟨c, tail, rfl⟩ := List.exists_cons_of_ne_nil h.ne_nil
  have solid : ∀ d ∈ c :: tail, (!isBlank d) = true := fun d mem => by rw [h.solid d mem]; rfl
  have rest_out : rest.takeWhile (fun d => !isBlank d) = [] := by
    cases rest with
    | nil => rfl
    | cons d rest => exact List.takeWhile_cons_of_neg (by simpa using boundary)
  have word : (skipBlank (gap ++ c :: tail ++ rest)).takeWhile (fun d => !isBlank d) =
      c :: tail := by
    rw [List.append_assoc, List.cons_append,
      skipBlank_append_cons blank (h.solid c List.mem_cons_self), ← List.cons_append,
      List.takeWhile_append_of_pos solid, rest_out, List.append_nil]
  rw [firstWord?, word]

lemma IsFirstWord.not_allBlank (h : IsFirstWord revision header) : ¬allBlank header := by
  obtain ⟨gap, rest, rfl, -, -⟩ := h.cut
  obtain ⟨c, tail, rfl⟩ := List.exists_cons_of_ne_nil h.ne_nil
  have solid := h.solid c List.mem_cons_self
  simp [allBlank, solid]

lemma ofLines?_concat_nil (lines : List (List Char)) : ofLines? (lines ++ [[]]) = ofLines? lines := by
  have silent (facts : Facts) : facts.add [] = facts := by simp [Facts.add, keyAndValue, splitFirst?]
  rw [ofLines?, ofLines?, List.dropWhile_append]
  cases lines.dropWhile allBlank with
  | nil => rfl
  | cons header body => simp only [List.isEmpty_cons, Bool.false_eq_true, if_false,
      List.cons_append, List.foldl_append, List.foldl_cons, List.foldl_nil, silent]

/-- Below the blank lines the revision is read from the header and the facts from the body. -/
lemma ofLines?_of_pieces (related : List.Forall₂ IsLineOf ls (above ++ header :: body))
    (blank : ∀ line ∈ above, allBlank line) (word : IsFirstWord revision header) :
    ∃ body', List.Forall₂ IsLineOf body' body ∧ ofLines? ls =
      if isRevision revision then (body'.foldl Facts.add {}).attribution? revision else none := by
  have blank_iff {line piece : List Char} (isLine : IsLineOf line piece) :
      allBlank line ↔ allBlank piece :=
    IgnoresReturn.iff (p := (allBlank ·)) allBlank_withoutReturn isLine
  -- the lines above the header are dropped one by one, each as blank as its piece
  induction above generalizing ls with
  | nil =>
    cases related with
    | @cons line _ body' _ isLine related =>
      have solid : ¬allBlank line := mt (blank_iff isLine).1 word.not_allBlank
      refine ⟨body', related, ?_⟩
      rw [ofLines?, List.dropWhile_cons_of_neg solid]
      simp only [firstWord?_of_isLineOf isLine, word.firstWord?_eq]
  | cons piece above ih =>
    cases related with
    | @cons line _ ls _ isLine related =>
      obtain ⟨here, there⟩ := List.forall_mem_cons.1 blank
      have skipped : ofLines? (line :: ls) = ofLines? ls := by
        rw [ofLines?, List.dropWhile_cons_of_pos ((blank_iff isLine).2 here), ofLines?]
      rw [skipped]
      exact ih related there

/-- What is read from a record is made up of its revision and of what the lines of its body tell. -/
lemma exists_read?_eq {record : String} (h : IsRecord revision body record) :
    ∃ body', List.Forall₂ IsLineOf body' body ∧ read? record =
      if isRevision revision then (body'.foldl Facts.add {}).attribution? revision else none := by
  obtain @⟨above, header, blank, word, noFeed⟩ := h
  obtain ⟨piece, pieces, cut⟩ := List.exists_cons_of_ne_nil
    (List.append_ne_nil_of_right_ne_nil above (List.cons_ne_nil header body))
  rw [cut] at noFeed
  obtain ⟨ls, related, eq⟩ := exists_lines_intercalate piece pieces noFeed
  -- an empty last piece is no line of the text, but it would tell nothing
  have same : ofLines? (lines (List.intercalate ['\n'] (piece :: pieces))) = ofLines? ls := by
    rcases eq with rfl | rfl
    · rfl
    · exact (ofLines?_concat_nil _).symm
  rw [← cut] at related same
  rw [read?, textOf, String.toList_ofList, same]
  exact ofLines?_of_pieces related blank word

/-- The facts that lines tell, whatever else stands between them. -/
lemma foldl_add_of_tells {lines : List (List Char)} (mail : ∀ m ∈ contact, IsMail m)
    (lower : -(maxSigned64 : Int) - 1 ≤ time) (upper : time ≤ maxSigned64)
    (name : IsName author) (h : Tells author contact time lines) :
    lines.foldl Facts.add {} = { author, contact, time } := by
  have author_told : lines.findSome? (factOf? "author" author?) = author :=
    decodes_author.findSome?_of_isFirst (by decide) h.author_first
      (author?_eq_some_iff.2 ⟨name.solid, rfl⟩)
  have contact_told : lines.findSome? (factOf? "author-mail" contact?) = contact := by
    cases contact with
    | none => exact decodes_contact.findSome?_eq_none (by decide) (h.no_contact rfl)
    | some m =>
      exact decodes_contact.findSome?_of_isFirst (by decide) (h.contact_first m rfl)
        (contact?_of_isMail (mail m rfl))
  have time_told : lines.findSome? (factOf? "committer-time" time?) = time :=
    decodes_time.findSome?_of_isFirst (by decide) h.time_first (time?_decimal lower upper)
  rw [foldl_add, author_told, contact_told, time_told]
  rfl

/-! ## What is read -/

/-- The revision is the first word of the header in lower case, and the name stands on one line. -/
lemma exists_of_read? {record : String} {a : Attribution} (h : read? record = some a) :
    ∃ revision, isRevision revision ∧ a.revision = String.ofList (revision.map Char.toLower) ∧
      '\n' ∉ a.author.toList := by
  have oneLine : ∀ line ∈ (lines record.toList).dropWhile allBlank, '\n' ∉ line := fun line m =>
    newline_not_mem ((List.dropWhile_sublist _).subset m)
  rw [read?, ofLines?] at h
  split at h
  case h_1 => cases h
  case h_2 header body cut =>
    rw [cut, List.forall_mem_cons] at oneLine
    split at h
    case h_1 => cases h
    case h_2 revision word =>
      obtain ⟨isRevision, h⟩ := Option.ite_none_right_eq_some.1 h
      simp only [Facts.attribution?, Option.bind_eq_bind, Option.bind_eq_some_iff] at h
      obtain ⟨author, told, time, -, day, -, made⟩ := h
      obtain rfl := Option.some.inj made
      rw [foldl_add, Option.none_or] at told
      -- the name stands on a line of the body
      obtain ⟨line, mem, fact⟩ := List.exists_of_findSome?_eq_some told
      obtain ⟨value, rfl, decoded⟩ := (decodes_author.factOf?_eq_some_iff (by decide)).1 fact
      obtain ⟨-, rfl⟩ := author?_eq_some_iff.1 decoded
      refine ⟨revision, isRevision, rfl, fun newline => oneLine.2 _ mem ?_⟩
      rw [String.toList_ofList] at newline
      exact List.mem_append_right _ (List.mem_cons_of_mem _ newline)

lemma isHexDigit_toLower {c : Char} (h : isHexDigit c) : isHexDigit c.toLower := by
  have small : ∀ n < 103, isHexDigit (Char.ofNat n) → isHexDigit (Char.ofNat n).toLower := by decide
  have code : c.toNat < 103 := by
    simp only [isHexDigit, isDigit_iff, Bool.or_eq_true, Bool.and_eq_true, decide_eq_true_eq] at h
    have digits : '0'.toNat = 48 ∧ 'f'.toNat = 102 ∧ 'F'.toNat = 70 ∧ '9'.toNat = 57 := by decide
    omega
  rw [← Char.ofNat_toNat c] at h ⊢
  exact small _ code h

lemma isRevision_of_read? {record : String} {a : Attribution} (h : read? record = some a) :
    isRevision a.revision.toList := by
  obtain ⟨revision, isRevision, same, -⟩ := exists_of_read? h
  rw [Attribution.isRevision, Bool.and_eq_true, List.all_eq_true] at isRevision ⊢
  rw [same, String.toList_ofList, List.length_map, List.forall_mem_map]
  exact ⟨isRevision.1, fun c m => isHexDigit_toLower (isRevision.2 c m)⟩

lemma not_mem_of_isRevision {c : Char} {revision : List Char} (h : isRevision revision)
    (other : isHexDigit c = false) : c ∉ revision := by
  intro m
  rw [isRevision, Bool.and_eq_true, List.all_eq_true] at h
  rw [h.2 c m] at other
  cases other

lemma newline_not_mem_of_read? {record : String} {a : Attribution} (h : read? record = some a) :
    '\n' ∉ a.author.toList ∧ '\n' ∉ a.revision.toList := by
  obtain ⟨-, -, -, author⟩ := exists_of_read? h
  exact ⟨author, not_mem_of_isRevision (isRevision_of_read? h) (by decide)⟩

/-! ## Records with noise -/

/-- A record is read as what its first acceptable lines tell, between noise and repeated lines, if
its first word is a revision and the day of its time exists. Otherwise, or if it names no author or
gives no time, nothing is read. -/
theorem read?_of_isRecord :
    (∀ line, IsNoise line ↔ ¬GivesAuthor line ∧ ¬GivesContact line ∧ ¬GivesTime line) ∧
    ∀ (revision : List Char) (body : List (List Char)) (record : String),
      IsRecord revision body record →
      (∀ (author : List Char) (contact : Option (List Char)) (time : Int),
        isRevision revision → IsName author → (∀ mail ∈ contact, IsMail mail) →
        -(maxSigned64 : Int) - 1 ≤ time → time ≤ maxSigned64 → Tells author contact time body →
        (∀ day : Date, day.dayNumber = time / 86400 → read? record = some
          { revision := String.ofList (revision.map Char.toLower)
            author := String.ofList author
            contact := contact.map String.ofList
            committed := day }) ∧
        ((∀ day : Date, day.dayNumber ≠ time / 86400) → read? record = none)) ∧
      ((¬isRevision revision ∨ (∀ line ∈ body, ¬GivesAuthor line) ∨
        (∀ line ∈ body, ¬GivesTime line)) → read? record = none) := by
  refine ⟨fun line => isNoise_iff, fun revision body record isRecord => ?_⟩
  obtain ⟨body', related, read⟩ := exists_read?_eq isRecord
  refine ⟨fun author contact time isRevision name mail lower upper tells => ?_, fun missing => ?_⟩
  · have facts := foldl_add_of_tells mail lower upper name (tells.of_pieces name related)
    rw [read, if_pos isRevision, facts]
    refine ⟨fun day number => ?_, fun noDay => ?_⟩
    · have committed := Date.ofTimestamp?_eq_some_iff.2 number
      simp [Facts.attribution?, committed]
    · have committed : Date.ofTimestamp? time = none :=
        Option.eq_none_iff_forall_ne_some.2 fun day h => noDay day (Date.ofTimestamp?_eq_some_iff.1 h)
      simp [Facts.attribution?, committed]
  · rw [read]
    split
    case isTrue isRevision =>
      have silent := missing.resolve_left (not_not.2 isRevision)
      rw [foldl_add]
      rcases silent with noAuthor | noTime
      · have author := decodes_author.findSome?_eq_none (by decide : "author" ∈ keys)
          (forall_not_of_pieces ignoresReturn_givesAuthor related noAuthor)
        simp [Facts.attribution?, author]
      · have time := decodes_time.findSome?_eq_none (by decide : "committer-time" ∈ keys)
          (forall_not_of_pieces ignoresReturn_givesTime related noTime)
        simp [Facts.attribution?, time]
    case isFalse => rfl

/-- A record with blank lines above it and noise in it, one whose time lies in no year of the
calendar, and one without an author. -/
theorem read?_of_noisy_records :
    read? (textOf (["", " ", "0123456789ABCDEF0123456789abcdef01234567 1 1 1", "\tauthor Source",
      "author  ", "author-mail <>", "committer-time soon", "summary Fix", "committer-time 86399",
      "author Ada ", "author-mail <ada@b.c>", "author Bob", ""].map String.toList)) = some
        { revision := "0123456789abcdef0123456789abcdef01234567", author := "Ada "
          contact := some "ada@b.c", committed := ⟨1970, 1, 1, by decide⟩ } ∧
    read? (textOf (["0123456789abcdef0123456789abcdef01234567", "author Ada",
      "committer-time 9223372036854775807"].map String.toList)) = none ∧
    read? (textOf (["0123456789abcdef0123456789abcdef01234567", "author ",
      "committer-time 0"].map String.toList)) = none := by
  have solid (word : List Char) (h : word.all fun c => !isBlank c) :
      ∀ c ∈ word, isBlank c = false := fun c m => by
    simpa using List.all_eq_true.1 h c m
  have noisy := read?_of_isRecord.2 "0123456789ABCDEF0123456789abcdef01234567".toList
    (["\tauthor Source", "author  ", "author-mail <>", "committer-time soon", "summary Fix",
      "committer-time 86399", "author Ada ", "author-mail <ada@b.c>", "author Bob", ""].map
        String.toList) _
    (@IsRecord.of_header _ _ ["".toList, " ".toList]
      "0123456789ABCDEF0123456789abcdef01234567 1 1 1".toList (by decide)
      ⟨by decide, solid _ (by decide), [], " 1 1 1".toList, rfl, rfl, by rintro _ ⟨⟩; decide⟩
      (by decide +kernel))
  have late := read?_of_isRecord.2 "0123456789abcdef0123456789abcdef01234567".toList
    (["author Ada", "committer-time 9223372036854775807"].map String.toList) _
    (@IsRecord.of_header _ _ [] "0123456789abcdef0123456789abcdef01234567".toList (by decide)
      ⟨by decide, solid _ (by decide), [], [], rfl, rfl, nofun⟩ (by decide +kernel))
  have anonymous := read?_of_isRecord.2 "0123456789abcdef0123456789abcdef01234567".toList
    (["author ", "committer-time 0"].map String.toList) _
    (@IsRecord.of_header _ _ [] "0123456789abcdef0123456789abcdef01234567".toList (by decide)
      ⟨by decide, solid _ (by decide), [], [], rfl, rfl, nofun⟩ (by decide +kernel))
  -- the lines in front of the first that counts are passed over by the readers
  have noAuthor (lines : List (List Char))
      (h : ∀ line ∈ lines, factOf? "author" author? line = none) :
      ∀ line ∈ lines, ¬GivesAuthor line := fun line mem =>
    (decodes_author.factOf?_eq_none_iff (by decide)).1 (h line mem)
  have noContact (lines : List (List Char))
      (h : ∀ line ∈ lines, factOf? "author-mail" contact? line = none) :
      ∀ line ∈ lines, ¬GivesContact line := fun line mem =>
    (decodes_contact.factOf?_eq_none_iff (by decide)).1 (h line mem)
  have noTime (lines : List (List Char))
      (h : ∀ line ∈ lines, factOf? "committer-time" time? line = none) :
      ∀ line ∈ lines, ¬GivesTime line := fun line mem =>
    (decodes_time.factOf?_eq_none_iff (by decide)).1 (h line mem)
  refine ⟨?_, ?_, ?_⟩
  · refine (noisy.1 "Ada ".toList (some "ada@b.c".toList) 86399 (by decide) ⟨by decide, by decide⟩
      ?_ (by decide) (by decide) ⟨?_, ?_, nofun, ?_⟩).1 ⟨1970, 1, 1, by decide⟩ (by decide)
    · rintro _ ⟨⟩
      exact ⟨by decide, by decide, by decide⟩
    · exact ⟨_, ["author-mail <ada@b.c>", "author Bob", ""].map String.toList, rfl,
        noAuthor (["\tauthor Source", "author  ", "author-mail <>", "committer-time soon",
          "summary Fix", "committer-time 86399"].map String.toList) (by decide +kernel)⟩
    · rintro _ ⟨⟩
      exact ⟨_, ["author Bob", ""].map String.toList, rfl,
        noContact (["\tauthor Source", "author  ", "author-mail <>", "committer-time soon",
          "summary Fix", "committer-time 86399", "author Ada "].map String.toList)
          (by decide +kernel)⟩
    · exact ⟨_, ["author Ada ", "author-mail <ada@b.c>", "author Bob", ""].map String.toList, rfl,
        noTime (["\tauthor Source", "author  ", "author-mail <>", "committer-time soon",
          "summary Fix"].map String.toList) (by decide +kernel)⟩
  · refine (late.1 "Ada".toList none 9223372036854775807 (by decide) ⟨by decide, by decide⟩ nofun
      (by decide) (by decide) ⟨?_, nofun, fun _ => ?_, ?_⟩).2 fun day number => ?_
    · exact ⟨[], ["committer-time 9223372036854775807".toList], rfl, nofun⟩
    · exact noContact _ (by decide +kernel)
    · exact ⟨_, [], rfl, noTime ["author Ada".toList] (by decide +kernel)⟩
    · have none : Date.ofTimestamp? 9223372036854775807 = none := by decide +kernel
      rw [Date.ofTimestamp?_eq_some_iff.2 number] at none
      cases none
  · exact anonymous.2 (.inr (.inl (noAuthor _ (by decide +kernel))))

end Overdue.Attribution
