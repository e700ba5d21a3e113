import Overdue.History.Attribution
import Overdue.Proofs.Text.Blank
import Overdue.Proofs.Text.Integer
import Overdue.Proofs.Text.Lines

/-!
# What the lines of a blame record tell

A line tells something if it has one of three keys and an acceptable value behind it, which is what
the readers of the values take. All other lines are noise (`isNoise_iff`).
-/

namespace Overdue.Attribution

open Text

/-! ## The lines of a record -/

/-- The line of a key with a value. -/
def keyLine (key : String) (value : List Char) : List Char :=
  key.toList ++ ' ' :: value

/-- The keys of the lines that say anything. -/
def keys : List String := ["author", "author-mail", "committer-time"]

/-- There is nothing but brackets in the value. -/
def IsBare (value : List Char) : Prop :=
  ∃ opening closing, trim value = List.replicate opening '<' ++ List.replicate closing '>'

/-- The line of a key with an acceptable value. -/
def Gives (key : String) (accepts : List Char → Prop) (line : List Char) : Prop :=
  ∃ value, line = keyLine key value ∧ accepts value

/-- The line names an author. -/
def GivesAuthor : List Char → Prop :=
  Gives "author" fun value => ¬allBlank value

/-- The line gives a mail address. -/
def GivesContact : List Char → Prop :=
  Gives "author-mail" fun value => ¬IsBare value

/-- The line gives a time of 64 bits. -/
def GivesTime : List Char → Prop :=
  Gives "committer-time" fun value => ∃ n, IsInteger maxSigned64 (trim value) n

/-- Lines that say nothing: the source line, the lines of other keys, and those of the keys with
nothing acceptable behind them. -/
inductive IsNoise : List Char → Prop where
  | source (text : List Char) : IsNoise ('\t' :: text)
  | other {line : List Char} :
    (∀ key ∈ keys, line.takeWhile (· != ' ') ≠ key.toList) → IsNoise line
  | key {key : String} : key ∈ keys → IsNoise key.toList
  | author {value : List Char} : allBlank value → IsNoise (keyLine "author" value)
  | contact {value : List Char} : IsBare value → IsNoise (keyLine "author-mail" value)
  | time {value : List Char} :
    (∀ n, ¬IsInteger maxSigned64 (trim value) n) → IsNoise (keyLine "committer-time" value)

/-- The line is in the list, and none before it has the property. -/
def IsFirst (p : List Char → Prop) (line : List Char) (lines : List (List Char)) : Prop :=
  ∃ before after, lines = before ++ line :: after ∧ ∀ l ∈ before, ¬p l

/-- A mail address that is read as it is written between brackets. -/
structure IsMail (mail : List Char) : Prop where
  ne_nil : mail ≠ []
  first : mail.head? ≠ some '<'
  last : mail.getLast? ≠ some '>'

/-! ## Noise -/

/-- A key has no space in it and does not begin like a source line. -/
lemma key_spec {key : String} (h : key ∈ keys) :
    ' ' ∉ key.toList ∧ ∀ rest, (key.toList ++ rest).head? ≠ some '\t' := by
  simp only [keys, List.mem_cons, List.not_mem_nil, or_false] at h
  rcases h with rfl | rfl | rfl <;> exact ⟨by decide, by simp⟩

/-- A key ends at the first space of its line. -/
lemma takeWhile_keyLine {key : String} (h : key ∈ keys) (value : List Char) :
    (keyLine key value).takeWhile (· != ' ') = key.toList := by
  have noSpace : ∀ c ∈ key.toList, (c != ' ') = true := fun c mem =>
    bne_iff_ne.2 fun space => (key_spec h).1 (space ▸ mem)
  rw [keyLine, List.takeWhile_append_of_pos noSpace, List.takeWhile_cons_of_neg (by decide),
    List.append_nil]

lemma keyLine_inj {key key' : String} (h : key ∈ keys) (h' : key' ∈ keys)
    {value value' : List Char} (same : keyLine key value = keyLine key' value') :
    key = key' ∧ value = value' := by
  have sameKey := congrArg (List.takeWhile (· != ' ')) same
  rw [takeWhile_keyLine h, takeWhile_keyLine h', String.toList_inj] at sameKey
  subst sameKey
  exact ⟨rfl, (List.cons.inj (List.append_cancel_left same)).2⟩

lemma eq_key_or_keyLine {key : String} {line : List Char}
    (h : line.takeWhile (· != ' ') = key.toList) :
    line = key.toList ∨ ∃ value, line = keyLine key value := by
  have whole := List.takeWhile_append_dropWhile (p := (· != ' ')) (l := line)
  have space := List.head?_dropWhile_not (· != ' ') line
  rw [h] at whole
  cases rest : line.dropWhile (· != ' ') with
  | nil =>
    rw [rest, List.append_nil] at whole
    exact .inl whole.symm
  | cons c value =>
    rw [rest] at whole space
    obtain rfl : c = ' ' := by simpa using space
    exact .inr ⟨value, whole.symm⟩

lemma not_gives_keyLine {key key' : String} (h : key ∈ keys) (h' : key' ∈ keys)
    {accepts : List Char → Prop} {value : List Char} (refused : key = key' → ¬accepts value) :
    ¬Gives key accepts (keyLine key' value) := by
  rintro ⟨value', same, accepted⟩
  obtain ⟨sameKey, rfl⟩ := keyLine_inj h' h same
  exact refused sameKey.symm accepted

/-- Noise is what tells nothing. -/
lemma isNoise_iff {line : List Char} :
    IsNoise line ↔ ¬GivesAuthor line ∧ ¬GivesContact line ∧ ¬GivesTime line := by
  have author : "author" ∈ keys := by decide
  have contact : "author-mail" ∈ keys := by decide
  have time : "committer-time" ∈ keys := by decide
  constructor
  · -- a line that is not a key with a value gives nothing for any key
    have silent (noLine : ∀ key ∈ keys, ∀ value, line ≠ keyLine key value) :
        ¬GivesAuthor line ∧ ¬GivesContact line ∧ ¬GivesTime line :=
      ⟨fun ⟨value, same, _⟩ => noLine _ author value same,
        fun ⟨value, same, _⟩ => noLine _ contact value same,
        fun ⟨value, same, _⟩ => noLine _ time value same⟩
    intro noise
    cases noise with
    | source text =>
      refine silent fun key isKey value same => (key_spec isKey).2 (' ' :: value) ?_
      exact (congrArg List.head? same).symm
    | other distinct =>
      refine silent fun key isKey value same => distinct key isKey ?_
      rw [same, takeWhile_keyLine isKey]
    | key isKey' =>
      refine silent fun key isKey value same => (key_spec isKey').1 ?_
      exact same ▸ List.mem_append_right _ List.mem_cons_self
    | author blank =>
      exact ⟨not_gives_keyLine author author fun _ => not_not.2 blank,
        not_gives_keyLine contact author (absurd · (by decide)),
        not_gives_keyLine time author (absurd · (by decide))⟩
    | contact bare =>
      exact ⟨not_gives_keyLine author contact (absurd · (by decide)),
        not_gives_keyLine contact contact fun _ => not_not.2 bare,
        not_gives_keyLine time contact (absurd · (by decide))⟩
    | time unread =>
      exact ⟨not_gives_keyLine author time (absurd · (by decide)),
        not_gives_keyLine contact time (absurd · (by decide)),
        not_gives_keyLine time time fun _ => not_exists.2 unread⟩
  · rintro ⟨noAuthor, noContact, noTime⟩
    by_cases other : ∀ key ∈ keys, line.takeWhile (· != ' ') ≠ key.toList
    · exact .other other
    · push Not at other
      obtain ⟨key, isKey, same⟩ := other
      rcases eq_key_or_keyLine same with rfl | ⟨value, rfl⟩
      · exact .key isKey
      · simp only [keys, List.mem_cons, List.not_mem_nil, or_false] at isKey
        rcases isKey with rfl | rfl | rfl
        · exact .author (not_not.1 fun h => noAuthor ⟨value, rfl, h⟩)
        · exact .contact (not_not.1 fun h => noContact ⟨value, rfl, h⟩)
        · exact .time (not_exists.1 fun h => noTime ⟨value, rfl, h⟩)

/-! ## What a line tells -/

/-- The value of a line of a key. A key that stands alone has an empty one. -/
def valueOf? (key : String) (line : List Char) : Option (List Char) :=
  if line.head? = some '\t' then none
  else if (keyAndValue line).1 = key.toList then some (keyAndValue line).2
  else none

/-- What the line of a key tells when its value is read by `decode`. -/
def factOf? {α : Type} (key : String) (decode : List Char → Option α) (line : List Char) :
    Option α :=
  (valueOf? key line).bind decode

lemma add_eq (facts : Facts) (line : List Char) : facts.add line =
    { author := facts.author.or (factOf? "author" author? line)
      contact := facts.contact.or (factOf? "author-mail" contact? line)
      time := facts.time.or (factOf? "committer-time" time? line) } := by
  rw [Facts.add]
  split
  case isTrue source => simp [factOf?, valueOf?, source]
  case isFalse metadata =>
    simp only [factOf?, valueOf?, if_neg metadata]
    generalize (keyAndValue line).1 = key
    generalize (keyAndValue line).2 = value
    split
    case isTrue author => subst author; simp
    case isFalse =>
      split
      case isTrue => simp [*]
      case isFalse =>
        split
        case isTrue => simp [*]
        case isFalse => simp [*]

/-- For each key the first line counts that tells something. -/
lemma foldl_add (facts : Facts) (lines : List (List Char)) : lines.foldl Facts.add facts =
    { author := facts.author.or (lines.findSome? (factOf? "author" author?))
      contact := facts.contact.or (lines.findSome? (factOf? "author-mail" contact?))
      time := facts.time.or (lines.findSome? (factOf? "committer-time" time?)) } := by
  -- what was told before a line stays, so the facts vary in the induction
  induction lines generalizing facts with
  | nil => simp
  | cons line lines ih =>
    have first {α : Type} (f : List Char → Option α) :
        (line :: lines).findSome? f = (f line).or (lines.findSome? f) := by
      rw [List.findSome?_cons]
      cases f line <;> rfl
    rw [List.foldl_cons, ih, add_eq]
    simp only [first, Option.or_assoc]

/-- A line has a key with a value behind a space, or it is the key. -/
lemma valueOf?_eq_some_iff {key : String} (h : key ∈ keys) {line value : List Char} :
    valueOf? key line = some value ↔ line = keyLine key value ∨ line = key.toList ∧ value = [] := by
  obtain ⟨noSpace, metadata⟩ := key_spec h
  constructor
  · intro found
    rw [valueOf?, Option.ite_none_left_eq_some, Option.ite_none_right_eq_some] at found
    obtain ⟨-, same, rest⟩ := found
    rw [keyAndValue] at same rest
    cases cut : splitFirst? ' ' line with
    | none =>
      rw [cut] at same rest
      exact .inr ⟨same, (Option.some.inj rest).symm⟩
    | some pair =>
      rw [cut, Option.getD_some] at same rest
      obtain rfl := Option.some.inj rest
      rw [keyLine, ← same]
      exact .inl (splitFirst?_eq_some_iff.1 cut).1
  · rintro (rfl | ⟨rfl, rfl⟩)
    · have cut := splitFirst?_append noSpace value
      rw [keyLine, valueOf?, if_neg (metadata _), keyAndValue, cut, Option.getD_some, if_pos rfl]
    · have whole := metadata []
      rw [List.append_nil] at whole
      rw [valueOf?, if_neg whole, keyAndValue, splitFirst?_eq_none_iff.2 noSpace, Option.getD_none,
        if_pos rfl]

/-- A value is acceptable if it can be decoded, which the empty one cannot. -/
structure Decodes {α : Type} (accepts : List Char → Prop) (decode : List Char → Option α) :
    Prop where
  accepts_iff : ∀ value, accepts value ↔ ∃ a, decode value = some a
  empty : ¬accepts []

namespace Decodes

variable {α : Type} {accepts : List Char → Prop} {decode : List Char → Option α} {key : String}

lemma factOf?_eq_some_iff (h : Decodes accepts decode) (isKey : key ∈ keys) {line : List Char}
    {a : α} : factOf? key decode line = some a ↔
      ∃ value, line = keyLine key value ∧ decode value = some a := by
  simp only [factOf?, Option.bind_eq_some_iff, valueOf?_eq_some_iff isKey]
  constructor
  · rintro ⟨value, rfl | ⟨-, rfl⟩, decoded⟩
    · exact ⟨value, rfl, decoded⟩
    · exact absurd ((h.accepts_iff []).2 ⟨a, decoded⟩) h.empty
  · rintro ⟨value, rfl, decoded⟩
    exact ⟨value, .inl rfl, decoded⟩

lemma factOf?_eq_none_iff (h : Decodes accepts decode) (isKey : key ∈ keys) {line : List Char} :
    factOf? key decode line = none ↔ ¬Gives key accepts line := by
  rw [Option.eq_none_iff_forall_ne_some]
  constructor
  · rintro silent ⟨value, rfl, accepted⟩
    obtain ⟨a, decoded⟩ := (h.accepts_iff value).1 accepted
    exact silent a ((h.factOf?_eq_some_iff isKey).2 ⟨value, rfl, decoded⟩)
  · intro silent a told
    obtain ⟨value, rfl, decoded⟩ := (h.factOf?_eq_some_iff isKey).1 told
    exact silent ⟨value, rfl, (h.accepts_iff value).2 ⟨a, decoded⟩⟩

/-- What is told is what the first acceptable line of the key tells. -/
lemma findSome?_of_isFirst (h : Decodes accepts decode) (isKey : key ∈ keys) {value : List Char}
    {lines : List (List Char)} (first : IsFirst (Gives key accepts) (keyLine key value) lines)
    {a : α} (decoded : decode value = some a) : lines.findSome? (factOf? key decode) = some a := by
  obtain ⟨before, after, rfl, silent⟩ := first
  refine List.findSome?_eq_some_iff.2 ⟨before, _, after, rfl, ?_, fun line mem => ?_⟩
  · exact (h.factOf?_eq_some_iff isKey).2 ⟨value, rfl, decoded⟩
  · exact (h.factOf?_eq_none_iff isKey).2 (silent line mem)

lemma findSome?_eq_none (h : Decodes accepts decode) (isKey : key ∈ keys)
    {lines : List (List Char)} (silent : ∀ line ∈ lines, ¬Gives key accepts line) :
    lines.findSome? (factOf? key decode) = none :=
  List.findSome?_eq_none_iff.2 fun line mem => (h.factOf?_eq_none_iff isKey).2 (silent line mem)

end Decodes

/-! ## Values -/

lemma author?_eq_some_iff {value name : List Char} :
    author? value = some name ↔ ¬allBlank value ∧ value = name := by
  rw [author?, Option.ite_none_left_eq_some, Option.some.injEq]

lemma decodes_author : Decodes (fun value => ¬allBlank value) author? := by
  refine ⟨fun value => ?_, fun h => h rfl⟩
  simp only [author?_eq_some_iff, exists_and_left, exists_eq', and_true]

lemma decodes_time :
    Decodes (fun value => ∃ n, IsInteger maxSigned64 (trim value) n) time? := by
  refine ⟨fun value => ?_, ?_⟩
  · simp only [time?, int?_eq_some_iff]
  · rintro ⟨n, h⟩
    have read := int?_eq_some_iff.2 h
    cases read

lemma contact?_eq_some_iff {value mail : List Char} : contact? value = some mail ↔
    dropEnding (· == '>') ((trim value).dropWhile (· == '<')) = mail ∧ mail ≠ [] := by
  rw [contact?]
  split
  case h_1 empty => exact iff_of_false nofun fun h => h.2 (h.1.symm.trans empty)
  case h_2 kept =>
    rw [Option.some.injEq, eq_comm, Ne, iff_self_and]
    rintro rfl
    exact kept

/-- A value gives no mail address if there is nothing in it but brackets. -/
lemma contact?_eq_none_iff {value : List Char} : contact? value = none ↔ IsBare value := by
  have empty : contact? value = none ↔
      ∀ c ∈ (trim value).dropWhile (· == '<'), (c == '>') = true := by
    rw [← dropEnding_eq_nil_iff, Option.eq_none_iff_forall_ne_some]
    simp only [ne_eq, contact?_eq_some_iff, not_and, not_not, forall_eq']
  rw [empty]
  constructor
  · intro closing
    have opening : ∀ c ∈ (trim value).takeWhile (· == '<'), c = '<' := fun c mem =>
      beq_iff_eq.1 (List.all_eq_true.1 List.all_takeWhile c mem)
    refine ⟨_, _, (List.takeWhile_append_dropWhile (p := (· == '<'))).symm.trans
      (congrArg₂ _ (List.eq_replicate_of_mem opening) (List.eq_replicate_of_mem fun c mem => ?_))⟩
    exact beq_iff_eq.1 (closing c mem)
  · rintro ⟨opening, closing, eq⟩ c mem
    have bracket : c ∈ (List.replicate closing '>').dropWhile (· == '<') := by
      rw [eq, List.dropWhile_append_of_pos fun c mem => beq_iff_eq.2 (List.eq_of_mem_replicate mem)]
        at mem
      exact mem
    exact beq_iff_eq.2 (List.eq_of_mem_replicate ((List.dropWhile_sublist _).subset bracket))

lemma decodes_contact : Decodes (fun value => ¬IsBare value) contact? := by
  refine ⟨fun value => ?_, not_not.2 ⟨0, 0, rfl⟩⟩
  rw [← contact?_eq_none_iff]
  exact Option.ne_none_iff_exists'

/-- A mail address is read from between its brackets. -/
lemma contact?_of_isMail {mail : List Char} (h : IsMail mail) :
    contact? ('<' :: (mail ++ ['>'])) = some mail := by
  -- more brackets would be taken off as well, but the address has none at its ends
  have start : (mail ++ ['>']).dropWhile (· == '<') = mail ++ ['>'] := by
    cases mail with
    | nil => exact absurd rfl h.ne_nil
    | cons c mail =>
      have other : c ≠ '<' := fun same => h.first (congrArg some same)
      exact List.dropWhile_cons_of_neg (by simpa using other)
  have ending : dropEnding (· == '>') (mail ++ ['>']) = mail :=
    dropEnding_beq_eq_iff.2 ⟨⟨1, rfl⟩, h.last⟩
  rw [contact?_eq_some_iff, trim_cons_concat (by decide) (by decide),
    List.dropWhile_cons_of_pos rfl, start]
  exact ⟨ending, h.ne_nil⟩

lemma isBlank_of_mem_decimal {n : Int} {c : Char} (h : c ∈ decimal n) : isBlank c = false := by
  rw [decimal] at h
  split at h
  case isTrue =>
    rcases List.mem_cons.1 h with rfl | digit
    · decide
    · exact isBlank_of_isDigit (allDigits_digits _ c digit)
  case isFalse => exact isBlank_of_isDigit (allDigits_digits _ c h)

/-- A time is read from its digits. -/
lemma time?_decimal {time : Int} (lower : -(maxSigned64 : Int) - 1 ≤ time)
    (upper : time ≤ maxSigned64) : time? (decimal time) = some time := by
  rw [time?, trim_of_solid fun _ => isBlank_of_mem_decimal, int?_eq_some_iff]
  exact isInteger_decimal lower upper

end Overdue.Attribution
