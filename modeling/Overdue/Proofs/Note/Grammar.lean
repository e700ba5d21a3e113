import Mathlib.Data.List.Forall2
import Overdue.Note.Reader
import Overdue.Proofs.Calendar.Written
import Overdue.Proofs.Text.Blank

/-!
# The grammar of notes

What counts as a note, said without a reader: white space, a marker, white space, the details
and a colon, and a body of one line. The grammar leaves open where a text is cut into these parts;
that all ways to cut it at one place mean the same is a theorem about the reader.
-/

namespace Overdue.Note

open Text

/-- The letters are the capital ones, each in either case. -/
def Spells (capitals letters : List Char) : Prop :=
  List.Forall₂ (fun capital letter => letter = capital ∨ letter = capital.toLower) capitals letters

/-- The name of a kind of note in any letter case. -/
def IsMarker (word : List Char) : Prop :=
  ∃ kind : Kind, Spells kind.name.toList word

/-- A modifier: a remark in parentheses, or a name after an at sign. -/
inductive IsModifier : List Char → Prop where
  | remark {text : List Char} : ')' ∉ text → IsModifier ('(' :: (text ++ [')']))
  | name {c : Char} {name : List Char} :
    isWord c → (∀ d ∈ name, isWord d) → IsModifier ('@' :: c :: name)

/-- Four, two and two digits with hyphens between them. -/
def IsDateText (text : List Char) : Prop :=
  ∃ year month day, (AllDigits year ∧ year.length = 4) ∧ (AllDigits month ∧ month.length = 2) ∧
    (AllDigits day ∧ day.length = 2) ∧ text = year ++ '-' :: (month ++ '-' :: day)

/-- A text in brackets. -/
def bracketed (text : List Char) : List Char :=
  '[' :: (text ++ [']'])

/-- What may stand before the colon, with the text of its date: at most one modifier and at most
one date, in either order and with white space after each. -/
inductive IsDetails : List Char → Option (List Char) → Prop where
  | nothing : IsDetails [] none
  | modifier {m gap : List Char} : IsModifier m → allBlank gap → IsDetails (m ++ gap) none
  | date {t gap : List Char} :
    IsDateText t → allBlank gap → IsDetails (bracketed t ++ gap) (some t)
  | modifierDate {m gap t gap' : List Char} :
    IsModifier m → allBlank gap → IsDateText t → allBlank gap' →
    IsDetails (m ++ gap ++ bracketed t ++ gap') (some t)
  | dateModifier {t gap m gap' : List Char} :
    IsDateText t → allBlank gap → IsModifier m → allBlank gap' →
    IsDetails (bracketed t ++ gap ++ m ++ gap') (some t)

/-- A text with nothing but white space above any of its line feeds. -/
def IsBody (text : List Char) : Prop :=
  ∀ above below, text = above ++ '\n' :: below → allBlank above

/-- A marker with all that belongs to it, cut into its parts. -/
structure Entry where
  word : List Char
  gap : List Char
  details : List Char
  /-- The text of the date, if the details have one. -/
  date : Option (List Char)
  /-- What stands after the colon. -/
  rest : List Char
  isMarker : IsMarker word
  allBlank_gap : allBlank gap
  isDetails : IsDetails details date
  isBody : IsBody rest

/-- The text of an entry. -/
def Entry.chars (e : Entry) : List Char :=
  e.word ++ e.gap ++ e.details ++ ':' :: e.rest

/-- An entry in a text, behind a white-space character, up to the end of the text. -/
structure Derivation (text : List Char) extends Entry where
  before : List Char
  space : Char
  isBlank_space : isBlank space
  text_eq : text = before ++ space :: toEntry.chars

namespace Derivation

variable {text : List Char}

/-- The place of the white-space character before the marker. -/
def position (d : Derivation text) : Nat :=
  d.before.length

/-- No derivation of the text begins further left. -/
def IsLeftmost (d : Derivation text) : Prop :=
  ∀ d' : Derivation text, d.position ≤ d'.position

/-- The note has the kind that the marker names, the day that the date gives and, without white
space at its ends, what stands after the colon. -/
def Denotes (d : Derivation text) (note : Note) : Prop :=
  Kind.ofName? (String.ofList d.word) = some note.kind ∧ d.date = note.due.map Date.chars ∧
    note.body = trimmed (String.ofList d.rest)

end Derivation

/-! ## Markers -/

lemma isUpper_of_mem_name {kind : Kind} {c : Char} (h : c ∈ kind.name.toList) : c.isUpper := by
  have all : kind.name.toList.all Char.isUpper := by cases kind <;> rfl
  exact List.all_eq_true.1 all c h

lemma toNat_toLower (c : Char) :
    c.toLower.toNat = if c.isUpper then c.toNat + 32 else c.toNat := by
  have bounds : c.val ≥ 'A'.val ∧ c.val ≤ 'Z'.val ↔ c.isUpper := isUpper_iff.symm
  split
  case isTrue upper =>
    have moved : c.toLower = _ := dif_pos (bounds.2 upper)
    have sum : c.toLower.toNat = (c.toNat + 32) % 2 ^ 32 := by
      rw [moved]
      exact UInt32.toNat_add _ _
    have small := isUpper_iff.1 upper
    omega
  case isFalse other => exact congrArg Char.toNat (dif_neg (mt bounds.1 other))

lemma toNat_toUpper (c : Char) :
    c.toUpper.toNat = if c.isLower then c.toNat - 32 else c.toNat := by
  have bounds : 'a'.val ≤ c.val ∧ c.val ≤ 'z'.val ↔ c.isLower := isLower_iff.symm
  split
  case isTrue lower =>
    have moved : c.toUpper = _ := dif_pos (bounds.2 lower)
    have sum : c.toUpper.toNat = (c.toNat + (2 ^ 32 - 32)) % 2 ^ 32 := by
      rw [moved]
      exact UInt32.toNat_add _ _
    have small := isLower_iff.1 lower
    omega
  case isFalse other => exact congrArg Char.toNat (dif_neg (mt bounds.1 other))

/-- A letter in either case is one with the same lower case. -/
lemma eq_or_eq_toLower_iff {capital letter : Char} (h : capital.isUpper) :
    letter = capital ∨ letter = capital.toLower ↔ letter.toLower = capital.toLower := by
  have bounds := isUpper_iff.1 h
  simp only [← Char.toNat_inj, toNat_toLower, if_pos h]
  split
  case isTrue upper =>
    have bounds' := isUpper_iff.1 upper
    omega
  case isFalse other =>
    have apart : letter.toNat ≠ capital.toNat := fun same => other (Char.toNat_inj.1 same ▸ h)
    omega

lemma toUpper_of_eq_or_eq_toLower {capital letter : Char} (h : capital.isUpper)
    (same : letter = capital ∨ letter = capital.toLower) : letter.toUpper = capital := by
  have bounds := isUpper_iff.1 h
  simp only [← Char.toNat_inj, toNat_toLower, if_pos h, toNat_toUpper, isLower_iff] at same ⊢
  split <;> omega

lemma spells_iff {capitals letters : List Char} (h : ∀ c ∈ capitals, c.isUpper) :
    Spells capitals letters ↔ letters.map Char.toLower = capitals.map Char.toLower := by
  induction capitals generalizing letters with
  | nil => simp [Spells]
  | cons capital capitals ih =>
    obtain ⟨here, there⟩ := List.forall_mem_cons.1 h
    cases letters with
    | nil => simp [Spells]
    | cons letter letters =>
      rw [Spells, List.forall₂_cons, eq_or_eq_toLower_iff here, List.map_cons, List.map_cons,
        List.cons.injEq]
      exact and_congr_right fun _ => ih there

lemma Spells.map_toUpper {capitals letters : List Char} (h : Spells capitals letters)
    (upper : ∀ c ∈ capitals, c.isUpper) : letters.map Char.toUpper = capitals := by
  induction h with
  | nil => rfl
  | cons same _ ih =>
    obtain ⟨here, there⟩ := List.forall_mem_cons.1 upper
    rw [List.map_cons, ih there, toUpper_of_eq_or_eq_toLower here same]

lemma Spells.isAlpha {capitals letters : List Char} (h : Spells capitals letters)
    (upper : ∀ c ∈ capitals, c.isUpper) : ∀ c ∈ letters, c.isAlpha := by
  induction h with
  | nil => exact fun _ m => absurd m List.not_mem_nil
  | @cons capital letter _ _ same _ ih =>
    obtain ⟨here, there⟩ := List.forall_mem_cons.1 upper
    refine List.forall_mem_cons.2 ⟨?_, ih there⟩
    have bounds := isUpper_iff.1 here
    simp only [← Char.toNat_inj, toNat_toLower, if_pos here] at same
    rw [isAlpha_iff]
    omega

lemma IsMarker.isAlpha {word : List Char} (h : IsMarker word) : ∀ c ∈ word, c.isAlpha := by
  obtain ⟨kind, spells⟩ := h
  exact spells.isAlpha fun _ => isUpper_of_mem_name

/-- The word of a marker names its kind. -/
lemma ofName?_of_spells {kind : Kind} {word : List Char} (h : Spells kind.name.toList word) :
    Kind.ofName? (String.ofList word) = some kind := by
  have name : (String.ofList word).map Char.toUpper = kind.name := by
    rw [← String.toList_inj, String.toList_map, String.toList_ofList,
      h.map_toUpper fun _ => isUpper_of_mem_name]
  rw [Kind.ofName?, Kind.ofName, name]
  cases kind <;> rfl

end Overdue.Note
