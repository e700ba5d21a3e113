import Mathlib.Data.List.TakeDrop
import Overdue.Json.Printer
import Overdue.Json.Reader
import Overdue.Proofs.Text.Digits

/-!
# Strings and numbers as they are written

What is written for a string is read back character by character, and digits are read up to where a
number cannot go on.
-/

namespace Overdue.Json

open Text

/-! ## Strings -/

/-- The two digits of a control character are read as its code. -/
lemma hexValue4?_digitChar {n : Nat} (h : n < 0x20) :
    hexValue4? '0' '0' (Nat.digitChar (n / 16)) (Nat.digitChar (n % 16)) = some n := by
  have all : ∀ n < 0x20,
      hexValue4? '0' '0' (Nat.digitChar (n / 16)) (Nat.digitChar (n % 16)) = some n := by
    decide
  exact all n h

lemma ofNat_toNat {c : Char} (h : c.toNat < 0x20) : Piece.ofNat c.toNat = .char c := by
  rw [Piece.ofNat, if_neg (by omega), Char.ofNat_toNat]

/-- Each character is read as itself, however it is written. -/
lemma readString_escapeChar (c : Char) (s : List Char) :
    readString (escapeChar c ++ s) = consPiece (.char c) (readString s) := by
  unfold escapeChar
  split
  case h_8 quote backslash _ _ _ _ _ =>
    split
    case isTrue control =>
      simp only [List.cons_append, List.nil_append, readString, hexValue4?_digitChar control,
        ofNat_toNat control]
    case isFalse plain =>
      rw [List.singleton_append, readString]
      · exact if_neg plain
      · exact quote
      · exact fun _ _ _ _ _ eq _ => backslash eq
      · exact fun _ _ eq _ => backslash eq
  all_goals rfl

/-- A string is read up to its closing quote, as its characters. -/
lemma readString_escaped (s rest : List Char) :
    readString (s.flatMap escapeChar ++ '"' :: rest) = some (s.map .char, rest) := by
  induction s with
  | nil => rfl
  | cons c s ih =>
    rw [List.flatMap_cons, List.append_assoc, readString_escapeChar, ih]
    rfl

lemma join?_map_char (s : List Char) : join? (s.map .char) = some s := by
  induction s with
  | nil => rfl
  | cons c s ih => rw [List.map_cons, join?, ih, Option.map_some]

lemma writeString_eq (s : String) (rest : List Char) :
    writeString s ++ rest = '"' :: (s.toList.flatMap escapeChar ++ '"' :: rest) := by
  simp [writeString]

/-! ## Numbers -/

/-- A number cannot go on with the text. -/
def EndsNumber (s : List Char) : Prop :=
  ∀ c ∈ s.head?, isDigit c = false ∧ c ≠ '.' ∧ c ≠ 'e' ∧ c ≠ 'E'

lemma EndsNumber.noDigit {s : List Char} (h : EndsNumber s) : NoDigit s :=
  fun c m => (h c m).1

lemma endsNumber_nil : EndsNumber [] := by
  intro c m
  cases m

lemma endsNumber_cons {c : Char} (h : isDigit c = false ∧ c ≠ '.' ∧ c ≠ 'e' ∧ c ≠ 'E')
    (s : List Char) : EndsNumber (c :: s) := by
  intro d m
  obtain rfl : c = d := Option.some.inj m
  exact h

lemma spanDigits_append {ds rest : List Char} (h : AllDigits ds) (h' : NoDigit rest) :
    spanDigits (ds ++ rest) = (ds, rest) := by
  have span : (ds ++ rest).span isDigit = (ds, rest) := by
    rw [List.span_eq_takeWhile_dropWhile, takeWhile_isDigit_append h h',
      dropWhile_isDigit_append h h']
  exact span

lemma readWhole_digits (n : Nat) {rest : List Char} (h : NoDigit rest) :
    readWhole (digits n ++ rest) = some (digits n, rest) := by
  rcases Nat.eq_zero_or_pos n with rfl | pos
  · rfl
  · obtain ⟨c, cs, eq, -⟩ := exists_digits_eq_cons n
    have span := spanDigits_append (allDigits_digits n) h
    rw [eq, List.cons_append] at span ⊢
    rw [readWhole, span]
    exact fun _ zero => absurd (List.cons.inj zero).1 (ne_zero_of_digits_eq_cons pos eq)

lemma readFraction_of_endsNumber {s : List Char} (h : EndsNumber s) :
    readFraction s = some ([], s) := by
  unfold readFraction
  split
  case h_1 => exact absurd rfl (h '.' rfl).2.1
  case h_2 => rfl

lemma readExponent_of_endsNumber {s : List Char} (h : EndsNumber s) :
    readExponent s = some ([], s) := by
  cases s with
  | nil => rfl
  | cons c s =>
    obtain ⟨-, -, lower, upper⟩ := h c rfl
    rw [readExponent, if_neg (not_or.2 ⟨lower, upper⟩)]

/-- The digits of a natural number are read as they are written. -/
lemma readNumber_digits (n : Nat) {rest : List Char} (h : EndsNumber rest) :
    readNumber (digits n ++ rest) = some (digits n, rest) := by
  have whole := readWhole_digits n h.noDigit
  obtain ⟨c, cs, eq, digit⟩ := exists_digits_eq_cons n
  rw [eq, List.cons_append] at whole ⊢
  have noSign : c ≠ '-' := ne_of_isDigit digit rfl
  rw [readNumber]
  · simp [whole, readFraction_of_endsNumber h, readExponent_of_endsNumber h]
  · exact fun _ sign => noSign (List.cons.inj sign).1

end Overdue.Json
