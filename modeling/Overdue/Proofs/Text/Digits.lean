import Mathlib.Data.String.Basic
import Mathlib.Order.Compare
import Overdue.Text.Blank
import Overdue.Text.Integer

/-!
# Digits and the order of texts

Texts are compared character by character. Texts that begin with pieces of equal length are
compared by these pieces first (`compares_append`), and digits of equal number by the numbers they
stand for (`compares_digits`).
-/

namespace Overdue.Text

/-! ## Comparisons -/

variable {α : Type} [LinearOrder α] {o p : Ordering}

lemma compares_cons {a b : α} {l m : List α} (h : o.Compares a b) (h' : p.Compares l m) :
    (o.then p).Compares (a :: l) (b :: m) := by
  cases o with
  | lt => exact List.cons_lt_cons_iff.2 (.inl h)
  | eq =>
    obtain rfl : a = b := h
    cases p with
    | lt => exact List.cons_lt_cons_iff.2 (.inr ⟨rfl, h'⟩)
    | eq => exact congrArg (a :: ·) h'
    | gt => exact List.cons_lt_cons_iff.2 (.inr ⟨rfl, h'⟩)
  | gt => exact List.cons_lt_cons_iff.2 (.inl h)

lemma compares_cons_self {l m : List α} (a : α) (h : o.Compares l m) :
    o.Compares (a :: l) (a :: m) :=
  compares_cons (show Ordering.eq.Compares a a from rfl) h

lemma append_lt_append {l m : List α} (len : l.length = m.length) (h : l < m) (x y : List α) :
    l ++ x < m ++ y := by
  induction l generalizing m with
  | nil =>
    obtain rfl := List.length_eq_zero_iff.1 len.symm
    exact absurd h (lt_irrefl _)
  | cons a l ih =>
    obtain ⟨b, m, rfl⟩ := List.exists_cons_of_length_eq_add_one len.symm
    rw [List.cons_append, List.cons_append, List.cons_lt_cons_iff]
    rcases List.cons_lt_cons_iff.1 h with head | ⟨rfl, tail⟩
    · exact .inl head
    · exact .inr ⟨rfl, ih (Nat.succ.inj len) tail⟩

/-- Pieces of equal length are compared before what follows them. -/
lemma compares_append {l m x y : List α} (len : l.length = m.length) (h : o.Compares l m)
    (h' : p.Compares x y) : (o.then p).Compares (l ++ x) (m ++ y) := by
  cases o with
  | lt => exact append_lt_append len h x y
  | eq =>
    obtain rfl : l = m := h
    cases p with
    | lt => exact List.append_left_lt h'
    | eq => exact congrArg (l ++ ·) h'
    | gt => exact List.append_left_lt h'
  | gt => exact append_lt_append len.symm h y x

lemma compares_toList {s t : String} : o.Compares s.toList t.toList ↔ o.Compares s t := by
  cases o with
  | lt => exact Iff.rfl
  | eq => exact String.toList_inj
  | gt => exact Iff.rfl

lemma cmp_mul_add {n a b x y : Nat} (hx : x < n) (hy : y < n) :
    cmp (n * a + x) (n * b + y) = (cmp a b).then (cmp x y) := by
  rcases lt_trichotomy a b with h | rfl | h
  · rw [h.cmp_eq_lt]
    have : n * (a + 1) ≤ n * b := Nat.mul_le_mul_left n h
    rw [Nat.mul_succ] at this
    exact LT.lt.cmp_eq_lt (by omega)
  · rw [cmp_self_eq_eq, Ordering.eq_then]
    have mono : StrictMono fun z : Nat => n * a + z := fun _ _ h => Nat.add_lt_add_left h _
    exact mono.cmp_map_eq x y
  · rw [h.cmp_eq_gt]
    have : n * (b + 1) ≤ n * a := Nat.mul_le_mul_left n h
    rw [Nat.mul_succ] at this
    exact LT.lt.cmp_eq_gt (by omega)

/-! ## Digits -/

/-- The number that digits stand for. -/
abbrev numberOf (ds : List Char) : Nat :=
  Nat.ofDigitChars 10 ds 0

/-- A text of digits alone. -/
def AllDigits (ds : List Char) : Prop :=
  ∀ c ∈ ds, isDigit c

lemma isDigit_iff {c : Char} : isDigit c ↔ 48 ≤ c.toNat ∧ c.toNat ≤ 57 := by
  simp [isDigit]

lemma ne_of_isDigit {c d : Char} (h : isDigit c) (h' : isDigit d = false) : c ≠ d := by
  rintro rfl
  rw [h] at h'
  cases h'

lemma isBlank_of_isDigit {c : Char} (h : isDigit c) : isBlank c = false := by
  rw [Bool.eq_false_iff]
  intro blank
  have := isDigit_iff.1 h
  simp only [isBlank, Bool.or_eq_true, Bool.and_eq_true, decide_eq_true_eq, beq_iff_eq] at blank
  omega

lemma digitValue_lt {c : Char} (h : isDigit c) : digitValue c < 10 := by
  have := isDigit_iff.1 h
  simp only [digitValue, Char.reduceToNat]
  omega

lemma compares_digit {c d : Char} (hc : isDigit c) (hd : isDigit d) :
    (cmp (digitValue c) (digitValue d)).Compares c d := by
  have hc := isDigit_iff.1 hc
  have hd := isDigit_iff.1 hd
  have value (c : Char) : digitValue c = c.toNat - 48 := rfl
  rw [value, value]
  rcases lt_trichotomy c.toNat d.toNat with h | h | h
  · rw [LT.lt.cmp_eq_lt (by omega)]
    exact h
  · rw [h, cmp_self_eq_eq]
    exact Char.toNat_inj.1 h
  · rw [LT.lt.cmp_eq_gt (by omega)]
    exact h

lemma numberOf_cons (c : Char) (ds : List Char) :
    numberOf (c :: ds) = 10 ^ ds.length * digitValue c + numberOf ds := by
  rw [numberOf, Nat.ofDigitChars_cons, Nat.ofDigitChars_eq_ofDigitChars_zero, Nat.mul_zero,
    Nat.zero_add]
  rfl

lemma numberOf_lt {ds : List Char} (h : AllDigits ds) : numberOf ds < 10 ^ ds.length := by
  induction ds with
  | nil => exact Nat.zero_lt_one
  | cons c ds ih =>
    have rest : numberOf ds < 10 ^ ds.length := ih fun d m => h d (List.mem_cons_of_mem c m)
    have first : digitValue c + 1 ≤ 10 := digitValue_lt (h c List.mem_cons_self)
    have : 10 ^ ds.length * (digitValue c + 1) ≤ 10 ^ ds.length * 10 :=
      Nat.mul_le_mul_left _ first
    rw [numberOf_cons, List.length_cons, Nat.pow_succ]
    rw [Nat.mul_succ] at this
    omega

/-- Digits of equal number are compared by the numbers they stand for. -/
lemma compares_digits {ds es : List Char} (len : ds.length = es.length) (hd : AllDigits ds)
    (he : AllDigits es) : (cmp (numberOf ds) (numberOf es)).Compares ds es := by
  induction ds generalizing es with
  | nil =>
    obtain rfl := List.length_eq_zero_iff.1 len.symm
    rw [cmp_self_eq_eq]
    rfl
  | cons c ds ih =>
    obtain ⟨e, es, rfl⟩ := List.exists_cons_of_length_eq_add_one len.symm
    have len : ds.length = es.length := Nat.succ.inj len
    have hds : AllDigits ds := fun d m => hd d (List.mem_cons_of_mem c m)
    have hes : AllDigits es := fun d m => he d (List.mem_cons_of_mem e m)
    have es_lt : numberOf es < 10 ^ ds.length := len ▸ numberOf_lt hes
    rw [numberOf_cons, numberOf_cons, ← len, cmp_mul_add (numberOf_lt hds) es_lt]
    exact compares_cons (compares_digit (hd c List.mem_cons_self) (he e List.mem_cons_self))
      (ih len hds hes)

lemma numberOf_append (ds es : List Char) :
    numberOf (ds ++ es) = 10 ^ es.length * numberOf ds + numberOf es := by
  rw [numberOf, Nat.ofDigitChars_append, Nat.ofDigitChars_eq_ofDigitChars_zero]

/-- The first digits of a number are what is left when the others are divided off. -/
lemma numberOf_take {ds : List Char} (h : AllDigits ds) (count : Nat) :
    numberOf (ds.take count) = numberOf ds / 10 ^ (ds.length - count) := by
  have rest : numberOf (ds.drop count) < 10 ^ (ds.length - count) := by
    rw [← List.length_drop]
    exact numberOf_lt fun c m => h c (List.mem_of_mem_drop m)
  have whole : numberOf ds =
      10 ^ (ds.length - count) * numberOf (ds.take count) + numberOf (ds.drop count) := by
    rw [← List.length_drop, ← numberOf_append, List.take_append_drop]
  rw [whole, Nat.mul_add_div (Nat.pow_pos (by decide)), Nat.div_eq_of_lt rest, Nat.add_zero]

lemma hyphen_lt_digit {c : Char} (h : isDigit c) : '-' < c := by
  have : 48 ≤ c.toNat := (isDigit_iff.1 h).1
  exact Nat.lt_of_lt_of_le (show '-'.toNat < 48 by decide) this

/-- Before a hyphen, a number with more digits is cut to the digits of the shorter one, and of
equals the shorter one comes first. -/
lemma compares_digits_hyphen {ds es : List Char} (len : ds.length < es.length)
    (hd : AllDigits ds) (he : AllDigits es) (x y : List Char) :
    ((cmp (numberOf ds) (numberOf es / 10 ^ (es.length - ds.length))).then .lt).Compares
      (ds ++ '-' :: x) (es ++ y) := by
  have cut : es.take ds.length ++ es.drop ds.length ++ y = es ++ y := by
    rw [List.take_append_drop]
  have len' : ds.length = (es.take ds.length).length := by
    rw [List.length_take]
    exact (Nat.min_eq_left len.le).symm
  have first := compares_digits len' hd fun c m => he c (List.mem_of_mem_take m)
  rw [numberOf_take he] at first
  rw [← cut, List.append_assoc]
  apply compares_append len' first
  cases rest : es.drop ds.length with
  | nil => exact absurd (List.drop_eq_nil_iff.1 rest) (Nat.not_le.2 len)
  | cons c cs =>
    have digit : isDigit c := he c (List.mem_of_mem_drop (rest ▸ List.mem_cons_self))
    exact List.cons_lt_cons_iff.2 (.inl (hyphen_lt_digit digit))

lemma isDigit_of_isDigit {c : Char} (h : c.isDigit) : isDigit c := by
  simp only [Char.isDigit, Bool.and_eq_true, decide_eq_true_eq] at h
  exact isDigit_iff.2 h

lemma allDigits_digits (n : Nat) : AllDigits (digits n) := fun _ m =>
  isDigit_of_isDigit (Nat.isDigit_of_mem_toDigits (by decide) (by decide) m)

lemma not_mem_digits {c : Char} (h : isDigit c = false) (n : Nat) : c ∉ digits n := by
  intro m
  rw [allDigits_digits n c m] at h
  cases h

lemma allDigits_paddedDigits (width n : Nat) : AllDigits (paddedDigits width n) := by
  intro c m
  rcases List.mem_append.1 m with m | m
  · rw [List.eq_of_mem_replicate m]
    decide
  · exact allDigits_digits n c m

lemma exists_paddedDigits_eq_cons (width n : Nat) :
    ∃ c cs, paddedDigits width n = c :: cs ∧ isDigit c := by
  cases eq : paddedDigits width n with
  | nil => exact absurd (List.append_eq_nil_iff.1 eq).2 Nat.toDigits_ne_nil
  | cons c cs => exact ⟨c, cs, rfl, allDigits_paddedDigits width n c (eq ▸ List.mem_cons_self)⟩

@[simp] lemma numberOf_paddedDigits (width n : Nat) : numberOf (paddedDigits width n) = n := by
  simp [numberOf, paddedDigits, digits, Nat.ofDigitChars_append]

lemma digits_injective : Function.Injective digits := fun m n h => by
  have padded (k : Nat) : paddedDigits 0 k = digits k := by simp [paddedDigits]
  rw [← numberOf_paddedDigits 0 m, padded, h, ← padded, numberOf_paddedDigits]

lemma length_paddedDigits (width n : Nat) :
    (paddedDigits width n).length = max width (digits n).length := by
  simp [paddedDigits]
  omega

lemma length_paddedDigits_of_lt {width n : Nat} (pos : 0 < width) (h : n < 10 ^ width) :
    (paddedDigits width n).length = width := by
  rw [length_paddedDigits]
  exact max_eq_left ((Nat.length_toDigits_le_iff (by decide) pos).2 h)

lemma compares_paddedDigits {width m n : Nat} (pos : 0 < width) (hm : m < 10 ^ width)
    (hn : n < 10 ^ width) : (cmp m n).Compares (paddedDigits width m) (paddedDigits width n) := by
  have len : (paddedDigits width m).length = (paddedDigits width n).length := by
    rw [length_paddedDigits_of_lt pos hm, length_paddedDigits_of_lt pos hn]
  have := compares_digits len (allDigits_paddedDigits width m) (allDigits_paddedDigits width n)
  rwa [numberOf_paddedDigits, numberOf_paddedDigits] at this

/-- Digits are those of the number they stand for, with zeros up to their width. -/
lemma paddedDigits_numberOf {ds : List Char} (h : AllDigits ds) (pos : 0 < ds.length) :
    paddedDigits ds.length (numberOf ds) = ds := by
  have len : (paddedDigits ds.length (numberOf ds)).length = ds.length :=
    length_paddedDigits_of_lt pos (numberOf_lt h)
  have digits := compares_digits len (allDigits_paddedDigits _ _) h
  rwa [numberOf_paddedDigits, cmp_self_eq_eq] at digits

/-! ## Reading digits -/

/-- The text does not begin with a digit. -/
def NoDigit (s : List Char) : Prop :=
  ∀ c ∈ s.head?, isDigit c = false

lemma noDigit_nil : NoDigit [] := by
  intro c m
  cases m

lemma noDigit_cons {c : Char} (h : isDigit c = false) (s : List Char) : NoDigit (c :: s) := by
  intro d m
  obtain rfl : c = d := Option.some.inj m
  exact h

lemma takeWhile_isDigit_append {ds rest : List Char} (h : AllDigits ds) (h' : NoDigit rest) :
    (ds ++ rest).takeWhile isDigit = ds := by
  rw [List.takeWhile_append_of_pos h]
  cases rest with
  | nil => simp
  | cons c rest => simp [h' c rfl]

lemma dropWhile_isDigit_append {ds rest : List Char} (h : AllDigits ds) (h' : NoDigit rest) :
    (ds ++ rest).dropWhile isDigit = rest := by
  rw [List.dropWhile_append_of_pos h]
  cases rest with
  | nil => simp
  | cons c rest => simp [h' c rfl]

lemma exists_digits_eq_cons (n : Nat) : ∃ c cs, digits n = c :: cs ∧ isDigit c := by
  cases eq : digits n with
  | nil => exact absurd eq Nat.toDigits_ne_nil
  | cons c cs => exact ⟨c, cs, rfl, allDigits_digits n c (eq ▸ List.mem_cons_self)⟩

/-- The digits of a number do not begin with a zero, unless it is the number zero. -/
lemma ne_zero_of_digits_eq_cons {n : Nat} (pos : 0 < n) {c : Char} {cs : List Char}
    (eq : digits n = c :: cs) : c ≠ '0' := by
  rintro rfl
  have value : numberOf ('0' :: cs) = n := eq ▸ Nat.ofDigitChars_ten_toDigits
  rw [numberOf_cons, show digitValue '0' = 0 from rfl, Nat.mul_zero, Nat.zero_add] at value
  have digits_cs : AllDigits cs := (List.forall_mem_cons.1 (eq ▸ allDigits_digits n)).2
  cases cs with
  | nil => exact absurd value (Nat.ne_of_lt pos)
  | cons d cs =>
    -- the other digits would be too few for the number that they stand for
    have fewer := (Nat.length_toDigits_le_iff (by decide) (Nat.succ_pos cs.length)).2
      (value ▸ numberOf_lt digits_cs)
    rw [show Nat.toDigits 10 n = '0' :: d :: cs from eq] at fewer
    simp at fewer

end Overdue.Text
