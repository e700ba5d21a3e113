import Overdue.Proofs.Text.Digits

/-!
# Reading integers

A natural number is read from its digits, with or without a plus sign (`nat?_eq_some_iff`), an
integer from digits behind an optional sign (`int?_eq_some_iff`).
-/

namespace Overdue.Text

variable {limit : Nat} {s ds : List Char}

/-! ## Natural numbers -/

lemma le_ofDigitChars (n : Nat) (ds : List Char) : n ≤ Nat.ofDigitChars 10 ds n := by
  rw [Nat.ofDigitChars_eq_ofDigitChars_zero]
  have : 1 * n ≤ 10 ^ ds.length * n := Nat.mul_le_mul_right n (Nat.pow_pos (by decide))
  omega

/-- A number is continued by digits alone, as long as it is not too large. -/
lemma continueNat_eq_ok_iff {n m : Nat} (hn : n ≤ limit) : continueNat limit n ds = .ok m ↔
    AllDigits ds ∧ Nat.ofDigitChars 10 ds n = m ∧ m ≤ limit := by
  induction ds generalizing n with
  | nil =>
    have none : AllDigits [] := fun _ m => absurd m List.not_mem_nil
    simp only [continueNat, Except.ok.injEq, none, true_and, Nat.ofDigitChars_nil]
    exact ⟨fun eq => ⟨eq, eq ▸ hn⟩, And.left⟩
  | cons c ds ih =>
    have value : Nat.ofDigitChars 10 (c :: ds) n =
        Nat.ofDigitChars 10 ds (10 * n + digitValue c) := Nat.ofDigitChars_cons
    rw [continueNat, AllDigits, List.forall_mem_cons, value]
    by_cases digit : isDigit c
    · by_cases fits : 10 * n + digitValue c ≤ limit
      · simp only [digit, fits, if_true, ih fits, true_and, AllDigits]
      · simp only [digit, fits, if_true, if_false, reduceCtorEq, false_iff]
        rintro ⟨-, rfl, le⟩
        exact fits ((le_ofDigitChars _ ds).trans le)
    · simp [digit]

/-- Digits, at least one of them, that stand for a number. -/
structure IsNumber (ds : List Char) (n : Nat) : Prop where
  allDigits : AllDigits ds
  ne_nil : ds ≠ []
  value : numberOf ds = n

/-- A number does not begin with a sign. -/
lemma IsNumber.ne_cons {n : Nat} (h : IsNumber ds n) {c : Char} (hc : isDigit c = false)
    (cs : List Char) : ds ≠ c :: cs := by
  rintro rfl
  rw [h.allDigits c List.mem_cons_self] at hc
  cases hc

lemma isNumber_digits (n : Nat) : IsNumber (digits n) n :=
  ⟨allDigits_digits n, Nat.toDigits_ne_nil, Nat.ofDigitChars_ten_toDigits⟩

/-- What is read as a number, once a plus sign is taken off. -/
lemma nat?_of_readNat_eq {n : Nat} (ne_nil : ds ≠ [])
    (read : readNat limit s = continueNat limit 0 ds) :
    nat? limit s = some n ↔ IsNumber ds n ∧ n ≤ limit := by
  have ok : continueNat limit 0 ds = .ok n ↔ IsNumber ds n ∧ n ≤ limit := by
    rw [continueNat_eq_ok_iff (Nat.zero_le limit)]
    constructor
    · rintro ⟨digits, value, le⟩
      exact ⟨⟨digits, ne_nil, value⟩, le⟩
    · rintro ⟨⟨digits, -, value⟩, le⟩
      exact ⟨digits, value, le⟩
  rw [← ok, nat?, read]
  cases continueNat limit 0 ds <;> simp

/-- A natural number is read from digits, with or without a plus sign. -/
lemma nat?_eq_some_iff {n : Nat} : nat? limit s = some n ↔
    ∃ ds, (s = ds ∨ s = '+' :: ds) ∧ IsNumber ds n ∧ n ≤ limit := by
  have plus : isDigit '+' = false := rfl
  have signed (ds : List Char) : nat? limit ('+' :: ds) = some n ↔ IsNumber ds n ∧ n ≤ limit := by
    cases ds with
    | nil =>
      refine iff_of_false (by simp [nat?, readNat]) ?_
      rintro ⟨number, -⟩
      exact number.ne_nil rfl
    | cons c ds => exact nat?_of_readNat_eq (List.cons_ne_nil c ds) rfl
  constructor
  · intro read
    cases s with
    | nil => cases read
    | cons c cs =>
      by_cases sign : c = '+'
      · subst sign
        exact ⟨cs, .inr rfl, (signed cs).1 read⟩
      · have unsigned : readNat limit (c :: cs) = continueNat limit 0 (c :: cs) := by
          rw [readNat] <;> simp [sign]
        exact ⟨c :: cs, .inl rfl, (nat?_of_readNat_eq (List.cons_ne_nil c cs) unsigned).1 read⟩
  · rintro ⟨ds, rfl | rfl, number, le⟩
    · have unsigned : readNat limit s = continueNat limit 0 s := by
        rw [readNat]
        · exact number.ne_nil
        · exact number.ne_cons plus []
        · exact number.ne_cons plus
      exact (nat?_of_readNat_eq number.ne_nil unsigned).2 ⟨number, le⟩
    · exact (signed ds).2 ⟨number, le⟩

/-- The digits of a number are read as that number, if it is not too large. -/
lemma nat?_digits (limit n : Nat) : nat? limit (digits n) = if n ≤ limit then some n else none := by
  by_cases le : n ≤ limit
  · rw [if_pos le, nat?_eq_some_iff]
    exact ⟨digits n, .inl rfl, isNumber_digits n, le⟩
  · rw [if_neg le, Option.eq_none_iff_forall_ne_some]
    intro m read
    obtain ⟨ds, same | same, number, le'⟩ := nat?_eq_some_iff.1 read
    · rw [← number.value, ← same, (isNumber_digits n).value] at le'
      exact le le'
    · exact (isNumber_digits n).ne_cons rfl ds same

/-! ## Integers -/

/-- Digits behind an optional sign that stand for an integer from `-limit - 1` to `limit`. -/
inductive IsInteger (limit : Nat) : List Char → Int → Prop where
  | plain {ds : List Char} {n : Nat} : IsNumber ds n → n ≤ limit → IsInteger limit ds n
  | plus {ds : List Char} {n : Nat} : IsNumber ds n → n ≤ limit → IsInteger limit ('+' :: ds) n
  | minus {ds : List Char} {n : Nat} :
    IsNumber ds n → n ≤ limit + 1 → IsInteger limit ('-' :: ds) (-n)

/-- Behind a minus sign a number may be larger by one. -/
lemma int?_minus (ne_nil : ds ≠ []) :
    int? limit ('-' :: ds) = (nat? (limit + 1) ('+' :: ds)).map fun n : Nat => -(n : Int) := by
  -- the plus sign takes the place of the minus sign, so that no other may follow
  rw [int?]
  · cases nat? (limit + 1) ('+' :: ds) <;> rfl
  · exact ne_nil

lemma int?_of_ne_minus (h : ∀ ds, s ≠ '-' :: ds) :
    int? limit s = (nat? limit s).map fun n : Nat => (n : Int) := by
  rw [int?]
  · cases nat? limit s <;> rfl
  · exact h []
  · exact h

/-- An integer is read from digits behind an optional sign. -/
lemma int?_eq_some_iff {n : Int} : int? limit s = some n ↔ IsInteger limit s n := by
  have plus : isDigit '+' = false := rfl
  constructor
  · intro read
    by_cases minus : ∃ ds, s = '-' :: ds
    · obtain ⟨ds, rfl⟩ := minus
      have ne_nil : ds ≠ [] := by
        rintro rfl
        cases read
      rw [int?_minus ne_nil] at read
      obtain ⟨m, found, rfl⟩ := Option.map_eq_some_iff.1 read
      obtain ⟨ds', same | same, number, le⟩ := nat?_eq_some_iff.1 found
      · exact absurd same.symm (number.ne_cons plus ds)
      · obtain rfl := (List.cons.inj same).2
        exact .minus number le
    · rw [int?_of_ne_minus (not_exists.1 minus)] at read
      obtain ⟨m, found, rfl⟩ := Option.map_eq_some_iff.1 read
      obtain ⟨ds, rfl | rfl, number, le⟩ := nat?_eq_some_iff.1 found
      · exact .plain number le
      · exact .plus number le
  · intro h
    cases h with
    | @plain ds n number le =>
      rw [int?_of_ne_minus (number.ne_cons rfl), nat?_eq_some_iff.2 ⟨s, .inl rfl, number, le⟩,
        Option.map_some]
    | @plus ds n number le =>
      rw [int?_of_ne_minus (by simp), nat?_eq_some_iff.2 ⟨ds, .inr rfl, number, le⟩,
        Option.map_some]
    | @minus ds n number le =>
      rw [int?_minus number.ne_nil, nat?_eq_some_iff.2 ⟨ds, .inr rfl, number, le⟩, Option.map_some]

/-- The digits of an integer, behind a minus sign if it is negative. -/
def decimal (n : Int) : List Char :=
  if n < 0 then '-' :: digits n.natAbs else digits n.natAbs

lemma isInteger_decimal {n : Int} (lower : -(limit : Int) - 1 ≤ n) (upper : n ≤ limit) :
    IsInteger limit (decimal n) n := by
  rw [decimal]
  split
  case isTrue negative =>
    have same : n = -(n.natAbs : Int) := by omega
    have minus := IsInteger.minus (isNumber_digits n.natAbs) (show n.natAbs ≤ limit + 1 by omega)
    rwa [← same] at minus
  case isFalse positive =>
    have same : n = (n.natAbs : Int) := by omega
    have plain := IsInteger.plain (isNumber_digits n.natAbs) (show n.natAbs ≤ limit by omega)
    rwa [← same] at plain

end Overdue.Text
