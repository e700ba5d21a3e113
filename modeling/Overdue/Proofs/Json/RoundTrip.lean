import Overdue.Proofs.Json.Scalar

/-!
# Reading what is written

A value whose numbers are natural is read back from its text, in either layout (`parse?_text`). The
reader is followed item by item and member by member: the white space of a layout is skipped, and
each value is read up to where its text ends.
-/

namespace Overdue.Json

open Text

/-! ## White space -/

variable (layout : Layout) (depth : Nat)

@[simp] lemma skipSpace_newline (s : List Char) :
    skipSpace (layout.newline depth ++ s) = skipSpace s := by
  cases layout with
  | compact => rfl
  | indented =>
    apply List.dropWhile_append_of_pos
    intro c m
    rcases List.mem_cons.1 m with rfl | m
    · rfl
    · rw [List.eq_of_mem_replicate m]
      rfl

lemma readValue_of_skipSpace_eq {s t : List Char} (h : skipSpace s = skipSpace t) (fuel : Nat) :
    readValue fuel s = readValue fuel t := by
  cases fuel with
  | zero => rfl
  | succ fuel =>
    unfold readValue
    rw [h]

@[simp] lemma readValue_newline (fuel : Nat) (s : List Char) :
    readValue fuel (layout.newline depth ++ s) = readValue fuel s :=
  readValue_of_skipSpace_eq (skipSpace_newline layout depth s) fuel

@[simp] lemma readItems_newline (fuel : Nat) (s : List Char) :
    readItems fuel (layout.newline depth ++ s) = readItems fuel s := by
  cases fuel with
  | zero => rfl
  | succ fuel =>
    unfold readItems
    rw [readValue_newline]

@[simp] lemma readMembers_newline (fuel : Nat) (s : List Char) :
    readMembers fuel (layout.newline depth ++ s) = readMembers fuel s := by
  cases fuel with
  | zero => rfl
  | succ fuel =>
    unfold readMembers
    rw [skipSpace_newline]

lemma endsNumber_newline {s : List Char} (h : EndsNumber s) :
    EndsNumber (layout.newline depth ++ s) := by
  cases layout with
  | compact => exact h
  | indented => exact endsNumber_cons (by decide) _

/-! ## Values -/

/-- No string of the value is garbled, and its numbers are natural. -/
inductive IsPlain : Json → Prop where
  | null : IsPlain null
  | bool (b : Bool) : IsPlain (bool b)
  | number (n : Nat) : IsPlain (number (String.ofList (digits n)))
  | string (s : String) : IsPlain (string s)
  | array {items : List Json} (h : ∀ x ∈ items, IsPlain x) : IsPlain (array items)
  | object {members : List (String × Json)} (h : ∀ m ∈ members, IsPlain m.2) :
    IsPlain (object members)

/-- The text of the value is read as the value, up to where it ends. -/
def IsRead (v : Json) : Prop :=
  ∀ depth fuel rest, EndsNumber rest → 2 * (write layout depth v).length ≤ fuel →
    readValue fuel (write layout depth v ++ rest) = some (v, rest)

lemma skipSpace_of_isDigit {c : Char} (h : isDigit c) (s : List Char) :
    skipSpace (c :: s) = c :: s := by
  apply List.dropWhile_cons_of_neg
  intro space
  simp only [Bool.or_eq_true, beq_iff_eq] at space
  rcases space with ((rfl | rfl) | rfl) | rfl <;> exact absurd h (by decide)

/-- A value begins neither with white space nor with a closing bracket. -/
lemma IsPlain.exists_write_eq_cons {v : Json} (plain : v.IsPlain) :
    ∃ c s, write layout depth v = c :: s ∧ c ≠ ']' ∧ ∀ t, skipSpace (c :: t) = c :: t := by
  cases plain with
  | null => exact ⟨_, _, rfl, by decide, fun _ => rfl⟩
  | bool b => cases b <;> exact ⟨_, _, rfl, by decide, fun _ => rfl⟩
  | number n =>
    obtain ⟨c, s, eq, digit⟩ := exists_digits_eq_cons n
    have written : write layout depth (.number (String.ofList (digits n))) = c :: s := by
      rw [write, String.toList_ofList, eq]
    exact ⟨c, s, written, ne_of_isDigit digit rfl, skipSpace_of_isDigit digit⟩
  | string s => exact ⟨_, _, rfl, by decide, fun _ => rfl⟩
  | @array items _ => cases items <;> exact ⟨_, _, rfl, by decide, fun _ => rfl⟩
  | @object members _ => cases members <;> exact ⟨_, _, rfl, by decide, fun _ => rfl⟩

lemma IsPlain.write_pos {v : Json} (plain : v.IsPlain) : 0 < (write layout depth v).length := by
  obtain ⟨c, s, eq, -⟩ := plain.exists_write_eq_cons layout depth
  rw [eq]
  exact Nat.succ_pos s.length

/-! ## Items and members -/

variable {layout}

/-- What is decoded one by one is decoded as a list. -/
lemma mapM_map_eq_some {α β : Type} {decode : β → Option α} {write : α → β}
    (h : ∀ a, decode (write a) = some a) (as : List α) : (as.map write).mapM decode = some as := by
  have inverse : decode ∘ write = fun a => pure a := funext h
  rw [List.mapM_map, inverse, List.mapM_pure, List.map_id']
  rfl

/-- A member as it is read, before the parts of its name are joined. -/
def inPieces (m : String × Json) : List Piece × Json :=
  (m.1.toList.map .char, m.2)

lemma ofMembers_map_inPieces (members : List (String × Json)) :
    ofMembers (members.map inPieces) = .object members := by
  rw [ofMembers, mapM_map_eq_some]
  intro m
  simp only [inPieces, join?_map_char, Option.map_some, String.ofList_toList]

/-- Behind a name, its value is read. -/
lemma skipSpace_colon (fuel : Nat) (s : List Char) :
    ∃ t, skipSpace (layout.colon ++ s) = ':' :: t ∧ readValue fuel t = readValue fuel s := by
  cases layout with
  | compact => exact ⟨s, rfl, rfl⟩
  | indented =>
    have skip : skipSpace (' ' :: s) = skipSpace s := rfl
    exact ⟨' ' :: s, rfl, readValue_of_skipSpace_eq skip fuel⟩

section

variable {fuel : Nat} {v : Json} {s t u : List Char} (value : readValue fuel s = some (v, t))

include value

/-- The last item is the one that a closing bracket follows. -/
lemma readItems_last (close : skipSpace t = ']' :: u) :
    readItems (fuel + 1) s = some ([v], u) := by
  unfold readItems
  simp only [value, close]

/-- Behind a comma, the other items are read. -/
lemma readItems_comma (comma : skipSpace t = ',' :: u) :
    readItems (fuel + 1) s = (readItems fuel u).map fun p => (v :: p.1, p.2) := by
  conv_lhs => unfold readItems
  simp only [value, comma]

/-- The last member is the one that a closing bracket follows. -/
lemma readMembers_last (name : String) (close : skipSpace t = '\x7d' :: u) :
    readMembers (fuel + 1) (writeString name ++ (layout.colon ++ s)) =
      some ([inPieces (name, v)], u) := by
  obtain ⟨t', colon, same⟩ := @skipSpace_colon layout fuel s
  have quote (s : List Char) : skipSpace ('"' :: s) = '"' :: s := rfl
  unfold readMembers
  simp only [writeString_eq, quote, readString_escaped, colon, same, value, close]
  rfl

/-- Behind a comma, the other members are read. -/
lemma readMembers_comma (name : String) (comma : skipSpace t = ',' :: u) :
    readMembers (fuel + 1) (writeString name ++ (layout.colon ++ s)) =
      (readMembers fuel u).map fun p => (inPieces (name, v) :: p.1, p.2) := by
  obtain ⟨t', colon, same⟩ := @skipSpace_colon layout fuel s
  have quote (s : List Char) : skipSpace ('"' :: s) = '"' :: s := rfl
  conv_lhs => unfold readMembers
  simp only [writeString_eq, quote, readString_escaped, colon, same, value, comma]
  rfl

end

/-- Items are read up to the bracket that closes them. The calls are nested twice for each item and
each character of an item, at most. -/
lemma readItems_write {x : Json} {xs : List Json} (read : ∀ v ∈ x :: xs, IsRead layout v)
    (close fuel : Nat) (rest : List Char)
    (bound : 2 * ((write layout depth x).length + (writeItems layout depth xs).length) < fuel) :
    readItems fuel (write layout depth x ++
      (writeItems layout depth xs ++ (layout.newline close ++ ']' :: rest))) =
        some (x :: xs, rest) := by
  induction xs generalizing x fuel with
  | nil =>
    cases fuel with
    | zero => exact absurd bound (Nat.not_lt_zero _)
    | succ fuel =>
      have ends : EndsNumber (layout.newline close ++ ']' :: rest) :=
        endsNumber_newline layout close (endsNumber_cons (by decide) rest)
      have value := read x List.mem_cons_self depth fuel _ ends (by omega)
      exact readItems_last value (skipSpace_newline layout close _)
  | cons y ys ih =>
    cases fuel with
    | zero => exact absurd bound (Nat.not_lt_zero _)
    | succ fuel =>
      have ends : EndsNumber (writeItems layout depth (y :: ys) ++
          (layout.newline close ++ ']' :: rest)) := endsNumber_cons (by decide) _
      have value := read x List.mem_cons_self depth fuel _ ends (by omega)
      have others := ih (fun v m => read v (List.mem_cons_of_mem x m)) fuel (by
        simp only [writeItems, List.length_cons, List.length_append, List.cons_append] at bound
        omega)
      have comma : skipSpace (writeItems layout depth (y :: ys) ++
          (layout.newline close ++ ']' :: rest)) = ',' :: (layout.newline depth ++
            (write layout depth y ++
              (writeItems layout depth ys ++ (layout.newline close ++ ']' :: rest)))) := by
        simp only [writeItems, List.cons_append, List.append_assoc]
        rfl
      rw [readItems_comma value comma, readItems_newline, others]
      rfl

/-- Members are read up to the bracket that closes them. -/
lemma readMembers_write {m : String × Json} {ms : List (String × Json)}
    (read : ∀ v ∈ m :: ms, IsRead layout v.2) (close fuel : Nat) (rest : List Char)
    (bound : 2 * ((write layout depth m.2).length + (writeMembers layout depth ms).length) < fuel) :
    readMembers fuel (writeString m.1 ++ (layout.colon ++ (write layout depth m.2 ++
      (writeMembers layout depth ms ++ (layout.newline close ++ '\x7d' :: rest))))) =
        some ((m :: ms).map inPieces, rest) := by
  induction ms generalizing m fuel with
  | nil =>
    cases fuel with
    | zero => exact absurd bound (Nat.not_lt_zero _)
    | succ fuel =>
      have ends : EndsNumber (layout.newline close ++ '\x7d' :: rest) :=
        endsNumber_newline layout close (endsNumber_cons (by decide) rest)
      have value := read m List.mem_cons_self depth fuel _ ends (by omega)
      exact readMembers_last value m.1 (skipSpace_newline layout close _)
  | cons y ys ih =>
    cases fuel with
    | zero => exact absurd bound (Nat.not_lt_zero _)
    | succ fuel =>
      have ends : EndsNumber (writeMembers layout depth (y :: ys) ++
          (layout.newline close ++ '\x7d' :: rest)) := endsNumber_cons (by decide) _
      have value := read m List.mem_cons_self depth fuel _ ends (by omega)
      have others := ih (fun v l => read v (List.mem_cons_of_mem _ l)) fuel (by
        simp only [writeMembers, List.length_cons, List.length_append, List.cons_append] at bound
        omega)
      have comma : skipSpace (writeMembers layout depth (y :: ys) ++
          (layout.newline close ++ '\x7d' :: rest)) = ',' :: (layout.newline depth ++
            (writeString y.1 ++ (layout.colon ++ (write layout depth y.2 ++
              (writeMembers layout depth ys ++ (layout.newline close ++ '\x7d' :: rest)))))) := by
        simp only [writeMembers, List.cons_append, List.append_assoc]
        rfl
      rw [readMembers_comma value m.1 comma, readMembers_newline, others]
      rfl

/-! ## The round trip -/

lemma readScalar_digits (n : Nat) {rest : List Char} (ends : EndsNumber rest) :
    readScalar (digits n ++ rest) = some (number (String.ofList (digits n)), rest) := by
  have literal := readNumber_digits n ends
  obtain ⟨c, s, eq, digit⟩ := exists_digits_eq_cons n
  rw [eq, List.cons_append] at literal ⊢
  unfold readScalar
  split
  case h_5 =>
    rw [literal]
    rfl
  all_goals
    rename_i letter
    exact absurd (List.cons.inj letter).1 (ne_of_isDigit digit rfl)

lemma readValue_digits (n fuel : Nat) {rest : List Char} (ends : EndsNumber rest) :
    readValue (fuel + 1) (digits n ++ rest) =
      some (number (String.ofList (digits n)), rest) := by
  have scalar := readScalar_digits n ends
  obtain ⟨c, s, eq, digit⟩ := exists_digits_eq_cons n
  rw [eq, List.cons_append] at scalar ⊢
  unfold readValue
  rw [skipSpace_of_isDigit digit]
  split
  case h_1 bracket => exact absurd (List.cons.inj bracket).1 (ne_of_isDigit digit rfl)
  case h_2 bracket => exact absurd (List.cons.inj bracket).1 (ne_of_isDigit digit rfl)
  case h_3 => exact scalar

lemma readValue_string (s : String) (fuel : Nat) (rest : List Char) :
    readValue (fuel + 1) (writeString s ++ rest) = some (string s, rest) := by
  rw [writeString_eq]
  change (readString _).map (fun p => (ofPieces p.1, p.2)) = _
  rw [readString_escaped, Option.map_some]
  simp only [ofPieces, join?_map_char, String.ofList_toList]

/-- Behind its bracket, an array that is not empty is read item by item. -/
lemma readValue_bracket {c : Char} {s t : List Char} (fuel : Nat) (start : skipSpace s = c :: t)
    (h : c ≠ ']') : readValue (fuel + 1) ('[' :: s) =
      (readItems fuel (c :: t)).map fun p => (array p.1, p.2) := by
  have bracket : skipSpace ('[' :: s) = '[' :: s := rfl
  conv_lhs => unfold readValue
  simp only [bracket, start]
  split
  case h_1 close => exact absurd (List.cons.inj close).1 h
  case h_2 => rfl

/-- Behind its bracket, an object that is not empty is read member by member. -/
lemma readValue_brace {c : Char} {s t : List Char} (fuel : Nat) (start : skipSpace s = c :: t)
    (h : c ≠ '\x7d') : readValue (fuel + 1) ('\x7b' :: s) =
      (readMembers fuel (c :: t)).map fun p => (ofMembers p.1, p.2) := by
  have brace : skipSpace ('\x7b' :: s) = '\x7b' :: s := rfl
  conv_lhs => unfold readValue
  simp only [brace, start]
  split
  case h_1 close => exact absurd (List.cons.inj close).1 h
  case h_2 => rfl

lemma readValue_array {items : List Json} (plain : ∀ x ∈ items, IsPlain x)
    (read : ∀ x ∈ items, IsRead layout x) (depth fuel : Nat) (rest : List Char)
    (bound : 2 * (write layout depth (array items)).length ≤ fuel + 1) :
    readValue (fuel + 1) (write layout depth (array items) ++ rest) =
      some (array items, rest) := by
  cases items with
  | nil => rfl
  | cons x xs =>
    have items := readItems_write (depth + 1) read depth fuel rest (by
      simp only [write, List.length_append, List.length_cons] at bound
      omega)
    obtain ⟨c, s, eq, first, skip⟩ :=
      (plain x List.mem_cons_self).exists_write_eq_cons layout (depth + 1)
    simp only [write, List.cons_append, List.append_assoc, List.nil_append]
    rw [eq, List.cons_append] at items ⊢
    rw [readValue_bracket fuel ((skipSpace_newline layout _ _).trans (skip _)) first, items]
    rfl

lemma readValue_object {members : List (String × Json)}
    (read : ∀ m ∈ members, IsRead layout m.2) (depth fuel : Nat) (rest : List Char)
    (bound : 2 * (write layout depth (object members)).length ≤ fuel + 1) :
    readValue (fuel + 1) (write layout depth (object members) ++ rest) =
      some (object members, rest) := by
  cases members with
  | nil => rfl
  | cons m ms =>
    have members := readMembers_write (depth + 1) read depth fuel rest (by
      simp only [write, List.length_append, List.length_cons] at bound
      omega)
    simp only [write, List.cons_append, List.append_assoc, List.nil_append]
    rw [writeString_eq] at members ⊢
    rw [readValue_brace fuel (skipSpace_newline layout _ _) (by decide), members, Option.map_some]
    simp only [ofMembers_map_inPieces]

lemma IsPlain.isRead_of_succ {v : Json} (plain : v.IsPlain)
    (h : ∀ depth fuel rest, EndsNumber rest → 2 * (write layout depth v).length ≤ fuel + 1 →
      readValue (fuel + 1) (write layout depth v ++ rest) = some (v, rest)) : IsRead layout v := by
  intro depth fuel rest ends bound
  have pos := plain.write_pos layout depth
  cases fuel with
  | zero => omega
  | succ fuel => exact h depth fuel rest ends bound

/-- Each plain value is read as it is written, up to where its text ends. -/
lemma IsPlain.isRead {v : Json} (plain : v.IsPlain) : IsRead layout v := by
  induction plain with
  | null => exact IsPlain.null.isRead_of_succ fun _ _ _ _ _ => rfl
  | bool b =>
    apply (IsPlain.bool b).isRead_of_succ
    intro depth fuel rest _ _
    cases b <;> rfl
  | number n =>
    apply (IsPlain.number n).isRead_of_succ
    intro depth fuel rest ends _
    rw [write, String.toList_ofList]
    exact readValue_digits n fuel ends
  | string s =>
    apply (IsPlain.string s).isRead_of_succ
    intro depth fuel rest _ _
    exact readValue_string s fuel rest
  | array plain read =>
    apply (IsPlain.array plain).isRead_of_succ
    intro depth fuel rest _ bound
    exact readValue_array plain read depth fuel rest bound
  | object plain read =>
    apply (IsPlain.object plain).isRead_of_succ
    intro depth fuel rest _ bound
    exact readValue_object read depth fuel rest bound

/-- The text of a plain value denotes that value. -/
lemma parse?_text {v : Json} (plain : v.IsPlain) (layout : Layout) :
    parse? (v.text layout) = some v := by
  have read : IsRead layout v := plain.isRead
  have value := read 0 (2 * (write layout 0 v).length + 2) [] endsNumber_nil (by omega)
  rw [List.append_nil] at value
  rw [parse?, text, String.toList_ofList]
  simp only [value]
  rfl

end Overdue.Json
