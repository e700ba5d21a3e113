import Overdue.CommandLine.Arguments
import Overdue.Proofs.Text.Lines

/-!
# What arguments give

A value is given in two ways: in the argument that names its parameter, behind an equals sign, or as
the next argument. What arguments that are accepted choose for a parameter that takes any text is the
value that they give it, if they give one (`Choices.ofArguments_spec`).
-/

namespace Overdue

open Text

lemma exists_of_bind_eq_ok {α β ε : Type} {x : Except ε α} {f : α → Except ε β} {b : β}
    (h : (x >>= f) = .ok b) : ∃ a, x = .ok a ∧ f a = .ok b := by
  cases x with
  | error e => cases h
  | ok a => exact ⟨a, rfl, h⟩

lemma mapError_eq_ok {α ε ε' : Type} {x : Except ε α} {f : ε → ε'} {a : α}
    (h : x.mapError f = .ok a) : x = .ok a := by
  cases x with
  | error e => cases h
  | ok b => exact congrArg Except.ok (Except.ok.inj h)

/-! ## Names -/

namespace Parameter

/-- The argument that names a parameter. -/
def option (p : Parameter) : String :=
  "--" ++ p.name

/-- The argument that names a parameter and holds its value. -/
def withValue (p : Parameter) (value : String) : String :=
  p.option ++ "=" ++ value

lemma name_ne_empty (p : Parameter) : p.name.toList ≠ [] := by
  cases p <;> decide

lemma equals_not_mem_name (p : Parameter) : '=' ∉ p.name.toList := by
  cases p <;> decide

lemma ofName?_name (p : Parameter) : ofName? p.name = some p := by
  cases p <;> decide

lemma ofName?_eq_some {name : String} {p : Parameter} (h : ofName? name = some p) :
    p.name = name := by
  rw [ofName?] at h
  have same := List.find?_some h
  exact eq_of_beq same

end Parameter

namespace Argument

variable {text : String} {p : Parameter}

lemma of_long {s : List Char} (h : text.toList = '-' :: '-' :: s) (ne_nil : s ≠ []) :
    Argument.of text =
      match splitFirst? '=' s with
      | some (name, value) => .long (String.ofList name) (some (String.ofList value))
      | none => .long (String.ofList s) none := by
  cases s with
  | nil => exact absurd rfl ne_nil
  | cons c s =>
    rw [Argument.of, h]
    rfl

/-- What an argument tells of the text that looks like it. -/
def Fits (text : String) : Argument → Prop
  | separator => True
  | long _ _ => ∃ s, text.toList = '-' :: '-' :: s ∧ s ≠ []
  | short letters => letters ≠ []
  | plain given => given = text

lemma fits_of (text : String) : (Argument.of text).Fits text := by
  rw [Argument.of]
  split
  case h_1 => trivial
  case h_2 s nonempty eq =>
    have long : ∃ s, text.toList = '-' :: '-' :: s ∧ s ≠ [] := by
      refine ⟨s, eq, ?_⟩
      rintro rfl
      exact nonempty rfl
    split
    case h_1 => exact long
    case h_2 => exact long
  case h_3 => exact List.cons_ne_nil _ _
  case h_4 => rfl

lemma eq_option_iff : text = p.option ↔ Argument.of text = .long p.name none := by
  constructor
  · rintro rfl
    have chars : p.option.toList = '-' :: '-' :: p.name.toList := by
      rw [Parameter.option, String.toList_append]
      rfl
    rw [of_long chars p.name_ne_empty, splitFirst?_eq_none_iff.2 p.equals_not_mem_name]
    simp
  · intro long
    obtain ⟨s, eq, ne_nil⟩ : Fits text (.long p.name _) := long ▸ fits_of text
    rw [of_long eq ne_nil] at long
    split at long
    case h_1 => exact absurd (Argument.long.inj long).2 (Option.some_ne_none _)
    case h_2 =>
      have name := (Argument.long.inj long).1
      rw [← String.toList_inj, eq, Parameter.option, ← name]
      simp

lemma eq_withValue_iff {value : String} :
    text = p.withValue value ↔ Argument.of text = .long p.name (some value) := by
  constructor
  · rintro rfl
    have chars : (p.withValue value).toList = '-' :: '-' :: (p.name.toList ++ '=' :: value.toList) := by
      simp [Parameter.withValue, Parameter.option]
    rw [of_long chars (by simp), splitFirst?_append p.equals_not_mem_name]
    simp
  · intro long
    obtain ⟨s, eq, ne_nil⟩ : Fits text (.long p.name _) := long ▸ fits_of text
    rw [of_long eq ne_nil] at long
    split at long
    case h_1 name value' cut =>
      obtain ⟨rfl, -⟩ := splitFirst?_eq_some_iff.1 cut
      obtain ⟨same, same'⟩ := Argument.long.inj long
      rw [← String.toList_inj, eq, Parameter.withValue, Parameter.option, ← same,
        ← Option.some.inj same']
      simp
    case h_2 => exact absurd (Argument.long.inj long).2.symm (Option.some_ne_none _)

end Argument

/-! ## Values -/

/-- Some arguments give a value to a parameter. -/
inductive Parameter.Gives (p : Parameter) (value : String) : List String → Prop where
  | attached {rest : List String} : Gives p value (p.withValue value :: rest)
  | apart {rest : List String} : Gives p value (p.option :: value :: rest)
  | later {text : String} {rest : List String} : Gives p value rest → Gives p value (text :: rest)

lemma Parameter.gives_cons_iff {p : Parameter} {value text : String} {rest : List String} :
    p.Gives value (text :: rest) ↔
      text = p.withValue value ∨ (text = p.option ∧ rest.head? = some value) ∨
        p.Gives value rest := by
  constructor
  · intro gives
    cases gives with
    | attached => exact .inl rfl
    | apart => exact .inr (.inl ⟨rfl, rfl⟩)
    | later gives => exact .inr (.inr gives)
  · rintro (rfl | ⟨rfl, next⟩ | gives)
    · exact .attached
    · obtain ⟨rest, rfl⟩ := List.head?_eq_some_iff.1 next
      exact .apart
    · exact .later gives

/-- What a parameter takes is any text, and it is chosen once. -/
structure Parameter.IsVerbatim (p : Parameter) (chosen : Choices → Option String) : Prop where
  initial : chosen {} = none
  set_self : ∀ {c c' value}, c.set p value = .ok c' → chosen c = none ∧ chosen c' = some value
  set_of_ne : ∀ {c c' q value}, q ≠ p → c.set q value = .ok c' → chosen c' = chosen c
  raise : ∀ {c c' f}, c.raise f = .ok c' → chosen c' = chosen c

lemma Parameter.isVerbatim_token : Parameter.token.IsVerbatim Choices.token where
  initial := rfl
  set_self {c c' value} h := by
    rw [Choices.set, once] at h
    split at h
    case isTrue => cases h
    case isFalse fresh =>
      cases h
      exact ⟨Option.not_isSome_iff_eq_none.1 fresh, rfl⟩
  set_of_ne {c c' q value} ne h := by
    cases q with
    | token => exact absurd rfl ne
    | labels => cases h; rfl
    | _ =>
      obtain ⟨_, -, same⟩ := exists_of_bind_eq_ok h
      cases same
      rfl
  raise {c c' f} h := by
    cases f with
    | help => cases h
    | version => cases h
    | _ =>
      rw [Choices.raise] at h
      split at h
      case isTrue => cases h
      case isFalse =>
        cases h
        rfl

/-! ## Readings -/

namespace Reading

/-- A parameter that waits for its value. -/
def Awaits (p : Parameter) (r : Reading) : Prop :=
  r.waiting = some ⟨p, none⟩

/-- A value that is chosen, or will be once its parameter is settled. -/
def Holds (p : Parameter) (chosen : Choices → Option String) (r : Reading) (value : String) : Prop :=
  chosen r.choices = some value ∨ r.waiting = some ⟨p, some value⟩

/-- How an argument is taken in: it names the parameter, gives it a value, or is the value for which
it waits. -/
structure Takes (p : Parameter) (chosen : Choices → Option String) (r : Reading) (text : String)
    (r' : Reading) : Prop where
  awaits : r'.Awaits p ↔ text = p.option
  holds : ∀ value, r'.Holds p chosen value ↔
    r.Holds p chosen value ∨ text = p.withValue value ∨ (r.Awaits p ∧ text = value)

variable {p : Parameter} {chosen : Choices → Option String} {r r' : Reading} {c : Choices}

lemma holds_of_settle (verbatim : p.IsVerbatim chosen) (h : r.settle = .ok c) :
    ¬r.Awaits p ∧ ∀ value, chosen c = some value ↔ r.Holds p chosen value := by
  obtain ⟨choices, waiting⟩ := r
  match waiting with
  | none =>
    cases h
    simp [Awaits, Holds]
  | some ⟨q, none⟩ => cases h
  | some ⟨q, some given⟩ =>
    have set := mapError_eq_ok h
    rcases eq_or_ne q p with rfl | ne
    · obtain ⟨fresh, here⟩ := verbatim.set_self set
      simp [Awaits, Holds, fresh, here]
    · simp [Awaits, Holds, verbatim.set_of_ne ne set, ne]

/-- Once a reading is settled, only its choices count. -/
lemma holds_of_settled (value : String) :
    Holds p chosen { choices := c } value ↔ chosen c = some value := by
  simp [Holds]

lemma takeFlag_spec (verbatim : p.IsVerbatim chosen) {f : Flag} (h : r.takeFlag f = .ok r') :
    ¬r.Awaits p ∧ ¬r'.Awaits p ∧
      ∀ value, r'.Holds p chosen value ↔ r.Holds p chosen value := by
  obtain ⟨c, settled, h⟩ := exists_of_bind_eq_ok h
  obtain ⟨c', raised, h⟩ := exists_of_bind_eq_ok h
  cases h
  obtain ⟨ready, holds⟩ := holds_of_settle verbatim settled
  refine ⟨ready, nofun, fun value => ?_⟩
  rw [holds_of_settled, verbatim.raise raised, holds]

lemma takeLetters_spec (verbatim : p.IsVerbatim chosen) {letters : List Char} (ne_nil : letters ≠ [])
    (h : r.takeLetters letters = .ok r') :
    ¬r.Awaits p ∧ ¬r'.Awaits p ∧
      ∀ value, r'.Holds p chosen value ↔ r.Holds p chosen value := by
  induction letters generalizing r with
  | nil => exact absurd rfl ne_nil
  | cons letter letters ih =>
    rw [takeLetters] at h
    split at h
    case h_2 => cases h
    case h_1 f _ =>
      obtain ⟨next, taken, h⟩ := exists_of_bind_eq_ok h
      obtain ⟨ready, idle, holds⟩ := takeFlag_spec verbatim taken
      cases letters with
      | nil =>
        cases h
        exact ⟨ready, idle, holds⟩
      | cons _ _ =>
        obtain ⟨-, idle', holds'⟩ := ih (List.cons_ne_nil _ _) h
        exact ⟨ready, idle', fun value => (holds' value).trans (holds value)⟩

lemma takePlain_spec {text : String} (h : r.takePlain text = .ok r') :
    ¬r'.Awaits p ∧ ∀ value, r'.Holds p chosen value ↔
      r.Holds p chosen value ∨ (r.Awaits p ∧ text = value) := by
  obtain ⟨choices, waiting⟩ := r
  match waiting with
  | none => cases h
  | some ⟨q, some given⟩ => cases h
  | some ⟨q, none⟩ =>
    cases h
    simp [Awaits, Holds]

lemma takeParameter_spec (verbatim : p.IsVerbatim chosen) {q : Parameter} {given : Option String}
    (h : r.takeParameter q given = .ok r') :
    ¬r.Awaits p ∧ (r'.Awaits p ↔ q = p ∧ given = none) ∧
      ∀ value, r'.Holds p chosen value ↔
        r.Holds p chosen value ∨ (q = p ∧ given = some value) := by
  obtain ⟨c, settled, h⟩ := exists_of_bind_eq_ok h
  obtain ⟨ready, holds⟩ := holds_of_settle verbatim settled
  refine ⟨ready, ?_⟩
  cases given with
  | none =>
    cases h
    refine ⟨by simp [Awaits], fun value => ?_⟩
    rw [← holds]
    simp [Holds]
  | some given =>
    obtain ⟨c', set, h⟩ := exists_of_bind_eq_ok h
    cases h
    have set := mapError_eq_ok set
    refine ⟨by simp [Awaits], fun value => ?_⟩
    rw [holds_of_settled, ← holds]
    rcases eq_or_ne q p with rfl | ne
    · obtain ⟨fresh, here⟩ := verbatim.set_self set
      simp [fresh, here]
    · simp [verbatim.set_of_ne ne set, ne]

lemma takeLong_spec (verbatim : p.IsVerbatim chosen) {name : String} {given : Option String}
    (h : r.takeLong name given = .ok r') :
    ¬r.Awaits p ∧ (r'.Awaits p ↔ name = p.name ∧ given = none) ∧
      ∀ value, r'.Holds p chosen value ↔
        r.Holds p chosen value ∨ (name = p.name ∧ given = some value) := by
  rw [takeLong.eq_def] at h
  cases named : Parameter.ofName? name with
  | some q =>
    rw [named] at h
    have same : q = p ↔ name = p.name := by
      constructor
      · rintro rfl
        exact (Parameter.ofName?_eq_some named).symm
      · rintro rfl
        exact Option.some.inj (named.symm.trans p.ofName?_name)
    simpa only [same] using takeParameter_spec verbatim h
  | none =>
    rw [named] at h
    have other : name ≠ p.name := by
      rintro rfl
      rw [p.ofName?_name] at named
      cases named
    simp only [other, false_and, or_false, iff_false]
    cases raised : Flag.ofName? name with
    | none =>
      rw [raised] at h
      cases h
    | some f =>
      rw [raised] at h
      cases given with
      | some value => cases h
      | none => exact takeFlag_spec verbatim h

/-- What the next argument does to a reading, unless it is a separator at the end. -/
lemma finish_cons (verbatim : p.IsVerbatim chosen) {text : String} {rest : List String}
    (h : r.finish (text :: rest) = .ok c) :
    (Argument.of text = .separator ∧ rest = [] ∧ r.settle = .ok c) ∨
      ∃ r', r.Takes p chosen text r' ∧ r'.finish rest = .ok c := by
  rw [finish.eq_def] at h
  dsimp only at h
  have fits := Argument.fits_of text
  cases looks : Argument.of text with
  | separator =>
    rw [looks] at h
    cases rest with
    | nil => exact .inl ⟨rfl, rfl, h⟩
    | cons _ _ => cases h
  | long name given =>
    rw [looks] at h
    obtain ⟨r', taken, h⟩ := exists_of_bind_eq_ok h
    obtain ⟨ready, awaits, holds⟩ := takeLong_spec verbatim taken
    refine .inr ⟨r', ⟨?_, fun value => ?_⟩, h⟩
    · rw [awaits, Argument.eq_option_iff, looks, Argument.long.injEq]
    · rw [holds, Argument.eq_withValue_iff, looks, Argument.long.injEq]
      simp only [ready, false_and, or_false]
  | short letters =>
    rw [looks] at h fits
    obtain ⟨r', taken, h⟩ := exists_of_bind_eq_ok h
    obtain ⟨ready, idle, holds⟩ := takeLetters_spec verbatim fits taken
    refine .inr ⟨r', ⟨?_, fun value => ?_⟩, h⟩
    · simp [idle, Argument.eq_option_iff, looks]
    · simp [ready, holds, Argument.eq_withValue_iff, looks]
  | plain =>
    rw [looks] at h fits
    obtain rfl := fits
    obtain ⟨r', taken, h⟩ := exists_of_bind_eq_ok h
    obtain ⟨idle, holds⟩ := @takePlain_spec p chosen _ _ _ taken
    refine .inr ⟨r', ⟨?_, fun value => ?_⟩, h⟩
    · simp [idle, Argument.eq_option_iff, looks]
    · simp [holds, Argument.eq_withValue_iff, looks]

/-- Some arguments choose what a reading holds by then, what comes for a parameter that waits, and
what they give. -/
lemma finish_spec (verbatim : p.IsVerbatim chosen) {arguments : List String}
    (h : r.finish arguments = .ok c) (value : String) :
    chosen c = some value ↔
      r.Holds p chosen value ∨ (r.Awaits p ∧ arguments.head? = some value) ∨
        p.Gives value arguments := by
  induction arguments generalizing r with
  | nil =>
    obtain ⟨ready, holds⟩ := holds_of_settle verbatim h
    have nothing : ¬p.Gives value [] := nofun
    rw [holds]
    simp [ready, nothing]
  | cons text rest ih =>
    rw [Parameter.gives_cons_iff]
    rcases finish_cons verbatim h with ⟨separator, rfl, settled⟩ | ⟨r', takes, finished⟩
    · obtain ⟨ready, holds⟩ := holds_of_settle verbatim settled
      have nothing : ¬p.Gives value [] := nofun
      rw [holds]
      simp [ready, nothing, Argument.eq_withValue_iff, Argument.eq_option_iff, separator]
    · rw [ih finished, takes.holds, takes.awaits, List.head?_cons, Option.some.injEq]
      tauto

end Reading

/-- What arguments choose for a parameter that takes any text is the value that they give to it. -/
lemma Choices.ofArguments_spec {p : Parameter} {chosen : Choices → Option String} {c : Choices}
    (verbatim : p.IsVerbatim chosen) {arguments : List String}
    (h : Choices.ofArguments arguments = .ok c) (value : String) :
    chosen c = some value ↔ p.Gives value arguments := by
  have empty : ¬Reading.Holds p chosen {} value := by
    simp [Reading.Holds, verbatim.initial]
  have idle : ¬Reading.Awaits p {} := nofun
  rw [Reading.finish_spec verbatim h]
  simp [empty, idle]

end Overdue
