import Overdue.Finding.Record
import Overdue.Proofs.Calendar.Reader
import Overdue.Proofs.Json.RoundTrip

/-!
# Records of findings

Every finding is read back from its record, and every list of findings from its text, in order
(`read?_record`). Values are decoded one by one, each by the reader of what it was written for.
-/

namespace Overdue

open Text

namespace Json

lemma isPlain_ofString? (s : Option String) : (ofString? s).IsPlain := by
  cases s with
  | none => exact .null
  | some s => exact .string s

lemma isPlain_ofNat (n : Nat) : (ofNat n).IsPlain := .number n

/-- What may be missing is decoded as what stands there, or as nothing. -/
lemma nullable?_ofString? {α : Type} {decode : Json → Option α} {write : α → String}
    (h : ∀ a, decode (.string (write a)) = some a) (a : Option α) :
    nullable? decode (ofString? (a.map write)) = some a := by
  cases a with
  | none => rfl
  | some a => exact congrArg (Option.map some) (h a)

lemma natUpTo?_ofNat {limit n : Nat} (h : n ≤ limit) : natUpTo? limit (ofNat n) = some n := by
  have digits_all : (digits n).all isDigit = true := List.all_eq_true.2 (allDigits_digits n)
  have nonempty : (digits n).isEmpty = false := List.isEmpty_eq_false_iff.2 Nat.toDigits_ne_nil
  have value : (digits n).foldl (fun n c => 10 * n + digitValue c) 0 = n :=
    Nat.ofDigitChars_eq_foldl.symm.trans Nat.ofDigitChars_ten_toDigits
  have literal : literalNat? (digits n) = some n := by
    unfold isDigit at digits_all
    unfold digitValue at value
    rw [literalNat?, nonempty, digits_all, value]
    rfl
  rw [natUpTo?, ofNat, nat?, String.toList_ofList, literal]
  exact Option.filter_some_pos (decide_eq_true h)

end Json

lemma Date.ofJson?_toJson (d : Date) : ofJson? d.toJson = some d := by
  have read : read true d.text.toList = .ok d := by
    rw [text, String.toList_ofList, read_chars]
  simp [ofJson?, toJson, Json.string?, read]

lemma Kind.ofJson?_name (kind : Kind) : ofJson? (.string kind.name) = some kind := by
  cases kind <;> rfl

namespace Attribution

lemma isPlain_toJson (a : Attribution) : a.toJson.IsPlain := by
  refine .object fun m mem => ?_
  simp only [List.mem_cons, List.not_mem_nil, or_false] at mem
  rcases mem with rfl | rfl | rfl | rfl
  · exact .string _
  · exact .string _
  · exact Json.isPlain_ofString? _
  · exact .string _

lemma ofValues?_eq (a : Attribution) :
    ofValues? (.string a.revision) (.string a.author) (.ofString? a.contact) a.committed.toJson =
      some a := by
  have contact : Json.nullable? Json.string? (.ofString? a.contact) = some a.contact := by
    cases a.contact <;> rfl
  simp [ofValues?, contact, Date.ofJson?_toJson, Json.string?]

lemma ofJson?_toJson (a : Attribution) : ofJson? a.toJson = some a :=
  ofValues?_eq a

end Attribution

namespace Finding

lemma isPlain_toJson (f : Finding) : f.toJson.IsPlain := by
  refine .object fun m mem => ?_
  simp only [List.mem_cons, List.not_mem_nil, or_false] at mem
  rcases mem with rfl | rfl | rfl | rfl | rfl | rfl | rfl
  · exact .string _
  · exact Json.isPlain_ofNat _
  · exact .string _
  · exact Json.isPlain_ofString? _
  · exact .string _
  · exact f.attribution.isPlain_toJson
  · exact .bool _

/-- A finding is read from what members say about it, whatever else they say. -/
lemma ofJson?_object {ms : List (String × Json)} {f : Finding}
    (file : Json.required? ms "file" = some (.string f.file))
    (line : Json.required? ms "line" = some (.ofNat f.line.toNat))
    (kind : Json.required? ms "kind" = some (.string f.note.kind.name))
    (due : Json.optional? ms "due_date" = some (.ofString? (f.note.due.map Date.text)))
    (body : Json.required? ms "body" = some (.string f.note.body))
    (attribution : Json.required? ms "attribution" = some f.attribution.toJson)
    (expired : Json.required? ms "is_expired" = some (.bool f.expired)) :
    ofJson? (.object ms) = some f := by
  have number : Json.natUpTo? maxWord32 (.ofNat f.line.toNat) = some f.line.toNat :=
    Json.natUpTo?_ofNat (Nat.le_of_lt_succ f.line.toNat_lt)
  have date : Json.nullable? Date.ofJson? (.ofString? (f.note.due.map Date.text)) =
      some f.note.due := Json.nullable?_ofString? Date.ofJson?_toJson _
  -- the members are put in place at once, then those that are more than a string are decoded in turn
  rw [ofJson?, Json.object?, Option.bind_eq_bind, Option.bind_some, file, line, kind, due, body,
    attribution, expired]
  change (Json.natUpTo? _ _).bind _ = _
  rw [number]
  change (Kind.ofJson? _).bind _ = _
  rw [Kind.ofJson?_name]
  change (Json.nullable? _ _).bind _ = _
  rw [date]
  change (Attribution.ofJson? _).bind _ = _
  rw [Attribution.ofJson?_toJson]
  change some (Finding.mk f.file (UInt32.ofNat f.line.toNat) f.note f.attribution f.expired) = some f
  rw [UInt32.ofNat_toNat]

lemma ofJson?_toJson (f : Finding) : ofJson? f.toJson = some f :=
  ofJson?_object rfl rfl rfl rfl rfl rfl rfl

/-- Without other members, a record may be as deep as it is. -/
lemma ofJsonWithin?_of_own {ms : List (String × Json)}
    (own : ms.all (fun m => memberNames.contains m.1) = true) (depth : Nat) :
    ofJsonWithin? depth (.object ms) = ofJson? (.object ms) := by
  have admitted : ms.all (isAdmitted depth) = true := by
    refine List.all_eq_true.2 fun m mem => ?_
    rw [isAdmitted, List.all_eq_true.1 own m mem, Bool.true_or]
  rw [ofJsonWithin?, Json.object?, Option.bind_eq_bind, Option.bind_some, if_pos admitted]

lemma ofJsonWithin?_toJson (depth : Nat) (f : Finding) :
    ofJsonWithin? depth f.toJson = some f :=
  (ofJsonWithin?_of_own rfl depth).trans (ofJson?_toJson f)

lemma isPlain_records (findings : List Finding) : (Json.array (findings.map toJson)).IsPlain := by
  refine .array fun v mem => ?_
  obtain ⟨f, -, rfl⟩ := List.mem_map.1 mem
  exact f.isPlain_toJson

/-- Every finding is read back from its record, and every list of findings from its text, in the
same order. -/
theorem read?_record :
    (∀ f : Finding, read? f.record = some f) ∧
      ∀ findings, readAll? (records findings) = some findings := by
  constructor
  · intro f
    have parsed : Json.parse? f.record = some f.toJson := Json.parse?_text f.isPlain_toJson _
    rw [read?, parsed]
    exact ofJsonWithin?_toJson (maxDepth - 1) f
  · intro findings
    have parsed : Json.parse? (records findings) = some (.array (findings.map toJson)) :=
      Json.parse?_text (isPlain_records findings) _
    rw [readAll?, parsed]
    exact Json.mapM_map_eq_some (ofJsonWithin?_toJson (maxDepth - 2)) findings

end Finding

end Overdue
