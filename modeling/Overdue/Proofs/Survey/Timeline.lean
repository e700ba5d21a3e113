import Mathlib.Algebra.GroupWithZero.Nat
import Mathlib.Data.List.Forall2
import Mathlib.Data.List.Induction
import Mathlib.Order.MinMax
import Mathlib.Tactic.Lemma
import Overdue.Survey.Timeline

/-!
# Laws of timelines

On a timeline every task starts as soon as all tasks are over that come at least the width of the
window before it (`isSchedule_of`). Hence tasks start in their order and no more are under way at
once than the window is wide (`IsSchedule.countP_isUnderWay_le`). A wider window or shorter tasks
make no task later (`continueWith_mono`).
-/

namespace Overdue

namespace Span

/-- The task was started and is not over. -/
def isUnderWay (time : Nat) (span : Span) : Bool :=
  span.start ≤ time && time < span.finish

/-- Neither start nor end is later. -/
structure NoLater (span span' : Span) : Prop where
  start : span.start ≤ span'.start
  finish : span.finish ≤ span'.finish

end Span

namespace Timeline

/-! ## The latest of some times -/

@[simp] lemma latest_nil : latest [] = 0 := rfl

@[simp] lemma latest_concat (times : List Nat) (time : Nat) :
    latest (times ++ [time]) = max (latest times) time := by
  simp [latest, List.foldl_append]

lemma latest_le_iff {times : List Nat} {limit : Nat} :
    latest times ≤ limit ↔ ∀ time ∈ times, time ≤ limit := by
  induction times using List.reverseRecOn with
  | nil => simp
  | append_singleton times time ih =>
    rw [latest_concat, Nat.max_le, ih]
    simp [or_imp, forall_and]

lemma lt_latest_iff {times : List Nat} {limit : Nat} :
    limit < latest times ↔ ∃ time ∈ times, limit < time := by
  rw [← Nat.not_le, latest_le_iff]
  simp

lemma le_latest {times : List Nat} {time : Nat} (h : time ∈ times) : time ≤ latest times :=
  latest_le_iff.1 (Nat.le_refl _) time h

lemma latest_take_le {m n : Nat} (h : m ≤ n) (times : List Nat) :
    latest (times.take m) ≤ latest (times.take n) := by
  refine latest_le_iff.2 fun time mem => le_latest ?_
  exact (List.take_sublist_take_left h).subset mem

lemma latest_mono {times times' : List Nat} (h : List.Forall₂ (· ≤ ·) times times') :
    latest times ≤ latest times' := by
  refine latest_le_iff.2 fun time mem => ?_
  obtain ⟨i, inside, rfl⟩ := List.getElem_of_mem mem
  have inside' : i < times'.length := h.length_eq ▸ inside
  exact Nat.le_trans (h.get inside inside') (le_latest (List.getElem_mem inside'))

lemma width_pos (concurrency : Nat) : 0 < width concurrency :=
  Nat.lt_of_lt_of_le Nat.zero_lt_one (Nat.le_max_left 1 concurrency)

/-! ## Schedules -/

/-- The spans of tasks that take the given times, of which each starts as soon as all those are over
that come at least `window` places before it. -/
structure IsSchedule (window : Nat) (delays : List Nat) (spans : List Span) : Prop where
  length_eq : spans.length = delays.length
  start_eq : ∀ i (h : i < spans.length),
    spans[i].start = latest ((spans.map Span.finish).take (i + 1 - window))
  finish_eq : ∀ i (h : i < spans.length), spans[i].finish = spans[i].start + delays[i]

variable {window : Nat}

lemma length_continueWith (ends delays : List Nat) :
    (continueWith window ends delays).length = delays.length := by
  induction delays generalizing ends with
  | nil => rfl
  | cons delay delays ih => rw [continueWith, List.length_cons, ih, List.length_cons]

lemma finish_continueWith {ends delays : List Nat} {i delay : Nat} {span : Span}
    (h : (continueWith window ends delays)[i]? = some span) (given : delays[i]? = some delay) :
    span.finish = span.start + delay := by
  induction delays generalizing ends i with
  | nil => cases h
  | cons first delays ih =>
    cases i with
    | zero =>
      obtain rfl := Option.some.inj h
      obtain rfl := Option.some.inj given
      rfl
    | succ i =>
      rw [continueWith, List.getElem?_cons_succ] at h
      rw [List.getElem?_cons_succ] at given
      exact ih h given

lemma start_continueWith (pos : 0 < window) {ends delays : List Nat} {i : Nat} {span : Span}
    (h : (continueWith window ends delays)[i]? = some span) :
    span.start = latest ((ends ++ (continueWith window ends delays).map Span.finish).take
      (ends.length + i + 1 - window)) := by
  induction delays generalizing ends i with
  | nil => cases h
  | cons delay delays ih =>
    cases i with
    | zero =>
      obtain rfl := Option.some.inj h
      rw [List.take_append_of_le_length (by omega)]
    | succ i =>
      rw [continueWith, List.getElem?_cons_succ] at h
      rw [ih h, continueWith, List.map_cons, List.append_assoc, List.singleton_append,
        List.length_append, List.length_singleton, Nat.add_right_comm _ 1 i]
      rfl

lemma isSchedule_of (concurrency : Nat) (delays : List Nat) :
    IsSchedule (width concurrency) delays (of concurrency delays) where
  length_eq := length_continueWith [] delays
  start_eq i h := by
    have started := start_continueWith (width_pos concurrency) (List.getElem?_eq_getElem h)
    rwa [List.nil_append, List.length_nil, Nat.zero_add] at started
  finish_eq i h :=
    finish_continueWith (List.getElem?_eq_getElem h) (List.getElem?_eq_getElem _)

namespace IsSchedule

variable {delays : List Nat} {spans : List Span}

lemma pairwise_start (sch : IsSchedule window delays spans) :
    spans.Pairwise fun a b => a.start ≤ b.start := by
  rw [List.pairwise_iff_getElem]
  intro i j hi hj lt
  rw [sch.start_eq i hi, sch.start_eq j hj]
  exact latest_take_le (by omega) _

/-- A task is over when another starts that comes at least the width of the window after it. -/
lemma finish_le_start (sch : IsSchedule window delays spans) {i j : Nat} (hi : i < spans.length)
    (hj : j < spans.length) (apart : j + window ≤ i) : spans[j].finish ≤ spans[i].start := by
  rw [sch.start_eq i hi]
  refine le_latest (List.mem_take_iff_getElem.2 ⟨j, ?_, List.getElem_map _⟩)
  rw [List.length_map]
  omega

end IsSchedule

/-- If tasks that are `window` places apart never overlap, at most that many are under way at
once. -/
lemma countP_isUnderWay_le_of_apart (pos : 0 < window) {spans : List Span} (time : Nat)
    (apart : ∀ i j (hi : i < spans.length) (hj : j < spans.length), j + window ≤ i →
      spans[j].finish ≤ spans[i].start) :
    spans.countP (Span.isUnderWay time) ≤ window := by
  induction spans using List.reverseRecOn with
  | nil => exact Nat.zero_le window
  | append_singleton spans span ih =>
    have before := ih fun i j hi hj le => by
      have := apart i j (by simp; omega) (by simp; omega) le
      rwa [List.getElem_append_left hi, List.getElem_append_left hj] at this
    rw [List.countP_append, List.countP_singleton]
    split
    case isFalse => exact before
    case isTrue underWay =>
      rw [← List.take_append_drop (spans.length + 1 - window) spans, List.countP_append]
      -- the last `window - 1` tasks before may be under way, all others are over
      have past : (spans.take (spans.length + 1 - window)).countP (Span.isUnderWay time) = 0 := by
        refine List.countP_eq_zero.2 fun other mem => ?_
        obtain ⟨j, hj, rfl⟩ := List.mem_take_iff_getElem.1 mem
        have ended := apart spans.length j (by simp) (by simp; omega) (by omega)
        rw [List.getElem_append_left (by omega), List.getElem_concat_length rfl] at ended
        simp only [Span.isUnderWay, Bool.and_eq_true, decide_eq_true_eq] at underWay ⊢
        omega
      have rest : (spans.drop (spans.length + 1 - window)).countP (Span.isUnderWay time) ≤
          spans.length - (spans.length + 1 - window) :=
        List.length_drop ▸ List.countP_le_length
      omega

lemma IsSchedule.countP_isUnderWay_le {delays : List Nat} {spans : List Span}
    (sch : IsSchedule window delays spans) (pos : 0 < window) (time : Nat) :
    spans.countP (Span.isUnderWay time) ≤ window :=
  countP_isUnderWay_le_of_apart pos time fun _ _ hi hj => sch.finish_le_start hi hj

/-! ## Wider windows and shorter tasks -/

lemma width_mono {c c' : Nat} (h : c ≤ c') : width c ≤ width c' :=
  max_le_max (Nat.le_refl 1) h

lemma continueWith_mono {window' : Nat} (wider : window ≤ window') {ends ends' : List Nat}
    (sooner : List.Forall₂ (· ≤ ·) ends' ends) {delays delays' : List Nat}
    (shorter : List.Forall₂ (· ≤ ·) delays' delays) :
    List.Forall₂ Span.NoLater (continueWith window' ends' delays')
      (continueWith window ends delays) := by
  induction shorter generalizing ends ends' with
  | nil => exact .nil
  | @cons delay' delay delays' delays shorter _ ih =>
    have start : latest (ends'.take (ends'.length + 1 - window')) ≤
        latest (ends.take (ends.length + 1 - window)) := by
      rw [sooner.length_eq]
      exact Nat.le_trans (latest_take_le (by omega) ends')
        (latest_mono (List.forall₂_take _ sooner))
    have finish := Nat.add_le_add start shorter
    exact .cons ⟨start, finish⟩ (ih (List.rel_append sooner (.cons finish .nil)))

/-! ## How long tasks take together -/

lemma latest_continueWith_one (ends delays : List Nat) :
    latest (ends ++ (continueWith 1 ends delays).map Span.finish) = latest ends + delays.sum := by
  induction delays generalizing ends with
  | nil => simp [continueWith]
  | cons delay delays ih =>
    have whole := ih (ends ++ [latest (ends.take (ends.length + 1 - 1)) + delay])
    rw [List.append_assoc, List.singleton_append] at whole
    rw [continueWith, List.map_cons, whole, latest_concat, Nat.add_sub_cancel, List.take_length,
      List.sum_cons]
    omega

/-- One after the other. -/
lemma duration_of_one_at_a_time {concurrency : Nat} (h : concurrency ≤ 1) (delays : List Nat) :
    duration (of concurrency delays) = delays.sum := by
  have one : width concurrency = 1 := Nat.max_eq_left h
  have whole := latest_continueWith_one [] delays
  rwa [List.nil_append, latest_nil, Nat.zero_add, ← one] at whole

lemma continueWith_of_wide {ends delays : List Nat} (wide : ends.length + delays.length ≤ window) :
    continueWith window ends delays = delays.map (Span.mk 0) := by
  induction delays generalizing ends with
  | nil => rfl
  | cons delay delays ih =>
    rw [List.length_cons] at wide
    have first : ends.length + 1 - window = 0 := by omega
    rw [continueWith, first, List.take_zero, latest_nil, Nat.zero_add, List.map_cons, ih]
    rw [List.length_append, List.length_singleton]
    omega

/-- All at once. -/
lemma duration_of_all_at_once {concurrency : Nat} {delays : List Nat}
    (h : delays.length ≤ concurrency) : duration (of concurrency delays) = latest delays := by
  have wide : ([] : List Nat).length + delays.length ≤ width concurrency := by
    rw [List.length_nil, Nat.zero_add]
    exact Nat.le_trans h (Nat.le_max_right 1 concurrency)
  rw [of, continueWith_of_wide wide, duration, List.map_map]
  exact congrArg latest (List.map_id delays)

end Timeline

end Overdue
