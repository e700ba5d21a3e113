import Mathlib.Data.List.Basic
import Overdue.Git.Scan
import Overdue.Proofs.Git.Match
import Overdue.Proofs.Survey.Findings

/-!
# Scans and what git answers

A scan fails if git cannot search, and then no line is blamed. Otherwise git is run once for every
candidate with a note, whatever it answers, and its answer about one line has no part in what is
found in the others (`scan_of_agreesBut`).
-/

namespace Overdue

/-- The order of some findings is not changed by what is left out. -/
lemma Finding.filter_byUrgency (p : Finding → Bool) (findings : List Finding) :
    (byUrgency findings).filter p = byUrgency (findings.filter p) :=
  ((isStableSort_byUrgency findings).filter p).unique (isStableSort_byUrgency (findings.filter p))

namespace Git

/-- The path of a candidate holds no NUL. -/
lemma separator_not_mem_file {output : String} {c : Candidate} (h : c ∈ candidates output) :
    Match.separator ∉ c.file.toList := by
  obtain ⟨record, -, found⟩ := List.mem_filterMap.1 h
  obtain ⟨m, read, found⟩ := Option.bind_eq_some_iff.1 found
  obtain ⟨-, made⟩ := Option.ite_none_right_eq_some.1 found
  obtain rfl := Option.some.inj made
  exact Match.separator_not_mem_of_read? read

namespace Repository

variable {r : Repository} {survey : Survey}

/-- Git can be run to search, and ends as it does when matches are found or when there are none. -/
def CanSearch (r : Repository) : Prop :=
  r.present ∧ (r.search.ending = .exited 0 ∨ r.search.ending = .exited 1 ∧ r.search.complaint = [])

lemma run_search (r : Repository) : r.run .search =
    if r.present then .ok r.search else .error (.notStarted .missingDirectory) := by
  rw [run, launchError?, if_neg (by decide)]
  cases r.present <;> rfl

lemma candidates_eq_ok (h : r.CanSearch) : r.candidates = .ok (Git.candidates r.search.text) := by
  obtain ⟨present, well⟩ := h
  have fine : (r.search.succeeded || foundNothing r.search) = true := by
    rcases well with found | ⟨none, silent⟩
    · simp [Reply.succeeded, found]
    · simp [foundNothing, none, silent]
  rw [candidates, run_search, if_pos present]
  exact if_pos fine

lemma exists_candidates_eq_error (h : ¬r.CanSearch) : ∃ e, r.candidates = .error e := by
  rw [candidates, run_search]
  cases present : r.present with
  | false => exact ⟨_, rfl⟩
  | true =>
    have bad : ¬(r.search.succeeded || foundNothing r.search) := by
      intro fine
      refine h ⟨present, ?_⟩
      simpa [Reply.succeeded, foundNothing] using fine
    exact ⟨_, if_neg bad⟩

lemma exists_scan_eq_error (h : ¬r.CanSearch) (survey : Survey) :
    ∃ e, (r.scan survey).result = .error (.enumeration e) ∧
      (r.scan survey).commands = r.started [.search] := by
  obtain ⟨e, failed⟩ := exists_candidates_eq_error h
  rw [scan, failed]
  exact ⟨e, rfl, rfl⟩

lemma scan_result (h : r.CanSearch) (survey : Survey) : (r.scan survey).result =
    (survey.run r.history (Git.candidates r.search.text)).result.mapError .deadline := by
  rw [scan, candidates_eq_ok h]

/-! ## Runs of git -/

lemma launchError?_search (present : r.present) : r.launchError? .search = none := by
  rw [launchError?, if_neg (by decide), if_pos present]

lemma launchError?_blame (present : r.present) {file : String} (line : UInt32)
    (h : Match.separator ∉ file.toList) : r.launchError? (.blame file line) = none := by
  have number : '\x00' ∉ Text.digits line.toNat := Text.not_mem_digits (by decide) _
  have fine : ∀ a ∈ (Command.blame file line).arguments, '\x00' ∉ a.toList := by
    simp only [Command.arguments, List.forall_mem_cons, String.toList_append, String.toList_ofList,
      List.mem_append, not_or]
    exact ⟨by decide, by decide, by decide, ⟨⟨number, by decide⟩, number⟩, by decide, h, by simp⟩
  have none : ¬((Command.blame file line).arguments.any fun a => a.toList.contains '\x00') := by
    simpa using fine
  rw [launchError?, if_neg none, if_pos present]

/-- The lookups of a scan are over by its deadline. -/
def IsInTime (r : Repository) (survey : Survey) : Prop :=
  ∀ deadline ∈ survey.deadline, Timeline.duration (survey.timeline r.history
    (Survey.annotated (Git.candidates r.search.text))) ≤ deadline.milliseconds

lemma scan_result_of_isInTime (searchable : r.CanSearch) (inTime : r.IsInTime survey) :
    (r.scan survey).result = .ok (Finding.byUrgency
      (Survey.kept survey.today (Survey.records r.history) (Git.candidates r.search.text))) := by
  rw [scan_result searchable, Survey.run_result_of_inTime inTime]
  rfl

/-- Git is run to search, and then to blame each candidate with a note. -/
lemma scan_commands (searchable : r.CanSearch) (inTime : r.IsInTime survey) :
    (r.scan survey).commands = .search ::
      ((Git.candidates r.search.text).filter fun c => (Note.read? c.text).isSome).map
        fun c => .blame c.file c.line := by
  rw [scan, candidates_eq_ok searchable]
  change r.started (.search :: _) = _
  rw [Survey.run_started_of_inTime inTime]
  refine List.filter_eq_self.2 (List.forall_mem_cons.2 ⟨?_, fun command mem => ?_⟩)
  · rw [launchError?_search searchable.1]
    rfl
  · obtain ⟨c, noted, rfl⟩ := List.mem_map.1 mem
    have path := separator_not_mem_file (List.mem_filter.1 noted).1
    rw [launchError?_blame searchable.1 _ path]
    rfl

/-- Git answers alike in two working trees, but for blaming one line. How long it takes is left
open. -/
structure AgreesBut (r r' : Repository) (file : String) (line : UInt32) : Prop where
  present : r'.present = r.present
  search : r'.search = r.search
  blame : ∀ f l, (f, l) ≠ (file, line) → r'.blame f l = r.blame f l

namespace AgreesBut

variable {r r' : Repository} {file : String} {line : UInt32}

lemma canSearch_iff (agree : r.AgreesBut r' file line) : r'.CanSearch ↔ r.CanSearch := by
  rw [CanSearch, CanSearch, agree.present, agree.search]

lemma record (agree : r.AgreesBut r' file line) {f : String} {l : UInt32}
    (other : (f, l) ≠ (file, line)) : r'.record f l = r.record f l := by
  have reply : r'.reply (.blame f l) = r.reply (.blame f l) := agree.blame f l other
  rw [Repository.record, Repository.record, run, run, launchError?, launchError?, agree.present,
    reply]

lemma filter_kept (agree : r.AgreesBut r' file line) (today : Date) :
    (Survey.kept today (Survey.records r'.history) (Git.candidates r'.search.text)).filter
        (fun f => (f.file, f.line) ≠ (file, line)) =
      (Survey.kept today (Survey.records r.history) (Git.candidates r.search.text)).filter
        fun f => (f.file, f.line) ≠ (file, line) := by
  have left := fun answer => Survey.filter_kept (fun place => place ≠ (file, line)) today answer
    (Git.candidates r.search.text)
  rw [agree.search, left, left]
  refine Survey.kept_congr (fun c mem => ?_) today
  have other : (c.file, c.line) ≠ (file, line) := of_decide_eq_true (List.mem_filter.1 mem).2
  exact congrArg Except.toOption (agree.record other)

end AgreesBut

/-- What git answers about one line has no part in what a scan finds in the others, nor in the runs
of git, which are a search and one run for every candidate with a note. If git cannot search, the
scan fails and no line is blamed. -/
theorem scan_of_agreesBut {r r' : Repository} {file : String} {line : UInt32}
    (agree : r.AgreesBut r' file line) (survey : Survey) :
    let grep := ["grep", "-I", "-n", "-z", "-i", "-E", "--no-color", "-e", "(TODO|FIXME)"]
    (r.CanSearch → r.IsInTime survey → r'.IsInTime survey → ∃ found found',
      (r.scan survey).result = .ok found ∧ (r'.scan survey).result = .ok found' ∧
      (found'.filter fun f => (f.file, f.line) ≠ (file, line)) =
        (found.filter fun f => (f.file, f.line) ≠ (file, line)) ∧
      (r'.scan survey).commands = (r.scan survey).commands ∧
      (r.scan survey).commands.map Command.arguments = grep ::
        ((Git.candidates r.search.text).filter fun c => (Note.read? c.text).isSome).map fun c =>
          let n := String.ofList (Text.digits c.line.toNat)
          ["blame", "--line-porcelain", "-L", n ++ "," ++ n, "--", c.file]) ∧
    (¬r.CanSearch → ∃ e, (r.scan survey).result = .error (.enumeration e) ∧
      ∀ command ∈ (r.scan survey).commands, command = .search ∧ command.arguments = grep) := by
  intro grep
  refine ⟨fun searchable inTime inTime' => ?_, fun unsearchable => ?_⟩
  · have searchable' := agree.canSearch_iff.2 searchable
    have commands := scan_commands searchable inTime
    have commands' := scan_commands searchable' inTime'
    refine ⟨_, _, scan_result_of_isInTime searchable inTime,
      scan_result_of_isInTime searchable' inTime', ?_, ?_, ?_⟩
    · rw [Finding.filter_byUrgency, Finding.filter_byUrgency, agree.filter_kept]
    · rw [commands, commands', agree.search]
    · rw [commands, List.map_cons, List.map_map]
      rfl
  · obtain ⟨e, failed, commands⟩ := exists_scan_eq_error unsearchable survey
    refine ⟨e, failed, fun command mem => ?_⟩
    rw [commands] at mem
    obtain rfl := List.mem_singleton.1 (List.mem_filter.1 mem).1
    exact ⟨rfl, rfl⟩

theorem scan_of_killed_blame :
    let record : Reply := ⟨Text.Utf8.encode
      "bbbbbbbbbbbbbbbbbbbbbbbbbbbbbbbbbbbbbbbb 1\nauthor B\ncommitter-time 1683763200", [],
      .exited 0⟩
    let search : Reply := ⟨Text.Utf8.encode
      "a.py\x001\x00# TODO: a\na.py\x002\x00# TODO [2020-01-01]: b\na.py\x002\x00# todo: c\n", [],
      .exited 0⟩
    let r : Repository := { search, blame := fun _ _ => record, delay := fun _ _ => 20 }
    let r' : Repository := { search, blame := fun file line =>
      if (file, line) = ("a.py", 2) then ⟨[], [], .killed⟩ else record }
    let survey : Survey :=
      { today := ⟨2024, 1, 1, by decide⟩, concurrency := 2, deadline := some ⟨40⟩ }
    r.AgreesBut r' "a.py" 2 ∧ r.CanSearch ∧ r.IsInTime survey ∧ r'.IsInTime survey ∧
    (∃ found found', (r.scan survey).result = .ok found ∧ (r'.scan survey).result = .ok found' ∧
      (found'.filter fun f => (f.file, f.line) ≠ ("a.py", 2)) =
        found.filter fun f => (f.file, f.line) ≠ ("a.py", 2)) ∧
    (r.scan survey).result.toOption.map List.length = some 3 ∧
    (r'.scan survey).result.toOption.map List.length = some 1 ∧
    (r'.scan survey).commands.map Command.arguments = [
      ["grep", "-I", "-n", "-z", "-i", "-E", "--no-color", "-e", "(TODO|FIXME)"],
      ["blame", "--line-porcelain", "-L", "1,1", "--", "a.py"],
      ["blame", "--line-porcelain", "-L", "2,2", "--", "a.py"],
      ["blame", "--line-porcelain", "-L", "2,2", "--", "a.py"]] ∧
    ¬{ r with present := false }.CanSearch ∧
    ∃ e, ({ r with present := false }.scan survey).result = .error (.enumeration e) := by
  intro record search r r' survey
  have agree : r.AgreesBut r' "a.py" 2 := ⟨rfl, rfl, fun _ _ other => if_neg other⟩
  have searchable : r.CanSearch := ⟨rfl, .inl rfl⟩
  have inTime : r.IsInTime survey := by
    intro deadline given
    cases given
    decide +kernel
  have inTime' : r'.IsInTime survey := by
    intro deadline given
    cases given
    decide +kernel
  have gone : ¬{ r with present := false }.CanSearch := fun h => nomatch h.1
  have itself : { r with present := false }.AgreesBut { r with present := false } "a.py" 2 :=
    ⟨rfl, rfl, fun _ _ _ => rfl⟩
  obtain ⟨found, found', ok, ok', same, commands, arguments⟩ :=
    (scan_of_agreesBut agree survey).1 searchable inTime inTime'
  obtain ⟨e, failed, -⟩ := (scan_of_agreesBut itself survey).2 gone
  rw [← commands] at arguments
  refine ⟨agree, searchable, inTime, inTime', ⟨found, found', ok, ok', same⟩, ?_, ?_,
    arguments.trans ?_, gone, e, failed⟩
  · rw [scan_result_of_isInTime searchable inTime]
    exact congrArg some ((List.length_mergeSort _).trans (by decide +kernel))
  · rw [scan_result_of_isInTime (agree.canSearch_iff.2 searchable) inTime']
    exact congrArg some ((List.length_mergeSort _).trans (by decide +kernel))
  · decide +kernel

end Repository

end Git

end Overdue
