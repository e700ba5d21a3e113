import Mathlib.Data.List.Basic
import Overdue.Program
import Overdue.Proofs.Files
import Overdue.Proofs.Git.Scan
import Overdue.Proofs.Tracker.Hosting

/-!
# How a run ends

A run fails before its report for four reasons, and then nothing has come of it. Otherwise it reports
what it finds, and fails only if the summary cannot be written. Whatever the tracker answers, the
report, the files and the exit code are the same.
-/

namespace Overdue

/-! ## Runs -/

/-- A run ends before its report, and nothing has come of it. -/
structure Run.IsRefused (world : World) (r : Run) : Prop where
  result : ∃ e, r.result = .error e
  output : r.output = ""
  files : r.files = world.files
  requests : r.requests = []

/-- A run ends with code 1 just if it counts findings that are expired. -/
lemma Run.exitCode_eq_one_iff {r : Run} : r.exitCode = 1 ↔ 0 < r.expiredCount := by
  rw [exitCode, expiredCount]
  cases r.result with
  | error e => simp
  | ok findings =>
    dsimp only
    rw [countExpired, List.countP_pos_iff, ← List.any_eq_true, ← anyExpired]
    cases anyExpired findings <;> decide

namespace Settings

variable {s : Settings} {world : World} {hosting : Option Hosting} {findings : List Finding}

/-- The repository is told by a text that names none. -/
def IsMalformed (s : Settings) : Prop :=
  ∃ text, s.repository = some text ∧ text ≠ "" ∧
    ∀ owner name, ¬Hosting.IsOwnerAndName text.toList owner name

/-- The lookups are not over by the end of the time that a run may take. -/
def IsLate (s : Settings) (world : World) : Prop :=
  (Duration.ofSeconds s.timeout).milliseconds <
    Timeline.duration ((s.survey world.today).timeline world.git.history
      (Survey.annotated (Git.candidates world.git.search.text)))

instance (s : Settings) (world : World) : Decidable (s.IsLate world) :=
  inferInstanceAs (Decidable (_ < _))

/-- Why a run has nothing to report. -/
inductive Fails (s : Settings) (world : World) : Prop where
  | malformed : s.IsMalformed → Fails s world
  | rootless : world.files.isDirectory s.repoRoot = false → Fails s world
  | unsearchable : ¬world.git.CanSearch → Fails s world
  | late : s.IsLate world → Fails s world

/-- What there is to report. -/
def found (s : Settings) (world : World) : List Finding :=
  Finding.byUrgency (Survey.kept (s.today.getD world.today) (Survey.records world.git.history)
    (Git.candidates world.git.search.text))

/-- There is a summary file, and no place where it can be written. -/
def CannotSummarize (s : Settings) (world : World) : Prop :=
  ∃ file, s.summaryFile = some file ∧ ∀ place, ¬world.files.IsWritable file place

lemma exists_hosting_eq_error_iff : (∃ e, s.hosting = .error e) ↔ s.IsMalformed := by
  rw [IsMalformed, hosting]
  cases s.repository with
  | none => simp
  | some text =>
    rcases eq_or_ne text "" with rfl | nonempty
    · simp
    · cases named : Hosting.ownerAndName? text.toList with
      | none =>
        simp [Hosting.named, named, nonempty, ← Hosting.ownerAndName?_eq_some_iff, Except.map]
      | some pair =>
        obtain ⟨owner, name⟩ := pair
        simp [Hosting.named, named, nonempty, ← Hosting.ownerAndName?_eq_some_iff, Except.map]

lemma isRefused_failed (world : World) (e : Fatal) : (Run.failed world e).IsRefused world :=
  ⟨⟨e, rfl⟩, rfl, rfl, rfl⟩

lemma run_of_malformed (h : s.IsMalformed) : ∃ e, s.run world = .failed world e := by
  obtain ⟨e, malformed⟩ := exists_hosting_eq_error_iff.2 h
  exact ⟨_, by rw [run, malformed]⟩

lemma run_of_rootless (h : world.files.isDirectory s.repoRoot = false) :
    ∃ e, s.run world = .failed world e := by
  rw [run]
  cases s.hosting with
  | error e => exact ⟨_, rfl⟩
  | ok hosting => exact ⟨.rootNotFound s.repoRoot, by simp [h]⟩

lemma isRefused_of_scan {cause : Git.ScanError}
    (h : (world.git.scan (s.survey world.today)).result = .error cause) :
    (s.run world).IsRefused world := by
  rw [run]
  cases s.hosting with
  | error e => exact isRefused_failed world _
  | ok hosting =>
    dsimp only
    split
    case isTrue =>
      rw [h]
      exact ⟨⟨_, rfl⟩, rfl, rfl, rfl⟩
    case isFalse => exact isRefused_failed world _

lemma isRefused_of_fails (h : s.Fails world) : (s.run world).IsRefused world := by
  cases h with
  | malformed h =>
    obtain ⟨e, failed⟩ := run_of_malformed h
    rw [failed]
    exact isRefused_failed world e
  | rootless h =>
    obtain ⟨e, failed⟩ := run_of_rootless h
    rw [failed]
    exact isRefused_failed world e
  | unsearchable h =>
    obtain ⟨e, failed, -⟩ := Git.Repository.exists_scan_eq_error h (s.survey world.today)
    exact isRefused_of_scan failed
  | late h =>
    -- the lookups that would be late are made only after the search
    by_cases searchable : world.git.CanSearch
    · have failed : (world.git.scan (s.survey world.today)).result =
          .error (.deadline (.ofSeconds s.timeout)) := by
        rw [Git.Repository.scan_result searchable, Survey.run_of_late rfl h]
        rfl
      exact isRefused_of_scan failed
    · obtain ⟨e, failed, -⟩ :=
        Git.Repository.exists_scan_eq_error searchable (s.survey world.today)
      exact isRefused_of_scan failed

/-- A run that has something to report goes on to its summary. -/
lemma run_of_not_fails (h : ¬s.Fails world) :
    s.run world =
      match s.summarize s.hosting.toOption.join world.files (s.found world) with
      | .error e =>
        { Run.failed world e with
          output := s.format.report s.hosting.toOption.join (s.found world)
          commands := (world.git.scan (s.survey world.today)).commands }
      | .ok files =>
        { output := s.format.report s.hosting.toOption.join (s.found world)
          files
          commands := (world.git.scan (s.survey world.today)).commands
          requests := s.file s.hosting.toOption.join world.server (s.found world)
          result := .ok (s.found world) } := by
  have searchable : world.git.CanSearch := by
    by_contra not
    exact h (.unsearchable not)
  have scanned : (world.git.scan (s.survey world.today)).result = .ok (s.found world) := by
    have inTime : world.git.IsInTime (s.survey world.today) := by
      intro deadline given
      cases given
      exact Nat.le_of_not_lt fun late => h (.late late)
    rw [Git.Repository.scan_result_of_isInTime searchable inTime]
    rfl
  have root : world.files.isDirectory s.repoRoot = true := by
    rw [← Bool.not_eq_false]
    exact fun rootless => h (.rootless rootless)
  rw [run]
  cases told : s.hosting with
  | error e => exact absurd (.malformed (exists_hosting_eq_error_iff.1 ⟨e, told⟩)) h
  | ok hosting =>
    dsimp only
    rw [if_pos root, scanned]
    rfl

lemma exists_summarize_eq_error (h : s.CannotSummarize world) :
    ∃ e, s.summarize hosting world.files findings = .error e := by
  obtain ⟨file, told, nowhere⟩ := h
  rw [summarize, told]
  dsimp only
  rcases world.files.append_spec file (Markdown.text hosting findings) with
    ⟨place, _, writable, -⟩ | ⟨⟨e, failed⟩, -⟩
  · exact absurd writable (nowhere place)
  · exact ⟨.summary file e, by rw [failed]; rfl⟩

lemma exists_summarize_eq_ok (h : ¬s.CannotSummarize world) :
    ∃ files, s.summarize hosting world.files findings = .ok files ∧
      (s.summaryFile = none → files = world.files) ∧
      ∀ file, s.summaryFile = some file → ∃ place, world.files.IsWritable file place ∧
        world.files.Appends place (Markdown.text hosting findings) files := by
  rw [summarize]
  cases told : s.summaryFile with
  | none =>
    refine ⟨world.files, rfl, fun _ => rfl, ?_⟩
    rintro file ⟨⟩
  | some file =>
    dsimp only
    rcases world.files.append_spec file (Markdown.text hosting findings) with
      ⟨place, files, writable, appended, appends⟩ | ⟨-, nowhere⟩
    · rw [appended]
      refine ⟨files, rfl, ?_, ?_⟩
      · rintro ⟨⟩
      · rintro _ ⟨⟩
        exact ⟨place, writable, appends⟩
    · exact absurd ⟨file, told, nowhere⟩ h

/-- What the tracker answers decides nothing but the requests. -/
lemma run_of_server (s : Settings) (world : World) (server : Server) :
    s.run { world with server } =
      { s.run world with requests := (s.run { world with server }).requests } := by
  rw [run, run]
  dsimp only
  cases s.hosting with
  | error e => rfl
  | ok hosting =>
    dsimp only
    split
    case isFalse => rfl
    case isTrue =>
      cases (world.git.scan (s.survey world.today)).result with
      | error e => rfl
      | ok findings =>
        dsimp only
        cases s.summarize hosting world.files findings <;> rfl

end Settings

/-! ## The program -/

namespace Execution

variable {env : Environment} {arguments : List String} {settings : Settings}

lemma of_eq_ofRun (accepted : Settings.read env arguments = .ok settings) (world : World) :
    of env arguments world = ofRun (settings.run world) := by
  rw [of, accepted]

lemma exitCode_ofRun {r : Run} {findings : List Finding} (h : r.result = .ok findings) :
    (ofRun r).exitCode = if anyExpired findings then 1 else 0 := by
  rw [ofRun, Run.exitCode, h]

lemma exitCode_ofRun_of_error {r : Run} (h : ∃ e, r.result = .error e) :
    (ofRun r).exitCode = 2 := by
  obtain ⟨e, failed⟩ := h
  rw [ofRun, Run.exitCode, failed]

lemma ofRun_with_requests (r : Run) (requests : List Request) :
    (ofRun { r with requests }).output = (ofRun r).output ∧
      (ofRun { r with requests }).files = (ofRun r).files ∧
      (ofRun { r with requests }).exitCode = (ofRun r).exitCode :=
  ⟨rfl, rfl, rfl⟩

/-- The program with settings that it accepts. If the run fails before its report, nothing has come
of it, and git was not even run if the repository is malformed or the root is missing. Otherwise the
report is written; the summary is appended if there is a place for it, and the exit code tells whether
something is expired. What the tracker answers has no part in any of it. -/
theorem of_spec (accepted : Settings.read env arguments = .ok settings) (world : World) :
    let e := of env arguments world
    let hosting := settings.hosting.toOption.join
    let findings := settings.found world
    (settings.Fails world →
      e.exitCode = 2 ∧ e.output = "" ∧ e.files = world.files ∧ e.requests = []) ∧
    (settings.IsMalformed ∨ world.files.isDirectory settings.repoRoot = false →
      e.commands = []) ∧
    (¬settings.Fails world →
      e.output =
        (match settings.format with
        | .text => Table.text findings
        | .json => Finding.records findings ++ "\n"
        | .markdown => Markdown.text hosting findings) ∧
      (settings.CannotSummarize world →
        e.exitCode = 2 ∧ e.files = world.files ∧ e.requests = []) ∧
      (¬settings.CannotSummarize world →
        (settings.summaryFile = none → e.files = world.files) ∧
        (∀ file, settings.summaryFile = some file → ∃ place,
          world.files.IsWritable file place ∧
          world.files.Appends place (Markdown.text hosting findings) e.files) ∧
        ((∃ f ∈ findings, f.expired) → e.exitCode = 1) ∧
        ((∀ f ∈ findings, ¬f.expired) → e.exitCode = 0))) ∧
    ∀ server, let e' := of env arguments { world with server }
      e'.output = e.output ∧ e'.files = e.files ∧ e'.exitCode = e.exitCode := by
  intro e hosting findings
  have eq : e = ofRun (settings.run world) := of_eq_ofRun accepted world
  rw [eq]
  refine ⟨fun fails => ?_, fun early => ?_, fun works => ?_, fun server => ?_⟩
  · have refused := Settings.isRefused_of_fails fails
    exact ⟨exitCode_ofRun_of_error refused.result, refused.output, refused.files, refused.requests⟩
  · obtain ⟨e, failed⟩ : ∃ e, settings.run world = .failed world e := by
      rcases early with malformed | rootless
      · exact Settings.run_of_malformed malformed
      · exact Settings.run_of_rootless rootless
    rw [failed]
    rfl
  · have run := Settings.run_of_not_fails works
    refine ⟨?_, fun cannot => ?_, fun can => ?_⟩
    · rw [ofRun, run]
      split <;> rfl
    · obtain ⟨e, failed⟩ := Settings.exists_summarize_eq_error cannot
      rw [failed] at run
      rw [run]
      exact ⟨rfl, rfl, rfl⟩
    · obtain ⟨files, summarized, none, some⟩ := Settings.exists_summarize_eq_ok can
      rw [summarized] at run
      have code : (ofRun (settings.run world)).exitCode = if anyExpired findings then 1 else 0 :=
        exitCode_ofRun (by rw [run])
      rw [code, ofRun, run]
      refine ⟨none, some, fun expired => ?_, fun alive => ?_⟩
      · exact if_pos (List.any_eq_true.2 expired)
      · refine if_neg ?_
        rw [anyExpired, List.any_eq_true]
        rintro ⟨f, m, expired⟩
        exact alive f m expired
  · intro e'
    have eq' : e' = ofRun (settings.run { world with server }) := of_eq_ofRun accepted _
    rw [eq', settings.run_of_server]
    exact ofRun_with_requests _ _

/-- Runs that find one expired note, one for each form of the report, and a run whose repository is
malformed. -/
theorem of_spec_of_expired_finding :
    let env : Environment := fun key =>
      if key = "GITHUB_STEP_SUMMARY" then some "out.md"
      else if key = "GITHUB_REPOSITORY" then some "o/r" else none
    let world : World := {
      files := ⟨[(["out.md"], .file "old\n")], []⟩
      git := {
        search := ⟨Text.Utf8.encode "a.py\x001\x00# TODO [2021-10-10]: x | y\n", [], .exited 0⟩
        blame := fun _ _ => ⟨Text.Utf8.encode
          "bbbbbbbbbbbbbbbbbbbbbbbbbbbbbbbbbbbbbbbb 1\nauthor B\ncommitter-time 1683763200", [],
          .exited 0⟩ }
      server := ⟨"", fun _ => .dropped, fun _ => .dropped⟩
      today := ⟨2024, 1, 1, by decide⟩ }
    let settings (format : Format) (repository : String) : Settings := {
      repoRoot := "."
      concurrency := 16
      timeout := 300
      today := none
      format
      summaryFile := some "out.md"
      createIssues := false
      token := none
      repository := some repository
      revision := "HEAD"
      serverUrl := "https://github.com"
      apiUrl := "https://api.github.com"
      labels := ["expired-todo"]
      verbose := false }
    let summary :=
      "## :heavy_check_mark: TODO Comments\n\n" ++
      "| Deadline :alarm_clock: | Type :pencil2: | Comment :memo: | File :link: | " ++
      "Updated :date: | Author :sunglasses: |\n" ++
      "| --- | --- | --- | --- | --- | --- |\n" ++
      "| :bomb: 2021-10-10 | TODO | x \\| y | [a.py:1](https://github.com/o/r/blob/HEAD/a.py#L1) " ++
      "| [2023-05-11](https://github.com/o/r/commit/bbbbbbbbbbbbbbbbbbbbbbbbbbbbbbbbbbbbbbbb) | B |\n"
    (∀ format, Settings.read env ["--format", format.name] = .ok (settings format "o/r") ∧
      ¬(settings format "o/r").Fails world ∧ ¬(settings format "o/r").CannotSummarize world) ∧
    (of env ["--format", "text"] world).output =
      "Deadline     Type  Location                                 Updated    " ++
      "Author           Comment\n" ++
      "!2021-10-10  TODO  a.py:1                                   2023-05-11 " ++
      "B                x | y\n" ∧
    (of env ["--format", "json"] world).output =
      "[\n  \x7b\n    \"file\": \"a.py\",\n    \"line\": 1,\n    \"kind\": \"TODO\",\n" ++
      "    \"due_date\": \"2021-10-10\",\n    \"body\": \"x | y\",\n    \"attribution\": \x7b\n" ++
      "      \"revision_id\": \"bbbbbbbbbbbbbbbbbbbbbbbbbbbbbbbbbbbbbbbb\",\n" ++
      "      \"author_name\": \"B\",\n      \"author_contact\": null,\n" ++
      "      \"commit_date\": \"2023-05-11\"\n    \x7d,\n    \"is_expired\": true\n  \x7d\n]\n" ∧
    (of env ["--format", "markdown"] world).output = summary ∧
    (∀ format : Format, let e := of env ["--format", format.name] world
      e.exitCode = 1 ∧ world.files.Appends ["out.md"] summary e.files) ∧
    let e := of env ["--repository", "o.r"] world
    Settings.read env ["--repository", "o.r"] = .ok (settings .text "o.r") ∧
      (settings .text "o.r").IsMalformed ∧
      e.exitCode = 2 ∧ e.output = "" ∧ e.files = world.files ∧ e.requests = [] ∧ e.commands = [] := by
  intro env world settings summary
  have accepted (format : Format) :
      Settings.read env ["--format", format.name] = .ok (settings format "o/r") := by
    cases format <;> rfl
  -- neither what is found nor where it is hosted depends on the form of the report
  let f : Finding := ⟨"a.py", 1, ⟨.todo, some ⟨2021, 10, 10, by decide⟩, "x | y"⟩,
    ⟨"bbbbbbbbbbbbbbbbbbbbbbbbbbbbbbbbbbbbbbbb", "B", none, ⟨2023, 5, 11, by decide⟩⟩, true⟩
  let place : Hosting := ⟨"https://github.com", "o", "r", "HEAD"⟩
  have found : (settings .text "o/r").found world = [f] := by decide +kernel
  have hosted : (settings .text "o/r").hosting = .ok (some place) := by decide +kernel
  have inTime : ¬(settings .text "o/r").IsLate world := by decide +kernel
  have root : world.files.isDirectory "." = true := by decide +kernel
  have works (format : Format) : ¬(settings format "o/r").Fails world := by
    rintro (malformed | rootless | unsearchable | late)
    · obtain ⟨e, failed⟩ := Settings.exists_hosting_eq_error_iff.2 malformed
      cases hosted.symm.trans failed
    · cases root.symm.trans rootless
    · exact unsearchable ⟨rfl, .inl rfl⟩
    · exact inTime late
  have writable : world.files.IsWritable "out.md" ["out.md"] :=
    ⟨by decide +kernel, by decide +kernel⟩
  have can (format : Format) : ¬(settings format "o/r").CannotSummarize world := by
    rintro ⟨_, ⟨⟩, nowhere⟩
    exact nowhere _ writable
  have markdown : Markdown.text (settings .text "o/r").hosting.toOption.join
      ((settings .text "o/r").found world) = summary := by
    rw [found, hosted]
    decide +kernel
  have output (format : Format) := ((of_spec (accepted format) world).2.2.1 (works format)).1
  have ending (format : Format) :
      (of env ["--format", format.name] world).exitCode = 1 ∧
        world.files.Appends ["out.md"] summary
          (of env ["--format", format.name] world).files := by
    obtain ⟨-, -, rest⟩ := (of_spec (accepted format) world).2.2.1 (works format)
    obtain ⟨-, appended, code, -⟩ := rest (can format)
    obtain ⟨place, there, appends⟩ := appended "out.md" rfl
    obtain rfl : place = ["out.md"] := Except.ok.inj (there.1.symm.trans writable.1)
    have expired : ∃ f ∈ (settings .text "o/r").found world, f.expired := by
      rw [found]
      exact ⟨f, List.mem_singleton_self f, rfl⟩
    exact ⟨code expired, markdown ▸ appends⟩
  have malformed : (settings .text "o.r").IsMalformed :=
    Settings.exists_hosting_eq_error_iff.1 ⟨⟨"o.r"⟩, by decide +kernel⟩
  have accepted' : Settings.read env ["--repository", "o.r"] = .ok (settings .text "o.r") := rfl
  obtain ⟨refused, early, -⟩ := of_spec accepted' world
  obtain ⟨code, silent, files, requests⟩ := refused (.malformed malformed)
  refine ⟨fun format => ⟨accepted format, works format, can format⟩, (output .text).trans ?_,
    (output .json).trans ?_, (output .markdown).trans markdown, ending, accepted', malformed, code,
    silent, files, requests, early (.inl malformed)⟩
  · rw [found]
    decide +kernel
  · change Finding.records ((settings .text "o/r").found world) ++ "\n" = _
    rw [found]
    decide +kernel

end Execution

end Overdue
