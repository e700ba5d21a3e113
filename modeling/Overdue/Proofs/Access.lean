import Overdue.Proofs.CommandLine.Arguments
import Overdue.Proofs.Program
import Overdue.Proofs.Tracker.Authorization

/-!
# Access

The token comes from an option or from an input. The option is taken as soon as it is set at all, and
a token that is blank grants no access. So a run sends what the sources grant unless the option is
set to a blank text, which hides the input (`Execution.authorized_iff`).
-/

namespace Overdue

/-- What an option is set to: by the arguments, or else by a variable. -/
inductive Parameter.IsSetTo (p : Parameter) (key : String) (env : Environment)
    (arguments : List String) : Option String → Prop where
  | given {value : String} : p.Gives value arguments → IsSetTo p key env arguments (some value)
  | silent : (∀ value, ¬p.Gives value arguments) → IsSetTo p key env arguments (env key)

namespace Settings

/-- The token that two sources grant: the first one that is not blank. -/
def granted (option input : Option String) : Option String :=
  (option.bind unlessBlank).or (input.bind unlessBlank)

/-- A source is set to a blank text. -/
def IsBlank (source : Option String) : Prop :=
  ∃ text, source = some text ∧ Text.allBlank text.toList

/-- A run comes to file issues: that is asked for, there is a repository, the report succeeds, and
something is expired. -/
structure IsToFile (s : Settings) (world : World) (hosting : Hosting) : Prop where
  wanted : s.createIssues
  told : s.hosting = .ok (some hosting)
  works : ¬s.Fails world
  summarizes : ¬s.CannotSummarize world
  expired : ∃ f ∈ s.found world, f.expired

/-- Something that may be asked for is found on the server. -/
def Reaches (s : Settings) (world : World) (hosting : Hosting) : Prop :=
  ∃ call, Filing.Asks (s.found world) call ∧
    (Client.targetOn? world.server.address
      ((Client.of s.apiUrl "" hosting).addressOf call)).isSome

variable {s : Settings} {env : Environment} {arguments : List String} {world : World}
  {hosting : Hosting} {option input : Option String} {token : String}

/-! ## Tokens -/

lemma token_ofChoices {choices : Choices} (h : ofChoices choices env = .ok s) :
    s.token = chosenToken choices env := by
  rw [ofChoices] at h
  split at h
  case h_1 =>
    cases h
    rfl
  case h_2 =>
    obtain ⟨_, -, made⟩ := exists_of_bind_eq_ok h
    cases made
    rfl

lemma token_eq (accepted : read env arguments = .ok s)
    (set : Parameter.token.IsSetTo "GITHUB_TOKEN" env arguments option) :
    s.token = (option.or (env "INPUT_GITHUB-TOKEN")).bind unlessBlank := by
  obtain ⟨choices, chosen, made⟩ := exists_of_bind_eq_ok accepted
  have given := Choices.ofArguments_spec Parameter.isVerbatim_token chosen
  have same : choices.token.or (env "GITHUB_TOKEN") = option := by
    cases set with
    | given gives => rw [(given _).2 gives, Option.some_or]
    | silent silent =>
      have none : choices.token = none :=
        Option.eq_none_iff_forall_ne_some.2 fun value chosen => silent value ((given value).1 chosen)
      rw [none, Option.none_or]
  rw [token_ofChoices (mapError_eq_ok made), chosenToken, same]

lemma token_of_isBlank (blank : IsBlank option) :
    (option.or input).bind unlessBlank = none := by
  obtain ⟨text, rfl, blank⟩ := blank
  rw [Option.some_or, Option.bind_some, unlessBlank, if_pos blank]

lemma token_of_not_isBlank (solid : ¬IsBlank option) :
    (option.or input).bind unlessBlank = granted option input := by
  cases option with
  | none => rfl
  | some text =>
    have solid : ¬Text.allBlank text.toList := fun blank => solid ⟨text, rfl, blank⟩
    rw [granted, Option.some_or, Option.bind_some, unlessBlank, if_neg solid, Option.some_or]

lemma ne_empty_of_unlessBlank {source : Option String} (h : source.bind unlessBlank = some token) :
    token ≠ "" := by
  rintro rfl
  obtain ⟨text, -, kept⟩ := Option.bind_eq_some_iff.1 h
  obtain ⟨solid, same⟩ := Option.ite_none_left_eq_some.1 kept
  obtain rfl := Option.some.inj same
  exact solid rfl

lemma unlessBlank_of_granted (h : granted option input = some token) :
    option.bind unlessBlank = some token ∨ input.bind unlessBlank = some token :=
  (Option.or_eq_some_iff.1 h).imp id And.right

/-! ## Requests -/

lemma file_of_none (none : s.token = none) (server : Server) (findings : List Finding) :
    s.file (some hosting) server findings = [] := by
  rw [file.eq_def, none]
  split
  case h_1 given _ => cases given
  case h_2 => rfl

lemma file_of_token (wanted : s.createIssues) (given : s.token = some token) (server : Server)
    (findings : List Finding) :
    s.file (some hosting) server findings = Exchange.allRequests
      ((Filing.of (.of s.apiUrl token hosting) hosting s.labels).run server [] findings).sent := by
  rw [file.eq_def, wanted, given]

lemma IsToFile.requests_run (h : s.IsToFile world hosting) :
    (s.run world).requests = s.file (some hosting) world.server (s.found world) := by
  obtain ⟨files, summarized, -⟩ := exists_summarize_eq_ok h.summarizes
  rw [run_of_not_fails h.works, summarized, h.told]
  rfl

lemma isSome_request?_iff_of_isSolid {server : String} {call : Call} (solid : IsSolid token) :
    ((Client.of s.apiUrl token hosting).request? server call).isSome ↔
      (Client.targetOn? server ((Client.of s.apiUrl "" hosting).addressOf call)).isSome := by
  have usable : (Client.of s.apiUrl token hosting).hasUsableToken :=
    Client.hasUsableToken_of_isSolid solid
  rw [Client.isSome_request?_iff, and_iff_left usable]
  rfl

lemma IsToFile.expired_ne_nil (h : s.IsToFile world hosting) :
    (s.found world).filter Finding.expired ≠ [] := by
  obtain ⟨f, mem, expired⟩ := h.expired
  exact List.ne_nil_of_mem (List.mem_filter.2 ⟨mem, expired⟩)

lemma IsToFile.requests_of_token (h : s.IsToFile world hosting) (given : s.token = some token)
    (solid : IsSolid token) (ne_empty : token ≠ "") :
    ((s.run world).requests ≠ [] ↔ s.Reaches world hosting) ∧
      ∀ r ∈ (s.run world).requests, r.authorization = "Bearer " ++ token := by
  rw [h.requests_run, file_of_token h.wanted given]
  constructor
  · rw [Filing.allRequests_run_ne_nil_iff h.expired_ne_nil, Reaches]
    simp only [Filing.of, isSome_request?_iff_of_isSolid solid]
  · intro r mem
    rw [Filing.authorization_of_mem_run r mem]
    exact Client.authorization_of_isSolid solid ne_empty

end Settings

namespace Execution

open Settings

variable {env : Environment} {arguments : List String} {settings : Settings} {world : World}
  {hosting : Hosting} {option : Option String}

/-- What a run sends that comes to file issues. Without a token it sends nothing. With the one that
the sources grant it sends requests to a server that it reaches, all with that token, unless the
option is set to a blank text: then the input counts for nothing. -/
theorem authorized_iff (accepted : Settings.read env arguments = .ok settings)
    (set : Parameter.token.IsSetTo "GITHUB_TOKEN" env arguments option)
    (files : settings.IsToFile world hosting)
    (solid : ∀ token, option.bind unlessBlank = some token ∨
      (env "INPUT_GITHUB-TOKEN").bind unlessBlank = some token → IsSolid token) :
    let requests := (of env arguments world).requests
    (granted option (env "INPUT_GITHUB-TOKEN") = none → requests = []) ∧
    (IsBlank option → requests = []) ∧
    ∀ token, granted option (env "INPUT_GITHUB-TOKEN") = some token →
      ((requests ≠ [] ∧ ∀ r ∈ requests, r.authorization = "Bearer " ++ token) ↔
        ¬IsBlank option ∧ settings.Reaches world hosting) := by
  intro requests
  have run : requests = (settings.run world).requests :=
    congrArg Execution.requests (of_eq_ofRun accepted world)
  have token := token_eq accepted set
  have nothing (none : settings.token = none) : requests = [] := by
    rw [run, files.requests_run, file_of_none none]
  have hidden (blank : IsBlank option) : requests = [] :=
    nothing (token.trans (token_of_isBlank blank))
  by_cases blank : IsBlank option
  · refine ⟨fun _ => hidden blank, hidden, fun t _ => ?_⟩
    simp [hidden blank, blank]
  · have token := token.trans (token_of_not_isBlank blank)
    refine ⟨fun none => nothing (token.trans none), hidden, fun t some => ?_⟩
    have source := unlessBlank_of_granted some
    have ne_empty : t ≠ "" := source.elim ne_empty_of_unlessBlank ne_empty_of_unlessBlank
    obtain ⟨sends, authorized⟩ :=
      files.requests_of_token (token.trans some) (solid t source) ne_empty
    rw [run, and_iff_left authorized, and_iff_right blank, sends]

/-- A tree with a finding that expired long ago, and a tracker without issues. -/
def expiredWorld : World where
  files := ⟨[], []⟩
  git := {
    search := ⟨Text.Utf8.encode "a.py\x001\x00# TODO [2021-10-10]: x\n", [], .exited 0⟩
    blame := fun _ _ => ⟨Text.Utf8.encode
      "bbbbbbbbbbbbbbbbbbbbbbbbbbbbbbbbbbbbbbbb 1\nauthor B\ncommitter-time 1683763200", [],
      .exited 0⟩ }
  server := {
    address := "http://t"
    page := Server.pages (.answered 200 "[]") fun _ => .answered 404 "no such commit"
    creation := fun _ => .answered 201 "\x7b\"number\":1\x7d" }
  today := ⟨2024, 1, 1, by decide⟩

/-- Variables that have issues filed, with two sources of a token. -/
def filingEnvironment (token input : Option String) : Environment
  | "GITHUB_TOKEN" => token
  | "INPUT_GITHUB-TOKEN" => input
  | "INPUT_CREATE-ISSUES" => some "true"
  | "GITHUB_REPOSITORY" => some "o/r"
  | "GITHUB_API_URL" => some "http://t"
  | _ => none

/-- The settings that they make up. -/
def filingSettings (token : Option String) : Settings where
  repoRoot := "."
  concurrency := 16
  timeout := 300
  today := none
  format := .text
  summaryFile := none
  createIssues := true
  token := token
  repository := some "o/r"
  revision := "HEAD"
  serverUrl := "https://github.com"
  apiUrl := "http://t"
  labels := ["expired-todo"]
  verbose := false

lemma isToFile_filingSettings (token : Option String) :
    (filingSettings token).IsToFile expiredWorld ⟨"https://github.com", "o", "r", "HEAD"⟩ where
  wanted := rfl
  told := by
    have told : (filingSettings none).hosting =
        .ok (some ⟨"https://github.com", "o", "r", "HEAD"⟩) := by decide +kernel
    exact told
  works := by
    rintro (⟨text, told, -, unnamed⟩ | rootless | unsearchable | late)
    · cases told
      exact unnamed ['o'] ['r'] ⟨rfl, by decide, by decide⟩
    · have there : expiredWorld.files.isDirectory "." = true := by decide +kernel
      exact Bool.false_ne_true (rootless.symm.trans there)
    · exact unsearchable ⟨rfl, .inl rfl⟩
    · have inTime : ¬(filingSettings none).IsLate expiredWorld := by decide +kernel
      exact inTime late
  summarizes := by
    rintro ⟨_, ⟨⟩, -⟩
  expired := by
    have expired : ∃ f ∈ (filingSettings none).found expiredWorld, f.expired := by decide +kernel
    exact expired

theorem authorized_iff_of_input :
    let requests := (of (filingEnvironment none (some "k")) [] expiredWorld).requests
    requests ≠ [] ∧ ∀ r ∈ requests, r.authorization = "Bearer k" := by
  have accepted : Settings.read (filingEnvironment none (some "k")) [] =
      .ok (filingSettings (some "k")) := by decide +kernel
  have solid : ∀ token, (none : Option String).bind unlessBlank = some token ∨
      (some "k").bind unlessBlank = some token → IsSolid token := by
    rintro token (⟨⟨⟩⟩ | granted)
    obtain rfl : "k" = token := Option.some.inj granted
    simp [IsSolid]
  have spec := authorized_iff accepted (.silent nofun) (isToFile_filingSettings _) solid
  exact (spec.2.2 "k" rfl).2 ⟨nofun, .issues, .issues, by decide +kernel⟩

/-- An option that is set to the empty text hides an input that could be used. -/
theorem requests_of_blank_option : ∃ env arguments settings option world hosting,
    Settings.read env arguments = .ok settings ∧
    Parameter.token.IsSetTo "GITHUB_TOKEN" env arguments option ∧
    settings.IsToFile world hosting ∧ settings.Reaches world hosting ∧
    option = some "" ∧ env "INPUT_GITHUB-TOKEN" = some "k" ∧ IsSolid "k" ∧
    granted option (env "INPUT_GITHUB-TOKEN") = some "k" ∧
    (of env arguments world).requests = [] := by
  have accepted : Settings.read (filingEnvironment (some "") (some "k")) [] =
      .ok (filingSettings none) := by decide +kernel
  have files := isToFile_filingSettings none
  have nothing : ((filingSettings none).run expiredWorld).requests = [] := by
    rw [files.requests_run, file_of_none rfl]
  refine ⟨_, _, _, some "", _, _, accepted, .silent nofun, files, ⟨.issues, .issues, ?_⟩, rfl, rfl,
    by simp [IsSolid], rfl, ?_⟩
  · decide +kernel
  · rw [of_eq_ofRun accepted]
    exact nothing

end Execution

end Overdue
