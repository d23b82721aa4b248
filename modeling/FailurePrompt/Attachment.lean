import FailurePrompt.Settings.Builder

/-!
# Attaching prompts to reports

When a test has failed for good, a prompt is attached to its report. A test that passed or will be
run again is left alone. For a final failure the page is asked for an element and the element for
its snapshot, the prompt is built, and if there is one it is attached; each of these steps may
fail, and a failure ends the run. The calls that are made to the page and to the report are
recorded in their order. The main statements say that a run without a final failure makes no calls,
and which calls a run can make.
-/

namespace FailurePrompt

/-- A call to the page or to the report of a test. -/
inductive Call
  | locator (selector : String)
  | ariaSnapshot
  | attach (name body : String)
  deriving Repr, DecidableEq

/-- A test that has been run, with what its page and its report would answer. -/
structure TestRun where
  title : String
  /-- The failure of the test, if it did not pass. -/
  failure : Option Failure
  /-- The number of times that the test has been run again. -/
  retry : Int
  /-- The number of times that the test may be run again. -/
  retries : Int
  /-- Why the page gives no element to take a snapshot of, if it does not. -/
  absence : Option String := none
  /-- The snapshot of the page, or why there is none. -/
  snapshot : Except String String
  /-- Why the report accepts no attachment, if it does not. -/
  refusal : Option String := none

/-- Why a run was broken off. -/
inductive AttachError
  | settings (e : SettingsError)
  | template (e : Template.LoadError)
  | page (reason : String)
  | resolve (e : ResolveError)
  | report (reason : String)
  deriving Repr, DecidableEq

/-- The wording of a broken-off run. -/
def AttachError.message : AttachError → String
  | .settings e => e.message
  | .template e => e.message
  | .page reason => reason
  | .resolve e => e.message
  | .report reason => reason

/-- What comes of a run: the calls that were made, and the attached prompt if there is one. -/
structure AttachOutcome where
  calls : List Call
  result : Except AttachError (Option String)
  notices : List Notice := []

namespace TestRun

/-- The test will be run again. -/
def willBeRetried (run : TestRun) : Bool := run.retry < run.retries

/-- The element whose snapshot stands for the page. -/
def snapshotSelector : String := "html"

/-- Attaches a prompt, unless there is none. -/
def attachPrompt (run : TestRun) (name prompt : String) (notices : List Notice) :
    AttachOutcome :=
  let asked := [Call.locator snapshotSelector, .ariaSnapshot]
  if prompt = "" then
    ⟨asked, .ok none, notices ++ [.attachmentSkipped run.title .promptNotBuildable]⟩
  else
    let calls := asked ++ [.attach name prompt]
    match run.refusal with
    | some reason => ⟨calls, .error (.report reason), notices⟩
    | none =>
      ⟨calls, .ok (some prompt), notices ++ [.promptAttached run.title prompt.length]⟩

/-- Asks for the snapshot of the page, builds the prompt and attaches it. -/
def attachWith (run : TestRun) (files : Files) (builder : PromptBuilder) (name : String)
    (failure : Failure) : AttachOutcome :=
  match run.absence with
  | some reason => ⟨[.locator snapshotSelector], .error (.page reason), []⟩
  | none =>
    let asked := [Call.locator snapshotSelector, .ariaSnapshot]
    match run.snapshot with
    | .error reason => ⟨asked, .error (.page reason), []⟩
    | .ok snapshot =>
      let built := builder.build files run.title failure snapshot
      match built.value with
      | .error e => ⟨asked, .error (.resolve e), built.notices⟩
      | .ok prompt => run.attachPrompt name prompt built.notices

/-- Attaches a prompt to the report of a final failure. Settings that are not given come from the
environment, and a builder that is not given comes from the settings. -/
def attach (run : TestRun) (files : Files) (env : Environment)
    (builder : Option PromptBuilder) (settings : Option Settings) : AttachOutcome :=
  match run.failure with
  | none => ⟨[], .ok none, [.attachmentSkipped run.title .passed]⟩
  | some failure =>
    if run.willBeRetried then ⟨[], .ok none, [.attachmentSkipped run.title .willBeRetried]⟩
    else
      match (settings.map .ok).getD (Settings.ofValues env []) with
      | .error e => ⟨[], .error (.settings e), []⟩
      | .ok settings =>
        match (builder.map .ok).getD (settings.builder files) with
        | .error e => ⟨[], .error (.template e), []⟩
        | .ok builder => run.attachWith files builder settings.attachmentName failure

/-! ### Which calls are made -/

/-- A test that passed or will be run again is left alone. -/
theorem attach_of_not_final {run : TestRun} (files : Files) (env : Environment)
    (builder : Option PromptBuilder) (settings : Option Settings)
    (h : run.failure = none ∨ run.willBeRetried = true) :
    (run.attach files env builder settings).calls = [] ∧
      (run.attach files env builder settings).result = .ok none := by
  unfold attach
  split
  · exact ⟨rfl, rfl⟩
  · rename_i hf
    have hr : run.willBeRetried = true := by
      rcases h with h | h
      · rw [h] at hf
        cases hf
      · exact h
    rw [if_pos hr]
    exact ⟨rfl, rfl⟩

/-- The calls of a run with a snapshot and a prompt end with that prompt being attached. -/
theorem calls_attachPrompt {run : TestRun} {name prompt : String} (notices : List Notice)
    (h : prompt ≠ "") :
    (run.attachPrompt name prompt notices).calls =
      [.locator snapshotSelector, .ariaSnapshot, .attach name prompt] := by
  unfold attachPrompt
  rw [if_neg h]
  split <;> rfl

end TestRun

end FailurePrompt
