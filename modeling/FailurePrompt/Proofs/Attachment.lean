import Mathlib.Data.List.Forall2
import FailurePrompt.Attachment

/-!
# The protocol of attaching

A run asks the page for an element and the element for its snapshot, and attaches the prompt that is
built; each call may fail, and the prompt may be empty or not be built at all. `Course` lists the
ways in which a run can go, and `course_attach` says that there are no others. The main statement,
`session_obeys`, is that every run of a session keeps to the protocol, whatever the other runs do,
and that a test that is run again until it may no longer has its prompt attached once at most, after
the last run.
-/

namespace FailurePrompt

/-! ### Runs and what they work with -/

/-- A run with the files and the variables of its time. -/
structure Attempt where
  run : TestRun
  files : Files
  env : Environment := {}

namespace TestRun

/-- The test failed and will not be run again. -/
def IsFinal (run : TestRun) : Prop := run.failure ≠ none ∧ run.retries ≤ run.retry

theorem not_isFinal_iff {run : TestRun} :
    ¬run.IsFinal ↔ run.failure = none ∨ run.willBeRetried = true := by
  rw [IsFinal, willBeRetried, decide_eq_true_iff, not_and_or, not_not, Int.not_le]

/-- The failure with which a call ends, if it fails. -/
def failureOf (run : TestRun) : Call → Option AttachError
  | .locator _ => run.absence.map .page
  | .ariaSnapshot => match run.snapshot with
    | .error reason => some (.page reason)
    | .ok _ => none
  | .attach _ _ => run.refusal.map .report

end TestRun

/-- A prompt is attached. -/
def Call.isAttach : Call → Bool
  | .attach _ _ => true
  | _ => false

section Session

variable (builder : Option PromptBuilder) (settings : Option Settings)

/-- The settings and the builder that a run works with: the given ones, or else those that the
variables and the settings ask for. -/
def Equips (a : Attempt) (s : Settings) (b : PromptBuilder) : Prop :=
  (settings.map .ok).getD (Settings.ofValues a.env []) = .ok s ∧
    (builder.map .ok).getD (s.builder a.files) = .ok b

/-- What comes of building the prompt of a run: the run is final, its page gives a snapshot, and
the builder is asked for the title and the failure of this run. -/
def Builds (a : Attempt) (name : String) (prompt : Except ResolveError String) : Prop :=
  ∃ failure snapshot s b, a.run.failure = some failure ∧ a.run.retries ≤ a.run.retry ∧
    Equips builder settings a s b ∧ a.run.absence = none ∧ a.run.snapshot = .ok snapshot ∧
    s.attachmentName = name ∧ (b.build a.files a.run.title failure snapshot).value = prompt

/-- The runs of a session one after the other: all calls that are made, and what each run ends
in. -/
def session : List Attempt → List Call × List (Except AttachError (Option String))
  | [] => ([], [])
  | a :: rest =>
    let done := a.run.attach a.files a.env builder settings
    (done.calls ++ (session rest).1, done.result :: (session rest).2)

/-- The protocol of a run. -/
structure Obeys (a : Attempt) (calls : List Call) (result : Except AttachError (Option String)) :
    Prop where
  leftAlone : ¬a.run.IsFinal → calls = [] ∧ result = .ok none
  inOrder : ∃ name prompt, calls <+: [.locator "html", .ariaSnapshot, .attach name prompt]
  attaches_iff : ∀ name prompt, .attach name prompt ∈ calls ↔
    Builds builder settings a name (.ok prompt) ∧ prompt ≠ ""
  answers_iff : ∀ prompt, result = .ok (some prompt) ↔
    (∃ name, .attach name prompt ∈ calls) ∧ a.run.refusal = none
  silent_iff : a.run.IsFinal → (result = .ok none ↔ ∃ name, Builds builder settings a name (.ok ""))
  breaksOff : ∀ call ∈ calls, ∀ e, a.run.failureOf call = some e →
    calls.getLast? = some call ∧ result = .error e

/-! ### How a run can go -/

/-- The ways in which a run can go, with the calls that it makes and what it ends in. -/
inductive Course (a : Attempt) : List Call → Except AttachError (Option String) → Prop
  | leftAlone (h : ¬a.run.IsFinal) : Course a [] (.ok none)
  | unequipped {e : AttachError} (hfinal : a.run.IsFinal)
      (h : ∀ s b, ¬Equips builder settings a s b) : Course a [] (.error e)
  | absent {reason : String} (hfinal : a.run.IsFinal) (h : a.run.absence = some reason) :
      Course a [.locator "html"] (.error (.page reason))
  | unseen {reason : String} (hfinal : a.run.IsFinal) (hpage : a.run.absence = none)
      (h : a.run.snapshot = .error reason) :
      Course a [.locator "html", .ariaSnapshot] (.error (.page reason))
  | unbuilt {name : String} {e : ResolveError} (h : Builds builder settings a name (.error e)) :
      Course a [.locator "html", .ariaSnapshot] (.error (.resolve e))
  | empty {name : String} (h : Builds builder settings a name (.ok "")) :
      Course a [.locator "html", .ariaSnapshot] (.ok none)
  | refused {name prompt reason : String} (h : Builds builder settings a name (.ok prompt))
      (hne : prompt ≠ "") (hreport : a.run.refusal = some reason) :
      Course a [.locator "html", .ariaSnapshot, .attach name prompt] (.error (.report reason))
  | attached {name prompt : String} (h : Builds builder settings a name (.ok prompt))
      (hne : prompt ≠ "") (hreport : a.run.refusal = none) :
      Course a [.locator "html", .ariaSnapshot, .attach name prompt] (.ok (some prompt))

end Session

variable {builder : Option PromptBuilder} {settings : Option Settings} {a : Attempt}

theorem course_attachWith {failure : Failure} {s : Settings} {b : PromptBuilder}
    (hfailure : a.run.failure = some failure) (hlast : a.run.retries ≤ a.run.retry)
    (hequips : Equips builder settings a s b) :
    Course builder settings a (a.run.attachWith a.files b s.attachmentName failure).calls
      (a.run.attachWith a.files b s.attachmentName failure).result := by
  have hfinal : a.run.IsFinal := ⟨by simp [hfailure], hlast⟩
  rw [TestRun.attachWith]
  rcases habsence : a.run.absence with _ | reason
  case some => exact .absent hfinal habsence
  rcases hsnapshot : a.run.snapshot with reason | snapshot
  case error => exact .unseen hfinal habsence hsnapshot
  have hbuilds {built} (h : (b.build a.files a.run.title failure snapshot).value = built) :
      Builds builder settings a s.attachmentName built :=
    ⟨failure, snapshot, s, b, hfailure, hlast, hequips, habsence, hsnapshot, rfl, h⟩
  dsimp only
  rcases hbuilt : (b.build a.files a.run.title failure snapshot).value with e | prompt
  case error => exact .unbuilt (hbuilds hbuilt)
  dsimp only
  rw [TestRun.attachPrompt]
  by_cases hne : prompt = ""
  · subst hne
    exact .empty (hbuilds hbuilt)
  · simp only [if_neg hne]
    rcases hreport : a.run.refusal with _ | reason
    · exact .attached (hbuilds hbuilt) hne hreport
    · exact .refused (hbuilds hbuilt) hne hreport

/-- A run that is final goes on once it has its settings and its builder. -/
theorem course_attach_of_isFinal (builder : Option PromptBuilder) (settings : Option Settings)
    (hfinal : a.run.IsFinal) :
    Course builder settings a (a.run.attach a.files a.env builder settings).calls
      (a.run.attach a.files a.env builder settings).result := by
  obtain ⟨failure, hfailure⟩ := Option.ne_none_iff_exists'.1 hfinal.1
  have hretried : a.run.willBeRetried = false := decide_eq_false (Int.not_lt.2 hfinal.2)
  rw [TestRun.attach, hfailure]
  simp only [hretried, Bool.false_eq_true, if_false]
  rcases hs : (settings.map .ok).getD (Settings.ofValues a.env []) with e | s
  · simp only [hs]
    refine .unequipped hfinal ?_
    rintro s b ⟨hs', -⟩
    rw [hs] at hs'
    cases hs'
  simp only [hs]
  rcases hb : (builder.map .ok).getD (s.builder a.files) with e | b
  · simp only [hb]
    refine .unequipped hfinal ?_
    rintro s' b ⟨hs', hb'⟩
    rw [hs] at hs'
    cases hs'
    rw [hb] at hb'
    cases hb'
  · simp only [hb]
    exact course_attachWith hfailure hfinal.2 ⟨hs, hb⟩

/-- There are no other ways than those of `Course`. -/
theorem course_attach (builder : Option PromptBuilder) (settings : Option Settings) (a : Attempt) :
    Course builder settings a (a.run.attach a.files a.env builder settings).calls
      (a.run.attach a.files a.env builder settings).result := by
  by_cases hfinal : a.run.IsFinal
  · exact course_attach_of_isFinal builder settings hfinal
  · obtain ⟨hcalls, hresult⟩ :=
      TestRun.attach_of_not_final a.files a.env builder settings (TestRun.not_isFinal_iff.1 hfinal)
    rw [hcalls, hresult]
    exact .leftAlone hfinal

/-! ### What the ways have in common -/

variable {name name' prompt : String} {built built' : Except ResolveError String}
  {calls : List Call} {result : Except AttachError (Option String)}

theorem Builds.isFinal (h : Builds builder settings a name built) : a.run.IsFinal := by
  obtain ⟨failure, -, -, -, hfailure, hlast, -⟩ := h
  exact ⟨by simp [hfailure], hlast⟩

/-- A run builds one prompt, under one name. -/
theorem Builds.eq (h : Builds builder settings a name built)
    (h' : Builds builder settings a name' built') : name = name' ∧ built = built' := by
  obtain ⟨failure, snapshot, s, b, hfailure, -, ⟨hs, hb⟩, -, hsnapshot, rfl, rfl⟩ := h
  obtain ⟨failure', snapshot', s', b', hfailure', -, ⟨hs', hb'⟩, -, hsnapshot', rfl, rfl⟩ := h'
  rw [hs] at hs'
  cases hs'
  rw [hb] at hb'
  cases hb'
  rw [hfailure] at hfailure'
  cases hfailure'
  rw [hsnapshot] at hsnapshot'
  cases hsnapshot'
  exact ⟨rfl, rfl⟩

/-- A final run that builds nothing keeps to the protocol if it attaches nothing and ends in an
error, that of its last call if a call failed. -/
theorem Obeys.of_not_builds (hno : ∀ name built, ¬Builds builder settings a name built)
    (hfinal : a.run.IsFinal) {e : AttachError} (hcalls : calls <+: [.locator "html", .ariaSnapshot])
    (hbreaks : ∀ call ∈ calls, ∀ e', a.run.failureOf call = some e' →
      calls.getLast? = some call ∧ e = e') : Obeys builder settings a calls (.error e) where
  leftAlone h := absurd hfinal h
  inOrder := ⟨"", "", hcalls.trans ⟨[.attach "" ""], rfl⟩⟩
  attaches_iff name prompt := by
    refine iff_of_false (fun hmem => ?_) fun h => hno _ _ h.1
    have hmem' := hcalls.subset hmem
    simp at hmem'
  answers_iff prompt := by
    refine iff_of_false (by simp) ?_
    rintro ⟨⟨name, hmem⟩, -⟩
    have hmem' := hcalls.subset hmem
    simp at hmem'
  silent_iff _ := iff_of_false (by simp) fun ⟨_, h⟩ => hno _ _ h
  breaksOff call hcall e' he' := by
    obtain ⟨hlast, rfl⟩ := hbreaks call hcall e' he'
    exact ⟨hlast, rfl⟩

/-- The calls to the page that come before a prompt is built have not failed. -/
theorem Builds.failureOf_eq_none (h : Builds builder settings a name built) (selector : String) :
    a.run.failureOf (.locator selector) = none ∧ a.run.failureOf .ariaSnapshot = none := by
  obtain ⟨-, snapshot, -, -, -, -, -, habsence, hsnapshot, -⟩ := h
  simp [TestRun.failureOf, habsence, hsnapshot]

/-- A run without a prompt to attach keeps to the protocol if it ends in nothing exactly where the
prompt is empty. -/
theorem Obeys.of_builds_nothing (h : Builds builder settings a name built)
    (hbuilt : ∀ prompt, built = .ok prompt → prompt = "")
    (hresult : ∀ prompt, result ≠ .ok (some prompt)) (hnone : result = .ok none ↔ built = .ok "") :
    Obeys builder settings a [.locator "html", .ariaSnapshot] result where
  leftAlone hfinal := absurd h.isFinal hfinal
  inOrder := ⟨"", "", [.attach "" ""], rfl⟩
  attaches_iff name prompt := by
    refine iff_of_false (by simp) ?_
    rintro ⟨hprompt, hne⟩
    exact hne (hbuilt prompt (h.eq hprompt).2)
  answers_iff prompt := iff_of_false (hresult prompt) (by simp)
  silent_iff _ := by
    rw [hnone]
    refine ⟨fun hempty => ⟨name, hempty ▸ h⟩, ?_⟩
    rintro ⟨name', hempty⟩
    exact (h.eq hempty).2
  breaksOff call hcall e he := by
    have hcalls := h.failureOf_eq_none "html"
    rcases (by simpa using hcall : call = .locator "html" ∨ call = .ariaSnapshot) with rfl | rfl
    · rw [hcalls.1] at he
      cases he
    · rw [hcalls.2] at he
      cases he

/-- A run with a prompt keeps to the protocol if it attaches it, and ends in the prompt or in what
the report answers. -/
theorem Obeys.of_builds_prompt (h : Builds builder settings a name (.ok prompt)) (hne : prompt ≠ "")
    (haccepts : a.run.refusal = none → result = .ok (some prompt))
    (hrefuses : ∀ reason, a.run.refusal = some reason → result = .error (.report reason)) :
    Obeys builder settings a [.locator "html", .ariaSnapshot, .attach name prompt] result where
  leftAlone hfinal := absurd h.isFinal hfinal
  inOrder := ⟨name, prompt, List.prefix_refl _⟩
  attaches_iff name' prompt' := by
    constructor
    · intro hmem
      obtain ⟨rfl, rfl⟩ : name' = name ∧ prompt' = prompt := by simpa using hmem
      exact ⟨h, hne⟩
    · rintro ⟨hprompt, -⟩
      obtain ⟨rfl, hp⟩ := h.eq hprompt
      cases hp
      simp
  answers_iff prompt' := by
    rcases hreport : a.run.refusal with _ | reason
    · simp [haccepts hreport, eq_comm]
    · simp [hrefuses reason hreport]
  silent_iff _ := by
    refine iff_of_false ?_ ?_
    · rcases hreport : a.run.refusal with _ | reason
      · simp [haccepts hreport]
      · simp [hrefuses reason hreport]
    · -- A run builds one prompt, and this one is not empty.
      rintro ⟨name', hempty⟩
      have hp := (h.eq hempty).2
      cases hp
      exact hne rfl
  breaksOff call hcall e he := by
    have hcalls := h.failureOf_eq_none "html"
    obtain rfl | rfl | rfl :
        call = .locator "html" ∨ call = .ariaSnapshot ∨ call = .attach name prompt := by
      simpa using hcall
    · rw [hcalls.1] at he
      cases he
    · rw [hcalls.2] at he
      cases he
    · obtain ⟨reason, hreport, rfl⟩ :
          ∃ reason, a.run.refusal = some reason ∧ .report reason = e := by
        simpa [TestRun.failureOf] using he
      exact ⟨rfl, hrefuses reason hreport⟩

theorem Course.obeys (h : Course builder settings a calls result) :
    Obeys builder settings a calls result := by
  cases h with
  | leftAlone h =>
    exact {
      leftAlone := fun _ => ⟨rfl, rfl⟩
      inOrder := ⟨"", "", List.nil_prefix⟩
      attaches_iff := fun _ _ => iff_of_false (by simp) fun hb => h hb.1.isFinal
      answers_iff := fun _ => by simp
      silent_iff := fun hfinal => absurd hfinal h
      breaksOff := by simp }
  | unequipped hfinal h =>
    refine .of_not_builds ?_ hfinal List.nil_prefix (by simp)
    rintro name built ⟨-, -, s, b, -, -, hequips, -⟩
    exact h s b hequips
  | absent hfinal h =>
    refine .of_not_builds ?_ hfinal ⟨[.ariaSnapshot], rfl⟩ ?_
    · rintro name built ⟨-, -, -, -, -, -, -, habsence, -⟩
      rw [h] at habsence
      cases habsence
    · simp [TestRun.failureOf, h]
  | unseen hfinal hpage h =>
    refine .of_not_builds ?_ hfinal (List.prefix_refl _) ?_
    · rintro name built ⟨-, snapshot, -, -, -, -, -, -, hsnapshot, -⟩
      rw [h] at hsnapshot
      cases hsnapshot
    · simp [TestRun.failureOf, hpage, h]
  | unbuilt h => exact .of_builds_nothing h (by simp) (by simp) (by simp)
  | empty h => exact .of_builds_nothing h (by simp [eq_comm]) (by simp) (by simp)
  | refused h hne hreport =>
    exact .of_builds_prompt h hne (by simp [hreport]) fun reason hreason => by
      rw [hreport] at hreason
      cases hreason
      rfl
  | attached h hne hreport => exact .of_builds_prompt h hne (fun _ => rfl) (by simp [hreport])

/-! ### Runs one after the other -/

theorem obeys_attach (builder : Option PromptBuilder) (settings : Option Settings) (a : Attempt) :
    Obeys builder settings a (a.run.attach a.files a.env builder settings).calls
      (a.run.attach a.files a.env builder settings).result :=
  (course_attach builder settings a).obeys

theorem Obeys.countP_isAttach_le (h : Obeys builder settings a calls result) :
    calls.countP Call.isAttach ≤ 1 := by
  obtain ⟨name, prompt, hprefix⟩ := h.inOrder
  calc calls.countP Call.isAttach
      ≤ [.locator "html", .ariaSnapshot, .attach name prompt].countP Call.isAttach :=
        hprefix.sublist.countP_le
    _ = 1 := rfl

theorem session_append (builder : Option PromptBuilder) (settings : Option Settings)
    (before after : List Attempt) :
    (session builder settings (before ++ after)).1 =
      (session builder settings before).1 ++ (session builder settings after).1 := by
  induction before with
  | nil => rfl
  | cons a before ih => simp only [List.cons_append, session, ih, List.append_assoc]

theorem session_of_not_final {attempts : List Attempt}
    (h : ∀ a ∈ attempts, ¬a.run.IsFinal) : (session builder settings attempts).1 = [] := by
  induction attempts with
  | nil => rfl
  | cons a rest ih =>
    obtain ⟨ha, hrest⟩ := List.forall_mem_cons.1 h
    rw [session, ((obeys_attach builder settings a).leftAlone ha).1, ih hrest, List.nil_append]

theorem exists_obeys_session (builder : Option PromptBuilder) (settings : Option Settings)
    (attempts : List Attempt) :
    ∃ parts : List (List Call × Except AttachError (Option String)),
      session builder settings attempts = (parts.flatMap Prod.fst, parts.map Prod.snd) ∧
        List.Forall₂ (fun a part => Obeys builder settings a part.1 part.2) attempts parts := by
  induction attempts with
  | nil => exact ⟨[], rfl, .nil⟩
  | cons a rest ih =>
    obtain ⟨parts, hsession, hparts⟩ := ih
    let done := a.run.attach a.files a.env builder settings
    refine ⟨(done.calls, done.result) :: parts, ?_, .cons (obeys_attach builder settings a) hparts⟩
    rw [session, hsession]
    rfl

/-- Every run of a session keeps to the protocol. Of a test that fails again and again until it
may not be run again, all calls belong to the last run, and its prompt is attached once at most. -/
theorem session_obeys (builder : Option PromptBuilder) (settings : Option Settings) :
    (∀ attempts, ∃ parts : List (List Call × Except AttachError (Option String)),
      session builder settings attempts = (parts.flatMap Prod.fst, parts.map Prod.snd) ∧
        List.Forall₂ (fun a part => Obeys builder settings a part.1 part.2) attempts parts) ∧
    ∀ (retries : Nat) (attempt : Nat → Attempt),
      (∀ i ≤ retries, (attempt i).run.failure ≠ none ∧ (attempt i).run.retry = i ∧
        (attempt i).run.retries = retries) →
      let calls := (session builder settings ((List.range (retries + 1)).map attempt)).1
      calls = (session builder settings [attempt retries]).1 ∧ calls.countP Call.isAttach ≤ 1 := by
  refine ⟨exists_obeys_session builder settings, fun retries attempt hfails => ?_⟩
  -- Each of the earlier runs is followed by another one, so it makes no calls.
  have hearlier : ∀ a ∈ (List.range retries).map attempt, ¬a.run.IsFinal := by
    simp only [List.mem_map, List.mem_range, forall_exists_index, and_imp]
    rintro _ i hi rfl ⟨-, hlast⟩
    have hi' := hfails i (Nat.le_of_lt hi)
    omega
  have hcalls : (session builder settings ((List.range (retries + 1)).map attempt)).1 =
      (session builder settings [attempt retries]).1 := by
    rw [List.range_succ, List.map_append, session_append, session_of_not_final hearlier]
    rfl
  refine ⟨hcalls, ?_⟩
  rw [hcalls]
  simpa [session] using (obeys_attach builder settings (attempt retries)).countP_isAttach_le

/-- A test that may be run again once fails twice, each time for another reason: what is attached is
the prompt for the second failure. -/
theorem session_obeys_second_failure :
    let builder : PromptBuilder := { template := ⟨"\x7berror\x7d", ["error"], by decide +kernel⟩ }
    let settings : Settings := { attachmentName := "prompt" }
    let files : Files := ⟨fun path =>
      if path = Path.ofString "/a.js" then .ok [0x78] else .error .notFound⟩
    let attempt (i : Nat) : Attempt :=
      { run := { title := "t", failure := some ⟨some (toString i), some "    at f (/a.js:1:1)"⟩,
                 retry := i, retries := 1, snapshot := .ok "" }, files }
    let calls := (session builder settings ((List.range 2).map attempt)).1
    calls = [.locator "html", .ariaSnapshot, .attach "prompt" "1"] ∧
      calls = (session builder settings [attempt 1]).1 ∧ calls.countP Call.isAttach ≤ 1 := by
  intro builder settings files attempt calls
  have hfails : ∀ i ≤ 1, (attempt i).run.failure ≠ none ∧ (attempt i).run.retry = i ∧
      (attempt i).run.retries = 1 := fun i _ => ⟨by simp [attempt], rfl, rfl⟩
  exact ⟨by decide +kernel, (session_obeys builder settings).2 1 attempt hfails⟩

end FailurePrompt
