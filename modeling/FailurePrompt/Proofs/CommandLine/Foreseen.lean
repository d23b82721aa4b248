import FailurePrompt.Proofs.CommandLine.Agreement
import FailurePrompt.Proofs.Settings.Precedence

/-!
# Errors that are not foreseen

A command reports an error by an event and ends with exit code one, if there is an event for the
error; otherwise the error ends the program. Stage by stage it is shown that reading files, loading
templates, resolving, building and printing have foreseen errors only. The others come from a
settings file that is no YAML, writes a character by a number that is far too large or has a key that
is no text, from variables that are nested too deep, from instructions to the framework that cannot
be followed, and from a standard input that is closed. The
main statement, `outcome_exits_iff`, is that a command has an exit code exactly if it comes to none
of these.
-/

namespace FailurePrompt

/-! ### Foreseen errors -/

namespace RunError

/-- There is an event by which the error is reported. -/
def Foreseen (e : RunError) : Prop := e.event?.isSome = true

/-- An error in the sources of settings for which there is no event. -/
inductive UnforeseenSource : SettingsSourceError → Prop
  | tooDeep (field : String) : UnforeseenSource (.badVariable ⟨field, .tooDeep⟩)
  | instruction (wording : String) : UnforeseenSource (.badInstruction false wording)

theorem unforeseenSource_iff {e : SettingsSourceError} :
    UnforeseenSource e ↔ (settings (.settings (.badSource e))).event? = none := by
  rcases e with ⟨field, _ | _⟩ | ⟨_ | _, wording⟩
  case badVariable.malformed => exact iff_of_false nofun nofun
  case badVariable.tooDeep => exact iff_of_true (.tooDeep field) rfl
  case badInstruction.false => exact iff_of_true (.instruction wording) rfl
  case badInstruction.true => exact iff_of_false nofun nofun

theorem not_foreseen_settings_iff {e : SettingsFileError} :
    ¬(settings e).Foreseen ↔
      (∃ fault, e = .yaml (.malformed fault)) ∨ e = .yaml (.badScalar .hugeCharacter) ∨
        e = .foreignKey ∨ ∃ e', e = .settings (.badSource e') ∧ UnforeseenSource e' := by
  rw [Foreseen, Option.not_isSome_iff_eq_none]
  rcases e with _ | _ | _ | _ | (fault | bad) | _ | _ | (e' | issues)
  case yaml.badScalar => cases bad <;> simp [event?]
  case settings.badSource => simp [unforeseenSource_iff]
  all_goals simp [event?]

/-- Beside the settings only the standard input fails in a way that is not foreseen. -/
theorem foreseen_of_ne {e : RunError} (hsettings : ∀ e', e ≠ .settings e')
    (hclosed : e ≠ .stdin .closed) : e.Foreseen := by
  cases e with
  | settings e => exact absurd rfl (hsettings e)
  | input path e => cases e <;> rfl
  | undecodable e => rfl
  | stdin e =>
    cases e with
    | closed => exact absurd rfl hclosed
    | undecodable => rfl
    | refused => rfl
  | template e => cases e <;> rfl
  | resolve e => rfl
  | stdout e => cases e <;> rfl

theorem not_foreseen_stdin_iff {fault : InputFault} :
    ¬(stdin fault).Foreseen ↔ fault = .closed := by
  cases fault <;> simp [Foreseen, event?]

end RunError

/-- What reading a settings text comes to if there is no event for it. -/
inductive Unforeseen : Except Yaml.Error Yaml.Document → Prop
  | malformed (fault : Yaml.Fault) : Unforeseen (.error (.malformed fault))
  | hugeCharacter : Unforeseen (.error (.badScalar .hugeCharacter))
  | foreignKeyed : Unforeseen (.ok .foreignKeyed)

/-! ### Settings -/

namespace Settings

variable {framework : Framework} {env : Environment} {files : Files} {text : String}
  {values : Entries}

theorem foreseen_of_textOfFile {path : Path} {e : SettingsFileError}
    (h : textOfFile files path = .error e) : (RunError.settings e).Foreseen := by
  rw [textOfFile] at h
  split at h
  · cases h
    split <;> rfl
  · split at h
    · cases h
      rfl
    · cases h

/-- Making settings fails in a way that is not foreseen exactly if its sources do. -/
theorem exists_ofValues_unforeseen_iff :
    (∃ e, (ofValues env values framework).mapError .settings = .error e ∧
      ¬(RunError.settings e).Foreseen) ↔
        ∃ e, merged env values framework = .error e ∧ RunError.UnforeseenSource e := by
  rw [ofValues]
  rcases merged env values framework with e | entries
  case error => simp [Except.mapError, RunError.not_foreseen_settings_iff]
  · refine iff_of_false ?_ (by simp)
    rintro ⟨e, he, hnot⟩
    dsimp only at he
    rcases hchecked : Check.settings framework.coercions entries with issues | s
    · rw [hchecked] at he
      cases he
      exact hnot rfl
    · rw [hchecked] at he
      cases he

/-- Of the errors of a settings text, those of replacing its references and the one of holding
something else than a mapping are foreseen. -/
theorem exists_valuesOfText_unforeseen_iff (path : Path) :
    (∃ e, valuesOfText env path text framework = .error e ∧ ¬(RunError.settings e).Foreseen) ↔
      ∃ filled, env.substitute text = .ok filled ∧ Unforeseen (framework.yaml filled) := by
  rw [valuesOfText]
  rcases env.substitute text with e | filled
  case error => simp [RunError.not_foreseen_settings_iff]
  simp only [Except.ok.injEq, exists_eq_left']
  rcases framework.yaml filled with e | value | _
  case error =>
    simp only [Except.error.injEq, exists_eq_left', RunError.not_foreseen_settings_iff]
    constructor
    · rintro (⟨fault, h⟩ | h | h | ⟨e', h, -⟩) <;> cases h
      · exact .malformed fault
      · exact .hugeCharacter
    · rintro (fault | _) <;> simp
  case ok.foreignKeyed =>
    exact iff_of_true ⟨_, rfl, by simp [RunError.not_foreseen_settings_iff]⟩ .foreignKeyed
  -- A document with a value is a mapping, or it is refused for not being one.
  refine iff_of_false ?_ (by rintro ⟨⟩)
  rintro ⟨e, he, hnot⟩
  split at he
  case h_1 h => cases h
  case h_2 h => cases h
  case h_3 => cases he
  case h_4 =>
    split at he <;> cases he
    exact hnot rfl

/-- Loading settings fails in a way that is not foreseen exactly if there is a file whose text, with
the references replaced, is not foreseen, or there are values that cannot be laid over those of the
variables. -/
theorem exists_load_unforeseen_iff {path : Option Path} :
    (∃ e, load files env path framework = .error e ∧ ¬(RunError.settings e).Foreseen) ↔
      (∃ file text filled, path = some file ∧ textOfFile files file = .ok text ∧
        env.substitute text = .ok filled ∧ Unforeseen (framework.yaml filled)) ∨
      ∃ values e, Gives files env path values framework ∧
        merged env values framework = .error e ∧ RunError.UnforeseenSource e := by
  constructor
  · rintro ⟨e, he, hnot⟩
    by_cases hgives : ∃ values, Gives files env path values framework
    · obtain ⟨values, hgives⟩ := hgives
      rw [load_of_gives hgives] at he
      obtain ⟨e', he', hun⟩ := exists_ofValues_unforeseen_iff.1 ⟨e, he, hnot⟩
      exact .inr ⟨values, e', hgives, he', hun⟩
    left
    rcases path with _ | file
    · exact absurd ⟨[], rfl⟩ hgives
    rcases htext : textOfFile files file with e' | text
    · simp only [load, htext, Except.bind] at he
      cases he
      exact absurd (foreseen_of_textOfFile htext) hnot
    rcases hvalues : valuesOfText env file text framework with e' | values
    · simp only [load, htext, Except.bind, hvalues] at he
      cases he
      obtain ⟨filled, hfilled, hun⟩ :=
        (exists_valuesOfText_unforeseen_iff file).1 ⟨e, hvalues, hnot⟩
      exact ⟨file, text, filled, rfl, htext, hfilled, hun⟩
    · exact absurd ⟨values, by rw [Gives, htext]; exact hvalues⟩ hgives
  · rintro (⟨file, text, filled, rfl, htext, hfilled, hun⟩ | ⟨values, e', hgives, he', hun⟩)
    · obtain ⟨e, he, hnot⟩ :=
        (exists_valuesOfText_unforeseen_iff file).2 ⟨filled, hfilled, hun⟩
      exact ⟨e, by simp only [load, htext, Except.bind, he], hnot⟩
    · rw [load_of_gives hgives]
      exact exists_ofValues_unforeseen_iff.2 ⟨e', he', hun⟩

end Settings

/-! ### Commands -/

namespace Run

variable {host : Host} {args : Arguments} {e : RunError}

/-- The standard input is closed, and the command comes to reading it. -/
inductive ReadsClosed (host : Host) (args : Arguments) : Prop
  | stack {s : Settings} (hs : settings host args = .ok s) (h : args.stackFile = stdinName)
      (hclosed : host.stdin.read = .error .closed)
  | message {s : Settings} {stack title messageFile : String} {left : Stdin}
      {snapshotFile : Option String} (hreads : Reads host args s stack left)
      (hcommand : args.command = .prompt title messageFile snapshotFile)
      (h : messageFile = stdinName) (hclosed : left.read = .error .closed)
  | snapshot {s : Settings} {stack title messageFile message : String} {left left' : Stdin}
      {builder : PromptBuilder} (hreads : Reads host args s stack left)
      (hcommand : args.command = .prompt title messageFile (some stdinName))
      (hmessage : readInput host.files left messageFile = .ok (message, left'))
      (hbuilder : s.builder host.files host.codecs = .ok builder)
      (hclosed : left'.read = .error .closed)

theorem settings_eq_error_iff :
    settings host args = .error e ↔
      ∃ e', Settings.load host.files host.env (args.settingsFile.map Path.ofString)
        host.framework = .error e' ∧ .settings e' = e := by
  rw [settings]
  rcases Settings.load host.files host.env (args.settingsFile.map Path.ofString)
    host.framework with e' | s <;> simp

theorem readInput_stdin (files : Files) (stdin : Stdin) :
    readInput files stdin stdinName =
      match stdin.read with
      | .error e => .error (.stdin e)
      | .ok cs => .ok (String.ofList cs, "") :=
  rfl

/-- Reading a text fails in a way that is not foreseen exactly if it is to be read from a standard
input that is closed. -/
theorem exists_readInput_unforeseen_iff (files : Files) {stdin : Stdin} {name : String} :
    (∃ e, readInput files stdin name = .error e ∧ ¬e.Foreseen) ↔
      name = stdinName ∧ stdin.read = .error .closed := by
  by_cases hname : name = stdinName
  · subst hname
    rw [readInput_stdin, and_iff_right rfl]
    rcases stdin.read with fault | cs
    · simp [RunError.not_foreseen_stdin_iff]
    · simp
  · refine iff_of_false ?_ fun h => hname h.1
    rintro ⟨e, he, hnot⟩
    have hfile : (∃ path fault, e = .input path fault) ∨ ∃ fault, e = .undecodable fault := by
      rw [readInput, if_neg hname] at he
      dsimp only at he
      split at he
      · cases he
        exact .inl ⟨_, _, rfl⟩
      · split at he <;> cases he
        exact .inr ⟨_, rfl⟩
    rcases hfile with ⟨path, fault, rfl⟩ | ⟨fault, rfl⟩ <;>
      exact hnot (RunError.foreseen_of_ne (by simp) (by simp))

/-- What a prompt is built from is missing for a reason that is not foreseen exactly if the message or
the snapshot is to be read from a standard input that is closed. -/
theorem exists_promptInput_unforeseen_iff {s : Settings} {stack messageFile : String} {left : Stdin}
    {snapshotFile : Option String} :
    (∃ e, promptInput host s stack left messageFile snapshotFile = .error e ∧ ¬e.Foreseen) ↔
      (messageFile = stdinName ∧ left.read = .error .closed) ∨
      ∃ message left' builder, readInput host.files left messageFile = .ok (message, left') ∧
        s.builder host.files host.codecs = .ok builder ∧ snapshotFile = some stdinName ∧
          left'.read = .error .closed := by
  rw [promptInput, ← exists_readInput_unforeseen_iff host.files]
  rcases readInput host.files left messageFile with e | ⟨message, left'⟩
  case error => simp
  rcases s.builder host.files host.codecs with e | builder
  case error =>
    have hforeseen : (RunError.template e).Foreseen := RunError.foreseen_of_ne (by simp) (by simp)
    simp [hforeseen]
  rcases snapshotFile with _ | name
  case none => simp [readOptional]
  have hread := @exists_readInput_unforeseen_iff host.files left' name
  simp only [readOptional, Option.some.injEq, Except.ok.injEq, Prod.mk.injEq]
  rcases hsnapshot : readInput host.files left' name with e | ⟨snapshot, left''⟩
  · rw [hsnapshot] at hread
    simpa using hread
  · rw [hsnapshot] at hread
    simpa using hread

/-- Resolving and building have foreseen errors only. -/
theorem foreseen_of_thenActed {α : Type} {t : Traced α} {f : α → Acted Result}
    (h : (t.thenActed f).value = .error e)
    (hresolve : ∀ a, (f a).value = .error e → ∃ e', e = .resolve e') : e.Foreseen := by
  obtain ⟨e', rfl⟩ := hresolve _ h
  rfl

theorem foreseen_of_frames {stack : String} (h : (frames stack).value = .error e) :
    e.Foreseen := by
  rw [frames] at h
  split at h <;> cases h
  rfl

theorem foreseen_of_locate {s : Settings} {stack : String}
    (h : (locate s stack).value = .error e) : e.Foreseen := by
  refine foreseen_of_thenActed h fun found hfound => ?_
  split at hfound <;> cases hfound
  exact ⟨_, rfl⟩

theorem foreseen_of_prompt {files : Files} {title : String} {input : PromptInput}
    (h : (prompt files title input).value = .error e) : e.Foreseen := by
  refine foreseen_of_thenActed h fun built hbuilt => ?_
  split at hbuilt
  · cases hbuilt
    exact ⟨_, rfl⟩
  · split at hbuilt <;> cases hbuilt

/-- A command on a stack text fails in a way that is not foreseen exactly if what it is built from
is missing for such a reason. -/
theorem exists_onStack_unforeseen_iff {s : Settings} {stack : String} {left : Stdin}
    {command : Command} :
    (∃ e, (onStack host s command stack left).value = .error e ∧ ¬e.Foreseen) ↔
      ∃ title messageFile snapshotFile, command = .prompt title messageFile snapshotFile ∧
        ∃ e, promptInput host s stack left messageFile snapshotFile = .error e ∧ ¬e.Foreseen := by
  constructor
  · rintro ⟨e, he, hnot⟩
    cases command with
    | frames => exact absurd (foreseen_of_frames he) hnot
    | locate => exact absurd (foreseen_of_locate he) hnot
    | prompt title messageFile snapshotFile =>
      rw [onStack] at he
      split at he
      case h_1 hinput =>
        cases he
        exact ⟨_, _, _, rfl, _, hinput, hnot⟩
      case h_2 => exact absurd (foreseen_of_prompt he) hnot
  · rintro ⟨title, messageFile, snapshotFile, rfl, e, he, hnot⟩
    exact ⟨e, by rw [onStack, he]; rfl, hnot⟩

/-- A command fails in a way that is not foreseen exactly if its settings do, or it comes to reading
a standard input that is closed. -/
theorem exists_command_unforeseen_iff :
    (∃ e, (command host args).value = .error e ∧ ¬e.Foreseen) ↔
      (∃ e, Settings.load host.files host.env (args.settingsFile.map Path.ofString)
        host.framework = .error e ∧ ¬(RunError.settings e).Foreseen) ∨ ReadsClosed host args := by
  constructor
  · rintro ⟨e, he, hnot⟩
    rw [command] at he
    rcases hs : settings host args with e' | s
    · rw [hs] at he
      cases he
      obtain ⟨e', hload, rfl⟩ := settings_eq_error_iff.1 hs
      exact .inl ⟨e', hload, hnot⟩
    right
    rcases hstack : readInput host.files host.stdin args.stackFile with e' | ⟨stack, left⟩
    · rw [hs, hstack] at he
      cases he
      obtain ⟨hname, hclosed⟩ :=
        (exists_readInput_unforeseen_iff host.files).1 ⟨e, hstack, hnot⟩
      exact .stack hs hname hclosed
    simp only [hs, hstack] at he
    obtain ⟨title, messageFile, snapshotFile, hcommand, hinput⟩ :=
      exists_onStack_unforeseen_iff.1 ⟨e, he, hnot⟩
    rcases exists_promptInput_unforeseen_iff.1 hinput with
      ⟨hname, hclosed⟩ | ⟨message, left', builder, hmessage, hbuilder, rfl, hclosed⟩
    · exact .message ⟨hs, hstack⟩ hcommand hname hclosed
    · exact .snapshot ⟨hs, hstack⟩ hcommand hmessage hbuilder hclosed
  · rintro (⟨e, hload, hnot⟩ | h)
    · refine ⟨.settings e, ?_, hnot⟩
      rw [command, settings_eq_error_iff.2 ⟨e, hload, rfl⟩]
      rfl
    have honStack {s : Settings} {stack title messageFile : String} {left : Stdin}
        {snapshotFile : Option String} (hreads : Reads host args s stack left)
        (hcommand : args.command = .prompt title messageFile snapshotFile)
        (hinput : ∃ e, promptInput host s stack left messageFile snapshotFile = .error e ∧
          ¬e.Foreseen) : ∃ e, (command host args).value = .error e ∧ ¬e.Foreseen := by
      simp only [command, hreads.1, hreads.2, hcommand]
      exact exists_onStack_unforeseen_iff.2 ⟨_, _, _, rfl, hinput⟩
    rcases h with ⟨hs, hname, hclosed⟩ | ⟨hreads, hcommand, hname, hclosed⟩ |
      ⟨hreads, hcommand, hmessage, hbuilder, hclosed⟩
    · obtain ⟨e, he, hnot⟩ :=
        (exists_readInput_unforeseen_iff host.files).2 ⟨hname, hclosed⟩
      exact ⟨e, by rw [command, hs]; dsimp only; rw [he]; rfl, hnot⟩
    · exact honStack hreads hcommand
        (exists_promptInput_unforeseen_iff.2 (.inl ⟨hname, hclosed⟩))
    · exact honStack hreads hcommand (exists_promptInput_unforeseen_iff.2
        (.inr ⟨_, _, _, hmessage, hbuilder, rfl, hclosed⟩))

/-- What leaves a command without an exit code. -/
inductive Escapes (host : Host) (args : Arguments) : Prop
  /-- The text of the settings file, with the references replaced, is no YAML, has a character whose
  number is far too large, or is a mapping with a key that is no text. -/
  | yaml {file text filled : String} (hfile : args.settingsFile = some file)
      (htext : Settings.textOfFile host.files (Path.ofString file) = .ok text)
      (hfilled : host.env.substitute text = .ok filled)
      (h : Unforeseen (host.framework.yaml filled))
  /-- There are values to be laid over those of the variables, and the latter are nested too deep, or
  an instruction among the values cannot be followed. -/
  | sources {values : Entries} {e : SettingsSourceError}
      (hvalues : Settings.Gives host.files host.env (args.settingsFile.map Path.ofString) values
        host.framework)
      (h : Settings.merged host.env values host.framework = .error e)
      (hun : RunError.UnforeseenSource e)
  | stdin (h : ReadsClosed host args)

theorem ending_error_iff :
    (ending (.error e) = .exit 0 ∨ ending (.error e) = .exit 1) ↔ e.Foreseen := by
  by_cases h : e.Foreseen
  · have hending : ending (.error e) = .exit 1 := if_pos h
    simp [hending, h]
  · have hending : ending (.error e) = .failure e := if_neg h
    simp [hending, h]

/-- A run has exit code zero or one unless its command fails in a way that is not foreseen. A print
that fails is foreseen. -/
theorem ending_outcome_iff (host : Host) (args : Arguments) (stdout : Stdout) :
    ((outcome host args stdout).ending = .exit 0 ∨ (outcome host args stdout).ending = .exit 1) ↔
      ¬∃ e, (command host args).value = .error e ∧ ¬e.Foreseen := by
  have hends := ends_command host args
  rw [outcome]
  generalize command host args = found at hends
  -- A print that fails takes the place of the exit code.
  have hexit {code : Nat} (hvalue : found.value = .ok code) (hcode : code = 0 ∨ code = 1) :
      (conclude args stdout found).ending = .exit 0 ∨
        (conclude args stdout found).ending = .exit 1 := by
    rcases Act.perform_cases stdout "" found.acts with
      ⟨htakes, -⟩ | ⟨written, events, fault, -, -, hdone⟩
    · rw [conclude_of_takes htakes, hvalue]
      simpa [ending] using hcode
    · rw [conclude, hdone]
      exact ending_error_iff.2 (RunError.foreseen_of_ne (by simp) (by simp))
  cases hends with
  | failing notices e =>
    rw [conclude_of_takes (by simp [Stdout.Takes])]
    simpa using ending_error_iff
  | lacking notices event values => exact iff_of_true (hexit rfl (.inr rfl)) (by simp)
  | printing notices texts => exact iff_of_true (hexit rfl (.inl rfl)) (by simp)

/-- A command has exit code zero or one, whatever the standard output takes, unless it comes to one
of the errors that are not foreseen. -/
theorem outcome_exits_iff (host : Host) (args : Arguments) (stdout : Stdout) :
    ((outcome host args stdout).ending = .exit 0 ∨ (outcome host args stdout).ending = .exit 1) ↔
      ¬Escapes host args := by
  rw [ending_outcome_iff, exists_command_unforeseen_iff, Settings.exists_load_unforeseen_iff]
  refine not_congr ⟨?_, ?_⟩
  · rintro ((⟨_, text, filled, hpath, htext, hfilled, h⟩ | ⟨values, e, hvalues, h, hun⟩) | h)
    · obtain ⟨file, hfile, rfl⟩ := Option.map_eq_some_iff.1 hpath
      exact .yaml hfile htext hfilled h
    · exact .sources hvalues h hun
    · exact .stdin h
  · rintro (⟨hfile, htext, hfilled, h⟩ | ⟨hvalues, h, hun⟩ | h)
    · exact .inl (.inl ⟨_, _, _, by rw [hfile]; rfl, htext, hfilled, h⟩)
    · exact .inl (.inr ⟨_, _, hvalues, h, hun⟩)
    · exact .inr h

/-- Each of the three kinds of settings texts leaves a command without an exit code. -/
theorem program_fails_on_settings :
    let argv := ["-c", "c.yaml", "locate", "--stack-file", "s.txt"]
    let host (text : String) : Host := { files := ⟨fun path =>
      if path = Path.ofString "c.yaml" then .ok text.toUTF8.toList
      else if path = Path.ofString "s.txt" then .ok [] else .error .notFound⟩ }
    (program (host "a: [\n") argv).ending =
      .failure (.settings (.yaml (.malformed .unexpectedToken))) ∧
    (program (host "1: 2\n") argv).ending = .failure (.settings .foreignKey) ∧
    (program (host "a: \"\\UFFFFFFFF\"\n") argv).ending =
      .failure (.settings (.yaml (.badScalar .hugeCharacter))) := by
  decide +kernel

end Run

end FailurePrompt
