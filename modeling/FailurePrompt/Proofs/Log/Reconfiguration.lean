import FailurePrompt.Log.Session
import Mathlib.Logic.Basic

/-!
# Configuring again

A log can be configured as often as one likes. Behind its state stand two registries: one holds the
chain of processors, which ends in a writer for a format, the other the numbers that an event must
reach at the root and at its handler. Configuring changes them one after the other, but not before
both names were found right, so that it changes everything or nothing. The main statement,
`run_lastSet`, is that a refused attempt leaves no trace in a session, and that after the last
attempt that was not refused its level alone decides which events are written.
-/

namespace FailurePrompt

/-! ### Names -/

theorem Level.ofName?_eq_none_iff {name : String} :
    Level.ofName? name = none ↔ name ∉ Level.all.map Level.name := by
  simp [Level.ofName?, List.find?_eq_none]

theorem LogFormat.ofName?_eq_none_iff {name : String} :
    LogFormat.ofName? name = none ↔ name ∉ LogFormat.all.map LogFormat.name := by
  simp [LogFormat.ofName?, List.find?_eq_none]

namespace LogState

variable {s : LogState} {levelName formatName : String}

/-- The threshold and the format with two names; the level is looked at first. -/
def named (levelName formatName : String) : Except LogNameError (Level × LogFormat) := do
  let level ← levelNamed levelName
  let format ← formatNamed formatName
  return (level, format)

/-- Two names are wrong exactly if one of them, in the right case, is not allowed. -/
theorem exists_named_eq_error_iff :
    (∃ error, named levelName formatName = .error error) ↔
      ¬(Text.upper levelName ∈ Level.all.map Level.name ∧
        Text.lower formatName ∈ LogFormat.all.map LogFormat.name) := by
  rw [not_and_or, ← Level.ofName?_eq_none_iff, ← LogFormat.ofName?_eq_none_iff, named, levelNamed,
    formatNamed]
  rcases Level.ofName? (Text.upper levelName) with _ | level
  · exact ⟨fun _ => .inl rfl, fun _ => ⟨_, rfl⟩⟩
  · rcases LogFormat.ofName? (Text.lower formatName) with _ | format
    · exact ⟨fun _ => .inr rfl, fun _ => ⟨_, rfl⟩⟩
    · exact ⟨nofun, nofun⟩

theorem step_configure (s : LogState) (levelName formatName : String) :
    s.step (.configure levelName formatName) =
      match named levelName formatName with
      | .ok (level, format) => (s.set level format, .wrote [])
      | .error error => (s, .refused error) := by
  rw [step, configure, named]
  rcases levelNamed levelName with error | level
  · rfl
  · rcases formatNamed formatName with error | format <;> rfl

/-- An attempt to configure is refused for the error in its names, and only then. -/
theorem step_configure_eq_refused_iff {error : LogNameError} :
    (s.step (.configure levelName formatName)).2 = .refused error ↔
      named levelName formatName = .error error := by
  rw [step_configure]
  rcases named levelName formatName with error' | ⟨level, format⟩ <;> simp

end LogState

/-! ### What a session has set -/

/-- The threshold and the format that a step sets, if it sets any. -/
def LogStep.sets? : LogStep → Option (Level × LogFormat)
  | .configure levelName formatName => (LogState.named levelName formatName).toOption
  | _ => none

/-- The threshold and the format that were set last. -/
def lastSet? (steps : List LogStep) : Option (Level × LogFormat) :=
  steps.reverse.findSome? LogStep.sets?

theorem lastSet?_cons (step : LogStep) (rest : List LogStep) :
    lastSet? (step :: rest) = (lastSet? rest).or step.sets? := by
  simp [lastSet?, List.findSome?_append]

namespace LogState

theorem configured_step (s : LogState) (step : LogStep) :
    (s.step step).1.configured = step.sets?.or s.configured := by
  cases step with
  | configure levelName formatName =>
    rw [step_configure, LogStep.sets?]
    rcases named levelName formatName with error | ⟨level, format⟩ <;> rfl
  | _ => exact configured_step_of_ne nofun

/-- After a session the log is configured as it was set last. -/
theorem configured_run (s : LogState) (steps : List LogStep) :
    (s.run steps).1.configured = (lastSet? steps).or s.configured := by
  induction steps generalizing s with
  | nil => rfl
  | cons step rest ih => rw [run_cons, ih, configured_step, lastSet?_cons, Option.or_assoc]

end LogState

/-! ### The two registries -/

/-- What the two registries hold. -/
structure Registries where
  /-- The format of the writer at the end of the chain, once there is a chain. -/
  writer : Option LogFormat
  /-- The number that an event must reach at the root. -/
  root : Nat
  /-- The number that an event must reach at the handler of the root, once there is one. -/
  handler : Option Nat
  deriving Repr, DecidableEq

namespace Registries

/-- The registries in step, for a threshold and a format. -/
def inStep (c : Level × LogFormat) : Registries := ⟨some c.2, c.1.number, some c.1.number⟩

/-- Configures the registries by names. A failure does not take back what was changed before it. -/
def configure (levelName formatName : String) :
    ExceptT LogNameError (StateM Registries) Unit := do
  let level ← LogState.levelNamed levelName
  let format ← LogState.formatNamed formatName
  modify fun r => { r with writer := some format }
  modify fun r => { r with handler := some level.number }
  modify fun r => { r with root := level.number }

/-- The registries after the steps of a session. -/
def after (r : Registries) : List LogStep → Registries
  | [] => r
  | .configure levelName formatName :: rest =>
    ((configure levelName formatName).run.run r).2.after rest
  | _ :: rest => r.after rest

/-- An event of a level passes the chain, the root and the handler. -/
structure Passes (r : Registries) (level : Level) : Prop where
  writer : r.writer.isSome = true
  root : r.root ≤ level.number
  handler : ∃ n ∈ r.handler, n ≤ level.number

theorem passes_inStep_iff {c : Level × LogFormat} {level : Level} :
    (inStep c).Passes level ↔ c.1.number ≤ level.number :=
  ⟨fun h => h.root, fun h => ⟨rfl, h, _, rfl, h⟩⟩

/-- Configuring changes all of the registries or nothing. -/
theorem run_configure (r : Registries) (levelName formatName : String) :
    (configure levelName formatName).run.run r =
      match LogState.named levelName formatName with
      | .ok c => (.ok (), inStep c)
      | .error error => (.error error, r) := by
  rw [configure, LogState.named]
  rcases LogState.levelNamed levelName with error | level
  · rfl
  · rcases LogState.formatNamed formatName with error | format <;> rfl

/-- After a session the registries are in step with what was set last. -/
theorem after_eq (r : Registries) (steps : List LogStep) :
    r.after steps = ((lastSet? steps).map inStep).getD r := by
  induction steps generalizing r with
  | nil => rfl
  | cons step rest ih =>
    have hstep : r.after (step :: rest) = ((step.sets?.map inStep).getD r).after rest := by
      cases step with
      | configure levelName formatName =>
        rw [after, run_configure, LogStep.sets?]
        rcases LogState.named levelName formatName with error | c <;> rfl
      | _ => rfl
    rw [hstep, ih, lastSet?_cons]
    rcases lastSet? rest with _ | c <;> rfl

end Registries

/-! ### Events -/

/-- The events that a step says. -/
def LogStep.events : LogStep → List Event
  | .log e => [e]
  | .speak events => events
  | _ => []

namespace Record

/-- The keys of the values that can keep a record from being written. -/
def faultFields : List String := [sourceField, stackField, failureField]

/-- An event, in a context of bound values, has no value that can keep it from being written. -/
def Plain (bound : Entries) (e : Event) : Prop :=
  ∀ key ∈ faultFields, (withBound e.values bound).find? key = none

/-- A plain event can be written in both formats. -/
theorem fault?_ofEvent_of_plain {bound : Entries} {e : Event} (h : Plain bound e)
    (format : LogFormat) : (ofEvent bound e).fault? format = none := by
  have hfind : ∀ key ∈ faultFields, (ofEvent bound e).values.find? key = none := by
    intro key hkey
    have hother : key ∉ ownFields ++ requests ∧ key ≠ "service" ∧ key ≠ "version" := by
      revert key
      decide
    rw [find?_values_ofEvent hother.1 hother.2.1 hother.2.2, ← find?_withBound]
    exact h key hkey
  have hsource : (ofEvent bound e).sourceFault? = none := by
    rw [sourceFault?, hfind sourceField (by decide)]
  have hbelow : (ofEvent bound e).belowFault? = none := by
    simp [belowFault?, hfind stackField (by decide), hfind failureField (by decide)]
  cases format with
  | json => exact hsource
  | console => rw [fault?, hsource, hbelow]; rfl

end Record

namespace LogState

variable {s : LogState} {step : LogStep} {e : Event} {level : Level} {format : LogFormat}

/-- The line of an event under a threshold. -/
theorem line_of_configured (h : s.configured = some (level, format)) (e : Event) :
    s.line e =
      if level.number ≤ e.level.number then some (format, Record.ofEvent s.bound e) else none := by
  rw [line, record, h]
  by_cases hlevel : level.number ≤ e.level.number <;> simp [hlevel]

/-- What becomes of an event that is said alone: it is written exactly if it reaches the
threshold. -/
theorem exists_step_eq_written (h : s.configured = some (level, format))
    (hevents : step.events = [e]) :
    ∃ kept, (step = .log e → kept = format) ∧ (s.step step).2 =
      written (if level.number ≤ e.level.number then [(kept, Record.ofEvent s.bound e)] else []) := by
  cases step with
  | log e' =>
    obtain rfl : e' = e := by simpa [LogStep.events] using hevents
    refine ⟨format, fun _ => rfl, ?_⟩
    rw [LogState.step, becoming_of_configured h, line_of_configured h]
    by_cases hlevel : level.number ≤ e'.level.number <;> simp [hlevel]
  | speak events =>
    obtain rfl : events = [e] := hevents
    refine ⟨s.keptFormat e.logger format, fun hlog => LogStep.noConfusion hlog, ?_⟩
    have hsay : (s.say [e]).2 = (s.keptLine e).toList := List.append_nil _
    rw [LogState.step, becoming_of_configured h, hsay, keptLine, line_of_configured h]
    by_cases hlevel : level.number ≤ e.level.number <;> simp [hlevel]
  | _ => simp [LogStep.events] at hevents

theorem written_singleton (line : Line) :
    written [line] = match line.2.fault? line.1 with
      | some error => .failed error
      | none => .wrote [line] := by
  rw [written, firstFault?]
  rcases hfault : line.2.fault? line.1 with _ | error <;> simp [hfault]

/-- An event that is said alone is dropped exactly if it is below the threshold. -/
theorem step_eq_wrote_nil_iff (h : s.configured = some (level, format))
    (hevents : step.events = [e]) :
    (s.step step).2 = .wrote [] ↔ e.level.number < level.number := by
  obtain ⟨kept, -, hstep⟩ := exists_step_eq_written h hevents
  rw [hstep, ← Nat.not_le]
  by_cases hlevel : level.number ≤ e.level.number
  · rw [if_pos hlevel, written_singleton]
    refine iff_of_false ?_ (not_not_intro hlevel)
    split <;> simp
  · rw [if_neg hlevel]
    exact iff_of_true rfl hlevel

/-- A plain event that is said alone is written exactly if it reaches the threshold. -/
theorem exists_step_eq_wrote_iff (h : s.configured = some (level, format))
    (hevents : step.events = [e]) (hplain : Record.Plain s.bound e) :
    (∃ line, (s.step step).2 = .wrote [line]) ↔ level.number ≤ e.level.number := by
  obtain ⟨kept, -, hstep⟩ := exists_step_eq_written h hevents
  rw [hstep]
  by_cases hlevel : level.number ≤ e.level.number
  · rw [if_pos hlevel, written_singleton, Record.fault?_ofEvent_of_plain hplain]
    exact iff_of_true ⟨_, rfl⟩ hlevel
  · rw [if_neg hlevel]
    exact iff_of_false nofun hlevel

/-! ### Sessions -/

/-- What a refused attempt to configure leaves of a session: all that there is without it. -/
structure LeavesNoTrace (s : LogState) (r : Registries) (before : List LogStep)
    (levelName formatName : String) (error : LogNameError) : Prop where
  registries : (Registries.configure levelName formatName).run.run (r.after before) =
    (.error error, r.after before)
  session : ∀ rest, ∃ last outcomes,
    s.run (before ++ rest) = (last, (s.run before).2 ++ outcomes) ∧
      s.run (before ++ .configure levelName formatName :: rest) =
        (last, (s.run before).2 ++ .refused error :: outcomes)

/-- A threshold and a format that decide what becomes of events. -/
structure Decides (s : LogState) (r : Registries) (level : Level) (format : LogFormat) :
    Prop where
  configured : s.configured = some (level, format)
  registries : r = .inStep (level, format)
  passes : ∀ l, r.Passes l ↔ level.number ≤ l.number
  outcome : ∀ step e, step.events = [e] →
    ∃ kept, (step = .log e → kept = format) ∧ (s.step step).2 =
      written (if level.number ≤ e.level.number then [(kept, Record.ofEvent s.bound e)] else [])
  drops_iff : ∀ step e, step.events = [e] →
    ((s.step step).2 = .wrote [] ↔ e.level.number < level.number)
  writes_iff : ∀ step e, step.events = [e] → Record.Plain s.bound e →
    ((∃ line, (s.step step).2 = .wrote [line]) ↔ level.number ≤ e.level.number)

theorem leavesNoTrace {levelName formatName : String} {error : LogNameError}
    (h : named levelName formatName = .error error) (s : LogState) (r : Registries)
    (before : List LogStep) : s.LeavesNoTrace r before levelName formatName error where
  registries := by rw [Registries.run_configure, h]
  session rest := by
    refine ⟨_, _, s.run_append before rest, ?_⟩
    rw [run_append, run_cons, step_configure, h]

theorem decides {before : List LogStep} (h : lastSet? before = some (level, format))
    (s : LogState) (r : Registries) : (s.run before).1.Decides (r.after before) level format := by
  have hconfigured : (s.run before).1.configured = some (level, format) := by
    rw [configured_run, h, Option.some_or]
  have hregistries : r.after before = .inStep (level, format) := by
    rw [Registries.after_eq, h]
    rfl
  exact
    { configured := hconfigured
      registries := hregistries
      passes := fun _ => hregistries ▸ Registries.passes_inStep_iff
      outcome := fun _ _ => exists_step_eq_written hconfigured
      drops_iff := fun _ _ => step_eq_wrote_nil_iff hconfigured
      writes_iff := fun _ _ => exists_step_eq_wrote_iff hconfigured }

/-- Anywhere in a session an attempt to configure is refused exactly if one of its names is not
allowed, and then leaves no trace; the attempt that was accepted last decides, by its level alone,
which events are written. Any event below the level is dropped. That an event which reaches it is
written is said of plain events; one that is not plain may come to nothing because it cannot be
written at all, which `outcome` tells of every event. -/
theorem run_lastSet (s : LogState) (r : Registries) (before : List LogStep) :
    (∀ levelName formatName,
      ((∃ error, ((s.run before).1.step (.configure levelName formatName)).2 = .refused error) ↔
        ¬(Text.upper levelName ∈ Level.all.map Level.name ∧
          Text.lower formatName ∈ LogFormat.all.map LogFormat.name)) ∧
      ∀ error, ((s.run before).1.step (.configure levelName formatName)).2 = .refused error →
        s.LeavesNoTrace r before levelName formatName error) ∧
    ∀ level format, lastSet? before = some (level, format) →
      (s.run before).1.Decides (r.after before) level format := by
  refine ⟨fun levelName formatName => ⟨?_, fun error h => ?_⟩, fun level format h => ?_⟩
  · rw [← exists_named_eq_error_iff]
    exact exists_congr fun error => step_configure_eq_refused_iff
  · exact leavesNoTrace (step_configure_eq_refused_iff.mp h) s r before
  · exact decides h s r

/-- An accepted attempt and two refused ones, one for either name; another wrong name does not
change anything either. -/
theorem run_lastSet_refused :
    let before := [.configure "Info" "JSON", .configure "loud" "console", .configure "debug" "xml"]
    lastSet? before = some (.info, .json) ∧
      (∃ error, ({} : LogState).LeavesNoTrace ⟨none, 30, none⟩ before "trace" "json" error) ∧
      (({} : LogState).run before).1.Decides
        ((⟨none, 30, none⟩ : Registries).after before) .info .json := by
  have hlast : lastSet? [.configure "Info" "JSON", .configure "loud" "console",
      .configure "debug" "xml"] = some (.info, .json) := by decide +kernel
  have hwrong : ¬(Text.upper "trace" ∈ Level.all.map Level.name ∧
      Text.lower "json" ∈ LogFormat.all.map LogFormat.name) := by decide +kernel
  have hall := run_lastSet {} ⟨none, 30, none⟩ [.configure "Info" "JSON",
    .configure "loud" "console", .configure "debug" "xml"]
  obtain ⟨error, herror⟩ := (hall.1 "trace" "json").1.mpr hwrong
  exact ⟨hlast, ⟨error, (hall.1 _ _).2 error herror⟩, hall.2 _ _ hlast⟩

end LogState

end FailurePrompt
