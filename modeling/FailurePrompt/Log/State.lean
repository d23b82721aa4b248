import FailurePrompt.Log.Record
import FailurePrompt.Text.LetterCase
import FailurePrompt.Text.Quoted

/-!
# The state of the log

Until it is configured, the log makes no records; what becomes of warnings then is told with the
sessions. Configuring it sets a threshold and a format, or, if one of the names is wrong, changes
nothing. Values can be bound, to appear in every later record.
The parts of this library keep the format that was in force when they first spoke to a configured
log; other loggers follow the format of the day. The threshold is always that of the last
configuration. The main statements, `configure_eq_error_iff` and `record_isSome_iff`, say when
configuring fails and which events are recorded.
-/

namespace FailurePrompt

/-- A name that is none of a level or a format. -/
inductive LogNameError
  | level (name : String)
  | format (name : String)
  deriving Repr, DecidableEq

/-- The wording of a wrong name. -/
def LogNameError.message : LogNameError → String
  | .level name => s!"{Text.quote name} is not a valid LogLevel"
  | .format name => s!"{Text.quote name} is not a valid LogFormat"

/-- The state of the log. -/
structure LogState where
  /-- The threshold and the format, once the log is configured. -/
  configured : Option (Level × LogFormat) := none
  bound : Entries := []
  /-- The parts that have spoken to a configured log, with the format that they keep. -/
  formats : List (String × LogFormat) := []

namespace LogState

/-- The number below which an event is lost. Until the log is configured, it is that of warnings. -/
def threshold (s : LogState) : Nat :=
  (s.configured.map fun c => c.1.number).getD Level.warning.number

/-! ### Configuring -/

/-- The level with a name in any case. -/
def levelNamed (name : String) : Except LogNameError Level :=
  match Level.ofName? (Text.upper name) with
  | some level => .ok level
  | none => .error (.level (Text.upper name))

/-- The format with a name in any case. -/
def formatNamed (name : String) : Except LogNameError LogFormat :=
  match LogFormat.ofName? (Text.lower name) with
  | some format => .ok format
  | none => .error (.format (Text.lower name))

/-- The state with a threshold and a format. -/
def set (s : LogState) (level : Level) (format : LogFormat) : LogState :=
  { s with configured := some (level, format) }

/-- Configures the log by names; the level is looked at first. -/
def configure (s : LogState) (level format : String) : Except LogNameError LogState :=
  match levelNamed level, formatNamed format with
  | .error e, _ => .error e
  | .ok _, .error e => .error e
  | .ok level, .ok format => .ok (s.set level format)

/-- Configuring fails exactly when one of the names is wrong. -/
theorem configure_eq_error_iff {s : LogState} {level format : String} :
    (∃ e, s.configure level format = .error e) ↔
      Level.ofName? (Text.upper level) = none ∨ LogFormat.ofName? (Text.lower format) = none := by
  unfold configure levelNamed formatNamed
  cases Level.ofName? (Text.upper level) <;> cases LogFormat.ofName? (Text.lower format) <;> simp

/-! ### Context -/

/-- Binds values; a new value for a key replaces the old one. -/
def bind (s : LogState) (values : Entries) : LogState :=
  { s with bound := values.foldl (fun bound e => bound.insert e.1 e.2) s.bound }

/-- Forgets all bound values. -/
def clear (s : LogState) : LogState := { s with bound := [] }

/-! ### Recording -/

/-- A record and the format in which it is to be written. -/
abbrev Line := LogFormat × Record

/-- Why some lines cannot be written: the first fault decides. -/
def firstFault? (lines : List Line) : Option EventError :=
  lines.findSome? fun (format, r) => r.fault? format

/-- The record of an event, if it reaches the threshold of a configured log. -/
def record (s : LogState) (e : Event) : Option Record :=
  match s.configured with
  | none => none
  | some (threshold, _) =>
    if threshold.number ≤ e.level.number then some (Record.ofEvent s.bound e) else none

/-- An event is recorded exactly if the log is configured and the event reaches the threshold. -/
theorem record_isSome_iff {s : LogState} {e : Event} :
    (s.record e).isSome = true ↔
      ∃ c, s.configured = some c ∧ c.1.number ≤ e.level.number := by
  unfold record
  cases s.configured with
  | none => simp
  | some c =>
    obtain ⟨level, format⟩ := c
    simp only [Option.some.injEq, exists_eq_left']
    split <;> simp_all

/-- The line that an event becomes in the format of the day. -/
def line (s : LogState) (e : Event) : Option Line :=
  match s.configured, s.record e with
  | some (_, format), some r => some (format, r)
  | _, _ => none

/-- The format that a part of this library uses: the one it keeps, or else that of the day. -/
def keptFormat (s : LogState) (logger : String) (ofTheDay : LogFormat) : LogFormat :=
  (s.formats.lookup logger).getD ofTheDay

/-- The state after a part of this library has spoken: it keeps its format from now on, whether
its event was recorded or not. -/
def keep (s : LogState) (logger : String) : LogState :=
  match s.configured with
  | none => s
  | some (_, format) =>
    match s.formats.lookup logger with
    | some _ => s
    | none => { s with formats := (logger, format) :: s.formats }

/-- The line that an event of a part of this library becomes. -/
def keptLine (s : LogState) (e : Event) : Option Line :=
  (s.line e).map fun (format, r) => (s.keptFormat e.logger format, r)

/-- Says events of parts of this library, one after the other. -/
def say (s : LogState) : List Event → LogState × List Line
  | [] => (s, [])
  | e :: rest =>
    -- The first event already goes out in the format that it makes its part keep.
    let (s', lines) := (s.keep e.logger).say rest
    (s', (s.keptLine e).toList ++ lines)

theorem keep_fst (s : LogState) (logger : String) :
    (s.keep logger).configured = s.configured ∧ (s.keep logger).bound = s.bound := by
  unfold keep
  split
  · exact ⟨rfl, rfl⟩
  · split <;> exact ⟨rfl, rfl⟩

/-- Speaking changes neither the threshold nor the bound values. -/
theorem say_fst (s : LogState) (events : List Event) :
    (s.say events).1.configured = s.configured ∧ (s.say events).1.bound = s.bound := by
  induction events generalizing s with
  | nil => exact ⟨rfl, rfl⟩
  | cons e rest ih =>
    have hk := s.keep_fst e.logger
    rw [← hk.1, ← hk.2]
    exact ih (s.keep e.logger)

theorem map_snd_keptLine (s : LogState) (e : Event) :
    (s.keptLine e).map Prod.snd = s.record e := by
  rw [keptLine, line]
  rcases hconfigured : s.configured with _ | ⟨level, format⟩
  · rw [record, hconfigured]
    rfl
  · rcases s.record e with _ | r <;> rfl

/-- What is recorded of several events is what is recorded of each, in their order. -/
theorem map_snd_say (s : LogState) (events : List Event) :
    (s.say events).2.map Prod.snd = events.filterMap s.record := by
  induction events generalizing s with
  | nil => rfl
  | cons e rest ih =>
    have hkeep : (s.keep e.logger).record = s.record := by
      funext e'
      rw [record, record, (s.keep_fst e.logger).1, (s.keep_fst e.logger).2]
    have hline := s.map_snd_keptLine e
    rw [say, List.map_append, ih, hkeep, List.filterMap_cons, ← hline]
    rcases s.keptLine e with _ | line <;> rfl

end LogState

end FailurePrompt
