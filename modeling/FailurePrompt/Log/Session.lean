import FailurePrompt.Log.State

/-!
# Sessions with the log

A host configures the log, binds values and says events, one step after the other and in any order.
Each step has an outcome: what was written, or why nothing was. As long as the log is not configured,
warnings and worse are not lost: they are left to the last resort, which writes them in a form of
its own. The main statements, `run_append`, `configured_step_of_ne` and `step_speak_notices`, are
that a session can be cut in two anywhere, that only configuring changes the threshold and the
format, and that this library itself says nothing to a log that is not configured.
-/

namespace FailurePrompt

/-- A step of a host with the log. -/
inductive LogStep
  | configure (level format : String)
  | bind (values : Entries)
  | clear
  /-- An event is said by a logger that is made for it. -/
  | log (e : Event)
  /-- Parts of this library say events, one after the other. -/
  | speak (events : List Event)

/-- What a step comes to. -/
inductive LogOutcome
  | wrote (lines : List LogState.Line)
  /-- One of the names for a level and a format is wrong. -/
  | refused (e : LogNameError)
  /-- An event cannot be written. -/
  | failed (e : EventError)
  /-- Events are left to the last resort of a log that is not configured. How it writes them, and
  whether it can, is not said here. -/
  | lastResort (events : List Event)

namespace LogState

/-- The outcome of lines that are to be written. -/
def written (lines : List Line) : LogOutcome :=
  match firstFault? lines with
  | some e => .failed e
  | none => .wrote lines

/-- The events that are left to the last resort. -/
def lastResort (s : LogState) (events : List Event) : List Event :=
  match s.configured with
  | none => events.filter fun e => s.threshold ≤ e.level.number
  | some _ => []

/-- What becomes of events and of the lines that they are to be written in. -/
def becoming (s : LogState) (events : List Event) (lines : List Line) : LogOutcome :=
  match s.lastResort events with
  | [] => written lines
  | e :: rest => .lastResort (e :: rest)

/-- Takes a step. -/
def step (s : LogState) : LogStep → LogState × LogOutcome
  | .configure level format =>
    match s.configure level format with
    | .ok s' => (s', .wrote [])
    | .error e => (s, .refused e)
  | .bind values => (s.bind values, .wrote [])
  | .clear => (s.clear, .wrote [])
  | .log e => (s, s.becoming [e] (s.line e).toList)
  | .speak events => ((s.say events).1, s.becoming events (s.say events).2)

/-- Takes steps, one after the other. -/
def run (s : LogState) : List LogStep → LogState × List LogOutcome
  | [] => (s, [])
  | step :: rest =>
    let (s', outcome) := s.step step
    let (s'', outcomes) := s'.run rest
    (s'', outcome :: outcomes)

theorem run_cons (s : LogState) (step : LogStep) (rest : List LogStep) :
    s.run (step :: rest) =
      (((s.step step).1.run rest).1, (s.step step).2 :: ((s.step step).1.run rest).2) := rfl

/-- A session goes on from where it was interrupted. -/
theorem run_append (s : LogState) (before after : List LogStep) :
    s.run (before ++ after) =
      (((s.run before).1.run after).1, (s.run before).2 ++ ((s.run before).1.run after).2) := by
  induction before generalizing s with
  | nil => rfl
  | cons step before ih => rw [List.cons_append, run_cons, run_cons, ih]; rfl

/-- Only configuring changes what is configured. -/
theorem configured_step_of_ne {s : LogState} {step : LogStep}
    (h : ∀ level format, step ≠ .configure level format) :
    (s.step step).1.configured = s.configured := by
  cases step with
  | configure level format => exact absurd rfl (h level format)
  | bind values => rfl
  | clear => rfl
  | log e => rfl
  | speak events => exact (s.say_fst events).1

/-! ### The last resort -/

/-- Nothing is left to the last resort of a log that is configured. -/
theorem becoming_of_configured {s : LogState} {c : Level × LogFormat} (h : s.configured = some c)
    (events : List Event) (lines : List Line) : s.becoming events lines = written lines := by
  rw [becoming, lastResort, h]

/-- A log that is not configured writes no lines. -/
theorem say_snd_of_not_configured {s : LogState} (h : s.configured = none) (events : List Event) :
    (s.say events).2 = [] := by
  have hrecord : events.filterMap s.record = [] :=
    List.filterMap_eq_nil_iff.mpr fun e _ => by rw [record, h]
  exact List.map_eq_nil_iff.mp ((s.map_snd_say events).trans hrecord)

/-- What this library itself says to a log that is not configured is lost: no notice is a warning.
-/
theorem step_speak_notices {s : LogState} (h : s.configured = none) (notices : List Notice) :
    (s.step (.speak (notices.map Notice.event))).2 = .wrote [] := by
  have hlast : s.lastResort (notices.map Notice.event) = [] := by
    have hthreshold : s.threshold = Level.warning.number := by rw [threshold, h]; rfl
    simp only [lastResort, h, List.filter_eq_nil_iff, List.forall_mem_map, hthreshold,
      decide_eq_true_eq, Nat.not_le]
    exact fun n _ => n.number_level_lt_warning
  rw [step, becoming, hlast, say_snd_of_not_configured h]
  rfl

end LogState

end FailurePrompt
