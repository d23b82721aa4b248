import FailurePrompt.Log.Level
import FailurePrompt.Log.Notice
import FailurePrompt.Text.Quoted
import FailurePrompt.Value.Basic

/-!
# Events

An event is what a part of a program says to the log: its name, how much it matters, and some
values. Hosts say events by words, most of which are the words for the levels; every notice
becomes an event of the part of this library that it comes from. The main statements are that each
level can be said, and that notices are never warnings: a host that asks for warnings alone hears
nothing of them.
-/

namespace FailurePrompt

/-- Something said to the log. -/
structure Event where
  /-- The part of the program that says it. -/
  logger : String
  level : Level
  /-- What happened, as a rule a text; null says nothing. -/
  name : Value
  values : Entries := []
  /-- The failure that is being handled is to be shown with it. -/
  showsFailure : Bool := false

/-- Why an event cannot be said or written. -/
inductive EventError
  | unknownWord (word : String)
  /-- A value is passed under a name that the call itself uses. -/
  | nameTaken (call name : String)
  /-- A value that stands below the line is no text. -/
  | notText (kind : String)
  /-- The value from which the name of the logger is taken has none. -/
  | nameless (kind : String)
  deriving Repr, DecidableEq

/-- The wording of an event that cannot be said or written. -/
def EventError.message : EventError → String
  | .unknownWord word => Text.quote word
  | .nameTaken call name =>
    s!"BoundLogger.{call}() got multiple values for argument {Text.quote name}"
  | .notText kind => s!"can only concatenate str (not \"{kind}\") to str"
  | .nameless kind => s!"'{kind}' object has no attribute 'name'"

namespace Event

/-- The name of an event, if it says one. -/
def name? (e : Event) : Option Value :=
  match e.name with
  | .null => none
  | name => some name

/-- The logger above all others. -/
def rootLogger : String := "root"

/-- The logger with a name; without a name the one above all others is meant. -/
def loggerNamed (name : String) : String := if name = "" then rootLogger else name

/-- A word by which events are said. -/
structure Word where
  text : String
  /-- The word that it stands for. -/
  call : String := text
  level : Level
  showsFailure : Bool := false

/-- The words by which events are said. -/
def words : List Word :=
  [{ text := "debug", level := .debug },
   { text := "info", level := .info },
   { text := "warning", level := .warning },
   { text := "warn", call := "warning", level := .warning },
   { text := "error", level := .error },
   { text := "exception", level := .error, showsFailure := true },
   { text := "critical", level := .critical },
   { text := "fatal", level := .critical }]

/-- Each level can be said by its own word. -/
theorem exists_word_of_level (level : Level) :
    ∃ w ∈ words, w.text = level.word ∧ w.level = level ∧ w.showsFailure = false := by
  cases level <;> simp [words, Level.word]

/-- The names that a word uses itself. -/
def ownNames : List String := ["self", "event"]

/-- The name under which a word is handed on. -/
def handedOn : String := "method_name"

/-- The first name of a value that is taken by the call itself. -/
def taken? (call : String) (values : Entries) : Option EventError :=
  let names := values.map Prod.fst
  match names.find? (ownNames.contains ·) with
  | some name => some (.nameTaken call name)
  | none =>
    if names.contains handedOn then some (.nameTaken "_proxy_to_logger" handedOn) else none

/-- The event that is said by a word. -/
def said (word logger : String) (name : Value) (values : Entries) : Except EventError Event :=
  match words.find? (·.text = word) with
  | none => .error (.unknownWord word)
  | some w =>
    match taken? w.call values with
    | some e => .error e
    | none => .ok ⟨loggerNamed logger, w.level, name, values, w.showsFailure⟩

end Event

namespace SkipReason

/-- The word for a reason. -/
def word : SkipReason → String
  | .passed => "passed"
  | .willBeRetried => "will_be_retried"
  | .promptNotBuildable => "prompt_not_buildable"

end SkipReason

namespace Notice

/-- The part of the program that a notice comes from. -/
def logger : Notice → String
  | .frameSkipped _ | .locationResolved _ | .locationNotFound =>
    "fix_with_ai.core.location_resolver"
  | .sourceUnreadable _ _ | .windowEmpty _ _ => "fix_with_ai.core.snippet_extractor"
  | .promptNotBuildable _ _ _ => "fix_with_ai.core.prompt_builder"
  | .attachmentSkipped _ _ | .promptAttached _ _ => "fix_with_ai.core.attachment"

/-- How much a notice matters. -/
def level : Notice → Level
  | .promptAttached _ _ => .info
  | _ => .debug

/-- The name of a notice. -/
def name : Notice → String
  | .frameSkipped _ => "frame_skipped"
  | .locationResolved _ => "location_resolved"
  | .locationNotFound => "location_not_found"
  | .sourceUnreadable _ _ | .windowEmpty _ _ => "snippet_unavailable"
  | .promptNotBuildable _ _ _ => "prompt_not_buildable"
  | .attachmentSkipped _ _ => "fix_with_ai_skipped"
  | .promptAttached _ _ => "fix_with_ai_attached"

/-- The values of a notice. -/
def values : Notice → Entries
  | .frameSkipped line => [("frame", .text line)]
  | .locationResolved location => [("location", .text location.text)]
  | .locationNotFound => []
  | .sourceUnreadable filePath error => [("file_path", .text filePath), ("error", .text error)]
  | .windowEmpty filePath line => [("file_path", .text filePath), ("line", .int line)]
  | .promptNotBuildable title hasMessage hasSnippet =>
    [("title", .text title), ("has_message", .bool hasMessage),
      ("has_snippet", .bool hasSnippet)]
  | .attachmentSkipped title reason => [("title", .text title), ("reason", .text reason.word)]
  | .promptAttached title length => [("title", .text title), ("prompt_length", .int length)]

/-- The event that a notice becomes. -/
def event (n : Notice) : Event :=
  { logger := n.logger, level := n.level, name := .text n.name, values := n.values }

/-- A notice matters less than a warning. -/
theorem number_level_lt_warning (n : Notice) : n.level.number < Level.warning.number := by
  cases n <;> simp [level, Level.number]

end Notice

end FailurePrompt
