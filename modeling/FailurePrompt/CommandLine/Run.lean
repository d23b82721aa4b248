import FailurePrompt.CommandLine.Arguments
import FailurePrompt.CommandLine.Streams
import FailurePrompt.Log.State
import FailurePrompt.Settings.Builder

/-!
# Running a command

A command reads its settings first, then the stack text, then whatever else it needs, and prints
its result, a listing frame by frame. What can go wrong on the way is a `RunError`; most of them are
reported in the log and give the exit code one, a few are not foreseen and end the program. The main
statement, `conclude_of_takes`, is that a run writes all that its command prints if the standard
output takes it.
-/

namespace FailurePrompt

/-- What the program finds when it is started. -/
structure Host where
  files : Files
  env : Environment := {}
  stdin : Stdin := ""
  /-- What settings are made with. -/
  framework : Framework := {}
  /-- The codecs that source files are read with. -/
  codecs : Codecs := .standard

/-- Why a command could not do its work. -/
inductive RunError
  | settings (e : SettingsFileError)
  | input (path : Path) (e : FileError)
  | undecodable (e : Utf8.Error)
  | stdin (e : InputFault)
  | template (e : Template.LoadError)
  | resolve (e : ResolveError)
  | stdout (e : PrintFault)
  deriving Repr, DecidableEq

namespace RunError

/-- The wording of an error. -/
def message : RunError → String
  | .settings e => e.message
  | .input path e => e.message path
  | .undecodable e => e.message
  | .stdin e => e.message
  | .template e => e.message
  | .resolve e => e.message
  | .stdout e => e.message

/-- The event by which a refusal of the system is reported, by its number. -/
def refusalEvent (number : Nat) : String :=
  if number = 2 then "input_file_not_found" else "input_read_failed"

/-- The event by which an error is reported; there is none for an error that is not foreseen. -/
def event? : RunError → Option String
  | .settings (.missing _) => some "input_file_not_found"
  | .settings (.refused _ _) => some "input_read_failed"
  | .settings (.undecodable _) => some "input_read_failed"
  | .settings (.yaml (.malformed _)) => none
  | .settings (.yaml (.badScalar .hugeCharacter)) => none
  | .settings (.yaml (.badScalar _)) => some "configuration_invalid"
  | .settings .foreignKey => none
  | .settings (.settings (.badSource (.badVariable ⟨_, .tooDeep⟩))) => none
  | .settings (.settings (.badSource (.badInstruction false _))) => none
  | .settings _ => some "configuration_invalid"
  | .input _ .notFound => some "input_file_not_found"
  | .input _ .nulInName => some "configuration_invalid"
  | .input _ _ => some "input_read_failed"
  | .undecodable _ => some "input_read_failed"
  | .stdin (.undecodable _) => some "input_read_failed"
  | .stdin (.refused number _) => some (refusalEvent number)
  | .stdin .closed => none
  | .template (.undecodable _) => some "input_read_failed"
  | .template _ => some "configuration_invalid"
  | .resolve _ => some "configuration_invalid"
  | .stdout (.unencodable _) => some "configuration_invalid"
  | .stdout (.refused number _) => some (refusalEvent number)

end RunError

namespace Run

/-- The name that stands for the standard input. -/
def stdinName : String := "-"

/-- Reads a text from a file, or what is left of the standard input. The text is returned with what
is left of the standard input after it. -/
def readInput (files : Files) (stdin : Stdin) (name : String) : Except RunError (String × Stdin) :=
  if name = stdinName then
    match stdin.read with
    | .error e => .error (.stdin e)
    | .ok cs => .ok (String.ofList cs, "")
  else
    let path := Path.ofString name
    match files.read path with
    | .error e => .error (.input path e)
    | .ok bytes =>
      match Utf8.decode bytes with
      | .error e => .error (.undecodable e)
      | .ok cs => .ok (String.ofList (Text.unifyLineEnds cs), stdin)

/-- Reads a text that may be left out. -/
def readOptional (files : Files) (stdin : Stdin) :
    Option String → Except RunError (String × Stdin)
  | none => .ok ("", stdin)
  | some name => readInput files stdin name

/-- The settings of a command line. -/
def settings (host : Host) (args : Arguments) : Except RunError Settings :=
  let path := args.settingsFile.map Path.ofString
  match Settings.load host.files host.env path host.framework with
  | .error e => .error (.settings e)
  | .ok s => .ok (if args.showInternalFrames then { s with showInternalFrames := true } else s)

/-! ### The commands -/

/-- The part of the program that runs commands. -/
def logger : String := "fix_with_ai.__main__"

/-- What a command comes to: an exit code, or an error. -/
abbrev Result := Except RunError Nat

/-- A command that has its result prints it. -/
def printing (texts : List String) : Acted Result := ⟨.ok 0, texts.map .print⟩

/-- A command without a result says so. -/
def lacking (event : String) (values : Entries) : Acted Result :=
  ⟨.ok 1, [.say { logger, level := .warning, name := .text event, values }]⟩

/-- A command that fails. -/
def failing (e : RunError) : Acted Result := ⟨.error e, []⟩

/-- The shown name of a frame. -/
def shownName (frame : Frame) : String :=
  match frame.functionName with
  | none => "<anonymous>"
  | some name => if name = "" then "<anonymous>" else name

/-- The shown position of a frame. -/
def shownPosition (frame : Frame) : String :=
  if frame.isNative then "native"
  else s!"{frame.file}:{frame.lineNumber}:{frame.columnNumber}"

/-- A frame on a line of its own. -/
def frameLine (frame : Frame) : String := shownName frame ++ "\t" ++ shownPosition frame ++ "\n"

/-- Lists the frames of a stack text, one after another. -/
def frames (stack : String) : Acted Result :=
  match FrameParser.parseStack {} (some stack) with
  | .error e => failing (.resolve (.numeral e))
  | .ok found => printing (found.map frameLine)

/-- Prints the location that a stack text points at. -/
def locate (settings : Settings) (stack : String) : Acted Result :=
  (settings.resolver.resolve (some stack)).thenActed fun
    | .error e => failing (.resolve e)
    | .ok none => lacking "location_not_found" []
    | .ok (some location) => printing [location.text ++ "\n"]

/-- What a prompt is built from. -/
structure PromptInput where
  builder : PromptBuilder
  failure : Failure
  snapshot : String

/-- Reads what a prompt is built from: the message, the template and the snapshot. -/
def promptInput (host : Host) (settings : Settings) (stack : String) (stdin : Stdin)
    (messageFile : String) (snapshotFile : Option String) : Except RunError PromptInput :=
  match readInput host.files stdin messageFile with
  | .error e => .error e
  | .ok (message, stdin) =>
    match settings.builder host.files host.codecs with
    | .error e => .error (.template e)
    | .ok builder =>
      match readOptional host.files stdin snapshotFile with
      | .error e => .error e
      | .ok (snapshot, _) => .ok ⟨builder, ⟨some message, some stack⟩, snapshot⟩

/-- Prints a prompt. -/
def prompt (files : Files) (title : String) (input : PromptInput) : Acted Result :=
  (input.builder.build files title input.failure input.snapshot).thenActed fun
    | .error e => failing (.resolve e)
    | .ok text =>
      if text = "" then lacking "prompt_not_buildable" [("title", .text title)]
      else printing [text ++ "\n"]

/-- Runs a command on a stack text. -/
def onStack (host : Host) (settings : Settings) (command : Command) (stack : String)
    (stdin : Stdin) : Acted Result :=
  match command with
  | .frames => frames stack
  | .locate => locate settings stack
  | .prompt title messageFile snapshotFile =>
    match promptInput host settings stack stdin messageFile snapshotFile with
    | .error e => failing e
    | .ok input => prompt host.files title input

/-- Runs a command. -/
def command (host : Host) (args : Arguments) : Acted Result :=
  match settings host args with
  | .error e => failing e
  | .ok s =>
    match readInput host.files host.stdin args.stackFile with
    | .error e => failing e
    | .ok (stack, stdin) => onStack host s args.command stack stdin

end Run

/-! ### Exit codes and the log -/

/-- How the program ended. -/
inductive Ending
  | exit (code : Nat)
  /-- The command line was refused with a text that says why. -/
  | usage (text : String)
  /-- An error that is not foreseen. -/
  | failure (e : RunError)
  deriving Repr, DecidableEq

/-- What the program did. -/
structure RunOutcome where
  ending : Ending
  stdout : String := ""
  lines : List LogState.Line := []

namespace Run

/-- The state of the log that a command line asks for. -/
def logState (args : Arguments) : LogState :=
  ({} : LogState).set (if args.debug then .debug else .warning) args.format

/-- The report on an error, if there is one. -/
def report : Result → Option Event
  | .error e =>
    e.event?.map fun name =>
      { logger, level := .error, name := .text name, values := [("error", .text e.message)] }
  | .ok _ => none

/-- How the program ends after a command. -/
def ending : Result → Ending
  | .error e => if e.event?.isSome then .exit 1 else .failure e
  | .ok code => .exit code

/-- What a command comes to when its acts are done: a print that fails is its error. -/
def result (done : Act.Performed) (found : Result) : Result :=
  match done.fault with
  | some fault => .error (.stdout fault)
  | none => found

/-- Does the acts of a command, reports on it and ends the program. -/
def conclude (args : Arguments) (stdout : Stdout) (found : Acted Result) : RunOutcome :=
  let done := Act.perform stdout "" found.acts
  let result := result done found.value
  ⟨ending result, done.written, ((logState args).say (done.said ++ (report result).toList)).2⟩

/-- Runs the program on arguments that were understood. -/
def outcome (host : Host) (args : Arguments) (stdout : Stdout := {}) : RunOutcome :=
  conclude args stdout (command host args)

/-- What the program answers when it is asked for its version. -/
def versionText : String := s!"{Arguments.programName} {programVersion}\n"

/-- Runs the program on a command line. -/
def program (host : Host) (args : List String) (stdout : Stdout := {}) : RunOutcome :=
  match Arguments.read args with
  | .ok args => outcome host args stdout
  | .error (.usage command e) => { ending := .usage (Arguments.usageText command e) }
  | .error .version => { ending := .exit 0, stdout := versionText }
  | .error (.help command) => { ending := .exit 0, stdout := Arguments.helpText command }

/-- If the standard output takes what a command prints, the run ends as the command does, and
writes all of it. -/
theorem conclude_of_takes {args : Arguments} {stdout : Stdout} {found : Acted Result}
    (h : stdout.Takes "" (Act.printed found.acts)) :
    conclude args stdout found =
      ⟨ending found.value, String.join (Act.printed found.acts),
        ((logState args).say (Act.said found.acts ++ (report found.value).toList)).2⟩ := by
  rw [conclude, Act.perform_of_takes h, String.empty_append]
  rfl

end Run

end FailurePrompt
