import FailurePrompt.CommandLine.Help
import FailurePrompt.Files.Path
import FailurePrompt.Log.Level

/-!
# Arguments of the program

The program has three commands on a stack text: `locate` prints the location that it points at,
`frames` lists its frames, and `prompt` builds the prompt for it. `Arguments.read` reads a command
line; options before the command concern the program as a whole, those after it the command.
Arguments that neither understands are reported last.
-/

namespace FailurePrompt

/-- The commands. -/
inductive Command
  | locate
  | frames
  | prompt (title messageFile : String) (snapshotFile : Option String)
  deriving Repr, DecidableEq

/-- A command line that was understood. -/
structure Arguments where
  settingsFile : Option String := none
  debug : Bool := false
  format : LogFormat := .console
  showInternalFrames : Bool := false
  stackFile : String
  command : Command
  deriving Repr, DecidableEq

/-- Why a command line leads to no command. -/
inductive ArgumentsStop
  /-- It was refused; the name of the command is given if the command refused it. -/
  | usage (command : Option String) (e : UsageError)
  | version
  /-- Help was asked for, with the program as a whole or with a command. -/
  | help (command : Option String)
  deriving Repr, DecidableEq

namespace Arguments

/-- The name of the program. -/
def programName : String := "fix-with-ai"

/-! ### The options -/

/-- Asks for help. -/
def helpOption : OptionSpec :=
  { names := ["-h", "--help"], use := .help, explanation := "show this help message and exit" }

/-- Asks for the version. -/
def versionOption : OptionSpec :=
  { names := ["--version"], use := .version
    explanation := "show program's version number and exit" }

/-- The file with the settings. -/
def settingsOption : OptionSpec :=
  { names := ["-c", "--config"]
    explanation := "Path to YAML configuration file (default: environment only)" }

/-- Turns on all notices. -/
def debugOption : OptionSpec :=
  { names := ["-d", "--debug"], use := .flag, explanation := "Enable debug logging" }

/-- The format of the log. -/
def formatOption : OptionSpec :=
  { names := ["--format"], choices := LogFormat.all.map LogFormat.name
    explanation := "Log output format (default: console)" }

/-- Lets runtime frames be locations. -/
def internalOption : OptionSpec :=
  { names := ["--show-internal-frames"], use := .flag
    explanation := "Allow runtime-internal frames as error locations" }

/-- The file with the stack text. -/
def stackOption : OptionSpec :=
  { names := ["--stack-file"], required := true
    explanation := "Stack trace file ('-' for stdin)" }

/-- The title of the test. -/
def titleOption : OptionSpec :=
  { names := ["--title"], required := true, explanation := "Test title" }

/-- The file with the error message. -/
def messageOption : OptionSpec :=
  { names := ["--message-file"], required := true, explanation := "Error message file" }

/-- The file with the snapshot of the page. -/
def snapshotOption : OptionSpec :=
  { names := ["--snapshot-file"]
    explanation := "ARIA snapshot file (default: empty snapshot)" }

/-- The options of the program as a whole. -/
def programOptions : List OptionSpec :=
  [helpOption, versionOption, settingsOption, debugOption, formatOption, internalOption]

/-- The commands with their options. -/
def commands : List (String × List OptionSpec) :=
  [("locate", [helpOption, stackOption]),
   ("frames", [helpOption, stackOption]),
   ("prompt", [helpOption, titleOption, messageOption, stackOption, snapshotOption])]

/-! ### Reading -/

/-- Why reading ended early, as seen by the program. -/
def stopOf (command : Option String) : Options.Stop → ArgumentsStop
  | .usage e => .usage command e
  | .version => .version
  | .help => .help command

/-- The command that was read. -/
def commandOf (name : String) (r : Options.Reading) : Command :=
  if name = "prompt" then
    .prompt ((r.value? titleOption).getD "") ((r.value? messageOption).getD "")
      (r.value? snapshotOption)
  else if name = "frames" then .frames
  else .locate

/-- The arguments of the program as a whole and those of a command. -/
def combine (outer : Options.Reading) (name : String) (inner : Options.Reading) : Arguments where
  settingsFile := outer.value? settingsOption
  debug := outer.has debugOption
  format := ((outer.value? formatOption).bind LogFormat.ofName?).getD .console
  showInternalFrames := outer.has internalOption
  stackFile := (inner.value? stackOption).getD ""
  command := commandOf name inner

/-- Reads the arguments of a command. -/
def readCommand (outer : Options.Reading) (name : String) (args : List String) :
    Except ArgumentsStop Arguments :=
  match commands.lookup name with
  | none => .error (.usage none (.notAmong "command" name (commands.map Prod.fst)))
  | some specs =>
    match Options.read specs false args with
    | .error e => .error (stopOf (some name) e)
    | .ok inner =>
      match inner.missing specs, outer.leftOver ++ inner.leftOver with
      | [], [] => .ok (combine outer name inner)
      | [], leftOver => .error (.usage none (.unrecognized leftOver))
      | missing, _ => .error (.usage (some name) (.missing missing))

/-- Reads a command line. -/
def read (args : List String) : Except ArgumentsStop Arguments :=
  match Options.read programOptions true args with
  | .error e => .error (stopOf none e)
  | .ok outer =>
    match outer.rest with
    | [] => .error (.usage none (.missing ["command"]))
    | name :: args => readCommand outer name args

/-! ### Help -/

/-- What the program is for. -/
def purpose : String := "Build AI fix prompts from failed UI test errors"

/-- What a command is for. -/
def purposeOf (command : String) : String :=
  if command = "locate" then "Print the error's application location"
  else if command = "frames" then "Print every parsed stack frame"
  else "Print the Fix with AI prompt"

/-- The names of the commands as one word. -/
def commandWord : String :=
  "\x7b" ++ String.intercalate "," (commands.map Prod.fst) ++ "\x7d"

/-- The name under which a command is called. -/
def fullName (command : Option String) : String :=
  match command with
  | none => programName
  | some name => s!"{programName} {name}"

/-- The options of a command, or of the program as a whole. -/
def optionsOf (command : Option String) : List OptionSpec :=
  match command with
  | none => programOptions
  | some name => (commands.lookup name).getD []

/-- How the program or a command is called. -/
def callText (command : Option String) : String :=
  let operands := if command.isSome then [] else [commandWord, "..."]
  Help.call (fullName command) (optionsOf command) operands

/-- The list of the commands. -/
def commandItems : List Help.Item :=
  { name := commandWord } ::
    commands.map fun (name, _) => { indent := 4, name, explanation := purposeOf name }

/-- What the program answers when it is asked for help. -/
def helpText (command : Option String) : String :=
  let options := Help.titled "options" ((optionsOf command).map Help.Item.ofOption)
  let before := match command with
    | none => [purpose, ""] ++ Help.titled "positional arguments" commandItems ++ [""]
    | some _ => []
  callText command ++ Help.lines ("" :: before ++ options)

/-- Why a command line is refused, in words, after how it should be called. -/
def usageText (command : Option String) (e : UsageError) : String :=
  callText command ++ s!"{fullName command}: error: {e.message}"

end Arguments

end FailurePrompt
