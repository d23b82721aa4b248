import FailurePrompt.CommandLine.Run
import FailurePrompt.Log.Clock
import Std.Time.DateTime.Timestamp

/-!
# The program

The outer layer of the command line: it fetches what the command may ask for, lets `Run.program`
decide everything, and writes the outcome. Nothing is decided here.
-/

namespace FailurePrompt.Program

/-- The reason that the system gave for not reading a file. -/
def fileErrorOf : IO.Error → FileError
  | .noFileOrDirectory _ _ _ => .notFound
  | .inappropriateType _ number wording =>
    if number = 20 then .notDirectory
    else if number = 21 then .isDirectory
    else .other number.toNat wording
  | .invalidArgument _ number wording =>
    if number = 36 then .nameTooLong else .other number.toNat wording
  | .permissionDenied _ number _ => .other number.toNat "Permission denied"
  | .otherError number wording => .other number.toNat wording
  | e => .other 5 (toString e)

/-- What comes of reading a path. -/
def fetch (path : Path) : IO (Except FileError (List UInt8)) := do
  if path.chars.contains '\x00' then return .error .nulInName
  try
    return .ok (← IO.FS.readBinFile path.text).toList
  catch e =>
    return .error (fileErrorOf e)

/-- What was fetched so far. -/
abbrev Known := List (Path × Except FileError (List UInt8))

/-- What was fetched, as files; anything else does not exist. -/
def files (known : Known) : Files :=
  ⟨fun path => (known.lookup path).getD (.error .notFound)⟩

/-- Fetches further paths. -/
def fetchAll (known : Known) (paths : List Path) : IO Known := do
  let fetched ← paths.mapM fun path => do return (path, ← fetch path)
  return known ++ fetched

/-- The paths that a command line names. -/
def namedPaths (args : Arguments) : List Path :=
  let inputs := match args.command with
    | .prompt _ messageFile snapshotFile => messageFile :: snapshotFile.toList
    | _ => []
  let named := args.settingsFile.toList ++ args.stackFile :: inputs
  (named.filter (· ≠ Run.stdinName)).map Path.ofString

/-- The names of the variables that may matter: the ones of the settings, and those that the
settings file refers to. -/
def variableNames (known : Known) (args : Arguments) : List String :=
  let text := fun name => Settings.textOfFile (files known) (Path.ofString name)
  match args.settingsFile.map text with
  | some (.ok text) =>
    Variables.names ++ (Environment.references text.toList).map String.ofList
  | _ => Variables.names

/-- The variable that is written as a name, an equals sign and a value. -/
def variableOf (written : List Char) : Option (String × String) :=
  match written.dropWhile (· ≠ '=') with
  | [] => none
  | _ :: value => some (String.ofList (written.takeWhile (· ≠ '=')), String.ofList value)

/-- The variables of the process. Their names count without regard to case, so all of them are
fetched; where the system does not list them, those with the given names are. -/
def environment (names : List String) : IO Environment := do
  try
    let block := Utf8.decodeLossy (← IO.FS.readBinFile "/proc/self/environ").toList
    return ⟨(Text.segments (· == '\x00') block).filterMap variableOf⟩
  catch _ =>
    let values ← names.mapM fun name => do return (name, ← IO.getEnv name)
    return ⟨values.filterMap fun (name, value) => value.map fun v => (name, v)⟩

/-- The paths that depend on the settings and on the stack text: the template and the source. -/
def foundPaths (host : Host) (args : Arguments) : List Path :=
  match Run.settings host args, Run.readInput host.files host.stdin args.stackFile with
  | .ok settings, .ok (stack, _) =>
    let source := match (settings.resolver.resolve (some stack)).value with
      | .ok (some location) => [Path.ofString location.filePath]
      | _ => []
    settings.templatePath.toList ++ source
  | _, _ => []

/-- A stream up to its end. -/
partial def drain (stream : IO.FS.Stream) (acc : ByteArray) : IO ByteArray := do
  let chunk ← stream.read 65536
  if chunk.isEmpty then return acc
  drain stream (acc ++ chunk)

/-- The reason that the system gave for not reading the standard input. -/
def inputFaultOf (e : IO.Error) : InputFault :=
  match (fileErrorOf e).system? with
  | some (9, _) => .closed
  | some (number, wording) => .refused number wording
  | none => .closed

/-- The standard input, which is read if the command line asks for it. -/
def standardInput (args : Arguments) : IO Stdin := do
  let inputs := match args.command with
    | .prompt _ messageFile snapshotFile => messageFile :: snapshotFile.toList
    | _ => []
  if !(args.stackFile :: inputs).contains Run.stdinName then return ""
  try
    match Utf8.decode (← drain (← IO.getStdin) ByteArray.empty).toList with
    | .ok cs => return ⟨.ok (Text.unifyLineEnds cs)⟩
    | .error e => return ⟨.error (.undecodable e.message)⟩
  catch e => return ⟨.error (inputFaultOf e)⟩

/-- Everything that a command may ask for. -/
def host (args : List String) : IO Host := do
  match Arguments.read args with
  | .error _ => return { files := files [] }
  | .ok args =>
    let known ← fetchAll [] (namedPaths args)
    let env ← environment (variableNames known args)
    let stdin ← standardInput args
    let asked : Host := { files := files known, env, stdin }
    let known ← fetchAll known (foundPaths asked args)
    return { asked with files := files known }

/-- The time as it stands in the log. -/
def now : IO String := do
  let time ← Std.Time.Timestamp.now
  return Clock.text (time.toNanosecondsSinceUnixEpoch.val.toNat / 1000)

/-- Writes the lines of the log. -/
def writeLog (lines : List LogState.Line) : IO Unit :=
  lines.forM fun (format, r) => do IO.eprintln (r.text format (← now))

/-- Writes what comes of a run, and returns its exit code. -/
def conclude (done : RunOutcome) : IO UInt32 := do
  writeLog done.lines
  IO.print done.stdout
  match done.ending with
  | .exit code => return code.toUInt32
  | .usage text =>
    IO.eprintln text
    return 2
  | .failure e =>
    IO.eprintln e.message
    return 1

end FailurePrompt.Program

/-- Runs the program. -/
def main (args : List String) : IO UInt32 := do
  FailurePrompt.Program.conclude
    (FailurePrompt.Run.program (← FailurePrompt.Program.host args) args)
