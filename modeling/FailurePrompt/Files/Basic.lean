import FailurePrompt.Files.Path
import FailurePrompt.Text.Quoted

/-!
# Reading files

`Files` is all that this library needs of a file system: what comes of reading a path. Everything
that depends on files takes such a value, so it is a plain function and can be stated about for
every state of the disk. `FileError` lists the ways in which reading fails.
-/

namespace FailurePrompt

/-- Why a path could not be read. -/
inductive FileError
  | notFound
  | notDirectory
  | isDirectory
  | nameTooLong
  /-- The name holds a NUL character, which no file name can. -/
  | nulInName
  /-- Any other refusal of the system, with its number and wording. -/
  | other (number : Nat) (wording : String)
  deriving Repr, DecidableEq

namespace FileError

/-- The number and wording of a refusal by the system; a name with a NUL never reaches it. -/
def system? : FileError → Option (Nat × String)
  | .notFound => some (2, "No such file or directory")
  | .notDirectory => some (20, "Not a directory")
  | .isDirectory => some (21, "Is a directory")
  | .nameTooLong => some (36, "File name too long")
  | .nulInName => none
  | .other number wording => some (number, wording)

/-- The wording of a failure to read `path`. -/
def message (path : Path) (e : FileError) : String :=
  match e.system? with
  | none => "embedded null byte"
  | some (number, wording) => s!"[Errno {number}] {wording}: {Text.quote path.text}"

/-- The failures that mean that nothing is there. -/
def isAbsence : FileError → Bool
  | .notFound | .notDirectory | .nulInName => true
  | _ => false

end FileError

/-- The files that can be read. -/
structure Files where
  read : Path → Except FileError (List UInt8)

end FailurePrompt
