import FailurePrompt.Settings.Variables
import FailurePrompt.Yaml.Document

/-!
# What settings are made with

The formats in which settings are given, the way in which variables become entries, the way in which
entries are laid over one another and the coercions of values are not the business of settings. Among
the explicit values there may even be instructions to the framework, under names of its own, which
change how it reads the rest. A `Framework` holds all of these, and those of this library, which
knows no instructions, unless others are given.
-/

namespace FailurePrompt

/-- Why the sources of settings cannot be read. -/
inductive SettingsSourceError
  | badVariable (e : VariableError)
  /-- An instruction to the framework cannot be followed. The program may be prepared for such an
  error or not. -/
  | badInstruction (isForeseen : Bool) (wording : String)
  deriving Repr, DecidableEq

/-- The wording of an error in the sources of settings. -/
def SettingsSourceError.message : SettingsSourceError → String
  | .badVariable e => e.message
  | .badInstruction _ wording => wording

/-- What settings are made with. -/
structure Framework where
  /-- Reads the text of a settings file. -/
  yaml : String → Except Yaml.Error Yaml.Document := Yaml.read
  /-- Reads the text of a variable that is no plain text. -/
  json : Json.Reader := Json.read
  /-- The entries that the variables of an environment make, where explicit values are given as
  well. -/
  readVariables : (env : Environment) → (values : Entries) → Except SettingsSourceError Entries :=
    fun env _ => (Variables.entries json env).mapError .badVariable
  /-- The explicit values that are settings and no instructions. -/
  settingsAmong : (values : Entries) → Entries := id
  /-- Lays entries over others. -/
  merge : (below above : Entries) → Entries := Entries.merge
  coercions : Coercions := {}

end FailurePrompt
