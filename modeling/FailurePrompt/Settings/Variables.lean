import FailurePrompt.Environment
import FailurePrompt.Settings.Check
import FailurePrompt.Value.Json
import FailurePrompt.Value.Merge

/-!
# Settings from the environment

Each setting has a variable: its name in capitals after a common beginning. A section can be given
as a whole, in JSON, and field by field, the names of the section and of the field being joined by
two underscores; the fields are laid over the whole. The names of variables are matched without
regard to case. The main statement, `setAt_singleton`, is that a variable for a field of a section
sets just that field.
-/

namespace FailurePrompt

/-- The variables for a section could not be read as JSON. -/
structure VariableError where
  field : String
  fault : Json.Fault
  deriving Repr, DecidableEq

/-- The wording of an unreadable section. -/
def VariableError.message (e : VariableError) : String :=
  match e.fault with
  | .malformed => s!"error parsing value for field \"{e.field}\" from source \"EnvSettingsSource\""
  | .tooDeep => "maximum recursion depth exceeded while decoding a JSON text"

namespace Variables

/-- What the names of all variables begin with. -/
def common : String := "fix_with_ai_"

/-- The variables with their names in lower case; of two names that differ in case alone, the
later one decides. -/
def lowered (env : Environment) : List (String × String) :=
  (Entries.ofList (env.entries.map fun (name, v) => (name.toLower, .text v))).filterMap
    fun
      | (name, .text v) => some (name, v)
      | _ => none

/-- The settings that are not sections. -/
def scalarNames : List String := ["show_internal_frames", "attachment_name", "template_path"]

/-- The names within a section. -/
structure Section where
  name : String
  fields : List String
  /-- The fields that hold lists, which are given in JSON. -/
  listFields : List String := []

/-- The sections. -/
def sections : List Section :=
  [{ name := "snippet", fields := ["context_lines", "encoding"] },
   { name := "filter", fields := ["dependency_dirs", "internal_prefixes"],
     listFields := ["dependency_dirs", "internal_prefixes"] },
   { name := "logging", fields := ["level", "format"] }]

/-- The names of all variables in capitals. -/
def names : List String :=
  let ofSections := sections.flatMap fun sec =>
    sec.name :: sec.fields.map fun field => sec.name ++ "__" ++ field
  (scalarNames ++ ofSections).map fun name => (common ++ name).toUpper

/-! ### Fields of a section -/

/-- The parts of a name between double underscores. -/
def parts : List Char → List (List Char)
  | [] => [[]]
  | '_' :: '_' :: rest => [] :: parts rest
  | c :: rest =>
    match parts rest with
    | [] => [[c]]
    | part :: more => (c :: part) :: more

/-- What the names of all variables for fields of a section begin with. -/
def Section.start (sec : Section) : List Char :=
  (common ++ sec.name ++ "__").toList

/-- The names that lead to a field of a section; nothing if the variable is none of the
section's. -/
def Section.keysOf (sec : Section) (name : String) : Option (List String) :=
  if sec.start.isPrefixOf name.toList then
    some ((parts (name.toList.drop sec.start.length)).map String.ofList)
  else none

/-- Sets the value that some names lead to. Where a value on the way is no map, nothing is set. -/
def setAt (v : Value) : List String → Entries → Entries
  | [], entries => entries
  | [key], entries => entries.insert key v
  | key :: more, entries =>
    match entries.find? key with
    | none => entries.insert key (.map (setAt v more []))
    | some (.map inner) => entries.insert key (.map (setAt v more inner))
    | some _ => entries

/-- A variable for a field sets just that field. -/
theorem setAt_singleton (v : Value) (key : String) (entries : Entries) :
    setAt v [key] entries = entries.insert key v := rfl

/-- The value of a variable for a field: a list is given in JSON, unless it is empty. -/
def Section.value (json : Json.Reader) (sec : Section) (keys : List String) (text : String) :
    Except Json.Fault Value :=
  match keys with
  | [key] => if sec.listFields.contains key ∧ text ≠ "" then json text else .ok (.text text)
  | _ => .ok (.text text)

/-- The fields of a section, set one after the other. -/
def Section.set (json : Json.Reader) (sec : Section) (entries : Entries) :
    List (String × String) → Except VariableError Entries
  | [] => .ok entries
  | (name, text) :: rest =>
    match sec.keysOf name with
    | none => sec.set json entries rest
    | some keys =>
      match sec.value json keys text with
      | .error fault => .error ⟨sec.name, fault⟩
      | .ok v => sec.set json (setAt v keys entries) rest

/-! ### Sections -/

/-- The name among some others that agrees with a name up to case, or that name itself. -/
def canonicalName (names : List String) (name : String) : String :=
  (names.find? (·.toLower = name.toLower)).getD name

/-- The entries with the canonical names of their keys, which may stand repeatedly. -/
def renamed (names : List String) (entries : Entries) : List (String × Value) :=
  entries.map fun (key, v) => (canonicalName names key, v)

/-- The entries under the canonical names of their keys; of two keys that agree, the later one
decides. -/
def canonical (names : List String) (entries : Entries) : Entries :=
  Entries.ofList (renamed names entries)

/-- The value of a section, if there is one. -/
def Section.read (json : Json.Reader) (sec : Section) (vars : List (String × String)) :
    Except VariableError (Option Value) :=
  match vars.lookup (common ++ sec.name), sec.set json [] vars with
  | none, .error e => .error e
  | none, .ok [] => .ok none
  | none, .ok entries => .ok (some (.map (canonical sec.fields entries)))
  | some text, nested =>
    match json text with
    | .error fault => .error ⟨sec.name, fault⟩
    -- A null section hides the variables for its fields as well.
    | .ok .null => .ok none
    | .ok (.map whole) =>
      nested.map fun entries =>
        some (.map (canonical sec.fields (Entries.merge whole entries)))
    | .ok v => .ok (some v)

/-- The sections that are given, in their order. The first one that cannot be read decides. -/
def sectionEntries (json : Json.Reader) (vars : List (String × String)) :
    List Section → Except VariableError Entries
  | [] => .ok []
  | sec :: rest =>
    match sec.read json vars with
    | .error e => .error e
    | .ok none => sectionEntries json vars rest
    | .ok (some v) => (sectionEntries json vars rest).map ((sec.name, v) :: ·)

/-- The settings that an environment gives. -/
def entries (json : Json.Reader) (env : Environment) : Except VariableError Entries :=
  let vars := lowered env
  let scalars := scalarNames.filterMap fun name =>
    (vars.lookup (common ++ name)).map fun v => (name, Value.text v)
  (sectionEntries json vars sections).map (scalars ++ ·)

end Variables

end FailurePrompt
