import FailurePrompt.Proofs.Settings.Entries
import FailurePrompt.Settings.Load

/-!
# The leaves of the settings

A setting that is no section is a leaf: it has a place, at the top or in a section, a default, values
that say what it is, and a check that reads its value by the coercions. The main statement,
`settings_eq_ok_iff`, is that the check of all settings is made of the checks of the leaves, whatever
the coercions are: settings are read from entries exactly if the entries have the shape of settings
and every leaf is read from the value at its place.
-/

namespace FailurePrompt

namespace Variables

/-- The section on source snippets. -/
def snippetSection : Section := { name := "snippet", fields := ["context_lines", "encoding"] }

/-- The section on frames. -/
def filterSection : Section :=
  { name := "filter", fields := ["dependency_dirs", "internal_prefixes"],
    listFields := ["dependency_dirs", "internal_prefixes"] }

/-- The section on logging. -/
def loggingSection : Section := { name := "logging", fields := ["level", "format"] }

theorem sections_eq : sections = [snippetSection, filterSection, loggingSection] := rfl

end Variables

namespace Entries

/-- The entries of a section; there are none where the section is missing. -/
def inner (entries : Entries) (name : String) : Entries :=
  match entries.find? name with
  | some (.map inner) => inner
  | _ => []

theorem inner_eq_of_find? {entries sec : Entries} {name : String}
    (h : entries.find? name = some (.map sec)) : entries.inner name = sec := by
  rw [inner, h]

theorem inner_eq_nil {entries : Entries} {name : String} (h : entries.find? name = none) :
    entries.inner name = [] := by
  rw [inner, h]

/-- If there is a section, it is a map. -/
def HoldsSection (entries : Entries) (name : String) : Prop :=
  entries.find? name = none ∨ ∃ inner, entries.find? name = some (.map inner)

instance (entries : Entries) (name : String) : Decidable (entries.HoldsSection name) :=
  match h : entries.find? name with
  | none => isTrue (.inl h)
  | some (.map inner) => isTrue (.inr ⟨inner, h⟩)
  | some .null | some (.bool _) | some (.int _) | some (.float _) | some (.text _)
  | some (.list _) | some .moment => isFalse (by simp [HoldsSection, h])

end Entries

/-- The number of context lines with its bounds. -/
def SnippetSettings.permittedLines (s : SnippetSettings) : Check.ContextLines :=
  ⟨s.contextLines, s.contextLines_pos, s.contextLines_le⟩

/-- A bare name of a directory, in plain words. -/
def Check.IsBareName (name : String) : Prop :=
  name ≠ "" ∧ '/' ∉ name.toList ∧ '\\' ∉ name.toList

theorem Check.isDirectoryName_iff {name : String} :
    isDirectoryName name = true ↔ IsBareName name := by
  simp only [isDirectoryName, IsBareName, FrameFilter.isSeparator, Bool.and_eq_true,
    decide_eq_true_eq, Bool.not_eq_true', List.any_eq_false, Bool.or_eq_true, beq_iff_eq, not_or]
  grind

namespace Settings

/-- The place of a leaf. -/
inductive Place
  | top (name : String)
  | within (sec : Variables.Section) (name : String)

/-- The value that stands at a place. -/
def Place.given (values : Entries) : Place → Option Value
  | .top name => values.find? name
  | .within sec name => (values.inner sec.name).find? name

/-! ### What values say -/

/-- The words for a truth value. -/
def wordsFor : Bool → List String
  | true => ["1", "on", "t", "true", "y", "yes"]
  | false => ["0", "off", "f", "false", "n", "no"]

/-- The value says a truth value: it is one, or zero or one, or a word in any case. -/
inductive SaysBool : Value → Bool → Prop
  | bool (b : Bool) : SaysBool (.bool b) b
  | int (b : Bool) : SaysBool (.int (if b then 1 else 0)) b
  | word {s : String} {b : Bool} (h : s.toLower ∈ wordsFor b) : SaysBool (.text s) b

/-- The value says a path, or that there is none. -/
inductive SaysPath : Value → Option Path → Prop
  | missing : SaysPath .null none
  | text (s : String) : SaysPath (.text s) (some (Path.ofString s))

/-- The value says a number of context lines: it is the number, or the number in decimal. -/
inductive SaysLines : Value → Check.ContextLines → Prop
  | int (n : Check.ContextLines) : SaysLines (.int n.1) n
  | decimal (n : Check.ContextLines) : SaysLines (.text (Nat.repr n.1)) n

/-! ### The leaves -/

/-- A leaf of the settings: where it stands, what it is unless it is given, which values say what it
is, and how it is read. -/
structure Leaf (α : Type) where
  place : Place
  default : α
  Says : Value → α → Prop
  check : Coercions → Value → Checked α

namespace Leaf

/-- The value that a leaf is read as. -/
def Reads {α : Type} (leaf : Leaf α) (coercions : Coercions) (value : Place → Option Value)
    (a : α) : Prop :=
  match value leaf.place with
  | none => a = leaf.default
  | some v => leaf.check coercions v = .ok a

/-- What the leaf is said to be: what its value says, and its default without a value. -/
def IsSaid {α : Type} (leaf : Leaf α) (value : Place → Option Value) (a : α) : Prop :=
  match value leaf.place with
  | none => a = leaf.default
  | some v => leaf.Says v a

/-- The leaf is what it is said to be, if it is said to be anything. -/
def IsAsSaid {α : Type} (leaf : Leaf α) (value : Place → Option Value) (a : α) : Prop :=
  ∀ b, leaf.IsSaid value b → a = b

theorem three_permitted : 0 < 3 ∧ 3 ≤ 50 := by decide

def showInternalFrames : Leaf Bool where
  place := .top "show_internal_frames"
  default := false
  Says := SaysBool
  check := Coercions.boolean

def attachmentName : Leaf String where
  place := .top "attachment_name"
  default := "🤖 Fix with AI: copy prompt and paste to AI chat"
  Says v s := v = .text s
  check := Coercions.string

def templatePath : Leaf (Option Path) where
  place := .top "template_path"
  default := none
  Says := SaysPath
  check := Coercions.path

def contextLines : Leaf Check.ContextLines where
  place := .within Variables.snippetSection "context_lines"
  default := ⟨3, three_permitted⟩
  Says := SaysLines
  check := Check.contextLines

def encoding : Leaf String where
  place := .within Variables.snippetSection "encoding"
  default := "utf-8"
  Says v s := v = .text s
  check := Coercions.string

def dependencyDirs : Leaf (List String) where
  place := .within Variables.filterSection "dependency_dirs"
  default := ["node_modules"]
  Says v names := v = .list (names.map .text) ∧ ∀ name ∈ names, Check.IsBareName name
  check := Check.directories

def internalPrefixes : Leaf (List String) where
  place := .within Variables.filterSection "internal_prefixes"
  default := ["internal", "node:"]
  Says v starts := v = .list (starts.map .text)
  check := Coercions.stringList

def level : Leaf Level where
  place := .within Variables.loggingSection "level"
  default := .warning
  Says v level := v = .text level.name
  check := Check.level

def format : Leaf LogFormat where
  place := .within Variables.loggingSection "format"
  default := .console
  Says v format := v = .text format.name
  check := Check.format

end Leaf

/-- Every leaf, with what it is in the settings, has a property. -/
structure Leafwise (P : {α : Type} → Leaf α → α → Prop) (s : Settings) : Prop where
  showInternalFrames : P Leaf.showInternalFrames s.showInternalFrames
  attachmentName : P Leaf.attachmentName s.attachmentName
  templatePath : P Leaf.templatePath s.templatePath
  contextLines : P Leaf.contextLines s.snippet.permittedLines
  encoding : P Leaf.encoding s.snippet.encoding
  dependencyDirs : P Leaf.dependencyDirs s.filter.dependencyDirs
  internalPrefixes : P Leaf.internalPrefixes s.filter.internalPrefixes
  level : P Leaf.level s.logging.level
  format : P Leaf.format s.logging.format

/-- What follows from two properties of a leaf follows for all leaves. -/
theorem Leafwise.imp₂ {P Q R : {α : Type} → Leaf α → α → Prop} {s : Settings}
    (h : Leafwise P s) (h' : Leafwise Q s)
    (himp : ∀ {α : Type} (leaf : Leaf α) (a : α), P leaf a → Q leaf a → R leaf a) :
    Leafwise R s where
  showInternalFrames := himp _ _ h.showInternalFrames h'.showInternalFrames
  attachmentName := himp _ _ h.attachmentName h'.attachmentName
  templatePath := himp _ _ h.templatePath h'.templatePath
  contextLines := himp _ _ h.contextLines h'.contextLines
  encoding := himp _ _ h.encoding h'.encoding
  dependencyDirs := himp _ _ h.dependencyDirs h'.dependencyDirs
  internalPrefixes := himp _ _ h.internalPrefixes h'.internalPrefixes
  level := himp _ _ h.level h'.level
  format := himp _ _ h.format h'.format

/-- Every leaf of the settings is read from the value at its place. -/
def ReadFrom (coercions : Coercions) (value : Place → Option Value) (s : Settings) : Prop :=
  Leafwise (fun leaf a => leaf.Reads coercions value a) s

/-- Every leaf of the settings is what the values say. -/
def Said (value : Place → Option Value) (s : Settings) : Prop :=
  Leafwise (fun leaf a => leaf.IsSaid value a) s

/-- Every leaf of the settings is what the values say, if they say what it is. -/
def AsSaid (value : Place → Option Value) (s : Settings) : Prop :=
  Leafwise (fun leaf a => leaf.IsAsSaid value a) s

/-- Entries in the shape of settings: every name is known, and every section is a map. -/
structure Shaped (entries : Entries) : Prop where
  known : ∀ key ∈ entries.keys, key ∈ Check.fieldNames
  holdsSection : ∀ sec ∈ Variables.sections, entries.HoldsSection sec.name

end Settings

namespace Check

open Settings Checked

variable {coercions : Coercions} {entries : Entries} {name : String}

section Field

variable {α β σ : Type} {default : α} {check : Value → Checked α} {a : α}

theorem mapError_eq_ok_iff {ε ε' : Type} {made : Except ε α} {f : ε → ε'} :
    made.mapError f = .ok a ↔ made = .ok a := by
  rcases made with e | b
  · exact iff_of_false (fun h => by cases h) (fun h => by cases h)
  · constructor <;> (intro h; cases h; rfl)

theorem field_eq_ok_iff :
    field entries name default check = .ok a ↔
      match entries.find? name with
      | none => a = default
      | some v => check v = .ok a := by
  rw [field]
  rcases entries.find? name with _ | v
  · simp [eq_comm]
  · exact mapError_eq_ok_iff

theorem map_eq_ok_iff {checked : Checked α} {f : α → β} {b : β} :
    checked.map f = .ok b ↔ ∃ a, checked = .ok a ∧ f a = b := by
  cases checked <;> simp [Except.map]

/-- A section is read exactly if it is a map, or missing, and its fields are read. -/
theorem field_section_eq_ok_iff {missing found : σ} {read : Value → Checked σ}
    {fields : Entries → Checked σ} (hmap : ∀ inner, read (.map inner) = fields inner)
    (hother : ∀ v, (∀ inner, v ≠ .map inner) → ∃ e, read v = .error e)
    (hmissing : fields [] = .ok missing) :
    field entries name missing read = .ok found ↔
      entries.HoldsSection name ∧ fields (entries.inner name) = .ok found := by
  rw [field_eq_ok_iff, Entries.HoldsSection, Entries.inner]
  rcases entries.find? name with _ | v
  · simp [hmissing, eq_comm]
  by_cases hv : ∃ inner, v = .map inner
  · obtain ⟨inner, rfl⟩ := hv
    simp [hmap]
  · have hne : ∀ inner, v ≠ .map inner := fun inner he => hv ⟨inner, he⟩
    obtain ⟨e, he⟩ := hother v hne
    simp [he, hne]

end Field

/-! ### Sections and settings -/

/-- A pair that is made into a section is read exactly if its parts are. -/
theorem map_both_eq_ok_iff {α β σ : Type} {a : Checked α} {b : Checked β} {mk : α × β → σ}
    (parts : σ → α × β) (hparts : ∀ p, parts (mk p) = p) (hmk : ∀ found, mk (parts found) = found)
    {found : σ} :
    (both a b).map mk = .ok found ↔ a = .ok (parts found).1 ∧ b = .ok (parts found).2 := by
  rw [map_eq_ok_iff, ← both_eq_ok_iff]
  constructor
  · rintro ⟨p, hp, rfl⟩
    rw [hparts, hp]
  · intro h
    exact ⟨_, h, hmk found⟩

theorem snippet_eq_ok_iff {inner : Entries} {found : SnippetSettings} :
    snippet coercions (.map inner) = .ok found ↔
      field inner "context_lines" ⟨3, by decide⟩ (contextLines coercions) =
          .ok found.permittedLines ∧
        field inner "encoding" "utf-8" coercions.string = .ok found.encoding := by
  rw [snippet]
  exact map_both_eq_ok_iff
    (fun found : SnippetSettings => (found.permittedLines, found.encoding)) (fun _ => rfl)
    (fun _ => rfl)

theorem filter_eq_ok_iff {inner : Entries} {found : FilterSettings} :
    filter coercions (.map inner) = .ok found ↔
      field inner "dependency_dirs" ({} : FilterSettings).dependencyDirs (directories coercions) =
          .ok found.dependencyDirs ∧
        field inner "internal_prefixes" ({} : FilterSettings).internalPrefixes
          coercions.stringList = .ok found.internalPrefixes := by
  rw [filter]
  exact map_both_eq_ok_iff
    (fun found : FilterSettings => (found.dependencyDirs, found.internalPrefixes))
    (fun _ => rfl) (fun _ => rfl)

theorem logging_eq_ok_iff {inner : Entries} {found : LoggingSettings} :
    logging coercions (.map inner) = .ok found ↔
      field inner "level" .warning (level coercions) = .ok found.level ∧
        field inner "format" .console (format coercions) = .ok found.format := by
  rw [logging]
  exact map_both_eq_ok_iff (fun found : LoggingSettings => (found.level, found.format))
    (fun _ => rfl) (fun _ => rfl)

theorem unknownNames_eq_ok_iff :
    unknownNames entries = .ok () ↔ ∀ key ∈ entries.keys, key ∈ fieldNames := by
  have hknown : (∀ key ∈ entries.keys, key ∈ fieldNames) ↔
      entries.filter (fun e => !fieldNames.contains e.1) = [] := by
    rw [List.filter_eq_nil_iff]
    simp [Entries.keys]
  rw [hknown, unknownNames]
  split
  case h_1 h => simp only [h]
  case h_2 h => simpa using h

theorem settings_eq_ok_iff_fields {s : Settings} :
    settings coercions entries = .ok s ↔
      (field entries "show_internal_frames" ({} : Settings).showInternalFrames
          coercions.boolean = .ok s.showInternalFrames ∧
        field entries "attachment_name" ({} : Settings).attachmentName coercions.string =
          .ok s.attachmentName ∧
        field entries "template_path" ({} : Settings).templatePath coercions.path =
          .ok s.templatePath) ∧
      (field entries "snippet" ({} : Settings).snippet (snippet coercions) = .ok s.snippet ∧
        field entries "filter" ({} : Settings).filter (filter coercions) = .ok s.filter ∧
        field entries "logging" ({} : Settings).logging (logging coercions) = .ok s.logging) ∧
      unknownNames entries = .ok () := by
  rw [settings, map_eq_ok_iff]
  simp only [both_eq_ok_iff]
  constructor
  · rintro ⟨⟨⟨⟨_, _, _⟩, _, _, _⟩, _⟩, ⟨⟨htop, hsections⟩, hknown⟩, rfl⟩
    exact ⟨htop, hsections, hknown⟩
  · rintro ⟨htop, hsections, hknown⟩
    exact ⟨(((s.showInternalFrames, s.attachmentName, s.templatePath), s.snippet, s.filter,
      s.logging), ()), ⟨⟨htop, hsections⟩, hknown⟩, rfl⟩

/-- Settings are read from entries exactly if the entries have the shape of settings and every leaf
is read from the value at its place. -/
theorem settings_eq_ok_iff {s : Settings} :
    settings coercions entries = .ok s ↔
      Shaped entries ∧ ReadFrom coercions (Place.given entries) s := by
  have htop {α : Type} (leaf : Leaf α) {name : String} {a : α} (hplace : leaf.place = .top name) :
      field entries name leaf.default (leaf.check coercions) = .ok a ↔
        leaf.Reads coercions (Place.given entries) a := by
    rw [field_eq_ok_iff, Leaf.Reads, hplace]
    rfl
  have hwithin {α : Type} (leaf : Leaf α) {sec : Variables.Section} {name : String} {a : α}
      (hplace : leaf.place = .within sec name) :
      field (entries.inner sec.name) name leaf.default (leaf.check coercions) = .ok a ↔
        leaf.Reads coercions (Place.given entries) a := by
    rw [field_eq_ok_iff, Leaf.Reads, hplace]
    rfl
  have hsnippet : field entries "snippet" ({} : Settings).snippet (snippet coercions) =
        .ok s.snippet ↔ entries.HoldsSection "snippet" ∧
      snippet coercions (.map (entries.inner "snippet")) = .ok s.snippet :=
    field_section_eq_ok_iff (fun _ => rfl)
      (fun v hv => by cases v <;> simp_all [snippet, complain]) rfl
  have hfilter : field entries "filter" ({} : Settings).filter (filter coercions) =
        .ok s.filter ↔ entries.HoldsSection "filter" ∧
      filter coercions (.map (entries.inner "filter")) = .ok s.filter :=
    field_section_eq_ok_iff (fun _ => rfl)
      (fun v hv => by cases v <;> simp_all [filter, complain]) rfl
  have hlogging : field entries "logging" ({} : Settings).logging (logging coercions) =
        .ok s.logging ↔ entries.HoldsSection "logging" ∧
      logging coercions (.map (entries.inner "logging")) = .ok s.logging :=
    field_section_eq_ok_iff (fun _ => rfl)
      (fun v hv => by cases v <;> simp_all [logging, complain]) rfl
  rw [settings_eq_ok_iff_fields, hsnippet, hfilter, hlogging, snippet_eq_ok_iff, filter_eq_ok_iff,
    logging_eq_ok_iff, unknownNames_eq_ok_iff]
  constructor
  · rintro ⟨⟨hshow, hname, htemplate⟩, ⟨⟨hs, hlines, hencoding⟩, ⟨hf, hdirs, hprefixes⟩, hl, hlevel,
      hformat⟩, hknown⟩
    refine ⟨⟨hknown, by simp [Variables.sections_eq, Variables.snippetSection,
      Variables.filterSection, Variables.loggingSection, hs, hf, hl]⟩, ?_⟩
    exact {
      showInternalFrames := (htop .showInternalFrames rfl).1 hshow
      attachmentName := (htop .attachmentName rfl).1 hname
      templatePath := (htop .templatePath rfl).1 htemplate
      contextLines := (hwithin .contextLines rfl).1 hlines
      encoding := (hwithin .encoding rfl).1 hencoding
      dependencyDirs := (hwithin .dependencyDirs rfl).1 hdirs
      internalPrefixes := (hwithin .internalPrefixes rfl).1 hprefixes
      level := (hwithin .level rfl).1 hlevel
      format := (hwithin .format rfl).1 hformat }
  · rintro ⟨⟨hknown, hshape⟩, h⟩
    rw [Variables.sections_eq] at hshape
    have hscalars := And.intro ((htop .showInternalFrames rfl).2 h.showInternalFrames)
      (And.intro ((htop .attachmentName rfl).2 h.attachmentName)
        ((htop .templatePath rfl).2 h.templatePath))
    exact ⟨hscalars,
      ⟨⟨hshape Variables.snippetSection (by simp), (hwithin .contextLines rfl).2 h.contextLines,
        (hwithin .encoding rfl).2 h.encoding⟩,
      ⟨hshape Variables.filterSection (by simp), (hwithin .dependencyDirs rfl).2 h.dependencyDirs,
        (hwithin .internalPrefixes rfl).2 h.internalPrefixes⟩,
      hshape Variables.loggingSection (by simp), (hwithin .level rfl).2 h.level,
        (hwithin .format rfl).2 h.format⟩, hknown⟩

end Check

end FailurePrompt
