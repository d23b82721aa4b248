import FailurePrompt.Settings.Coercion

/-!
# Checking settings

Each field of the settings has a check: it is read by a coercion and held against its bounds. All
fields are checked, and complaints are listed in the order of the fields. Unknown names in a section
are ignored, unknown names at the top are reported last. The main statements,
`contextLines_eq_ok_iff` and `isDirectoryName_of_directories`, say which numbers of context lines and
which names of directories are accepted.
-/

namespace FailurePrompt.Check

open Checked

/-! ### Bounds and choices -/

/-- A permitted number of context lines. -/
abbrev ContextLines := { n : Nat // 0 < n ∧ n ≤ 50 }

/-- Reads a number of context lines, from one to fifty. -/
def contextLines (coercions : Coercions) (v : Value) : Checked ContextLines :=
  match coercions.integer v with
  | .error e => .error e
  | .ok n =>
    if _h : n < 1 then complain .belowOne
    else if _h' : 50 < n then complain .aboveFifty
    else .ok ⟨n.toNat, by omega⟩

/-- A bare directory name: not empty and without separators. -/
def isDirectoryName (name : String) : Bool :=
  name ≠ "" && !name.toList.any FrameFilter.isSeparator

/-- Reads a list of directory names; the first bad one is reported. -/
def directories (coercions : Coercions) (v : Value) : Checked (List String) :=
  match coercions.stringList v with
  | .error e => .error e
  | .ok names =>
    match names.find? (!isDirectoryName ·) with
    | some name => complain (.badDirectory name)
    | none => .ok names

/-- Reads one of several choices by its name. -/
def choice {α : Type} (coercions : Coercions) (options : List (String × α)) (v : Value) :
    Checked α :=
  match coercions.literal (options.map Prod.fst) v with
  | .error e => .error e
  | .ok name =>
    match options.lookup name with
    | some a => .ok a
    | none => complain (.notAmong (options.map Prod.fst))

/-- Reads the name of a level. -/
def level (coercions : Coercions) : Value → Checked Level :=
  choice coercions (Level.all.map fun l => (l.name, l))

/-- Reads the name of a format. -/
def format (coercions : Coercions) : Value → Checked LogFormat :=
  choice coercions (LogFormat.all.map fun f => (f.name, f))

/-! ### Sections -/

/-- Reads a field, which has a default. -/
def field {α : Type} (entries : Entries) (name : String) (default : α)
    (check : Value → Checked α) : Checked α :=
  match entries.find? name with
  | none => .ok default
  | some v => under (.field name) (check v)

/-- Reads the section on source snippets. -/
def snippet (coercions : Coercions) : Value → Checked SnippetSettings
  | .map entries =>
    ((field entries "context_lines" ⟨3, by decide⟩ (contextLines coercions)).both
      (field entries "encoding" "utf-8" coercions.string)).map fun (lines, encoding) =>
        ⟨lines.1, encoding, lines.2.1, lines.2.2⟩
  | _ => complain (.notSection "SnippetConfig")

/-- Reads the section on frames. -/
def filter (coercions : Coercions) : Value → Checked FilterSettings
  | .map entries =>
    let defaults : FilterSettings := {}
    ((field entries "dependency_dirs" defaults.dependencyDirs (directories coercions)).both
      (field entries "internal_prefixes" defaults.internalPrefixes coercions.stringList)).map
        fun (dirs, starts) => ⟨dirs, starts⟩
  | _ => complain (.notSection "FilterConfig")

/-- Reads the section on logging. -/
def logging (coercions : Coercions) : Value → Checked LoggingSettings
  | .map entries =>
    ((field entries "level" .warning (level coercions)).both
      (field entries "format" .console (format coercions))).map
        fun (level, format) => ⟨level, format⟩
  | _ => complain (.notSection "LoggingConfig")

/-- The names of the settings. -/
def fieldNames : List String :=
  ["show_internal_frames", "attachment_name", "template_path", "snippet", "filter", "logging"]

/-- The names that are none of the settings. -/
def unknownNames (entries : Entries) : Checked Unit :=
  match entries.filter fun e => !fieldNames.contains e.1 with
  | [] => .ok ()
  | unknown => .error (unknown.map fun e => ⟨[.field e.1], .unknownName⟩)

/-- Reads all settings. -/
def settings (coercions : Coercions) (entries : Entries) : Checked Settings :=
  let defaults : Settings := {}
  let scalars :=
    (field entries "show_internal_frames" defaults.showInternalFrames coercions.boolean).both
      ((field entries "attachment_name" defaults.attachmentName coercions.string).both
        (field entries "template_path" defaults.templatePath coercions.path))
  let sections :=
    (field entries "snippet" defaults.snippet (snippet coercions)).both
      ((field entries "filter" defaults.filter (filter coercions)).both
        (field entries "logging" defaults.logging (logging coercions)))
  ((scalars.both sections).both (unknownNames entries)).map
    fun (((show_, name, template), snippet, filter, logging), _) =>
      ⟨show_, name, template, snippet, filter, logging⟩

/-! ### What is accepted -/

/-- A number of context lines is accepted exactly when it is an integer from one to fifty. -/
theorem contextLines_eq_ok_iff {coercions : Coercions} {v : Value} {n : ContextLines} :
    contextLines coercions v = .ok n ↔ coercions.integer v = .ok (n.1 : Int) := by
  have hn := n.2
  unfold contextLines
  split
  · rename_i h
    simp [h]
  · rename_i m h
    rw [h]
    split
    · simp only [complain, Except.ok.injEq, reduceCtorEq, false_iff]
      omega
    · split
      · simp only [complain, Except.ok.injEq, reduceCtorEq, false_iff]
        omega
      · simp only [Except.ok.injEq, Subtype.ext_iff]
        omega

/-- Accepted directory names are bare. -/
theorem isDirectoryName_of_directories {coercions : Coercions} {v : Value} {names : List String}
    (h : directories coercions v = .ok names) : ∀ name ∈ names, isDirectoryName name = true := by
  unfold directories at h
  split at h
  · cases h
  · split at h
    · cases h
    · rename_i hn
      cases h
      simpa using hn

end FailurePrompt.Check
