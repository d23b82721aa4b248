import FailurePrompt.Proofs.DefaultPrompt
import FailurePrompt.Proofs.Settings.Precedence
import FailurePrompt.Settings.Builder

/-!
# The bounds of accepted settings

Settings are made of merged values, whichever source they come from, and what is wrong with any of
these is reported with its place. The main statement, `accepted_usable`, is that the settings that
any framework makes are within their bounds, so that the parts that are made from them work, and
that merged values beyond a bound are rejected.
-/

namespace FailurePrompt

/-! ### Reported issues -/

namespace Checked

variable {α β : Type} {a : Checked α} {b : Checked β} {issue : Issue}

@[simp] theorem reports_map_iff {f : α → β} : Reports (a.map f) issue ↔ a.Reports issue := by
  cases a <;> simp [Reports, Except.map]

/-- Two checks report what either of them does. -/
@[simp] theorem reports_both_iff :
    (both a b).Reports issue ↔ a.Reports issue ∨ b.Reports issue := by
  cases a <;> cases b <;> simp [Reports, both]

theorem Reports.under (h : a.Reports issue) (step : Step) :
    (under step a).Reports (issue.under step) := by
  obtain ⟨issues, rfl, hissue⟩ := h
  exact ⟨_, rfl, List.mem_map_of_mem hissue⟩

end Checked

namespace Check

open Checked Settings

variable {coercions : Coercions} {entries : Entries} {name : String} {issue : Issue}

/-- What is wrong with the value of a field is reported with the name of the field. -/
theorem reports_field {α : Type} {default : α} {check : Value → Checked α} {v : Value}
    (hv : entries.find? name = some v) (h : (check v).Reports issue) :
    (field entries name default check).Reports (issue.under (.field name)) := by
  rw [field, hv]
  exact h.under _

theorem reports_settings_iff :
    (settings coercions entries).Reports issue ↔
      ((field entries "show_internal_frames" ({} : Settings).showInternalFrames
          coercions.boolean).Reports issue ∨
        (field entries "attachment_name" ({} : Settings).attachmentName coercions.string).Reports
          issue ∨
        (field entries "template_path" ({} : Settings).templatePath coercions.path).Reports issue) ∨
      ((field entries "snippet" ({} : Settings).snippet (snippet coercions)).Reports issue ∨
        (field entries "filter" ({} : Settings).filter (filter coercions)).Reports issue ∨
        (field entries "logging" ({} : Settings).logging (logging coercions)).Reports issue) ∨
      (unknownNames entries).Reports issue := by
  simp only [settings, reports_map_iff, reports_both_iff, or_assoc]

/-- What is wrong with a leaf of a section is reported with the names of both. -/
theorem reports_field_within {α σ : Type} {sec : Variables.Section} {missing : σ}
    {check : Value → Checked α} {read : Value → Checked σ} {v : Value} (default : α)
    (hread : ∀ inner issue, (field inner name default check).Reports issue →
      (read (.map inner)).Reports issue)
    (hv : (Place.within sec name).given entries = some v) (h : (check v).Reports issue) :
    (field entries sec.name missing read).Reports
      ((issue.under (.field name)).under (.field sec.name)) := by
  rw [Place.given, Entries.inner] at hv
  split at hv
  case h_1 inner hinner => exact reports_field hinner (hread inner _ (reports_field hv h))
  case h_2 => cases hv

/-! ### Values beyond a bound -/

theorem reports_contextLines {v : Value} {n : Int} (hn : coercions.integer v = .ok n)
    (h : n < 1 ∨ 50 < n) : ∃ complaint, (contextLines coercions v).Reports ⟨[], complaint⟩ := by
  rw [contextLines, hn]
  dsimp only
  split
  · exact ⟨_, reports_complain _⟩
  · split
    · exact ⟨_, reports_complain _⟩
    · omega

theorem reports_directories {v : Value} {names : List String}
    (hnames : coercions.stringList v = .ok names) {name : String} (hname : name ∈ names)
    (h : ¬IsBareName name) : ∃ complaint, (directories coercions v).Reports ⟨[], complaint⟩ := by
  rw [directories, hnames]
  dsimp only
  split
  · exact ⟨_, reports_complain _⟩
  case h_2 hnone =>
    rw [List.find?_eq_none] at hnone
    have hbare := hnone name hname
    rw [← isDirectoryName_iff] at h
    simp [h] at hbare

theorem reports_choice (hcoercions : coercions.Lawful) {α : Type} {options : List (String × α)}
    {v : Value} (h : ∀ e ∈ options, v ≠ .text e.1) :
    ∃ complaint, (choice coercions options v).Reports ⟨[], complaint⟩ := by
  have hnames : ∀ name ∈ options.map Prod.fst, v ≠ .text name := by simpa using h
  obtain ⟨complaint, issues, herror, hissue⟩ := hcoercions.reports_literal hnames
  exact ⟨complaint, issues, by rw [choice, herror], hissue⟩

end Check

namespace Settings

open Check Checked

variable {coercions : Coercions} {values : Entries}

/-- Entries with a value beyond its bound, and the place of this value. -/
inductive Violates (coercions : Coercions) (values : Entries) : List Step → Prop
  | contextLines {v : Value} {n : Int} (hv : Leaf.contextLines.place.given values = some v)
      (hn : coercions.integer v = .ok n) (h : n < 1 ∨ 50 < n) :
      Violates coercions values [.field "snippet", .field "context_lines"]
  | dependencyDirs {v : Value} {names : List String} {name : String}
      (hv : Leaf.dependencyDirs.place.given values = some v)
      (hnames : coercions.stringList v = .ok names) (hname : name ∈ names) (h : ¬IsBareName name) :
      Violates coercions values [.field "filter", .field "dependency_dirs"]
  | level {v : Value} (hv : Leaf.level.place.given values = some v)
      (h : ∀ level : Level, v ≠ .text level.name) :
      Violates coercions values [.field "logging", .field "level"]
  | format {v : Value} (hv : Leaf.format.place.given values = some v)
      (h : ∀ format : LogFormat, v ≠ .text format.name) :
      Violates coercions values [.field "logging", .field "format"]

/-- A value beyond its bound is reported with its place. -/
theorem Violates.reports {place : List Step} (h : Violates coercions values place)
    (hcoercions : coercions.Lawful) :
    ∃ complaint, (Check.settings coercions values).Reports ⟨place, complaint⟩ := by
  -- Every leaf in question is the first or the second one of its section.
  have hsnippet {issue : Issue} (hissue : (field values "snippet" ({} : Settings).snippet
      (Check.snippet coercions)).Reports issue) : (Check.settings coercions values).Reports issue :=
    reports_settings_iff.2 (.inr (.inl (.inl hissue)))
  have hfilter {issue : Issue} (hissue : (field values "filter" ({} : Settings).filter
      (Check.filter coercions)).Reports issue) : (Check.settings coercions values).Reports issue :=
    reports_settings_iff.2 (.inr (.inl (.inr (.inl hissue))))
  have hlogging {issue : Issue} (hissue : (field values "logging" ({} : Settings).logging
      (Check.logging coercions)).Reports issue) : (Check.settings coercions values).Reports issue :=
    reports_settings_iff.2 (.inr (.inl (.inr (.inr hissue))))
  cases h with
  | contextLines hv hn h =>
    obtain ⟨complaint, hissue⟩ := reports_contextLines hn h
    refine ⟨complaint, hsnippet (reports_field_within Leaf.contextLines.default
      (fun inner issue hfield => ?_) hv hissue)⟩
    exact reports_map_iff.2 (reports_both_iff.2 (.inl hfield))
  | dependencyDirs hv hnames hname h =>
    obtain ⟨complaint, hissue⟩ := reports_directories hnames hname h
    refine ⟨complaint, hfilter (reports_field_within Leaf.dependencyDirs.default
      (fun inner issue hfield => ?_) hv hissue)⟩
    exact reports_map_iff.2 (reports_both_iff.2 (.inl hfield))
  | @level v hv h =>
    have hreports : ∃ complaint, (Leaf.level.check coercions v).Reports ⟨[], complaint⟩ :=
      reports_choice hcoercions (by simpa using fun level _ => h level)
    obtain ⟨complaint, hissue⟩ := hreports
    refine ⟨complaint, hlogging (reports_field_within Leaf.level.default
      (fun inner issue hfield => ?_) hv hissue)⟩
    exact reports_map_iff.2 (reports_both_iff.2 (.inl hfield))
  | @format v hv h =>
    have hreports : ∃ complaint, (Leaf.format.check coercions v).Reports ⟨[], complaint⟩ :=
      reports_choice hcoercions (by simpa using fun format _ => h format)
    obtain ⟨complaint, hissue⟩ := hreports
    refine ⟨complaint, hlogging (reports_field_within Leaf.format.default
      (fun inner issue hfield => ?_) hv hissue)⟩
    exact reports_map_iff.2 (reports_both_iff.2 (.inr hfield))

/-! ### Accepted settings -/

/-- Settings within their bounds, from which the parts can be made. -/
structure Usable (s : Settings) : Prop where
  contextLines : 1 ≤ s.snippet.contextLines ∧ s.snippet.contextLines ≤ 50
  dependencyDirs : ∀ name ∈ s.filter.dependencyDirs, IsBareName name
  level : s.logging.level.name ∈ ["DEBUG", "INFO", "WARNING", "ERROR", "CRITICAL"]
  format : s.logging.format.name ∈ ["json", "console"]
  reader : ∀ codecs,
    SnippetReader.make s.snippet.contextLines s.snippet.encoding codecs = .ok (s.reader codecs)
  builder : ∀ files codecs template, s.template files = .ok template →
    s.builder files codecs = .ok ⟨s.resolver, s.reader codecs, template⟩
  extract : ∀ codecs files location snippet,
    ((s.reader codecs).extract files location).value = some snippet → snippet.lines.length ≤ 101

/-- Settings that are read from values, whichever these are, are usable. -/
theorem ReadFrom.usable {value : Place → Option Value} {s : Settings}
    (h : ReadFrom coercions value s) : Usable s where
  contextLines := ⟨s.snippet.contextLines_pos, s.snippet.contextLines_le⟩
  dependencyDirs := by
    intro name hname
    rw [← isDirectoryName_iff]
    have hread := h.dependencyDirs
    rw [Leaf.Reads] at hread
    split at hread
    · rw [hread] at hname
      rw [List.mem_singleton.1 hname]
      decide
    · exact isDirectoryName_of_directories hread name hname
  level := by cases s.logging.level <;> decide
  format := by cases s.logging.format <;> decide
  reader := by
    intro codecs
    have hpos := s.snippet.contextLines_pos
    rw [SnippetReader.make, dif_neg (by omega)]
    rfl
  builder := fun files codecs template htemplate => builder_eq_ok_iff.2 ⟨rfl, rfl, htemplate⟩
  extract := by
    intro codecs files location snippet hsnippet
    obtain ⟨-, lines, -, hlines⟩ := SnippetReader.windows_of_extract hsnippet
    rw [hlines]
    exact length_window_reader_le s codecs location.line lines

theorem exists_gives_of_load {framework : Framework} {files : Files} {env : Environment}
    {path : Option Path} {s : Settings} (h : load files env path framework = .ok s) :
    ∃ values, Gives files env path values framework ∧ ofValues env values framework = .ok s := by
  have hgives : ∃ values, Gives files env path values framework := by
    cases path with
    | none => exact ⟨[], rfl⟩
    | some path =>
      rcases hvalues : (textOfFile files path).bind (valuesOfText env path · framework) with
        e | values
      · simp only [load, hvalues] at h
        cases h
      · exact ⟨values, hvalues⟩
  obtain ⟨values, hgives⟩ := hgives
  refine ⟨values, hgives, ?_⟩
  rwa [load_of_gives hgives, Check.mapError_eq_ok_iff] at h

/-- Accepted settings are read from the merged values, and they are usable, whatever the framework
does; and with lawful coercions merged values of which one is beyond its bound are rejected, with an
issue at its place, whether the explicit ones come from a file or not. -/
theorem accepted_usable (framework : Framework) (files : Files) (env : Environment) :
    (∀ values s, ofValues env values framework = .ok s → Usable s ∧ ∃ entries,
      merged env values framework = .ok entries ∧
        ReadFrom framework.coercions (Place.given entries) s) ∧
    (∀ path s, load files env path framework = .ok s → Usable s ∧ ∃ values,
      Gives files env path values framework ∧ ofValues env values framework = .ok s) ∧
    (framework.coercions.Lawful → ∀ values entries place,
      merged env values framework = .ok entries → Violates framework.coercions entries place →
        ∃ issues, (∃ complaint, ⟨place, complaint⟩ ∈ issues) ∧
          ofValues env values framework = .error (.invalid issues) ∧
          ∀ path, Gives files env path values framework →
            load files env path framework = .error (.settings (.invalid issues))) := by
  have haccepted : ∀ values s, ofValues env values framework = .ok s → ∃ entries,
      merged env values framework = .ok entries ∧
        ReadFrom framework.coercions (Place.given entries) s := by
    intro values s h
    obtain ⟨entries, hmerged, hchecked⟩ := ofValues_eq_ok_iff_checked.1 h
    exact ⟨entries, hmerged, (Check.settings_eq_ok_iff.1 hchecked).2⟩
  refine ⟨fun values s h => ?_, fun path s h => ?_, fun hlawful values entries place hmerged h => ?_⟩
  · obtain ⟨entries, hmerged, hread⟩ := haccepted values s h
    exact ⟨hread.usable, entries, hmerged, hread⟩
  · obtain ⟨values, hgives, hmade⟩ := exists_gives_of_load h
    obtain ⟨entries, -, hread⟩ := haccepted values s hmade
    exact ⟨hread.usable, values, hgives, hmade⟩
  · obtain ⟨complaint, issues, hissues, hmem⟩ := h.reports hlawful
    have hmade : ofValues env values framework = .error (.invalid issues) := by
      rw [ofValues, hmerged]
      dsimp only
      rw [hissues]
      rfl
    refine ⟨issues, ⟨complaint, hmem⟩, hmade, fun path hgives => ?_⟩
    rw [load_of_gives hgives, hmade]
    rfl

/-- Fifty context lines are accepted, in whatever way they are written, and fifty-one are not. -/
theorem accepted_usable_edge :
    let framework : Framework := {}
    let values (v : Value) : Entries := [("snippet", .map [("context_lines", v)])]
    (∃ s, ofValues {} (values (.text " +5_0.00 ")) framework = .ok s ∧ s.snippet.contextLines = 50 ∧
      Usable s) ∧
    framework.coercions.Lawful ∧
    (∃ entries, merged {} (values (.int 51)) framework = .ok entries ∧
      Violates framework.coercions entries [.field "snippet", .field "context_lines"]) ∧
    ∃ issues, (∃ complaint, ⟨[.field "snippet", .field "context_lines"], complaint⟩ ∈ issues) ∧
      ofValues {} (values (.int 51)) framework = .error (.invalid issues) := by
  intro framework values
  have hlines : (ofValues {} (values (.text " +5_0.00 ")) framework).toOption.map
      (fun s => s.snippet.contextLines) = some 50 := by
    decide +kernel
  obtain ⟨s, hs, hfifty⟩ := Option.map_eq_some_iff.1 hlines
  have hmade := eq_ok_of_toOption hs
  have hshaped : Shaped (values (.int 51)) := ⟨by decide, by decide⟩
  have hmerged : merged {} (values (.int 51)) framework = .ok (values (.int 51)) := by
    have hexplicit : explicit (framework.settingsAmong (values (.int 51))) = values (.int 51) :=
      explicit_eq_firsts hshaped
    rw [merged, hexplicit]
    rfl
  have hlawful : framework.coercions.Lawful := Check.lawful_coercions
  have hviolates : Violates framework.coercions (values (.int 51)) _ :=
    .contextLines rfl rfl (by decide)
  obtain ⟨haccepted, -, hrejected⟩ := accepted_usable framework ⟨fun _ => .error .notFound⟩ {}
  obtain ⟨issues, hissue, herror, -⟩ := hrejected hlawful _ _ _ hmerged hviolates
  exact ⟨⟨s, hmade, hfifty, (haccepted _ s hmade).1⟩, hlawful, ⟨_, hmerged, hviolates⟩, issues, hissue,
    herror⟩

end Settings

end FailurePrompt
