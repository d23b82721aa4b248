import FailurePrompt.Proofs.Settings.Framework

/-!
# Which value a leaf has

A leaf has its explicit value, or else the value of its variable, or else its default, each leaf for
itself: a section that is given explicitly hides nothing of what variables say about its other
leaves. Under a lawful framework a leaf is what this value says. The main statement is
`ofValues_precedence`.
-/

namespace FailurePrompt

namespace Settings

open Entries Checked

variable {framework : Framework} {env : Environment} {values below entries : Entries} {name : String}

/-! ### Making settings -/

/-- Settings are what is read from the merged values. -/
theorem ofValues_eq_ok_iff_checked {s : Settings} :
    ofValues env values framework = .ok s ↔ ∃ entries, merged env values framework = .ok entries ∧
      Check.settings framework.coercions entries = .ok s := by
  rw [ofValues]
  rcases merged env values framework with e | entries
  · simp
  · simp [Check.mapError_eq_ok_iff]

/-- The explicit values that a file gives, or none where there is no file. -/
def Gives (files : Files) (env : Environment) (path : Option Path) (values : Entries)
    (framework : Framework) : Prop :=
  match path with
  | none => values = []
  | some path => (textOfFile files path).bind (valuesOfText env path · framework) = .ok values

theorem load_of_gives {files : Files} {path : Option Path}
    (h : Gives files env path values framework) :
    load files env path framework = (ofValues env values framework).mapError .settings := by
  cases path with
  | none =>
    cases h
    rfl
  | some path =>
    rw [Gives] at h
    simp only [load, h]

/-! ### Explicit values -/

theorem canonicalName_of_mem_fieldNames : ∀ name ∈ Check.fieldNames,
    Variables.canonicalName Check.fieldNames name = name := by
  decide +kernel

/-- Under the names of the settings explicit values stay as they are. -/
theorem explicit_eq_firsts (h : Shaped values) : explicit values = firsts values := by
  have hrenamed : Variables.renamed Check.fieldNames values = values := by
    refine (List.map_congr_left fun (key, v) he => ?_).trans (List.map_id _)
    exact congrArg (·, v)
      (canonicalName_of_mem_fieldNames key (h.known key (List.mem_map_of_mem he)))
  rw [explicit, hrenamed]

/-! ### Merging -/

section Merging

variable {merge : Entries → Entries → Entries}

theorem find?_merge_explicit (hmerge : LaysDeeply merge) (h : Shaped values) (below : Entries)
    (key : String) :
    (merge below (explicit values)).find? key =
      match values.find? key with
      | some v => some (v.laidOver merge (below.find? key))
      | none => below.find? key := by
  have hkey := hmerge below (firsts values) key (nodup_keys_firsts values)
  rw [find?_firsts] at hkey
  rw [explicit_eq_firsts h]
  exact hkey

theorem laidOver_none (v : Value) : v.laidOver merge none = v := by
  cases v <;> rfl

/-- A map laid over anything is a map. -/
theorem exists_laidOver_map (merge : Entries → Entries → Entries) (sec : Entries)
    (old : Option Value) :
    ∃ sec', (Value.map sec).laidOver merge old = .map sec' := by
  rcases old with _ | v
  · exact ⟨sec, laidOver_none _⟩
  · cases v <;> simp [Value.laidOver]

theorem shaped_merge (hmerge : LaysDeeply merge) (hbelow : Shaped below) (h : Shaped values) :
    Shaped (merge below (explicit values)) := by
  refine ⟨fun key hkey => ?_, fun sec hsec => ?_⟩
  · refine Decidable.byContradiction fun hunknown => find?_eq_none_iff.1 ?_ hkey
    rw [find?_merge_explicit hmerge h, find?_eq_none_iff.2 (mt (h.known key) hunknown)]
    exact find?_eq_none_iff.2 (mt (hbelow.known key) hunknown)
  · rw [HoldsSection, find?_merge_explicit hmerge h]
    rcases h.holdsSection sec hsec with hnone | ⟨inner, hinner⟩
    · rw [hnone]
      exact hbelow.holdsSection sec hsec
    · rw [hinner]
      obtain ⟨sec', hsec'⟩ := exists_laidOver_map merge inner (below.find? sec.name)
      exact .inr ⟨sec', congrArg some hsec'⟩

/-- A field of a section has its explicit value, laid over what was there before. -/
theorem find?_inner_merge (hmerge : LaysDeeply merge) (hbelow : below.HoldsSection name)
    (h : Shaped values) (hsection : values.HoldsSection name)
    (hnodup : (values.inner name).keys.Nodup) (field : String) :
    ((merge below (explicit values)).inner name).find? field =
      match (values.inner name).find? field with
      | some v => some (v.laidOver merge ((below.inner name).find? field))
      | none => (below.inner name).find? field := by
  have hfound := find?_merge_explicit hmerge h below name
  -- Two maps are merged; where only one of them is there, it is the section.
  rcases hsection with hnone | ⟨sec, hsec⟩
  · rw [hnone] at hfound
    rw [inner_eq_nil hnone, Entries.inner, hfound]
    rfl
  rw [hsec] at hfound
  rw [inner_eq_of_find? hsec] at hnodup ⊢
  rcases hbelow with hnone | ⟨old, hold⟩
  · simp only [hnone, laidOver_none] at hfound
    rw [inner_eq_of_find? hfound, inner_eq_nil hnone]
    rcases find? sec field with _ | v
    · rfl
    · exact congrArg some (laidOver_none v).symm
  · simp only [hold, Value.laidOver] at hfound
    rw [inner_eq_of_find? hfound, inner_eq_of_find? hold]
    exact hmerge old sec field hnodup

/-- A leaf has its explicit value, laid over what was there before. -/
theorem given_merge (hmerge : LaysDeeply merge) (hbelow : Shaped below) (h : Written values)
    {place : Place} (hplace : place ∈ Place.all) :
    place.given (merge below (explicit values)) =
      match place.given values with
      | some v => some (v.laidOver merge (place.given below))
      | none => place.given below := by
  cases place with
  | top name => exact find?_merge_explicit hmerge h.toShaped below name
  | within sec field =>
    obtain ⟨hsec, -⟩ := Variables.mem_all_within.1 hplace
    exact find?_inner_merge hmerge (hbelow.holdsSection sec hsec) h.toShaped
      (h.holdsSection sec hsec) (h.nodup sec hsec) field

end Merging

/-! ### Leaves -/

/-- A leaf of the settings, as coercions read it: values that say what it is are read as just that,
and maps are not read. -/
structure Leaf.IsReadBy {α : Type} (leaf : Leaf α) (coercions : Coercions) : Prop where
  place_mem : leaf.place ∈ Place.all
  check_of_says {v : Value} {a : α} (h : leaf.Says v a) : leaf.check coercions v = .ok a
  refusesMaps : RefusesMaps (leaf.check coercions)

section Readers

variable {coercions : Coercions} (h : coercions.Lawful)
include h

theorem check_directories {v : Value} {names : List String}
    (htells : Leaf.dependencyDirs.Says v names) :
    Check.directories coercions v = .ok names := by
  obtain ⟨rfl, hbare⟩ := htells
  have hnone : names.find? (!Check.isDirectoryName ·) = none := by
    rw [List.find?_eq_none]
    intro name hname
    simp [Check.isDirectoryName_iff.2 (hbare name hname)]
  rw [Check.directories, h.stringList]
  dsimp only
  rw [hnone]

theorem check_choice {α : Type} {options : List (String × α)} {name : String} {a : α}
    (hname : options.lookup name = some a) :
    Check.choice coercions options (.text name) = .ok a := by
  have hmem : name ∈ options.map Prod.fst := by
    obtain ⟨before, after, rfl, -⟩ := List.lookup_eq_some_iff.1 hname
    simp
  rw [Check.choice, h.literal_iff.2 ⟨hmem, rfl⟩]
  dsimp only
  rw [hname]

theorem refusesMaps_directories : RefusesMaps (Check.directories coercions) := by
  intro entries names hread
  rw [Check.directories] at hread
  split at hread
  · cases hread
  · rename_i found hfound
    exact h.stringList_map entries found hfound

theorem refusesMaps_choice {α : Type} (options : List (String × α)) :
    RefusesMaps (Check.choice coercions options) := by
  intro entries a hread
  rw [Check.choice] at hread
  split at hread
  · cases hread
  · rename_i name hname
    cases (h.literal_iff.1 hname).2

/-- Lawful coercions read every leaf. -/
theorem leafwise_isReadBy (s : Settings) : Leafwise (fun leaf _ => leaf.IsReadBy coercions) s := by
  have htop {name : String} (hname : name ∈ Variables.scalarNames) : Place.top name ∈ Place.all :=
    Variables.mem_all_top.2 hname
  have hwithin {sec : Variables.Section} {name : String} (hsec : sec ∈ Variables.sections)
      (hname : name ∈ sec.fields) : Place.within sec name ∈ Place.all :=
    Variables.mem_all_within.2 ⟨hsec, hname⟩
  have hsnippet : Variables.snippetSection ∈ Variables.sections := by simp [Variables.sections_eq]
  have hfilter : Variables.filterSection ∈ Variables.sections := by simp [Variables.sections_eq]
  have hlogging : Variables.loggingSection ∈ Variables.sections := by simp [Variables.sections_eq]
  exact {
    showInternalFrames := ⟨htop (by decide), h.boolean, h.boolean_map⟩
    attachmentName := ⟨htop (by decide), by rintro _ s rfl; exact h.string s, h.string_map⟩
    templatePath := ⟨htop (by decide), h.path, h.path_map⟩
    contextLines := ⟨hwithin hsnippet (by decide),
      fun htells => Check.contextLines_eq_ok_iff.2 (h.lines htells),
      fun entries _ hread => h.integer_map entries _ (Check.contextLines_eq_ok_iff.1 hread)⟩
    encoding := ⟨hwithin hsnippet (by decide), by rintro _ s rfl; exact h.string s, h.string_map⟩
    dependencyDirs := ⟨hwithin hfilter (by decide), check_directories h,
      refusesMaps_directories h⟩
    internalPrefixes := ⟨hwithin hfilter (by decide), by rintro _ names rfl; exact h.stringList names,
      h.stringList_map⟩
    level := ⟨hwithin hlogging (by decide),
      by rintro _ level rfl; exact check_choice h (by cases level <;> decide),
      refusesMaps_choice h _⟩
    format := ⟨hwithin hlogging (by decide),
      by rintro _ format rfl; exact check_choice h (by cases format <;> decide),
      refusesMaps_choice h _⟩ }

end Readers

namespace Leaf.IsReadBy

variable {α : Type} {leaf : Leaf α} {coercions : Coercions} {value : Place → Option Value} {a : α}

/-- What a value is laid over does not matter to a leaf. -/
theorem check_laidOver_eq_ok_iff (h : leaf.IsReadBy coercions) (merge : Entries → Entries → Entries)
    (v : Value) (old : Option Value) :
    leaf.check coercions (v.laidOver merge old) = .ok a ↔ leaf.check coercions v = .ok a := by
  cases v with
  | map sec =>
    obtain ⟨sec', hsec'⟩ := exists_laidOver_map merge sec old
    rw [hsec']
    exact iff_of_false (h.refusesMaps _ _) (h.refusesMaps _ _)
  | _ => rfl

theorem reads_of_isSaid (h : leaf.IsReadBy coercions) (hsaid : leaf.IsSaid value a) :
    leaf.Reads coercions value a := by
  rw [IsSaid] at hsaid
  rw [Reads]
  split at hsaid
  case h_1 => exact hsaid
  case h_2 => exact h.check_of_says hsaid

theorem isAsSaid_of_reads (h : leaf.IsReadBy coercions) (hread : leaf.Reads coercions value a) :
    leaf.IsAsSaid value a := by
  intro b hsaid
  have hreads := h.reads_of_isSaid hsaid
  rw [Reads] at hread hreads
  split at hread <;> simp_all

end Leaf.IsReadBy

/-- What is read from values is as they say, and what they say is read from them. -/
theorem readFrom_iff_said {coercions : Coercions} (h : coercions.Lawful)
    (value : Place → Option Value) (s : Settings) :
    (ReadFrom coercions value s → AsSaid value s) ∧ (Said value s → ReadFrom coercions value s) :=
  ⟨fun hread => (leafwise_isReadBy h s).imp₂ hread fun _ _ hleaf => hleaf.isAsSaid_of_reads,
    fun hsaid => (leafwise_isReadBy h s).imp₂ hsaid fun _ _ hleaf => hleaf.reads_of_isSaid⟩

/-- The value of a leaf is the explicit one, or else that of its variable. -/
def settled (json : Json.Reader) (env : Environment) (values : Entries) (place : Place) :
    Option Value :=
  (place.given values).or (place.ofEnvironment json env)

/-- The values of an environment come below explicit ones. -/
theorem merged_eq_ok_iff (hframework : framework.Lawful) (hvalues : Written values) :
    merged env values framework = .ok entries ↔ ∃ below,
      framework.readVariables env values = .ok below ∧
        framework.merge below (explicit values) = entries := by
  rw [merged, hframework.settingsAmong hvalues]
  rcases framework.readVariables env values with e | below <;> simp

/-- A leaf is read from merged entries as it is from the settled value. -/
theorem Leaf.IsReadBy.reads_merged_iff {α : Type} {leaf : Leaf α}
    (h : leaf.IsReadBy framework.coercions) (hframework : framework.Lawful)
    (henv : env.OfLeaves) (hvalues : Written values)
    (hmerged : merged env values framework = .ok entries) {a : α} :
    leaf.Reads framework.coercions (Place.given entries) a ↔
      leaf.Reads framework.coercions (settled framework.json env values) a := by
  obtain ⟨below, hbelow, rfl⟩ := (merged_eq_ok_iff hframework hvalues).1 hmerged
  have hshaped := hframework.readVariables.shaped henv hvalues hbelow
  have hgiven := hframework.readVariables.given henv hvalues hbelow h.place_mem
  rw [Leaf.Reads, Leaf.Reads, settled, given_merge hframework.merge hshaped hvalues h.place_mem,
    hgiven]
  rcases leaf.place.given values with _ | v
  · rfl
  · exact h.check_laidOver_eq_ok_iff _ v _

theorem readFrom_merged_iff (hframework : framework.Lawful) (henv : env.OfLeaves)
    (hvalues : Written values) (hmerged : merged env values framework = .ok entries)
    {s : Settings} :
    ReadFrom framework.coercions (Place.given entries) s ↔
      ReadFrom framework.coercions (settled framework.json env values) s :=
  have hleaves := leafwise_isReadBy hframework.coercions s
  ⟨fun h => hleaves.imp₂ h fun _ _ hleaf =>
      (hleaf.reads_merged_iff hframework henv hvalues hmerged).1,
    fun h => hleaves.imp₂ h fun _ _ hleaf =>
      (hleaf.reads_merged_iff hframework henv hvalues hmerged).2⟩

/-- Settings are made exactly if the variables can be read and every leaf is read from its settled
value. -/
theorem ofValues_eq_ok_iff (hframework : framework.Lawful) (henv : env.OfLeaves)
    (hvalues : Written values) {s : Settings} :
    ofValues env values framework = .ok s ↔ env.Readable framework.json ∧
      ReadFrom framework.coercions (settled framework.json env values) s := by
  have hchecked : ∀ entries, merged env values framework = .ok entries →
      (Check.settings framework.coercions entries = .ok s ↔
        ReadFrom framework.coercions (settled framework.json env values) s) := by
    intro entries hmerged
    obtain ⟨below, hbelow, rfl⟩ := (merged_eq_ok_iff hframework hvalues).1 hmerged
    have hshaped := shaped_merge hframework.merge
      (hframework.readVariables.shaped henv hvalues hbelow) hvalues.toShaped
    rw [Check.settings_eq_ok_iff, and_iff_right hshaped,
      readFrom_merged_iff hframework henv hvalues hmerged]
  rw [ofValues_eq_ok_iff_checked, ← hframework.readVariables.exists_iff henv hvalues]
  constructor
  · rintro ⟨entries, hmerged, h⟩
    obtain ⟨below, hbelow, -⟩ := (merged_eq_ok_iff hframework hvalues).1 hmerged
    exact ⟨⟨below, hbelow⟩, (hchecked entries hmerged).1 h⟩
  · rintro ⟨⟨below, hbelow⟩, h⟩
    have hmerged := (merged_eq_ok_iff hframework hvalues).2 ⟨below, hbelow, rfl⟩
    exact ⟨_, hmerged, (hchecked _ hmerged).2 h⟩

/-! ### Valid values -/

/-- The value of a leaf, if there is one, passes the check of the leaf. -/
def Leaf.Accepts {α : Type} (leaf : Leaf α) (coercions : Coercions) (value : Place → Option Value) :
    Prop :=
  ∀ v, value leaf.place = some v → ∃ a, leaf.check coercions v = .ok a

instance {α : Type} (leaf : Leaf α) (coercions : Coercions) (value : Place → Option Value) :
    Decidable (leaf.Accepts coercions value) :=
  decidable_of_iff ((value leaf.place).all fun v => (leaf.check coercions v).toOption.isSome) (by
    simp only [Leaf.Accepts, Option.all_eq_true]
    refine forall₂_congr fun v _ => ?_
    cases leaf.check coercions v <;> simp [Except.toOption])

/-- Every leaf accepts its value. -/
structure Valid (coercions : Coercions) (value : Place → Option Value) : Prop where
  showInternalFrames : Leaf.showInternalFrames.Accepts coercions value
  attachmentName : Leaf.attachmentName.Accepts coercions value
  templatePath : Leaf.templatePath.Accepts coercions value
  contextLines : Leaf.contextLines.Accepts coercions value
  encoding : Leaf.encoding.Accepts coercions value
  dependencyDirs : Leaf.dependencyDirs.Accepts coercions value
  internalPrefixes : Leaf.internalPrefixes.Accepts coercions value
  level : Leaf.level.Accepts coercions value
  format : Leaf.format.Accepts coercions value

section

variable {coercions : Coercions} {json : Json.Reader}

theorem Leaf.Accepts.exists_reads {α : Type} {leaf : Leaf α}
    (hgiven : leaf.Accepts coercions (Place.given values))
    (henv : leaf.Accepts coercions (Place.ofEnvironment json env)) :
    ∃ a, leaf.Reads coercions (settled json env values) a := by
  rw [Leaf.Accepts] at hgiven henv
  simp only [Leaf.Reads, settled]
  rcases hexplicit : leaf.place.given values with _ | v
  · rcases hvariable : leaf.place.ofEnvironment json env with _ | v
    · exact ⟨_, rfl⟩
    · exact henv v hvariable
  · exact hgiven v hexplicit

theorem Valid.exists_readFrom (hgiven : Valid coercions (Place.given values))
    (henv : Valid coercions (Place.ofEnvironment json env)) :
    ∃ s, ReadFrom coercions (settled json env values) s := by
  obtain ⟨show_, hshow⟩ := hgiven.showInternalFrames.exists_reads henv.showInternalFrames
  obtain ⟨name, hname⟩ := hgiven.attachmentName.exists_reads henv.attachmentName
  obtain ⟨template, htemplate⟩ := hgiven.templatePath.exists_reads henv.templatePath
  obtain ⟨lines, hlines⟩ := hgiven.contextLines.exists_reads henv.contextLines
  obtain ⟨encoding, hencoding⟩ := hgiven.encoding.exists_reads henv.encoding
  obtain ⟨dirs, hdirs⟩ := hgiven.dependencyDirs.exists_reads henv.dependencyDirs
  obtain ⟨prefixes, hprefixes⟩ := hgiven.internalPrefixes.exists_reads henv.internalPrefixes
  obtain ⟨level, hlevel⟩ := hgiven.level.exists_reads henv.level
  obtain ⟨format, hformat⟩ := hgiven.format.exists_reads henv.format
  exact ⟨⟨show_, name, template, ⟨lines.1, encoding, lines.2.1, lines.2.2⟩, ⟨dirs, prefixes⟩,
    ⟨level, format⟩⟩, hshow, hname, htemplate, hlines, hencoding, hdirs, hprefixes, hlevel, hformat⟩

end

/-- Valid values make settings, in which each leaf has its explicit value, or else the value of its
variable, or else its default, whatever the other leaves have; and it makes no difference whether
the explicit values are those of a file. A leaf with a value that says what it is, is that: one with
a truth value is that truth value, one with a text that text. -/
theorem ofValues_precedence (framework : Framework) (env : Environment) (values : Entries)
    (hframework : framework.Lawful) (henv : env.OfLeaves) (hvalues : Written values) :
    (env.Readable framework.json → Valid framework.coercions (Place.given values) →
      Valid framework.coercions (Place.ofEnvironment framework.json env) →
      ∃ s, ofValues env values framework = .ok s) ∧
    (∀ s, ofValues env values framework = .ok s ↔ env.Readable framework.json ∧
      ReadFrom framework.coercions (settled framework.json env values) s) ∧
    (∀ files path, Gives files env path values framework → ∀ s,
      load files env path framework = .ok s ↔ env.Readable framework.json ∧
        ReadFrom framework.coercions (settled framework.json env values) s) ∧
    ∀ s,
      (ReadFrom framework.coercions (settled framework.json env values) s →
        AsSaid (settled framework.json env values) s) ∧
      (Said (settled framework.json env values) s →
        ReadFrom framework.coercions (settled framework.json env values) s) := by
  refine ⟨fun hreadable hgiven hvalid => ?_, fun s => ofValues_eq_ok_iff hframework henv hvalues,
    fun files path hgives s => ?_, readFrom_iff_said hframework.coercions _⟩
  · obtain ⟨s, hs⟩ := hgiven.exists_readFrom hvalid
    exact ⟨s, (ofValues_eq_ok_iff hframework henv hvalues).2 ⟨hreadable, hs⟩⟩
  · rw [load_of_gives hgives, Check.mapError_eq_ok_iff, ofValues_eq_ok_iff hframework henv hvalues]

/-- A missing template hides the variable for it; sections hide only what they give. -/
theorem ofValues_precedence_sections :
    let framework : Framework := {}
    let env : Environment := ⟨[("HOME", "/root"), ("FIX_WITH_AI_TEMPLATE_PATH", "t.txt"),
      ("FIX_WITH_AI_SNIPPET__CONTEXT_LINES", "5"),
      ("FIX_WITH_AI_FILTER__DEPENDENCY_DIRS", "[\"vendor\"]")]⟩
    let values : Entries := [("template_path", .null), ("filter", .map []),
      ("snippet", .map [("encoding", .text "latin-1")])]
    framework.Lawful ∧ env.OfLeaves ∧ Written values ∧ env.Readable framework.json ∧
      Valid framework.coercions (Place.given values) ∧
      Valid framework.coercions (Place.ofEnvironment framework.json env) ∧
      ∃ s, ofValues env values framework = .ok s ∧
        ReadFrom framework.coercions (settled framework.json env values) s ∧
        AsSaid (settled framework.json env values) s ∧
        s.templatePath = none ∧ s.snippet.contextLines = 5 ∧ s.snippet.encoding = "latin-1" ∧
        s.filter.dependencyDirs = ["vendor"] ∧ s.logging.level = .warning := by
  intro framework env values
  have hframework : framework.Lawful := lawful_framework _ _
  have henv : env.OfLeaves := by
    refine ⟨by decide, ?_⟩
    have hnames : ∀ name ∈ env.entries.map Prod.fst,
        name ∈ Place.all.map Place.varName ∨
          Variables.common.toList.isPrefixOf name.toLower.toList = false := by
      decide +kernel
    intro name hname
    refine (hnames name hname).imp_left fun hmem => ?_
    obtain ⟨place, hplace, rfl⟩ := List.mem_map.1 hmem
    exact ⟨place, hplace, rfl⟩
  have hvalues : Written values := ⟨⟨by decide, by decide⟩, by decide⟩
  have hreadable : env.Readable framework.json := by decide +kernel
  have hgiven : Valid framework.coercions (Place.given values) := by
    constructor <;> decide +kernel
  have hvalid : Valid framework.coercions (Place.ofEnvironment framework.json env) := by
    constructor <;> decide +kernel
  obtain ⟨hmade, hread, -, hsaid⟩ := ofValues_precedence framework env values hframework henv hvalues
  obtain ⟨s, hs⟩ := hmade hreadable hgiven hvalid
  have hleaves : (ofValues env values framework).toOption.map (fun s => (s.templatePath,
      s.snippet.contextLines, s.snippet.encoding, s.filter.dependencyDirs, s.logging.level)) =
      some (none, 5, "latin-1", ["vendor"], .warning) := by
    decide +kernel
  rw [hs] at hleaves
  simp only [Except.toOption, Option.map_some, Option.some.injEq, Prod.mk.injEq] at hleaves
  obtain ⟨-, hreads⟩ := (hread s).1 hs
  exact ⟨hframework, henv, hvalues, hreadable, hgiven, hvalid, s, hs, hreads, (hsaid s).1 hreads,
    hleaves⟩

end Settings

end FailurePrompt
