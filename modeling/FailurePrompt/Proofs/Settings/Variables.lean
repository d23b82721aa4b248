import FailurePrompt.Proofs.Settings.Section

/-!
# Variables for leaves

An environment in which every variable of the settings is one for a leaf gives each leaf the value
of its variable, and nothing else. The main statements, `exists_entries_iff` and `entries_of_leaves`,
say when such an environment makes entries, and which.
-/

namespace FailurePrompt

namespace Settings.Place

/-- The name of the variable for a place. -/
def varName (place : Place) : String := place.loweredName.toUpper

/-- The places of all leaves. -/
def all : List Place :=
  Variables.scalarNames.map .top ++
    Variables.sections.flatMap fun sec => sec.fields.map (.within sec)

/-- The value that the text of a variable stands for; a list is given in JSON. -/
def value? (json : Json.Reader) : Place → String → Option Value
  | .top _, text => some (.text text)
  | .within sec name, text => sec.value? json name text

/-- The value that an environment has for a place. -/
def ofEnvironment (json : Json.Reader) (env : Environment) (place : Place) : Option Value :=
  (env.get? place.varName).bind (place.value? json)

theorem toLower_toUpper_of_mem : ∀ place ∈ all, ∀ c ∈ place.loweredName.toList,
    c.toUpper.toLower = c := by
  have hall : (all.all fun place =>
      place.loweredName.toList.all fun c => c.toUpper.toLower == c) = true := by
    decide +kernel
  simpa using hall

theorem toLower_varName {place : Place} (h : place ∈ all) :
    place.varName.toLower = place.loweredName := by
  have hmap : place.varName.toLower = (place.loweredName.map Char.toUpper).map Char.toLower := rfl
  refine String.toList_injective ?_
  rw [hmap, String.toList_map, String.toList_map, List.map_map]
  exact (List.map_congr_left (toLower_toUpper_of_mem place h)).trans (List.map_id _)

theorem common_isPrefix : ∀ place ∈ all,
    Variables.common.toList.isPrefixOf place.loweredName.toList = true := by
  decide +kernel

end Settings.Place

/-- An environment in which every variable of the settings is one for a leaf. -/
structure Environment.OfLeaves (env : Environment) : Prop where
  nodup : (env.entries.map Prod.fst).Nodup
  leaf_or_other : ∀ name ∈ env.entries.map Prod.fst,
    (∃ place ∈ Settings.Place.all, name = place.varName) ∨
      Variables.common.toList.isPrefixOf name.toLower.toList = false

namespace Variables

open Settings Entries

/-! ### Names in lower case -/

/-- The text of a variable. -/
def text? : String × Value → Option (String × String)
  | (name, .text v) => some (name, v)
  | _ => none

theorem mem_filterMap_text?_iff {entries : Entries} {name text : String} :
    (name, text) ∈ entries.filterMap text? ↔ (name, .text text) ∈ entries := by
  rw [List.mem_filterMap]
  constructor
  · rintro ⟨⟨k, v⟩, he, htext⟩
    cases v <;> cases htext
    exact he
  · intro he
    exact ⟨_, he, rfl⟩

theorem keys_filterMap_text?_sublist (entries : Entries) :
    ((entries.filterMap text?).map Prod.fst).Sublist entries.keys := by
  induction entries with
  | nil => exact .slnil
  | cons e rest ih =>
    obtain ⟨k, v⟩ := e
    cases v
    case text => exact ih.cons_cons k
    all_goals exact ih.cons k

theorem lowered_eq (env : Environment) :
    lowered env =
      (Entries.ofList (env.entries.map fun e => (e.1.toLower, .text e.2))).filterMap text? := by
  rw [lowered]
  congr 1

/-- No two of the names in lower case are the same. -/
theorem nodup_lowered (env : Environment) : ((lowered env).map Prod.fst).Nodup := by
  rw [lowered_eq]
  exact (nodup_keys_ofList _).sublist (keys_filterMap_text?_sublist _)

/-- A name in lower case has a text exactly if the last variable of this name has it. -/
theorem lookup_lowered_eq_some_iff {env : Environment} {name text : String} :
    (lowered env).lookup name = some text ↔
      (env.entries.reverse.map fun e => (e.1.toLower, Value.text e.2)).lookup name =
        some (.text text) := by
  rw [lookup_eq_some_iff (nodup_lowered env), lowered_eq, mem_filterMap_text?_iff,
    ← lookup_eq_some_iff (nodup_keys_ofList _), List.map_reverse, ← find?_ofList, find?]

variable {env : Environment}

/-- In an environment of leaves a place has the text of its variable. -/
theorem lookup_lowered (h : env.OfLeaves) {place : Place} (hplace : place ∈ Place.all) :
    (lowered env).lookup place.loweredName = env.get? place.varName := by
  have hlower := Place.toLower_varName hplace
  -- The settings have no two variables that differ only in case, so the last one is the one.
  have honly : ∀ e ∈ env.entries.reverse, e.1.toLower = place.varName.toLower →
      e.1 = place.varName := by
    intro e he hname
    rw [hlower] at hname
    have hmem := List.mem_map_of_mem (f := Prod.fst) (List.mem_reverse.1 he)
    rcases h.leaf_or_other e.1 hmem with ⟨place', hplace', heq⟩ | hother
    · rw [heq, Place.toLower_varName hplace'] at hname
      rw [heq, Place.varName, hname, Place.varName]
    · rw [hname, Place.common_isPrefix place hplace] at hother
      cases hother
  refine Option.ext fun text => ?_
  rw [lookup_lowered_eq_some_iff, ← hlower, lookup_map_of_forall honly, lookup_reverse h.nodup,
    Environment.get?]
  simp

/-- In an environment of leaves a name in lower case is that of a leaf or of something else. -/
theorem leaf_or_other_of_mem_lowered (h : env.OfLeaves) {name : String}
    (hname : name ∈ (lowered env).map Prod.fst) :
    (∃ place ∈ Place.all, name = place.loweredName) ∨
      common.toList.isPrefixOf name.toList = false := by
  obtain ⟨⟨name, text⟩, hmem, rfl⟩ := List.mem_map.1 hname
  rw [← lookup_eq_some_iff (nodup_lowered env), lookup_lowered_eq_some_iff] at hmem
  obtain ⟨before, after, hsplit, -⟩ := List.lookup_eq_some_iff.1 hmem
  obtain ⟨e, he, hpair⟩ := List.mem_map.1 (hsplit ▸ List.mem_append_right before List.mem_cons_self)
  obtain ⟨rfl, -⟩ := Prod.mk.inj hpair
  rcases h.leaf_or_other e.1 (List.mem_map_of_mem (List.mem_reverse.1 he)) with
    ⟨place, hplace, heq⟩ | hother
  · exact .inl ⟨place, hplace, by rw [heq, Place.toLower_varName hplace]⟩
  · exact .inr hother

/-! ### Sections of an environment -/

theorem mem_all_top {name : String} : Place.top name ∈ Place.all ↔ name ∈ scalarNames := by
  simp [Place.all]

theorem mem_all_within {sec : Section} {name : String} :
    Place.within sec name ∈ Place.all ↔ sec ∈ sections ∧ name ∈ sec.fields := by
  simp only [Place.all, List.mem_append, List.mem_map, List.mem_flatMap, reduceCtorEq, and_false,
    exists_false, false_or, Place.within.injEq]
  constructor
  · rintro ⟨_, hsec, _, hname, rfl, rfl⟩
    exact ⟨hsec, hname⟩
  · rintro ⟨hsec, hname⟩
    exact ⟨sec, hsec, name, hname, rfl, rfl⟩

theorem eq_of_name_eq : ∀ sec ∈ sections, ∀ sec' ∈ sections, sec.name = sec'.name → sec = sec' := by
  rw [sections_eq]
  simp [snippetSection, filterSection, loggingSection]

theorem whole_ne_loweredName : ∀ sec ∈ sections, ∀ place ∈ Place.all,
    common ++ sec.name ≠ place.loweredName := by
  decide +kernel

theorem plain_of_leaves (h : env.OfLeaves) {sec : Section} (hsec : sec ∈ sections) :
    sec.Plain (lowered env) := by
  refine ⟨nodup_lowered env, fun name hname => ?_⟩
  rcases leaf_or_other_of_mem_lowered h hname with ⟨place, hplace, rfl⟩ | hother
  · cases place with
    | top name => exact .inl (keysOf_top sec hsec name (mem_all_top.1 hplace))
    | within sec' field =>
      obtain ⟨hsec', hfield⟩ := mem_all_within.1 hplace
      have hkeys := keysOf_within sec hsec sec' hsec' field hfield
      by_cases hname : sec.name = sec'.name
      · obtain rfl := eq_of_name_eq sec hsec sec' hsec' hname
        exact .inr ⟨field, hfield, rfl⟩
      · rw [if_neg hname] at hkeys
        exact .inl hkeys
  · refine .inl ?_
    rw [Section.keysOf, if_neg]
    intro hstart
    -- The beginning of a section's variables begins like those of all settings.
    have hcommon : common.toList <+: name.toList := by
      refine List.IsPrefix.trans ?_ (List.isPrefixOf_iff_prefix.1 hstart)
      simp [Section.start]
    rw [List.isPrefixOf_iff_prefix.2 hcommon] at hother
    cases hother

theorem lookup_whole (h : env.OfLeaves) {sec : Section} (hsec : sec ∈ sections) :
    (lowered env).lookup (common ++ sec.name) = none := by
  rw [Option.eq_none_iff_forall_ne_some]
  intro text htext
  have hmem := (lookup_eq_some_iff (nodup_lowered env)).1 htext
  rcases leaf_or_other_of_mem_lowered h (List.mem_map_of_mem hmem) with
    ⟨place, hplace, hname⟩ | hother
  · exact whole_ne_loweredName sec hsec place hplace hname
  · have hcommon : common.toList <+: (common ++ sec.name).toList := by simp
    rw [List.isPrefixOf_iff_prefix.2 hcommon] at hother
    cases hother

end Variables

/-! ### The entries of an environment -/

/-- The variables for leaves can be read. -/
def Environment.Readable (env : Environment) (json : Json.Reader) : Prop :=
  ∀ place ∈ Settings.Place.all, ∀ text, env.get? place.varName = some text →
    place.value? json text ≠ none

instance (env : Environment) (json : Json.Reader) : Decidable (env.Readable json) :=
  decidable_of_iff (∀ place ∈ Settings.Place.all,
    (env.get? place.varName).all fun text => (place.value? json text).isSome) (by
      simp [Environment.Readable, Option.all_eq_true, Option.isSome_iff_ne_none])

namespace Variables

open Settings Entries

variable {json : Json.Reader} {env : Environment} {below : Entries}

theorem readable_iff (h : env.OfLeaves) :
    env.Readable json ↔ ∀ sec ∈ sections, sec.Readable json (lowered env) := by
  have hlookup {sec : Section} (hsec : sec ∈ sections) {field text : String}
      (hfield : field ∈ sec.fields) :
      (sec.fieldName field, text) ∈ lowered env ↔
        env.get? (Place.within sec field).varName = some text := by
    rw [← lookup_lowered h (mem_all_within.2 ⟨hsec, hfield⟩),
      lookup_eq_some_iff (nodup_lowered env)]
    rfl
  constructor
  · rintro hread sec hsec ⟨name, text⟩ hvar field hfield rfl
    exact hread _ (mem_all_within.2 ⟨hsec, hfield⟩) text ((hlookup hsec hfield).1 hvar)
  · intro hread place hplace text htext
    cases place with
    | top name => simp [Place.value?]
    | within sec field =>
      obtain ⟨hsec, hfield⟩ := mem_all_within.1 hplace
      exact hread sec hsec _ ((hlookup hsec hfield).2 htext) field hfield rfl

/-- The settings at the top that are given by variables. -/
def scalarEntries (env : Environment) : Entries :=
  scalarNames.filterMap fun name =>
    ((lowered env).lookup (common ++ name)).map fun v => (name, .text v)

theorem entries_eq (json : Json.Reader) (env : Environment) :
    entries json env =
      (sectionEntries json (lowered env) sections).map (scalarEntries env ++ ·) := rfl

/-- An environment of leaves makes entries exactly if its variables can be read. -/
theorem exists_entries_iff (h : env.OfLeaves) :
    (∃ below, entries json env = .ok below) ↔ env.Readable json := by
  have hsections : (∃ below, entries json env = .ok below) ↔
      ∃ found, sectionEntries json (lowered env) sections = .ok found := by
    rw [entries_eq]
    rcases sectionEntries json (lowered env) sections with e | found <;> simp [Except.map]
  rw [hsections, exists_sectionEntries_iff, readable_iff h]
  refine forall₂_congr fun sec hsec => ?_
  simp [read_eq_ok_iff hsec (plain_of_leaves h hsec) (lookup_whole h hsec)]

theorem find?_scalarEntries (h : env.OfLeaves) {name : String} (hname : name ∈ scalarNames) :
    (scalarEntries env).find? name = (Place.top name).ofEnvironment json env := by
  have hscalars : scalarEntries env = scalarNames.filterMap fun name =>
      (((lowered env).lookup (common ++ name)).map Value.text).map (name, ·) := by
    simp only [scalarEntries, Option.map_map]
    rfl
  rw [hscalars, find?_filterMap_names (by decide) _ hname, Place.ofEnvironment,
    ← lookup_lowered h (mem_all_top.2 hname)]
  exact Option.map_eq_bind

theorem mem_scalarNames_of_mem_keys {key : String} (hkey : key ∈ (scalarEntries env).keys) :
    key ∈ scalarNames := by
  obtain ⟨e, he, rfl⟩ := List.mem_map.1 hkey
  obtain ⟨name, hname, hvalue⟩ := List.mem_filterMap.1 he
  obtain ⟨_, -, rfl⟩ := Option.map_eq_some_iff.1 hvalue
  exact hname

/-- The entries of an environment of leaves have the shape of settings, and for each leaf the value
of its variable. -/
theorem entries_of_leaves (h : env.OfLeaves) (hbelow : entries json env = .ok below) :
    Shaped below ∧ ∀ place ∈ Place.all, place.given below = place.ofEnvironment json env := by
  rw [entries_eq] at hbelow
  rcases hfound : sectionEntries json (lowered env) sections with e | found
  · rw [hfound] at hbelow
    cases hbelow
  rw [hfound] at hbelow
  obtain rfl : scalarEntries env ++ found = below := Except.ok.inj hbelow
  have hkeys := keys_of_sectionEntries hfound
  have hdisjoint : ∀ sec ∈ sections, sec.name ∉ scalarNames := by decide
  -- The value of a section is what is assigned to its fields.
  have hsection : ∀ sec ∈ sections, (scalarEntries env ++ found).find? sec.name =
      asSection ((lowered env).filterMap (sec.assignment? json)) := by
    intro sec hsec
    have hread := read_of_sectionEntries (by decide) hfound sec hsec
    rw [read_eq_ok_iff hsec (plain_of_leaves h hsec) (lookup_whole h hsec)] at hread
    have hnone : (scalarEntries env).find? sec.name = none :=
      find?_eq_none_iff.2 fun hkey => hdisjoint sec hsec (mem_scalarNames_of_mem_keys hkey)
    rw [find?_append, hnone, Option.none_or, hread.2]
  refine ⟨⟨fun key hkey => ?_, fun sec hsec => ?_⟩, fun place hplace => ?_⟩
  · rw [keys, List.map_append, List.mem_append] at hkey
    rcases hkey with hkey | hkey
    · have hsub : ∀ name ∈ scalarNames, name ∈ Check.fieldNames := by decide
      exact hsub key (mem_scalarNames_of_mem_keys hkey)
    · have hsub : ∀ name ∈ sections.map Section.name, name ∈ Check.fieldNames := by decide
      exact hsub key (hkeys key hkey)
  · exact holdsSection_of_asSection (hsection sec hsec)
  · cases place with
    | top name =>
      have hname := mem_all_top.1 hplace
      have hnone : found.find? name = none := find?_eq_none_iff.2 fun hkey => by
        obtain ⟨sec, hsec, rfl⟩ := List.mem_map.1 (hkeys name hkey)
        exact hdisjoint sec hsec hname
      rw [Place.given, find?_append, hnone, Option.or_none, find?_scalarEntries h hname]
    | within sec field =>
      obtain ⟨hsec, hfield⟩ := mem_all_within.1 hplace
      rw [Place.given, inner_of_asSection (hsection sec hsec),
        find?_assigned hsec (plain_of_leaves h hsec) hfield, Place.ofEnvironment,
        ← lookup_lowered h hplace]
      rfl

end Variables

end FailurePrompt