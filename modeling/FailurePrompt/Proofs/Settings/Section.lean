import FailurePrompt.Proofs.Settings.Leaf

/-!
# Sections from variables

Of the variables for a section each sets the field that its name ends in. As long as no variable
gives the whole of a section, its value is what is assigned to its fields one by one; the main
statements are `read_eq_ok_iff` and `find?_assigned`.
-/

namespace FailurePrompt

/-- The name of the variable for a place, in lower case. -/
def Settings.Place.loweredName : Place → String
  | .top name => Variables.common ++ name
  | .within sec name => Variables.common ++ sec.name ++ "__" ++ name

namespace Entries

/-- The section that some assigned fields make; without any there is no section. -/
def asSection : Entries → Option Value
  | [] => none
  | assigned => some (.map assigned)

variable {entries assigned : Entries} {name : String}

theorem holdsSection_of_asSection (h : entries.find? name = assigned.asSection) :
    entries.HoldsSection name := by
  cases assigned with
  | nil => exact .inl h
  | cons e rest => exact .inr ⟨_, h⟩

theorem inner_of_asSection (h : entries.find? name = assigned.asSection) :
    entries.inner name = assigned := by
  cases assigned with
  | nil => exact inner_eq_nil h
  | cons e rest => exact inner_eq_of_find? h

end Entries

namespace Variables

open Settings Entries

theorem keysOf_top : ∀ sec ∈ sections, ∀ name ∈ scalarNames,
    sec.keysOf (Place.top name).loweredName = none := by
  decide +kernel

theorem keysOf_within : ∀ sec ∈ sections, ∀ sec' ∈ sections, ∀ name ∈ sec'.fields,
    sec.keysOf (Place.within sec' name).loweredName =
      if sec.name = sec'.name then some [name] else none := by
  decide +kernel

/-! ### Fields of a section -/

/-- The name of the variable for a field of a section, in lower case. -/
def Section.fieldName (sec : Section) (field : String) : String :=
  (Place.within sec field).loweredName

/-- The variables are for fields of a section, or none of the section's. -/
structure Section.Plain (sec : Section) (vars : List (String × String)) : Prop where
  nodup : (vars.map Prod.fst).Nodup
  named : ∀ name ∈ vars.map Prod.fst,
    sec.keysOf name = none ∨ ∃ field ∈ sec.fields, name = sec.fieldName field

/-- The value of a variable for a field, if it can be read. -/
def Section.value? (json : Json.Reader) (sec : Section) (field text : String) : Option Value :=
  (sec.value json [field] text).toOption

theorem value_eq_ok_iff {json : Json.Reader} {sec : Section} {field text : String} {v : Value} :
    sec.value json [field] text = .ok v ↔ sec.value? json field text = some v := by
  rw [Section.value?]
  rcases sec.value json [field] text with fault | v' <;> simp [Except.toOption]

/-- The variables for the fields of a section can be read. -/
def Section.Readable (json : Json.Reader) (sec : Section) (vars : List (String × String)) : Prop :=
  ∀ e ∈ vars, ∀ field ∈ sec.fields, e.1 = sec.fieldName field →
    sec.value? json field e.2 ≠ none

/-- The field that a variable is for, with its value. -/
def Section.assignment? (json : Json.Reader) (sec : Section) (var : String × String) :
    Option (String × Value) :=
  match sec.keysOf var.1 with
  | some [field] => (sec.value? json field var.2).map (field, ·)
  | _ => none

theorem keysOf_fieldName {sec : Section} (hsec : sec ∈ sections) {field : String}
    (hfield : field ∈ sec.fields) : sec.keysOf (sec.fieldName field) = some [field] := by
  have hkeys := keysOf_within sec hsec sec hsec field hfield
  rwa [if_pos rfl] at hkeys

section Fields

variable {json : Json.Reader} {sec : Section} {vars rest : List (String × String)}
  {before found : Entries}

theorem Section.Plain.tail {var : String × String} (h : sec.Plain (var :: rest)) :
    sec.Plain rest :=
  ⟨(List.nodup_cons.1 h.nodup).2, fun name hname => h.named name (List.mem_cons_of_mem _ hname)⟩

/-- A variable is for a field of the section exactly if it has the name for it. -/
theorem assignment?_eq_some_iff (hsec : sec ∈ sections) (h : sec.Plain vars)
    {var : String × String} (hvar : var ∈ vars) {field : String} {v : Value} :
    sec.assignment? json var = some (field, v) ↔
      field ∈ sec.fields ∧ var.1 = sec.fieldName field ∧ sec.value? json field var.2 = some v := by
  rw [Section.assignment?]
  rcases h.named var.1 (List.mem_map_of_mem hvar) with hkeys | ⟨field', hfield', hname⟩
  · rw [hkeys]
    refine iff_of_false (by simp) ?_
    rintro ⟨hfield, hname, -⟩
    rw [hname, keysOf_fieldName hsec hfield] at hkeys
    cases hkeys
  · have hkeys : sec.keysOf var.1 = some [field'] := by rw [hname, keysOf_fieldName hsec hfield']
    rw [hkeys]
    simp only [Option.map_eq_some_iff, Prod.mk.injEq]
    constructor
    · rintro ⟨_, hv, rfl, rfl⟩
      exact ⟨hfield', hname, hv⟩
    · rintro ⟨hfield, hname', hv⟩
      rw [hname', keysOf_fieldName hsec hfield] at hkeys
      cases hkeys
      exact ⟨v, hv, rfl, rfl⟩

/-- Setting the fields succeeds exactly if their variables can be read. -/
theorem exists_set_iff (hsec : sec ∈ sections) (h : sec.Plain vars) :
    (∃ found, sec.set json before vars = .ok found) ↔ sec.Readable json vars := by
  induction vars generalizing before with
  | nil => simp [Section.set, Section.Readable]
  | cons var rest ih =>
    obtain ⟨name, text⟩ := var
    have hrest : sec.Readable json ((name, text) :: rest) ↔
        (∀ field ∈ sec.fields, name = sec.fieldName field → sec.value? json field text ≠ none) ∧
          sec.Readable json rest := List.forall_mem_cons
    rw [hrest, Section.set]
    -- What is asked of the first variable is nothing if it is for no field, and otherwise one value.
    rcases h.named name List.mem_cons_self with hkeys | ⟨field, hfield, rfl⟩
    · have hnone : ∀ field ∈ sec.fields, name = sec.fieldName field →
          sec.value? json field text ≠ none := by
        rintro field hfield rfl
        rw [keysOf_fieldName hsec hfield] at hkeys
        cases hkeys
      simp only [hkeys, ih h.tail, and_iff_right hnone]
    · have hkeys := keysOf_fieldName hsec hfield
      have honly : (∀ field' ∈ sec.fields, sec.fieldName field = sec.fieldName field' →
          sec.value? json field' text ≠ none) ↔ sec.value? json field text ≠ none := by
        constructor
        · intro hall
          exact hall field hfield rfl
        · intro hread field' hfield' hname
          rw [hname, keysOf_fieldName hsec hfield'] at hkeys
          cases hkeys
          exact hread
      rw [honly]
      rcases hv : sec.value json [field] text with fault | v
      · simp [hkeys, hv, Section.value?, Except.toOption]
      · simp [hkeys, hv, ih h.tail, setAt_singleton, Section.value?, Except.toOption]

/-- The fields that are assigned have the names of variables, one for each of them. -/
theorem fieldNames_assigned_sublist (json : Json.Reader) (hsec : sec ∈ sections) (h : sec.Plain vars) :
    ((vars.filterMap (sec.assignment? json)).map fun e => sec.fieldName e.1).Sublist
      (vars.map Prod.fst) := by
  induction vars with
  | nil => exact .slnil
  | cons var rest ih =>
    rw [List.filterMap_cons]
    split
    case h_1 => exact (ih h.tail).cons _
    case h_2 e hvar =>
      have hname := ((assignment?_eq_some_iff hsec h List.mem_cons_self).1 hvar).2.1
      rw [List.map_cons, List.map_cons, hname]
      exact (ih h.tail).cons_cons _

theorem nodup_keys_assigned (json : Json.Reader) (hsec : sec ∈ sections) (h : sec.Plain vars) :
    (keys (vars.filterMap (sec.assignment? json))).Nodup := by
  -- A field that stood twice would have two variables of one name.
  have hnames := h.nodup.sublist (fieldNames_assigned_sublist json hsec h)
  rw [keys, List.Nodup, List.pairwise_map]
  rw [List.Nodup, List.pairwise_map] at hnames
  exact hnames.imp fun hne heq => hne (congrArg sec.fieldName heq)

theorem mem_fields_of_mem_keys_assigned (hsec : sec ∈ sections) (h : sec.Plain vars)
    {key : String} (hkey : key ∈ keys (vars.filterMap (sec.assignment? json))) : key ∈ sec.fields := by
  obtain ⟨e, he, rfl⟩ := List.mem_map.1 hkey
  obtain ⟨var, hvar, hassigned⟩ := List.mem_filterMap.1 he
  exact ((assignment?_eq_some_iff hsec h hvar).1 hassigned).1

/-- Fields that are set are put behind each other. -/
theorem set_eq_append (hsec : sec ∈ sections) (h : sec.Plain vars)
    (hset : sec.set json before vars = .ok found)
    (hkeys : (keys (before ++ vars.filterMap (sec.assignment? json))).Nodup) :
    found = before ++ vars.filterMap (sec.assignment? json) := by
  induction vars generalizing before with
  | nil =>
    cases hset
    simp
  | cons var rest ih =>
    obtain ⟨name, text⟩ := var
    rw [Section.set] at hset
    rcases h.named name List.mem_cons_self with hnone | ⟨field, hfield, rfl⟩
    · have hskip : sec.assignment? json (name, text) = none := by rw [Section.assignment?, hnone]
      rw [List.filterMap_cons_none hskip] at hkeys ⊢
      simp only [hnone] at hset
      exact ih h.tail hset hkeys
    · rcases hv : sec.value json [field] text with fault | v
      · simp only [keysOf_fieldName hsec hfield, hv] at hset
        cases hset
      · have hassign : sec.assignment? json (sec.fieldName field, text) = some (field, v) :=
          (assignment?_eq_some_iff hsec h List.mem_cons_self).2
            ⟨hfield, rfl, value_eq_ok_iff.1 hv⟩
        rw [List.filterMap_cons_some hassign] at hkeys ⊢
        simp only [keysOf_fieldName hsec hfield, hv, setAt_singleton] at hset
        -- The field is new, so inserting it is appending it.
        have hnew : field ∉ before.keys := by
          rw [keys, List.map_append, List.map_cons] at hkeys
          exact fun hmem => (List.nodup_append.1 hkeys).2.2 field hmem field List.mem_cons_self rfl
        rw [insert_of_notMem hnew] at hset
        rw [ih h.tail hset (by simpa using hkeys)]
        simp

/-- A field that is set has the value of its variable. -/
theorem find?_assigned (hsec : sec ∈ sections) (h : sec.Plain vars) {field : String}
    (hfield : field ∈ sec.fields) :
    find? (vars.filterMap (sec.assignment? json)) field =
      (vars.lookup (sec.fieldName field)).bind (sec.value? json field) := by
  refine Option.ext fun v => ?_
  rw [find?, lookup_eq_some_iff (nodup_keys_assigned json hsec h), List.mem_filterMap,
    Option.bind_eq_some_iff]
  constructor
  · rintro ⟨⟨name, text⟩, hvar, hassign⟩
    obtain ⟨-, rfl, hv⟩ := (assignment?_eq_some_iff hsec h hvar).1 hassign
    exact ⟨text, (lookup_eq_some_iff h.nodup).2 hvar, hv⟩
  · rintro ⟨text, htext, hv⟩
    have hvar := (lookup_eq_some_iff h.nodup).1 htext
    exact ⟨_, hvar, (assignment?_eq_some_iff hsec h hvar).2 ⟨hfield, rfl, hv⟩⟩

/-! ### Sections -/

theorem canonicalName_of_mem_fields : ∀ sec ∈ sections, ∀ field ∈ sec.fields,
    canonicalName sec.fields field = field := by
  decide +kernel

/-- Entries with the names of fields keep them. -/
theorem canonical_eq_self (hsec : sec ∈ sections) (hnodup : found.keys.Nodup)
    (hfields : ∀ key ∈ found.keys, key ∈ sec.fields) : canonical sec.fields found = found := by
  have hrenamed : renamed sec.fields found = found := by
    refine (List.map_congr_left fun (key, v) he => ?_).trans (List.map_id _)
    exact congrArg (·, v)
      (canonicalName_of_mem_fields sec hsec key (hfields _ (List.mem_map_of_mem he)))
  rw [canonical, hrenamed, ofList_eq_self hnodup]

/-- A section of which no variable gives the whole is read exactly if its fields can be, and it has
what is assigned to them. -/
theorem read_eq_ok_iff (hsec : sec ∈ sections) (h : sec.Plain vars)
    (hwhole : vars.lookup (common ++ sec.name) = none) {read : Option Value} :
    sec.read json vars = .ok read ↔ sec.Readable json vars ∧
      read = asSection (vars.filterMap (sec.assignment? json)) := by
  rw [Section.read, hwhole]
  rcases hset : sec.set json [] vars with e | found
  · have hnot : ¬sec.Readable json vars := fun hread => by
      have hexists : ∃ found, sec.set json [] vars = .ok found := (exists_set_iff hsec h).2 hread
      obtain ⟨found, hfound⟩ := hexists
      rw [hset] at hfound
      cases hfound
    simp [hnot]
  · have hread : sec.Readable json vars := (exists_set_iff hsec h).1 ⟨found, hset⟩
    have hnodup := nodup_keys_assigned json hsec h
    have hfields : ∀ key ∈ keys (vars.filterMap (sec.assignment? json)), key ∈ sec.fields :=
      fun _ => mem_fields_of_mem_keys_assigned hsec h
    obtain rfl : found = vars.filterMap (sec.assignment? json) := set_eq_append hsec h hset hnodup
    have hcanonical := canonical_eq_self hsec hnodup hfields
    rw [and_iff_right hread]
    generalize vars.filterMap (sec.assignment? json) = found at hcanonical
    cases found with
    | nil => simp [asSection, eq_comm]
    | cons e rest => simp [asSection, hcanonical, eq_comm]

end Fields

/-! ### All sections -/

section Sections

variable {json : Json.Reader} {vars : List (String × String)} {secs : List Section}
  {found : Entries}

/-- The sections that are given stand under their names. -/
theorem keys_of_sectionEntries (h : sectionEntries json vars secs = .ok found) :
    ∀ key ∈ found.keys, key ∈ secs.map Section.name := by
  induction secs generalizing found with
  | nil =>
    cases h
    simp [keys]
  | cons sec rest ih =>
    rw [sectionEntries] at h
    split at h
    case h_1 => cases h
    case h_2 => exact fun key hkey => List.mem_cons_of_mem _ (ih h key hkey)
    case h_3 v hv =>
      rcases hrest : sectionEntries json vars rest with e | others
      · rw [hrest] at h
        cases h
      · rw [hrest] at h
        cases h
        intro key hkey
        rcases List.mem_cons.1 hkey with rfl | hkey
        · exact List.mem_cons_self
        · exact List.mem_cons_of_mem _ (ih hrest key hkey)

theorem read_of_sectionEntries (hnames : (secs.map Section.name).Nodup)
    (h : sectionEntries json vars secs = .ok found) :
    ∀ sec ∈ secs, sec.read json vars = .ok (found.find? sec.name) := by
  induction secs generalizing found with
  | nil => simp
  | cons sec rest ih =>
    obtain ⟨hname, hrest⟩ := List.nodup_cons.1 hnames
    -- An entry for this section is in the way of none of the others.
    have hother : ∀ sec' ∈ rest, (sec'.name == sec.name) = false := fun sec' hsec' => by
      simpa using fun (he : sec'.name = sec.name) => hname (he ▸ List.mem_map_of_mem hsec')
    rw [sectionEntries] at h
    split at h
    case h_1 => cases h
    case h_2 hread =>
      have hnone : found.find? sec.name = none :=
        find?_eq_none_iff.2 fun hkey => hname (keys_of_sectionEntries h _ hkey)
      exact List.forall_mem_cons.2 ⟨by rw [hread, hnone], ih hrest h⟩
    case h_3 v hread =>
      rcases hothers : sectionEntries json vars rest with e | others
      · rw [hothers] at h
        cases h
      · rw [hothers] at h
        cases h
        refine List.forall_mem_cons.2 ⟨by simp [hread, find?], fun sec' hsec' => ?_⟩
        rw [ih hrest hothers sec' hsec', find?, find?, List.lookup_cons, hother sec' hsec']

theorem exists_sectionEntries_iff :
    (∃ found, sectionEntries json vars secs = .ok found) ↔
      ∀ sec ∈ secs, ∃ read, sec.read json vars = .ok read := by
  induction secs with
  | nil => simp [sectionEntries]
  | cons sec rest ih =>
    rw [List.forall_mem_cons, ← ih, sectionEntries]
    rcases sec.read json vars with e | _ | v
    · simp
    · simp
    · rcases sectionEntries json vars rest with e | others <;> simp [Except.map]

end Sections

end Variables

end FailurePrompt
