import FailurePrompt.Proofs.Log.Reconfiguration
import FailurePrompt.Proofs.Settings.Entries
import Mathlib.Data.List.Forall2
import Mathlib.Data.List.Induction

/-!
# The context of records

Four sources write into the fields of a record: the call that says the event, the values that are
bound, what the program says of itself, and the chain of processors that every event runs through.
What the chain sets after the bound values came in cannot be replaced by them; the name of the event
is there before they come in and is not replaced either, unless the call gives none.
`Record.Carries` says this of any fields, and there is one way to do it. Most processors are not the
program's own; what is relied on of them is `Processors.Lawful`, and the fields that leave a chain
of lawful processors are the ones that a record is written with (`exists_leaving`). The main
statement, `run_lastBound`, is that after any session every event that is said at an enabled level
becomes a line whose fields carry it, in the context of the values that were bound last since what
was bound was last forgotten.
-/

namespace FailurePrompt

/-! ### Entries -/

namespace Entries

variable {key : String}

/-- A key that is left out has no value. -/
theorem find?_filter_of_false {p : String → Bool} (h : p key = false) (entries : Entries) :
    find? (entries.filter fun e => p e.1) key = none := by
  rw [find?_eq_none_iff, keys, List.mem_map]
  rintro ⟨e, he, rfl⟩
  rw [(List.mem_filter.1 he).2] at h
  exact Bool.noConfusion h

/-- The entries with a key set to a value, if it has none. -/
def setDefault (entries : Entries) (key : String) (v : Value) : Entries :=
  if (entries.find? key).isSome then entries else entries.insert key v

theorem find?_setDefault (entries : Entries) (key other : String) (v : Value) :
    (entries.setDefault key v).find? other = (entries.find? other).or (find? [(key, v)] other) := by
  rw [setDefault, find?_singleton]
  by_cases hother : other = key
  · subst hother
    rcases h : entries.find? other with _ | old <;> simp [h]
  · rw [if_neg hother, Option.or_none]
    split
    · rfl
    · exact find?_insert_of_ne _ _ hother

/-- What is there stays, and of several defaults for a key the first one decides. -/
theorem find?_foldl_setDefault (entries defaults : Entries) (key : String) :
    (defaults.foldl (fun entries e => entries.setDefault e.1 e.2) entries).find? key =
      (entries.find? key).or (defaults.find? key) := by
  induction defaults generalizing entries with
  | nil => exact Option.or_none.symm
  | cons e rest ih =>
    rw [List.foldl_cons, ih, find?_setDefault, Option.or_assoc, ← find?_append]
    rfl

/-- Each key has the same value in both. -/
def Alike (entries others : Entries) : Prop := ∀ key, entries.find? key = others.find? key

theorem Alike.refl (entries : Entries) : entries.Alike entries := fun _ => rfl

theorem Alike.trans {a b c : Entries} (h : a.Alike b) (h' : b.Alike c) : a.Alike c := fun key =>
  (h key).trans (h' key)

theorem Alike.cons {a b : Entries} (h : a.Alike b) (e : String × Value) :
    Alike (e :: a) (e :: b) := fun key =>
  (find?_append [e] a key).trans ((congrArg _ (h key)).trans (find?_append [e] b key).symm)

theorem alike_insert (entries : Entries) (key : String) (v : Value) :
    (entries.insert key v).Alike ((key, v) :: entries) := fun other =>
  (find?_insert entries key other v).trans (find?_append [(key, v)] entries other).symm

theorem alike_foldl_setDefault (entries defaults : Entries) :
    Alike (defaults.foldl (fun entries e => entries.setDefault e.1 e.2) entries)
      (entries ++ defaults) := fun key => by
  rw [find?_foldl_setDefault, find?_append]

end Entries

namespace Record

variable {fields fields' bound : Entries} {e : Event} {time key : String}
  {threshold : Level} {context : String → Option Value}

/-! ### What fields carry -/

/-- The fields that are set for every event, whatever was bound or passed. -/
def setFields : List String := ["logger", "level", timeField, "service", "version"]

/-- The fields carry an event in a context, which has values for some keys. -/
structure Carries (fields : Entries) (e : Event) (time : String)
    (context : String → Option Value) : Prop where
  logger : fields.find? "logger" = some (.text e.logger)
  level : fields.find? "level" = some (.text e.level.word)
  time : fields.find? timeField = some (.text time)
  service : fields.find? "service" = some (.text serviceName)
  version : fields.find? "version" = some (.text programVersion)
  /-- A name that the event says comes first. -/
  event : fields.find? "event" = e.name?.or ((e.values.find? "event").or (context "event"))
  other : ∀ key ∉ "event" :: setFields, fields.find? key = (e.values.find? key).or (context key)

/-- There is one way to carry an event. -/
theorem Carries.find?_eq (h : Carries fields e time context) (h' : Carries fields' e time context)
    (key : String) : fields.find? key = fields'.find? key := by
  by_cases hkey : key ∈ "event" :: setFields
  · simp only [setFields, List.mem_cons, List.not_mem_nil, or_false] at hkey
    rcases hkey with rfl | rfl | rfl | rfl | rfl | rfl
    · rw [h.event, h'.event]
    · rw [h.logger, h'.logger]
    · rw [h.level, h'.level]
    · rw [h.time, h'.time]
    · rw [h.service, h'.service]
    · rw [h.version, h'.version]
  · rw [h.other key hkey, h'.other key hkey]

/-! ### The fields of a record -/

theorem find?_nameField (r : Record) (key : String) :
    r.nameField.find? key = if key = "event" then r.name else none := by
  rw [nameField]
  rcases r.name with _ | name
  · exact (ite_self none).symm
  · exact Entries.find?_singleton "event" key name

theorem find?_fieldsAt (r : Record) (time key : String) :
    (r.fieldsAt time).find? key =
      (r.nameField.find? key).or
        ((Entries.find? [("logger", .text r.logger), ("level", .text r.level.word)] key).or
          ((r.values.find? key).or (Entries.find? [(timeField, .text time)] key))) := by
  simp only [fieldsAt, fields, Entries.find?_append, Option.or_assoc]

/-- No value stands under a name that the record uses itself, or that asks for something. -/
theorem find?_values_of_mem (h : key ∈ ownFields ++ requests) (bound : Entries) (e : Event) :
    (ofEvent bound e).values.find? key = none :=
  Entries.find?_filter_of_false (p := fun key => !(ownFields ++ requests).contains key)
    (by rw [List.contains_iff_mem.2 h]; rfl) _

theorem find?_values_of_notMem (h : key ∉ ownFields ++ requests) (bound : Entries) (e : Event) :
    (ofEvent bound e).values.find? key = (withService (withBound e.values bound)).find? key :=
  Entries.find?_filter_of_true (p := fun key => !(ownFields ++ requests).contains key)
    (by simpa using h) _

/-- The fields of a record carry its event, if nothing was asked for. -/
theorem carries_fieldsAt (h : ∀ key ∈ requests, (withBound e.values bound).find? key = none)
    (time : String) : Carries ((ofEvent bound e).fieldsAt time) e time bound.find? where
  logger := by rw [find?_fieldsAt, find?_nameField, if_neg (by decide)]; rfl
  level := by rw [find?_fieldsAt, find?_nameField, if_neg (by decide)]; rfl
  time := by
    rw [find?_fieldsAt, find?_nameField, if_neg (by decide), find?_values_of_mem (by decide)]
    rfl
  service := by
    rw [find?_fieldsAt, find?_nameField, if_neg (by decide), find?_values_of_notMem (by decide),
      (find?_withService _).1]
    rfl
  version := by
    rw [find?_fieldsAt, find?_nameField, if_neg (by decide), find?_values_of_notMem (by decide),
      (find?_withService _).2]
    rfl
  event := by
    rw [find?_fieldsAt, find?_nameField, if_pos rfl, find?_values_of_mem (by decide),
      ← find?_withBound]
    exact Option.or_none
  other key hkey := by
    simp only [setFields, List.mem_cons, List.not_mem_nil, or_false, not_or] at hkey
    obtain ⟨hevent, hlogger, hlevel, htime, hservice, hversion⟩ := hkey
    have hown : Entries.find? [("logger", .text (ofEvent bound e).logger),
        ("level", .text (ofEvent bound e).level.word)] key = none :=
      Entries.find?_eq_none_iff.2 (by simp [Entries.keys, hlogger, hlevel])
    have hlast : Entries.find? [(timeField, .text time)] key = none :=
      Entries.find?_eq_none_iff.2 (by simp [Entries.keys, htime])
    have hvalues : (ofEvent bound e).values.find? key =
        (e.values.find? key).or (bound.find? key) := by
      by_cases hrequest : key ∈ requests
      · rw [find?_values_of_mem (List.mem_append_right _ hrequest), ← find?_withBound,
          h key hrequest]
      · exact find?_values_ofEvent (by simp_all [ownFields]) hservice hversion
    rw [find?_fieldsAt, find?_nameField, if_neg hevent, hown, hvalues, hlast, Option.or_none]
    rfl

/-! ### Processors -/

/-- A processor changes the fields of an event or drops it. -/
abbrev Processor := Entries → Option Entries

/-- The processor hands fields on, like others. -/
def Processor.Gives (process : Processor) (fields others : Entries) : Prop :=
  ∃ fields', process fields = some fields' ∧ fields'.Alike others

/-- Bound values come in under the keys that are free. -/
def comeIn (bound : Entries) : Processor := fun fields =>
  some (bound.foldl (fun fields e => fields.setDefault e.1 e.2) fields)

/-- What the program says of itself is put in. -/
def sayService : Processor := fun fields => some (withService fields)

/-- An event below the threshold is dropped. -/
def keepFrom (threshold level : Level) : Processor := fun fields =>
  if threshold.number ≤ level.number then some fields else none

/-- A field is set, in place of any other that is there under its key. -/
def put (key : String) (v : Value) : Processor := fun fields => some (fields.insert key v)

/-- A value that asks for something is taken out. What it asks for is shown beside the fields. -/
def takeOut (key : String) : Processor := fun fields =>
  some (fields.filter fun e => e.1 != key)

/-- The request to show a stack. -/
def stackRequest : String := "stack_info"

/-- The request to show a failure. -/
def failureRequest : String := "exc_info"

/-- The processors that are not the program's own. -/
structure Processors where
  /-- Merges bound values into the fields. -/
  merge : (bound : Entries) → Processor := comeIn
  /-- Looks at the level of an event under a threshold. -/
  select : (threshold level : Level) → Processor := keepFrom
  putLogger : (name : String) → Processor := fun name => put "logger" (.text name)
  putLevel : (level : Level) → Processor := fun level => put "level" (.text level.word)
  putTime : (time : String) → Processor := fun time => put timeField (.text time)
  /-- Answers the request to show a stack. -/
  showStack : Processor := takeOut stackRequest
  /-- Answers the request to show a failure. -/
  showFailure : Processor := takeOut failureRequest
  /-- Makes text of bytes. -/
  decode : Processor := some

/-- What is relied on of processors. What they make of a request is left open, and so is where the
name of the logger comes from if a value says it. -/
structure Processors.Lawful (p : Processors) : Prop where
  /-- A bound value comes in only where the fields have none. -/
  merge (bound fields : Entries) : (p.merge bound).Gives fields (fields ++ bound)
  select (threshold level : Level) (fields : Entries) :
    p.select threshold level fields = keepFrom threshold level fields
  putLogger (name : String) {fields : Entries} (h : fields.find? sourceField = none) :
    (p.putLogger name).Gives fields (("logger", .text name) :: fields)
  putLevel (level : Level) (fields : Entries) :
    (p.putLevel level).Gives fields (("level", .text level.word) :: fields)
  putTime (time : String) (fields : Entries) :
    (p.putTime time).Gives fields ((timeField, .text time) :: fields)
  showStack {fields : Entries} (h : fields.find? stackRequest = none) :
    p.showStack.Gives fields fields
  showFailure {fields : Entries} (h : fields.find? failureRequest = none) :
    p.showFailure.Gives fields fields
  /-- No value of a record is made of bytes. -/
  decode (fields : Entries) : p.decode.Gives fields fields

theorem put_gives (key : String) (v : Value) (fields : Entries) :
    (put key v).Gives fields ((key, v) :: fields) :=
  ⟨_, rfl, fields.alike_insert key v⟩

/-- What nobody asks for is not missed. -/
theorem takeOut_gives (h : fields.find? key = none) : (takeOut key).Gives fields fields := by
  refine ⟨_, rfl, fun other => ?_⟩
  by_cases hother : other = key
  · subst hother
    rw [h]
    exact Entries.find?_filter_of_false (p := fun k => k != other) (bne_self_eq_false other) _
  · exact Entries.find?_filter_of_true (p := fun k => k != key) (bne_iff_ne.2 hother) _

/-- The processors of this library are lawful. -/
theorem lawful_processors : ({} : Processors).Lawful where
  merge bound fields := ⟨_, rfl, fields.alike_foldl_setDefault bound⟩
  select _ _ _ := rfl
  putLogger name fields _ := put_gives "logger" (.text name) fields
  putLevel level := put_gives "level" (.text level.word)
  putTime time := put_gives timeField (.text time)
  showStack := takeOut_gives
  showFailure := takeOut_gives
  decode fields := ⟨fields, rfl, .refl fields⟩

/-! ### The chain -/

/-- The processors in their order. What writes the fields comes after them. -/
def chain (p : Processors) (threshold : Level) (bound : Entries) (e : Event) (time : String) :
    List Processor :=
  [p.merge bound, sayService, p.select threshold e.level, p.putLogger e.logger, p.putLevel e.level,
    p.putTime time, p.showStack, p.showFailure, p.decode]

/-- The fields with which an event enters the chain. -/
def entering (e : Event) : Entries :=
  match e.name? with
  | some name => e.values.insert "event" name
  | none => e.values

/-- The fields with which an event leaves the chain, if it is not dropped. -/
def leaving? (p : Processors) (threshold : Level) (bound : Entries) (e : Event) (time : String) :
    Option Entries :=
  (chain p threshold bound e time).foldlM (fun fields process => process fields) (entering e)

/-- What the chain reads beside the fields that it sets: what is asked for, and where the name of
the logger may come from. -/
def asked : List String := sourceField :: requests

theorem find?_entering (e : Event) (key : String) :
    (entering e).find? key = (if key = "event" then e.name? else none).or (e.values.find? key) := by
  rw [entering]
  rcases e.name? with _ | name
  · rw [ite_self, Option.none_or]
  · rw [Entries.find?_insert, Entries.find?_singleton]

/-- What the program says of itself comes first. -/
theorem alike_withService (values : Entries) :
    (withService values).Alike
      (("version", .text programVersion) :: ("service", .text serviceName) :: values) :=
  (Entries.alike_insert _ _ _).trans ((Entries.alike_insert _ _ _).cons _)

/-- An event below the threshold does not leave the chain. -/
theorem leaving?_eq_none {p : Processors} (hp : p.Lawful) (h : e.level.number < threshold.number)
    (bound : Entries) (time : String) : leaving? p threshold bound e time = none := by
  obtain ⟨merged, hmerge, -⟩ := hp.merge bound (entering e)
  simp [leaving?, chain, hmerge, sayService, hp.select, keepFrom, Nat.not_le.2 h]

/-- The fields that the chain sets, the last one first. -/
def setByChain (e : Event) (time : String) : Entries :=
  [(timeField, .text time), ("level", .text e.level.word), ("logger", .text e.logger),
    ("version", .text programVersion), ("service", .text serviceName)]

theorem keys_setByChain (e : Event) (time : String) : (setByChain e time).keys ⊆ setFields := by
  change [timeField, "level", "logger", "version", "service"] ⊆ setFields
  decide

/-- The chain does not ask for anything itself. -/
theorem find?_asked (fields : Entries)
    (hnone : ∀ key ∈ asked, (withBound e.values bound).find? key = none)
    (hset : fields.keys ⊆ setFields) (hkey : key ∈ asked) :
    Entries.find? (fields ++ (entering e ++ bound)) key = none := by
  have hother : key ≠ "event" ∧ key ∉ setFields := by
    revert key
    decide
  have hfields : fields.find? key = none :=
    Entries.find?_eq_none_iff.2 fun hmem => hother.2 (hset hmem)
  rw [Entries.find?_append, hfields, Entries.find?_append, find?_entering, if_neg hother.1,
    Option.none_or, Option.none_or, ← find?_withBound, hnone key hkey]

/-- What is put in last is seen first, and bound values are seen last. -/
theorem exists_leaving?_alike {p : Processors} (hp : p.Lawful)
    (hlevel : threshold.number ≤ e.level.number)
    (hnone : ∀ key ∈ asked, (withBound e.values bound).find? key = none) (time : String) :
    ∃ fields, leaving? p threshold bound e time = some fields ∧
      fields.Alike (setByChain e time ++ (entering e ++ bound)) := by
  obtain ⟨merged, hmerge, hmerged⟩ := hp.merge bound (entering e)
  have hserved := (alike_withService merged).trans ((hmerged.cons _).cons _)
  obtain ⟨named, hname, hnamed⟩ := hp.putLogger e.logger
    ((hserved sourceField).trans (find?_asked [_, _] hnone (by decide) (by decide)))
  obtain ⟨levelled, hlevelled, hword⟩ := hp.putLevel e.level named
  obtain ⟨timed, htime, htimed⟩ := hp.putTime time levelled
  have hset : timed.Alike (setByChain e time ++ (entering e ++ bound)) :=
    htimed.trans ((hword.trans ((hnamed.trans (hserved.cons _)).cons _)).cons _)
  have hasked : ∀ key ∈ asked, timed.find? key = none := fun key hkey =>
    (hset key).trans (find?_asked _ hnone (keys_setByChain e time) hkey)
  obtain ⟨stacked, hstack, hstacked⟩ := hp.showStack (hasked stackRequest (by decide))
  obtain ⟨failed, hfailure, hfailed⟩ := hp.showFailure
    ((hstacked failureRequest).trans (hasked failureRequest (by decide)))
  obtain ⟨fields, hdecode, hfields⟩ := hp.decode failed
  refine ⟨fields, ?_, hfields.trans (hfailed.trans (hstacked.trans hset))⟩
  simp [leaving?, chain, hmerge, sayService, hp.select, keepFrom, hlevel, hname, hlevelled, htime,
    hstack, hfailure, hdecode]

/-- The fields that leave the chain carry the event, if nothing was asked for. -/
theorem exists_leaving?_carries {p : Processors} (hp : p.Lawful)
    (hlevel : threshold.number ≤ e.level.number)
    (hnone : ∀ key ∈ asked, (withBound e.values bound).find? key = none) (time : String) :
    ∃ fields, leaving? p threshold bound e time = some fields ∧
      Carries fields e time bound.find? := by
  obtain ⟨fields, hleaving, hfields⟩ := exists_leaving?_alike hp hlevel hnone time
  refine ⟨fields, hleaving, ?_⟩
  exact
    { logger := by rw [hfields]; rfl
      level := by rw [hfields]; rfl
      time := by rw [hfields]; rfl
      service := by rw [hfields]; rfl
      version := by rw [hfields]; rfl
      event := by
        rw [hfields, Entries.find?_append, Entries.find?_append, find?_entering, if_pos rfl,
          Option.or_assoc]
        rfl
      other := fun key hkey => by
        have hset : (setByChain e time).find? key = none :=
          Entries.find?_eq_none_iff.2 fun hmem =>
            hkey (List.mem_cons_of_mem _ (keys_setByChain e time hmem))
        have hevent : key ≠ "event" := fun hevent => hkey (hevent ▸ List.mem_cons_self)
        rw [hfields, Entries.find?_append, hset, Entries.find?_append, find?_entering,
          if_neg hevent, Option.none_or, Option.none_or] }

/-- The fields that leave the chain are those that the record is written with, whatever the
processors are. -/
theorem exists_leaving {p : Processors} (hp : p.Lawful) (hlevel : threshold.number ≤ e.level.number)
    (hnone : ∀ key ∈ asked, (withBound e.values bound).find? key = none) (time : String) :
    ∃ fields ∈ leaving? p threshold bound e time,
      ∀ key, fields.find? key = ((ofEvent bound e).fieldsAt time).find? key := by
  obtain ⟨fields, hleaving, hcarries⟩ := exists_leaving?_carries hp hlevel hnone time
  have hrequests : ∀ key ∈ requests, (withBound e.values bound).find? key = none :=
    fun key hkey => hnone key (List.mem_cons_of_mem _ hkey)
  exact ⟨fields, hleaving, hcarries.find?_eq (carries_fieldsAt hrequests time)⟩

/-! ### Keys -/

theorem nodup_keys_withBound (hpassed : e.values.keys.Nodup) (hbound : bound.keys.Nodup) :
    (withBound e.values bound).keys.Nodup := by
  rw [withBound, Entries.keys, List.map_append]
  refine List.nodup_append.2 ⟨hpassed, hbound.sublist (List.filter_sublist.map _), ?_⟩
  rintro key hkey _ hother rfl
  obtain ⟨e', he', rfl⟩ := List.mem_map.1 hother
  exact Entries.find?_eq_none_iff.1 (Option.isNone_iff_eq_none.1 (List.mem_filter.1 he').2) hkey

/-- No key stands twice in a record, if none was passed twice and none is bound twice. -/
theorem nodup_keys_fieldsAt (hpassed : e.values.keys.Nodup) (hbound : bound.keys.Nodup)
    (time : String) : ((ofEvent bound e).fieldsAt time).keys.Nodup := by
  have hvalues : (ofEvent bound e).values.keys.Nodup := by
    refine List.Nodup.sublist (List.filter_sublist.map _)
      (Entries.nodup_keys_insert (Entries.nodup_keys_insert ?_ _ _) _ _)
    exact nodup_keys_withBound hpassed hbound
  have hown : ∀ key ∈ ownFields, key ∉ (ofEvent bound e).values.keys := fun key hkey =>
    Entries.find?_eq_none_iff.1 (find?_values_of_mem (List.mem_append_left _ hkey) bound e)
  have hall : (["event"] ++ (["logger", "level"] ++
      ((ofEvent bound e).values.keys ++ [timeField]))).Nodup := by
    simp only [ownFields, List.forall_mem_cons] at hown
    obtain ⟨hevent, hlogger, hlevel, htime, -⟩ := hown
    have hvalue : ∀ key ∈ (ofEvent bound e).values.keys, timeField ≠ key :=
      fun _ hkey htimeField => htime (htimeField ▸ hkey)
    have hnot : timeField ∉ ["event", "logger", "level"] := by decide
    simp_all [List.nodup_append, eq_comm]
  have hname : (ofEvent bound e).nameField.keys.Sublist ["event"] := by
    rw [nameField]
    rcases (ofEvent bound e).name with _ | name
    · exact List.nil_sublist _
    · exact List.Sublist.refl _
  refine hall.sublist ?_
  simp only [fieldsAt, fields, Entries.keys, List.map_append, List.append_assoc]
  exact hname.append (List.Sublist.refl _)

/-! ### What is interpreted -/

/-- The value of a key is interpreted and not only shown: it asks for something, or has a place of
its own below a line. Keys that begin with an underscore belong to the log. -/
def IsInterpreted (key : String) : Prop :=
  key ∈ requests ++ [stackField, failureField] ∨ key.toList.head? = some '_'

instance (key : String) : Decidable (IsInterpreted key) := inferInstanceAs (Decidable (_ ∨ _))

theorem isInterpreted_of_mem_faultFields (h : key ∈ faultFields) : IsInterpreted key := by
  revert key
  decide

theorem isInterpreted_of_mem_asked (h : key ∈ asked) : IsInterpreted key := by
  revert key
  decide

end Record

/-! ### What a session has bound -/

namespace LogStep

/-- The values that a step binds. -/
def bindings : LogStep → Entries
  | .bind values => values
  | _ => []

/-- A step forgets all that is bound. -/
def isClear : LogStep → Bool
  | .clear => true
  | _ => false

end LogStep

/-- The value that was bound to a key last, since all that was bound was last forgotten. -/
def lastBound? (steps : List LogStep) (key : String) : Option Value :=
  (steps.reverse.takeWhile fun step => !step.isClear).findSome? fun step =>
    step.bindings.reverse.lookup key

theorem lastBound?_concat (steps : List LogStep) (step : LogStep) (key : String) :
    lastBound? (steps ++ [step]) key =
      if step.isClear then none
      else (step.bindings.reverse.lookup key).or (lastBound? steps key) := by
  rw [lastBound?, List.reverse_append, List.reverse_singleton, List.singleton_append,
    List.takeWhile_cons]
  cases step.isClear with
  | true => rfl
  | false =>
    rw [if_pos Bool.not_false, List.findSome?_cons]
    rcases step.bindings.reverse.lookup key with _ | v <;> rfl

namespace LogState

variable {s : LogState} {step : LogStep} {level : Level} {format : LogFormat}

theorem bound_step (s : LogState) (step : LogStep) :
    (s.step step).1.bound =
      if step.isClear then []
      else step.bindings.foldl (fun (bound : Entries) e => bound.insert e.1 e.2) s.bound := by
  cases step with
  | configure levelName formatName =>
    rw [step_configure]
    rcases named levelName formatName with error | ⟨level, format⟩ <;> rfl
  | speak events => exact (s.say_fst events).2
  | _ => rfl

theorem run_concat (s : LogState) (steps : List LogStep) (step : LogStep) :
    (s.run (steps ++ [step])).1 = ((s.run steps).1.step step).1 := by
  rw [run_append]
  rfl

/-- What is bound after a session is what it has bound last. -/
theorem find?_bound_run (steps : List LogStep) (key : String) :
    (({} : LogState).run steps).1.bound.find? key = lastBound? steps key := by
  induction steps using List.reverseRecOn with
  | nil => rfl
  | append_singleton steps step ih =>
    rw [run_concat, bound_step, lastBound?_concat, ← ih]
    split
    · rfl
    · exact Entries.find?_foldl_insert _ _ _

theorem nodup_keys_bound_run (steps : List LogStep) :
    (({} : LogState).run steps).1.bound.keys.Nodup := by
  induction steps using List.reverseRecOn with
  | nil => exact List.nodup_nil
  | append_singleton steps step ih =>
    rw [run_concat, bound_step]
    split
    · exact List.nodup_nil
    · exact Entries.nodup_keys_foldl_insert ih _

/-! ### What is written -/

theorem filterMap_record (h : s.configured = some (level, format)) (events : List Event) :
    events.filterMap s.record =
      (events.filter fun e => level.number ≤ e.level.number).map (Record.ofEvent s.bound) := by
  induction events with
  | nil => rfl
  | cons e rest ih =>
    have hrecord : s.record e =
        if level.number ≤ e.level.number then some (Record.ofEvent s.bound e) else none := by
      rw [record, h]
    by_cases hlevel : level.number ≤ e.level.number <;> simp [hrecord, hlevel, ih]

/-- The events of a step become lines, each that is not dropped with its record. -/
theorem exists_step_eq_written_map (h : s.configured = some (level, format))
    (hevents : step.events ≠ []) :
    ∃ lines, (s.step step).2 = written lines ∧
      (∀ e, step = .log e → ∀ line ∈ lines, line.1 = format) ∧
      lines.map Prod.snd =
        (step.events.filter fun e => level.number ≤ e.level.number).map
          (Record.ofEvent s.bound) := by
  cases step with
  | log e =>
    refine ⟨(s.line e).toList, becoming_of_configured h _ _, ?_, ?_⟩
    · rw [line_of_configured h]
      split <;> simp
    · rw [line_of_configured h]
      by_cases hlevel : level.number ≤ e.level.number <;> simp [LogStep.events, hlevel]
  | speak events =>
    refine ⟨(s.say events).2, becoming_of_configured h _ _, fun _ hlog => LogStep.noConfusion hlog, ?_⟩
    rw [s.map_snd_say, filterMap_record h]
    rfl
  | _ => exact absurd rfl hevents

theorem forall₂_of_map_eq {lines : List Line} {events : List Event} {bound : Entries}
    (h : lines.map Prod.snd = events.map (Record.ofEvent bound)) :
    List.Forall₂ (fun e line => e ∈ events ∧ Record.ofEvent bound e = line.2) events lines := by
  refine (List.forall₂_and_left _ _).2 ⟨fun e he => he, ?_⟩
  refine List.forall₂_map_right_iff.1 (List.forall₂_map_left_iff.1 ?_)
  rw [List.forall₂_eq_eq_eq]
  exact h.symm

/-- Lines of plain events are written. -/
theorem written_of_plain {lines : List Line} {bound : Entries} {events : List Event}
    (hlines : lines.map Prod.snd = events.map (Record.ofEvent bound))
    (hplain : ∀ e ∈ events, Record.Plain bound e) : written lines = .wrote lines := by
  have hnone : firstFault? lines = none := by
    refine List.findSome?_eq_none_iff.2 fun line hline => ?_
    have hmem : line.2 ∈ events.map (Record.ofEvent bound) := hlines ▸ List.mem_map_of_mem hline
    obtain ⟨e, he, hrecord⟩ := List.mem_map.1 hmem
    change line.2.fault? line.1 = none
    rw [← hrecord]
    exact Record.fault?_ofEvent_of_plain (hplain e he) line.1
  rw [written, hnone]

/-- A line shows an event above a threshold, in the context of the steps before it. -/
structure Shows (before : List LogStep) (threshold : Level) (e : Event) (line : Line) : Prop where
  /-- A line of JSON is the map of the fields. -/
  text : line.1 = .json → ∀ time,
    line.2.text line.1 time = Json.write (.map (line.2.fieldsAt time)) ++ line.2.failureText
  carries : ∀ time, Record.Carries (line.2.fieldsAt time) e time (lastBound? before)
  /-- The fields of the line are those with which its event leaves the chain, whatever lawful
  processors it is made of. -/
  leaving : ∀ p : Record.Processors, p.Lawful → ∀ time,
    ∃ fields ∈ Record.leaving? p threshold (({} : LogState).run before).1.bound e time,
      ∀ key, fields.find? key = (line.2.fieldsAt time).find? key
  nodup : e.values.keys.Nodup → ∀ time, (line.2.fieldsAt time).keys.Nodup

theorem find?_withBound_of_isInterpreted {before : List LogStep} {e : Event} {key : String}
    (hpassed : ∀ key ∈ e.values.keys, ¬Record.IsInterpreted key)
    (hbound : ∀ key, Record.IsInterpreted key → lastBound? before key = none)
    (hkey : Record.IsInterpreted key) :
    (Record.withBound e.values (({} : LogState).run before).1.bound).find? key = none := by
  have hvalue : e.values.find? key = none :=
    Entries.find?_eq_none_iff.2 fun hmem => hpassed key hmem hkey
  rw [Record.find?_withBound, hvalue, find?_bound_run, hbound key hkey]
  rfl

/-- The record of an event shows it in every format, if nothing in it is interpreted. -/
theorem shows_ofEvent {before : List LogStep} {threshold : Level} {e : Event}
    (hlevel : threshold.number ≤ e.level.number)
    (hnone : ∀ key, Record.IsInterpreted key →
      (Record.withBound e.values (({} : LogState).run before).1.bound).find? key = none)
    (format : LogFormat) :
    Shows before threshold e (format, Record.ofEvent (({} : LogState).run before).1.bound e) := by
  have hasked : ∀ key ∈ Record.asked,
      (Record.withBound e.values (({} : LogState).run before).1.bound).find? key = none :=
    fun key hkey => hnone key (Record.isInterpreted_of_mem_asked hkey)
  have hrequests : ∀ key ∈ Record.requests,
      (Record.withBound e.values (({} : LogState).run before).1.bound).find? key = none :=
    fun key hkey => hasked key (List.mem_cons_of_mem _ hkey)
  have hcontext : (({} : LogState).run before).1.bound.find? = lastBound? before :=
    funext (find?_bound_run before)
  exact
    { text := fun hjson time => by rw [show format = .json from hjson]; rfl
      carries := fun time => hcontext ▸ Record.carries_fieldsAt hrequests time
      leaving := fun _ hp => Record.exists_leaving hp hlevel hasked
      nodup := fun hpassed => Record.nodup_keys_fieldsAt hpassed (nodup_keys_bound_run before) }

/-- After any session, the events of a step that reach the threshold become lines, one each and in
their order, and the fields of a line carry its event in the context of what was bound last, if
nothing that is passed or bound is interpreted. -/
theorem run_lastBound (before : List LogStep) (step : LogStep) {level : Level} {format : LogFormat}
    (hset : lastSet? before = some (level, format)) (hevents : step.events ≠ [])
    (hpassed : ∀ e ∈ step.events, ∀ key ∈ e.values.keys, ¬Record.IsInterpreted key)
    (hbound : ∀ key, Record.IsInterpreted key → lastBound? before key = none) :
    ∃ lines, ((({} : LogState).run before).1.step step).2 = .wrote lines ∧
      (∀ e, step = .log e → ∀ line ∈ lines, line.1 = format) ∧
      List.Forall₂ (Shows before level)
        (step.events.filter fun e => level.number ≤ e.level.number) lines := by
  have hconfigured : (({} : LogState).run before).1.configured = some (level, format) := by
    rw [configured_run, hset, Option.some_or]
  have hnone : ∀ e ∈ step.events, ∀ key, Record.IsInterpreted key →
      (Record.withBound e.values (({} : LogState).run before).1.bound).find? key = none :=
    fun e he _ => find?_withBound_of_isInterpreted (hpassed e he) hbound
  obtain ⟨lines, hstep, hformat, hlines⟩ := exists_step_eq_written_map hconfigured hevents
  refine ⟨lines, ?_, hformat, ?_⟩
  · rw [hstep]
    refine written_of_plain hlines fun e he key hkey => ?_
    exact hnone e (List.mem_filter.1 he).1 key (Record.isInterpreted_of_mem_faultFields hkey)
  · refine (forall₂_of_map_eq hlines).imp ?_
    rintro e ⟨lineFormat, _⟩ ⟨hmem, rfl⟩
    obtain ⟨he, hlevel⟩ := List.mem_filter.1 hmem
    exact shows_ofEvent (of_decide_eq_true hlevel) (hnone e he) lineFormat

/-- Values that were bound and forgotten, bound again and replaced, bound or passed under names that
the record sets itself, and passed in place of bound ones. -/
theorem run_lastBound_shadowed :
    let before : List LogStep := [.configure "info" "json",
      .bind [("title", .text "old"), ("run", .text "1")], .clear,
      .bind [("title", .text "bound"), ("level", .text "fatal"), ("event", .text "bound")],
      .configure "loud" "json", .bind [("part", .text "a")], .bind [("part", .text "b")]]
    let e : Event := { logger := "app", level := .warning, name := .text "saved"
                       values := [("title", .text "passed"), ("version", .text "9")] }
    lastSet? before = some (.info, .json) ∧
      (∀ key ∈ e.values.keys, ¬Record.IsInterpreted key) ∧
      (∀ key, Record.IsInterpreted key → lastBound? before key = none) ∧
      ∃ lines, ((({} : LogState).run before).1.step (.log e)).2 = .wrote lines ∧
        (∀ line ∈ lines, line.1 = .json) ∧
        List.Forall₂ (Shows before .info) [e] lines := by
  intro before e
  have hset : lastSet? before = some (.info, .json) := by decide +kernel
  have hpassed : ∀ key ∈ e.values.keys, ¬Record.IsInterpreted key := by decide
  have hbound : ∀ key, Record.IsInterpreted key → lastBound? before key = none := by
    intro key hkey
    have hkeys : ∀ step ∈ before.reverse.takeWhile fun step => !step.isClear,
        ∀ key ∈ Entries.keys step.bindings.reverse, ¬Record.IsInterpreted key := by decide
    refine List.findSome?_eq_none_iff.2 fun step hstep => Entries.find?_eq_none_iff.2 fun hmem => ?_
    exact hkeys step hstep key hmem hkey
  obtain ⟨lines, hwrote, hformat, hshows⟩ := run_lastBound before (.log e) hset
    (List.cons_ne_nil _ _) (List.forall_mem_singleton.2 hpassed) hbound
  exact ⟨hset, hpassed, hbound, lines, hwrote, hformat e rfl, hshows⟩

/-- An event that says no name is named by a value that is bound; where nothing is bound, it stays
without a name. -/
theorem run_nameless_bound :
    let before : List LogStep := [.configure "info" "json"]
    let bind : LogStep := .bind [("event", .text "bound")]
    let e : Event := { logger := "app", level := .info, name := .null }
    Event.said "info" "app" .null [] = .ok e ∧
      (∃ r, ((({} : LogState).run (before ++ [bind])).1.step (.log e)).2 = .wrote [(.json, r)] ∧
        ∀ time, (r.fieldsAt time).find? "event" = some (.text "bound")) ∧
      ∃ r, ((({} : LogState).run before).1.step (.log e)).2 = .wrote [(.json, r)] ∧
        ∀ time, (r.fieldsAt time).find? "event" = none :=
  ⟨rfl, ⟨_, rfl, fun _ => rfl⟩, _, rfl, fun _ => rfl⟩

end LogState

end FailurePrompt
