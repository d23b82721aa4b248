import FailurePrompt.Proofs.Settings.Variables
import FailurePrompt.Settings.Framework

/-!
# What is relied on of a framework

Of the framework that settings are made with little is relied on: coercions read a value that says
what it is as just that, entries are laid over others deeply, and variables for leaves give the
leaves their values and nothing else. `Framework.Lawful` says this, whatever readers of YAML and of
JSON there are. The main statement, `lawful_framework`, is that the framework of this library is
lawful.
-/

namespace FailurePrompt

open Settings

/-! ### Coercions -/

namespace Checked

variable {α : Type}

/-- The check fails and lists the issue. -/
def Reports (a : Checked α) (issue : Issue) : Prop :=
  ∃ issues, a = .error issues ∧ issue ∈ issues

theorem reports_complain (c : Complaint) : (complain c : Checked α).Reports ⟨[], c⟩ :=
  ⟨_, rfl, List.mem_singleton_self _⟩

/-- Maps are not read. -/
def RefusesMaps (read : Value → Checked α) : Prop :=
  ∀ entries a, read (.map entries) ≠ .ok a

end Checked

open Checked

/-- What is relied on of coercions. How they read values that do not say what they are is left open;
a map says nothing. -/
structure Coercions.Lawful (coercions : Coercions) : Prop where
  boolean {v : Value} {b : Bool} (h : SaysBool v b) : coercions.boolean v = .ok b
  string (s : String) : coercions.string (.text s) = .ok s
  path {v : Value} {path : Option Path} (h : SaysPath v path) : coercions.path v = .ok path
  integer (n : Int) : coercions.integer (.int n) = .ok n
  lines {v : Value} {n : Check.ContextLines} (h : SaysLines v n) :
    coercions.integer v = .ok (n.1 : Int)
  stringList (names : List String) : coercions.stringList (.list (names.map .text)) = .ok names
  literal_iff {names : List String} {v : Value} {name : String} :
    coercions.literal names v = .ok name ↔ name ∈ names ∧ v = .text name
  reports_literal {names : List String} {v : Value} (h : ∀ name ∈ names, v ≠ .text name) :
    ∃ complaint, (coercions.literal names v).Reports ⟨[], complaint⟩
  boolean_map : RefusesMaps coercions.boolean
  string_map : RefusesMaps coercions.string
  path_map : RefusesMaps coercions.path
  integer_map : RefusesMaps coercions.integer
  stringList_map : RefusesMaps coercions.stringList

namespace Check

theorem lookup_booleanWords : ∀ b, ∀ word ∈ wordsFor b, booleanWords.lookup word = some b := by
  decide

theorem boolean_of_says {v : Value} {b : Bool} (h : SaysBool v b) : boolean v = .ok b := by
  cases h with
  | bool b => rfl
  | int b => cases b <;> rfl
  | word h => rw [boolean, lookup_booleanWords b _ h]

theorem writtenInteger_repr : ∀ n < 51, (writtenInteger (Nat.repr n)).toOption = some (n : Int) := by
  decide +kernel

theorem integer_of_says {v : Value} {n : ContextLines} (h : SaysLines v n) :
    integer v = .ok (n.1 : Int) := by
  cases h with
  | int n => rfl
  | decimal n =>
    have hread := writtenInteger_repr n.1 (by have hn := n.2; omega)
    rw [integer]
    rcases hwritten : writtenInteger (Nat.repr n.1) with issues | k
    · rw [hwritten] at hread
      cases hread
    · rw [hwritten] at hread
      exact congrArg _ (Option.some.inj hread)

theorem strings_map_text (i : Nat) (names : List String) :
    strings i (names.map .text) = .ok names := by
  induction names generalizing i with
  | nil => rfl
  | cons name rest ih =>
    rw [List.map_cons, strings, ih]
    rfl

theorem literal_eq_ok_iff {names : List String} {v : Value} {name : String} :
    literal names v = .ok name ↔ name ∈ names ∧ v = .text name := by
  cases v with
  | text s =>
    rw [literal]
    by_cases hs : s ∈ names
    · rw [if_pos hs, Except.ok.injEq, Value.text.injEq]
      constructor
      · rintro rfl
        exact ⟨hs, rfl⟩
      · exact fun h => h.2
    · rw [if_neg hs]
      refine iff_of_false (fun h => by cases h) ?_
      rintro ⟨hname, ⟨⟩⟩
      exact hs hname
  | _ => simp [literal, complain]

theorem reports_literal {names : List String} {v : Value} (h : ∀ name ∈ names, v ≠ .text name) :
    ∃ complaint, (literal names v).Reports ⟨[], complaint⟩ := by
  refine ⟨.notAmong names, ?_⟩
  cases v with
  | text s =>
    have hs : s ∉ names := fun hs => h s hs rfl
    rw [literal, if_neg hs]
    exact reports_complain _
  | _ => exact reports_complain _

/-- The coercions of this library are lawful. -/
theorem lawful_coercions : ({} : Coercions).Lawful where
  boolean := boolean_of_says
  string _ := rfl
  path h := by cases h <;> rfl
  integer _ := rfl
  lines := integer_of_says
  stringList names := strings_map_text 0 names
  literal_iff := literal_eq_ok_iff
  reports_literal := reports_literal
  boolean_map _ _ h := by cases h
  string_map _ _ h := by cases h
  path_map _ _ h := by cases h
  integer_map _ _ h := by cases h
  stringList_map _ _ h := by cases h

end Check

/-! ### Merging -/

/-- A value laid over the one that was there before: a map goes into a map, and anything else takes
its place. -/
def Value.laidOver (merge : Entries → Entries → Entries) : Value → Option Value → Value
  | .map above, some (.map below) => .map (merge below above)
  | v, _ => v

/-- Entries are laid over others key by key. -/
def LaysDeeply (merge : Entries → Entries → Entries) : Prop :=
  ∀ (below above : Entries) (key : String), above.keys.Nodup →
    (merge below above).find? key =
      match above.find? key with
      | some v => some (v.laidOver merge (below.find? key))
      | none => below.find? key

theorem Value.laidOver_merge (v : Value) (old : Option Value) :
    v.laidOver Entries.merge old = v.mergeOver old := by
  cases v with
  | map above => rcases old with _ | _ | _ | _ | _ | _ | _ | _ | _ <;> simp [laidOver, mergeOver]
  | _ => simp [laidOver, mergeOver]

theorem Entries.laysDeeply_merge : LaysDeeply Entries.merge := by
  intro below above key h
  rw [Entries.find?_merge h]
  rcases above.find? key with _ | v
  · rfl
  · exact congrArg some (v.laidOver_merge _).symm

/-! ### Variables -/

/-- Explicit values in the shape of settings, with sections in which no key stands twice. -/
structure Settings.Written (values : Entries) : Prop extends Shaped values where
  nodup : ∀ sec ∈ Variables.sections, (values.inner sec.name).keys.Nodup

/-- Beside explicit values that are settings, variables for leaves make entries exactly if they can
be read, and what they make has the value of its variable for each leaf and nothing else. -/
structure ReadsLeaves (json : Json.Reader)
    (read : Environment → Entries → Except SettingsSourceError Entries) : Prop where
  exists_iff {env : Environment} {values : Entries} (h : env.OfLeaves) (hvalues : Written values) :
    (∃ below, read env values = .ok below) ↔ env.Readable json
  shaped {env : Environment} {values below : Entries} (h : env.OfLeaves) (hvalues : Written values)
    (hbelow : read env values = .ok below) : Shaped below
  given {env : Environment} {values below : Entries} (h : env.OfLeaves) (hvalues : Written values)
    (hbelow : read env values = .ok below) {place : Place} (hplace : place ∈ Place.all) :
    place.given below = place.ofEnvironment json env

theorem Variables.readsLeaves_entries (json : Json.Reader) :
    ReadsLeaves json fun env _ => (entries json env).mapError .badVariable where
  exists_iff h _ := by simp only [Check.mapError_eq_ok_iff, exists_entries_iff h]
  shaped h _ hbelow := (entries_of_leaves h (Check.mapError_eq_ok_iff.1 hbelow)).1
  given h _ hbelow place := (entries_of_leaves h (Check.mapError_eq_ok_iff.1 hbelow)).2 place

/-! ### Frameworks -/

/-- What is relied on of a framework. -/
structure Framework.Lawful (framework : Framework) : Prop where
  readVariables : ReadsLeaves framework.json framework.readVariables
  /-- Settings are no instructions. -/
  settingsAmong {values : Entries} (h : Written values) : framework.settingsAmong values = values
  merge : LaysDeeply framework.merge
  coercions : framework.coercions.Lawful

/-- The framework of this library is lawful, whatever reads its YAML and its JSON. -/
theorem lawful_framework (yaml : String → Except Yaml.Error Yaml.Document) (json : Json.Reader) :
    ({ yaml := yaml, json := json } : Framework).Lawful where
  readVariables := Variables.readsLeaves_entries json
  settingsAmong _ := rfl
  merge := Entries.laysDeeply_merge
  coercions := Check.lawful_coercions

end FailurePrompt
