/-!
# Dynamic values

Settings come from texts in two data formats and from environment variables, and log records
carry whatever the caller hands over. `Value` is what all of these can hold. The entries of a map
keep the order in which their keys first appeared; `Value.insert` replaces the value of a key
that is there already. The main statements, `find?_insert_self` and `find?_insert_of_ne`, say
how insertion is seen by look-up.
-/

namespace FailurePrompt

/-- A value of a data format. -/
inductive Value
  | null
  | bool (b : Bool)
  | int (n : Int)
  | float (x : Float)
  | text (s : String)
  | list (items : List Value)
  | map (entries : List (String × Value))
  /-- A calendar date or a moment in time, of which only the kind matters here. -/
  | moment

/-- The entries of a map, in the order in which their keys first appeared. -/
abbrev Entries := List (String × Value)

namespace Entries

/-- The value of a key. -/
def find? (entries : Entries) (key : String) : Option Value := entries.lookup key

/-- The entries with a key set to a value. -/
def insert (entries : Entries) (key : String) (value : Value) : Entries :=
  match entries with
  | [] => [(key, value)]
  | (k, v) :: rest => if k = key then (k, value) :: rest else (k, v) :: insert rest key value

/-- The entries of a list of settings, in which a later one replaces an earlier one. -/
def ofList (pairs : List (String × Value)) : Entries :=
  pairs.foldl (fun entries (key, value) => insert entries key value) []

@[simp] theorem find?_insert_self (entries : Entries) (key : String) (value : Value) :
    find? (insert entries key value) key = some value := by
  induction entries with
  | nil => simp [insert, find?]
  | cons e rest ih =>
    obtain ⟨k, v⟩ := e
    by_cases h : k = key
    · simp [insert, find?, h]
    · have hk : (key == k) = false := by simpa using Ne.symm h
      simpa [insert, find?, h, List.lookup_cons, hk] using ih

theorem find?_insert_of_ne (entries : Entries) {key other : String} (value : Value)
    (h : other ≠ key) : find? (insert entries key value) other = find? entries other := by
  have ho : (other == key) = false := by simpa using h
  induction entries with
  | nil => simp [insert, find?, List.lookup_cons, ho]
  | cons e rest ih =>
    obtain ⟨k, v⟩ := e
    by_cases hk : k = key
    · subst hk
      simp [insert, find?, List.lookup_cons, ho]
    · simp only [insert, hk, if_false, find?, List.lookup_cons]
      split
      · rfl
      · exact ih

/-- The first of two lists of entries that has a key decides. -/
theorem find?_append (a b : Entries) (key : String) :
    find? (a ++ b) key = (find? a key).or (find? b key) := by
  induction a with
  | nil => rfl
  | cons e rest ih =>
    obtain ⟨k, v⟩ := e
    simp only [find?, List.cons_append, List.lookup_cons] at ih ⊢
    split
    · rfl
    · exact ih

/-- Leaving out other keys does not change what a key has. -/
theorem find?_filter_of_true {p : String → Bool} {key : String} (h : p key = true)
    (entries : Entries) : find? (entries.filter fun e => p e.1) key = find? entries key := by
  induction entries with
  | nil => rfl
  | cons e rest ih =>
    obtain ⟨k, v⟩ := e
    by_cases hk : key = k
    · subst hk
      simp [find?, h]
    · have hb : (key == k) = false := by simpa using hk
      simp only [find?, List.filter_cons, List.lookup_cons, hb] at ih ⊢
      split
      · rw [List.lookup_cons, hb]
        exact ih
      · exact ih

/-- The entries without those whose key stands in an earlier one. -/
def firsts : List (String × Value) → Entries
  | [] => []
  | (key, v) :: rest => (key, v) :: (firsts rest).filter fun e => e.1 != key

/-- Look-up sees the first entry with a key, so leaving out later ones changes nothing. -/
theorem find?_firsts (entries : Entries) (key : String) :
    find? (firsts entries) key = find? entries key := by
  induction entries with
  | nil => rfl
  | cons e rest ih =>
    obtain ⟨k, v⟩ := e
    by_cases hk : key = k
    · subst hk
      simp [firsts, find?]
    · have hp : (key != k) = true := by simpa using hk
      have hb : (key == k) = false := by simpa using hk
      have hf := find?_filter_of_true (p := fun other => other != k) hp (firsts rest)
      simp only [find?, firsts, List.lookup_cons, hb] at ih hf ⊢
      rw [hf, ih]

/-- No key stands in two of the entries that are left. -/
theorem nodup_keys_firsts (entries : Entries) : ((firsts entries).map Prod.fst).Nodup := by
  induction entries with
  | nil => simp [firsts]
  | cons e rest ih =>
    obtain ⟨k, v⟩ := e
    rw [firsts, List.map_cons, List.nodup_cons]
    refine ⟨?_, ih.sublist (List.filter_sublist.map Prod.fst)⟩
    intro h
    obtain ⟨e, he, hk⟩ := List.mem_map.1 h
    simp [hk] at he

end Entries

/-- The values that settings treat as nothing at all: null, false, zero and anything empty. -/
def Value.isEmpty : Value → Bool
  | .null => true
  | .bool b => !b
  | .int n => n = 0
  | .float x => x == 0.0
  | .text s => s = ""
  | .list items => items.isEmpty
  | .map entries => entries.isEmpty
  | .moment => false

end FailurePrompt
