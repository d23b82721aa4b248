import FailurePrompt.Value.Basic

/-!
# Merging values

Settings come from several sources. `Entries.merge` lays one map over another: where both have a
map for a key, these are merged in turn, and otherwise the map on top decides. The main statement,
`find?_merge`, says what the merged map has for each key.
-/

namespace FailurePrompt

mutual

/-- A value laid over the one that was there before. -/
def Value.mergeOver (below : Option Value) : Value → Value
  | .map entries =>
    match below with
    | some (.map old) => .map (Entries.merge old entries)
    | _ => .map entries
  | v => v

/-- A map laid over another. -/
def Entries.merge (below : Entries) : List (String × Value) → Entries
  | [] => below
  | (key, v) :: rest => Entries.merge (below.insert key (v.mergeOver (below.find? key))) rest

end

namespace Entries

/-- The keys of some entries. -/
def keys (entries : Entries) : List String := entries.map Prod.fst

/-- A key that the map on top lacks keeps its value. -/
theorem find?_merge_of_not_mem {below above : Entries} {key : String} (h : key ∉ above.keys) :
    (below.merge above).find? key = below.find? key := by
  induction above generalizing below with
  | nil => rw [merge]
  | cons e rest ih =>
    obtain ⟨k, v⟩ := e
    have hne : key ≠ k := fun he => h (he ▸ List.mem_cons_self ..)
    rw [merge, ih fun hm => h (List.mem_cons_of_mem _ hm), find?_insert_of_ne _ _ hne]

/-- What a merged map has for a key, if no key stands twice in the map on top. -/
theorem find?_merge {below above : Entries} (h : above.keys.Nodup) (key : String) :
    (below.merge above).find? key =
      match above.find? key with
      | some v => some (v.mergeOver (below.find? key))
      | none => below.find? key := by
  induction above generalizing below with
  | nil => rw [merge]; rfl
  | cons e rest ih =>
    obtain ⟨k, v⟩ := e
    obtain ⟨hk, hr⟩ := List.nodup_cons.1 h
    rw [merge]
    by_cases he : key = k
    · subst he
      rw [find?_merge_of_not_mem hk, find?_insert_self]
      simp [find?]
    · have hb : (key == k) = false := by simpa using he
      rw [ih hr, find?_insert_of_ne _ _ he]
      simp [find?, List.lookup_cons, hb]

end Entries

end FailurePrompt
