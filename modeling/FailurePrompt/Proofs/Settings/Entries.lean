import FailurePrompt.Value.Merge

/-!
# Entries and their keys

What insertion and lists of settings do to the keys of entries, and what a list of settings has for
a key. Of two settings for one key the later one decides; where no key stands twice, a list of
settings is the entries themselves (`ofList_eq_self`).
-/

namespace FailurePrompt.Entries

/-! ### Look-up -/

section Lookup

variable {β γ : Type} {entries : List (String × β)} {key : String}

/-- Where no key stands twice, a key has the value that stands beside it. -/
theorem lookup_eq_some_iff (h : (entries.map Prod.fst).Nodup) {b : β} :
    entries.lookup key = some b ↔ (key, b) ∈ entries := by
  induction entries with
  | nil => simp
  | cons e rest ih =>
    obtain ⟨k, b'⟩ := e
    obtain ⟨hk, hrest⟩ := List.nodup_cons.1 h
    by_cases he : key = k
    · subst he
      have hnot : (key, b) ∉ rest := fun hmem => hk (List.mem_map.2 ⟨_, hmem, rfl⟩)
      simp [hnot, eq_comm]
    · have hb : (key == k) = false := by simpa using he
      rw [List.lookup_cons, hb, ih hrest]
      simp [he]

/-- Where no key stands twice, it does not matter from which end a key is looked for. -/
theorem lookup_reverse (h : (entries.map Prod.fst).Nodup) (key : String) :
    entries.reverse.lookup key = entries.lookup key := by
  have hreverse : (entries.reverse.map Prod.fst).Nodup := by
    rw [List.map_reverse]
    exact List.pairwise_reverse.2 (h.imp Ne.symm)
  refine Option.ext fun b => ?_
  rw [lookup_eq_some_iff hreverse, lookup_eq_some_iff h, List.mem_reverse]

/-- A name is found under another if that is the other name of nothing else. -/
theorem lookup_map_of_forall {f : String → String} {g : β → γ} {name : String}
    (h : ∀ e ∈ entries, f e.1 = f name → e.1 = name) :
    (entries.map fun e => (f e.1, g e.2)).lookup (f name) = (entries.lookup name).map g := by
  induction entries with
  | nil => rfl
  | cons e rest ih =>
    obtain ⟨k, v⟩ := e
    have hrest := ih fun e he => h e (List.mem_cons_of_mem _ he)
    rw [List.map_cons, List.lookup_cons, List.lookup_cons, hrest]
    by_cases hk : name = k
    · subst hk
      simp
    · have hf : (f name == f k) = false := by
        simpa using fun he => hk (h (k, v) List.mem_cons_self he.symm).symm
      have hb : (name == k) = false := by simpa using hk
      rw [hf, hb]

end Lookup

variable {entries pairs : List (String × Value)} {key other : String} {v : Value}

/-- A key without a value is none of the keys. -/
theorem find?_eq_none_iff : find? entries key = none ↔ key ∉ keys entries := by
  rw [find?, List.lookup_eq_none_iff, keys, List.mem_map]
  constructor
  · rintro h ⟨e, he, rfl⟩
    simpa using h e he
  · intro h e he
    simpa using fun (hk : key = e.1) => h ⟨e, he, hk.symm⟩

/-- Names that have a value are found with it. -/
theorem find?_filterMap_names {names : List String} (hnames : names.Nodup)
    (value? : String → Option Value) {name : String} (hname : name ∈ names) :
    find? (names.filterMap fun n => (value? n).map (n, ·)) name = value? name := by
  have hkeys : ((names.filterMap fun n => (value? n).map (n, ·)).map Prod.fst).Sublist names := by
    clear hname hnames
    induction names with
    | nil => exact .slnil
    | cons n rest ih =>
      rw [List.filterMap_cons]
      rcases value? n with _ | v
      · exact ih.cons n
      · exact ih.cons_cons n
  refine Option.ext fun v => ?_
  rw [find?, lookup_eq_some_iff (hnames.sublist hkeys), List.mem_filterMap]
  constructor
  · rintro ⟨n, -, hv⟩
    obtain ⟨_, hv, hpair⟩ := Option.map_eq_some_iff.1 hv
    cases hpair
    exact hv
  · intro hv
    exact ⟨name, hname, by rw [hv]; rfl⟩

/-! ### Keys -/

theorem mem_keys_insert :
    other ∈ (insert entries key v).keys ↔ other = key ∨ other ∈ keys entries := by
  induction entries with
  | nil => simp [insert, keys]
  | cons e rest ih =>
    obtain ⟨k, old⟩ := e
    by_cases hk : k = key
    · simp [insert, keys, hk]
    · simp only [keys, List.mem_map] at ih
      simp [insert, keys, hk, ih, or_left_comm]

theorem nodup_keys_insert (h : (keys entries).Nodup) (key : String) (v : Value) :
    (insert entries key v).keys.Nodup := by
  induction entries with
  | nil => simp [insert, keys]
  | cons e rest ih =>
    obtain ⟨k, old⟩ := e
    obtain ⟨hk, hrest⟩ := List.nodup_cons.1 h
    rw [insert]
    split
    case isTrue => exact h
    case isFalse hne =>
      refine List.nodup_cons.2 ⟨fun hmem => ?_, ih hrest⟩
      exact (mem_keys_insert.1 hmem).elim hne hk

/-- A key that is not there is inserted behind the others. -/
theorem insert_of_notMem (h : key ∉ keys entries) (v : Value) :
    insert entries key v = entries ++ [(key, v)] := by
  induction entries with
  | nil => rfl
  | cons e rest ih =>
    obtain ⟨k, old⟩ := e
    have hne : k ≠ key := fun he => h (he ▸ List.mem_cons_self)
    rw [insert, if_neg hne, ih fun hmem => h (List.mem_cons_of_mem _ hmem)]
    rfl

/-! ### Insertions

A list of entries is inserted from its beginning to its end, into entries that may be there already.
A list of settings is inserted into none. -/

theorem find?_singleton (key other : String) (v : Value) :
    find? [(key, v)] other = if other = key then some v else none := by
  by_cases h : other = key
  · simp [find?, h]
  · have hb : (other == key) = false := by simpa using h
    simp [find?, List.lookup_cons, hb, h]

/-- A key that is inserted has its new value, and any other key the one it had. -/
theorem find?_insert (entries : Entries) (key other : String) (v : Value) :
    (entries.insert key v).find? other = (find? [(key, v)] other).or (entries.find? other) := by
  rw [find?_singleton]
  by_cases h : other = key
  · subst h
    simp
  · rw [find?_insert_of_ne _ _ h, if_neg h, Option.none_or]

/-- Of two entries that are inserted for one key the later one decides. -/
theorem find?_foldl_insert (entries : Entries) (pairs : List (String × Value)) (key : String) :
    (pairs.foldl (fun entries e => entries.insert e.1 e.2) entries).find? key =
      (pairs.reverse.lookup key).or (entries.find? key) := by
  induction pairs generalizing entries with
  | nil => rfl
  | cons e rest ih =>
    rw [List.foldl_cons, ih, find?_insert, ← find?, ← find?, List.reverse_cons, find?_append,
      Option.or_assoc]

theorem nodup_keys_foldl_insert (h : (keys entries).Nodup) (pairs : List (String × Value)) :
    (keys (pairs.foldl (fun entries e => entries.insert e.1 e.2) entries)).Nodup := by
  induction pairs generalizing entries with
  | nil => exact h
  | cons e rest ih => exact ih (nodup_keys_insert h _ _)

theorem find?_ofList (pairs : List (String × Value)) (key : String) :
    (ofList pairs).find? key = pairs.reverse.lookup key :=
  (find?_foldl_insert [] pairs key).trans Option.or_none

theorem nodup_keys_ofList (pairs : List (String × Value)) : (ofList pairs).keys.Nodup :=
  nodup_keys_foldl_insert (show (keys []).Nodup from List.nodup_nil) pairs

theorem ofList_concat (pairs : List (String × Value)) (key : String) (v : Value) :
    ofList (pairs ++ [(key, v)]) = insert (ofList pairs) key v := by
  rw [ofList, List.foldl_append]
  rfl

/-- Where no key stands twice, a list of settings is the entries themselves. -/
theorem ofList_eq_self (h : (keys pairs).Nodup) : ofList pairs = pairs := by
  suffices hrev : ∀ rev : List (String × Value), (keys rev).Nodup →
      ofList rev.reverse = rev.reverse by
    have hreverse : (keys pairs.reverse).Nodup := by
      rw [keys, List.map_reverse]
      exact List.pairwise_reverse.2 (h.imp Ne.symm)
    simpa using hrev pairs.reverse hreverse
  intro rev hrev
  induction rev with
  | nil => rfl
  | cons e rest ih =>
    obtain ⟨hk, hrest⟩ := List.nodup_cons.1 hrev
    rw [List.reverse_cons, ofList_concat, ih hrest, insert_of_notMem]
    simpa [keys] using hk

end FailurePrompt.Entries
