import FailurePrompt.Text.Lines

/-!
# Paths

A path is a root and the names below it. Reading a path from text drops what says nothing about
the file meant: repeated slashes, single dots and a slash at the end; the name `..` stays, for a
directory may be reached through a link. The main statement is that the text of a path names that
same path again, so the printed form is canonical.
-/

namespace FailurePrompt

/-- Where a path starts. Two leading slashes are kept apart from one, three or more are not. -/
inductive Root
  | relative
  | absolute
  | doubled
  deriving Repr, DecidableEq

/-- The slashes that a root is written with. -/
def Root.text : Root → List Char
  | .relative => []
  | .absolute => ['/']
  | .doubled => ['/', '/']

/-- The root of a path text. -/
def Root.ofChars : List Char → Root
  | '/' :: '/' :: '/' :: _ => .absolute
  | '/' :: '/' :: _ => .doubled
  | '/' :: _ => .absolute
  | _ => .relative

/-- A path in canonical form. -/
structure Path where
  root : Root
  names : List (List Char)
  deriving Repr, DecidableEq

namespace Path

/-- A name that stands in a canonical path: not empty and not a single dot. -/
def isName (name : List Char) : Bool :=
  name ≠ [] && name ≠ ['.']

/-- The path that a text names. -/
def ofChars (cs : List Char) : Path :=
  ⟨Root.ofChars cs, (Text.segments (· == '/') cs).filter isName⟩

/-- The path that a string names. -/
def ofString (s : String) : Path :=
  ofChars s.toList

/-- The canonical text of a path; the empty relative path is written as a dot. -/
def chars (p : Path) : List Char :=
  match p.root, p.names with
  | .relative, [] => ['.']
  | root, names => root.text ++ List.intercalate ['/'] names

/-- The canonical text of a path as a string. -/
def text (p : Path) : String :=
  String.ofList p.chars

/-! ### The canonical text -/

/-- The paths that `ofChars` produces: the names are proper and free of slashes. -/
def Canonical (p : Path) : Prop :=
  ∀ name ∈ p.names, isName name = true ∧ '/' ∉ name

theorem canonical_ofChars (cs : List Char) : (ofChars cs).Canonical := by
  intro name h
  obtain ⟨hs, hn⟩ := List.mem_filter.1 h
  exact ⟨hn, fun hc => by simpa using Text.not_sep_of_mem_segments hs hc⟩

private theorem not_sep_slash {name : List Char} (h : '/' ∉ name) :
    ∀ c ∈ name, (c == '/') = false := fun c hc => by
  simpa using fun (he : c = '/') => h (he ▸ hc)

private theorem filter_segments_intercalate {names : List (List Char)}
    (h : ∀ name ∈ names, isName name = true ∧ '/' ∉ name) :
    (Text.segments (· == '/') (List.intercalate ['/'] names)).filter isName = names := by
  match names with
  | [] => rfl
  | [name] =>
    have hn := h name (by simp)
    simp [List.intercalate, Text.segments_of_not_sep (not_sep_slash hn.2), hn.1]
  | name :: other :: rest =>
    have hn := h name (by simp)
    have htail : ∀ k ∈ other :: rest, isName k = true ∧ '/' ∉ k :=
      fun k hk => h k (List.mem_cons_of_mem _ hk)
    have ih := filter_segments_intercalate htail
    have he : List.intercalate ['/'] (name :: other :: rest) =
        name ++ '/' :: List.intercalate ['/'] (other :: rest) := by
      simp [List.intercalate]
    rw [he, Text.segments_append_sep (not_sep_slash hn.2) (by simp), List.filter_cons,
      if_pos hn.1, ih]

private theorem head_ne_slash {names : List (List Char)}
    (h : ∀ name ∈ names, isName name = true ∧ '/' ∉ name) (hne : names ≠ []) :
    ∃ c cs, List.intercalate ['/'] names = c :: cs ∧ c ≠ '/' := by
  match names with
  | [] => exact absurd rfl hne
  | [] :: _ => exact absurd (h [] (by simp)).1 (by simp [isName])
  | (c :: name) :: rest =>
    have hc : c ≠ '/' := fun hc => (h (c :: name) (by simp)).2 (hc ▸ List.mem_cons_self ..)
    cases rest with
    | nil => exact ⟨c, name, by simp [List.intercalate], hc⟩
    | cons other rest =>
      exact ⟨c, name ++ '/' :: List.intercalate ['/'] (other :: rest),
        by simp [List.intercalate], hc⟩

private theorem root_ofChars_append (root : Root) {c : Char} (hc : c ≠ '/') (cs : List Char) :
    Root.ofChars (root.text ++ c :: cs) = root := by
  cases root
  · exact Root.ofChars.eq_4 _ (by simp [Root.text, hc]) (by simp [Root.text, hc])
      (by simp [Root.text, hc])
  · exact Root.ofChars.eq_3 _ (by simp [hc]) (by simp [hc])
  · exact Root.ofChars.eq_2 _ (by simp [hc])

/-- The text of a canonical path names that path again. -/
theorem ofChars_chars {p : Path} (h : p.Canonical) : ofChars p.chars = p := by
  obtain ⟨root, names⟩ := p
  have hf := filter_segments_intercalate h
  by_cases hn : names = []
  · subst hn
    cases root <;> rfl
  · obtain ⟨c, cs, he, hc⟩ := head_ne_slash h hn
    have hslash : ∀ rest, Text.segments (· == '/') ('/' :: rest) =
        [] :: Text.segments (· == '/') rest := fun rest => Text.segments_cons_sep (by simp) rest
    have hroot := root_ofChars_append root hc cs
    have hchars : chars ⟨root, names⟩ = root.text ++ List.intercalate ['/'] names := by
      cases names with
      | nil => exact absurd rfl hn
      | cons name names => cases root <;> rfl
    rw [hchars, ofChars, he, hroot]
    rw [he] at hf
    cases root <;> simp only [Root.text, List.nil_append, List.cons_append, hslash] <;>
      simp [hf, isName]

end Path

end FailurePrompt
