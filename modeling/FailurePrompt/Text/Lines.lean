/-!
# Lines and segments

Texts are cut at separator characters: stack texts and source files at line feeds, paths at
slashes. `segments` cuts and `intercalate` of core joins again. The main statements say that the
cut loses nothing (`joinLines_lines`), that no segment holds a separator, and that cutting
a joined list of separator-free pieces gives the pieces back, so each text has one list of lines.
-/

namespace FailurePrompt.Text

/-- One step of cutting from the right: a separator opens a new segment, any other character
joins the first one. -/
def pushSegment (sep : Char → Bool) (c : Char) : List (List Char) → List (List Char)
  | [] => if sep c then [[], []] else [[c]]
  | s :: rest => if sep c then [] :: s :: rest else (c :: s) :: rest

/-- The pieces of a text between separator characters; a text without one is a single piece, and
so is the empty text. -/
def segments (sep : Char → Bool) (cs : List Char) : List (List Char) :=
  cs.foldr (pushSegment sep) [[]]

@[simp] theorem segments_nil (sep : Char → Bool) : segments sep [] = [[]] := rfl

theorem segments_cons (sep : Char → Bool) (c : Char) (cs : List Char) :
    segments sep (c :: cs) = pushSegment sep c (segments sep cs) := rfl

theorem segments_ne_nil (sep : Char → Bool) (cs : List Char) : segments sep cs ≠ [] := by
  cases cs with
  | nil => simp
  | cons c cs =>
    rw [segments_cons]
    cases segments sep cs <;> simp only [pushSegment] <;> split <;> simp

/-- A separator ends the first segment. -/
theorem segments_cons_sep {sep : Char → Bool} {c : Char} (h : sep c = true) (cs : List Char) :
    segments sep (c :: cs) = [] :: segments sep cs := by
  rw [segments_cons]
  cases hs : segments sep cs with
  | nil => exact absurd hs (segments_ne_nil sep cs)
  | cons s rest => simp [pushSegment, h]

/-- Any other character lengthens the first segment. -/
theorem segments_cons_of_not_sep {sep : Char → Bool} {c : Char} (h : sep c = false)
    (cs : List Char) :
    ∃ s rest, segments sep cs = s :: rest ∧ segments sep (c :: cs) = (c :: s) :: rest := by
  cases hs : segments sep cs with
  | nil => exact absurd hs (segments_ne_nil sep cs)
  | cons s rest => exact ⟨s, rest, rfl, by rw [segments_cons, hs]; simp [pushSegment, h]⟩

/-- No segment holds a separator. -/
theorem not_sep_of_mem_segments {sep : Char → Bool} {cs s : List Char} {c : Char}
    (hs : s ∈ segments sep cs) (hc : c ∈ s) : sep c = false := by
  induction cs generalizing s with
  | nil => simp_all
  | cons d cs ih =>
    cases hd : sep d with
    | true =>
      rw [segments_cons_sep hd] at hs
      rcases List.mem_cons.1 hs with rfl | hs
      · simp at hc
      · exact ih hs hc
    | false =>
      obtain ⟨t, rest, ht, he⟩ := segments_cons_of_not_sep hd cs
      rw [he] at hs
      rcases List.mem_cons.1 hs with rfl | hs
      · rcases List.mem_cons.1 hc with rfl | hc
        · exact hd
        · exact ih (ht ▸ List.mem_cons_self ..) hc
      · exact ih (ht ▸ List.mem_cons_of_mem _ hs) hc

/-- A text without separators is a single segment. -/
theorem segments_of_not_sep {sep : Char → Bool} {cs : List Char} (h : ∀ c ∈ cs, sep c = false) :
    segments sep cs = [cs] := by
  induction cs with
  | nil => rfl
  | cons c cs ih =>
    rw [segments_cons, ih fun d hd => h d (List.mem_cons_of_mem _ hd)]
    simp [pushSegment, h c (List.mem_cons_self ..)]

/-- A separator parts the segments in front of it from the ones behind it. -/
theorem segments_append_cons {sep : Char → Bool} {c : Char} (hc : sep c = true)
    (cs ds : List Char) : segments sep (cs ++ c :: ds) = segments sep cs ++ segments sep ds := by
  induction cs with
  | nil => exact segments_cons_sep hc ds
  | cons d cs ih =>
    obtain ⟨s, rest, hs⟩ := List.exists_cons_of_ne_nil (segments_ne_nil sep cs)
    rw [List.cons_append, segments_cons, segments_cons, ih, hs]
    simp only [pushSegment, List.cons_append]
    split <;> rfl

/-- The first separator ends the first segment. -/
theorem segments_append_sep {sep : Char → Bool} {s : List Char} {c : Char}
    (hs : ∀ d ∈ s, sep d = false) (hc : sep c = true) (cs : List Char) :
    segments sep (s ++ c :: cs) = s :: segments sep cs := by
  rw [segments_append_cons hc, segments_of_not_sep hs, List.singleton_append]

/-! ### Lines -/

/-- The lines of a text: its pieces between line feeds. -/
def lines (cs : List Char) : List (List Char) :=
  segments (· == '\n') cs

/-- Lines joined by line feeds. -/
def joinLines (ls : List (List Char)) : List Char :=
  List.intercalate ['\n'] ls

theorem joinLines_singleton (l : List Char) : joinLines [l] = l := by
  simp [joinLines, List.intercalate]

/-- A line in front of others ends with a line feed. -/
theorem joinLines_cons (l : List Char) {ls : List (List Char)} (h : ls ≠ []) :
    joinLines (l :: ls) = l ++ '\n' :: joinLines ls := by
  simp [joinLines, List.intercalate_cons_of_ne_nil h]

/-- Every line but the first begins behind a line feed. -/
theorem joinLines_cons_eq_flatMap (l : List Char) (ls : List (List Char)) :
    joinLines (l :: ls) = l ++ ls.flatMap ('\n' :: ·) := by
  induction ls generalizing l with
  | nil => rw [joinLines_singleton, List.flatMap_nil, List.append_nil]
  | cons next ls ih => rw [joinLines_cons l (by simp), ih, List.flatMap_cons, List.cons_append]

/-- Lines behind others begin behind line feeds. -/
theorem joinLines_append_right {ls : List (List Char)} (h : ls ≠ []) (ls' : List (List Char)) :
    joinLines (ls ++ ls') = joinLines ls ++ ls'.flatMap ('\n' :: ·) := by
  obtain ⟨l, ls, rfl⟩ := List.exists_cons_of_ne_nil h
  rw [List.cons_append, joinLines_cons_eq_flatMap, joinLines_cons_eq_flatMap, List.flatMap_append,
    List.append_assoc]

/-- Lines in front of others end with line feeds. -/
theorem joinLines_append_left (ls : List (List Char)) {ls' : List (List Char)} (h : ls' ≠ []) :
    joinLines (ls ++ ls') = ls.flatMap (· ++ ['\n']) ++ joinLines ls' := by
  induction ls with
  | nil => rfl
  | cons l ls ih =>
    have hne : ls ++ ls' ≠ [] := List.append_ne_nil_of_right_ne_nil ls h
    rw [List.cons_append, joinLines_cons l hne, ih, List.flatMap_cons, List.append_assoc,
      List.append_assoc, List.singleton_append]

/-- A joined text holds line feeds and what its lines hold. -/
theorem eq_or_mem_of_mem_joinLines {ls : List (List Char)} {c : Char} (h : c ∈ joinLines ls) :
    c = '\n' ∨ ∃ l ∈ ls, c ∈ l := by
  rcases ls with _ | ⟨l, ls⟩
  · simp [joinLines] at h
  · rw [joinLines_cons_eq_flatMap, List.mem_append, List.mem_flatMap] at h
    rcases h with h | ⟨l', hl', h⟩
    · exact .inr ⟨l, List.mem_cons_self .., h⟩
    · exact (List.mem_cons.1 h).imp_right fun h => ⟨l', List.mem_cons_of_mem _ hl', h⟩

/-- Cutting into lines loses nothing. -/
theorem joinLines_lines (cs : List Char) : joinLines (lines cs) = cs := by
  induction cs with
  | nil => rfl
  | cons c cs ih =>
    by_cases h : c = '\n'
    · subst h
      rw [lines, segments_cons_sep (by simp), joinLines_cons _ (segments_ne_nil _ _)]
      exact congrArg ('\n' :: ·) ih
    · have hsep : (c == '\n') = false := by simpa using h
      obtain ⟨s, rest, hs, he⟩ := @segments_cons_of_not_sep (· == '\n') c hsep cs
      rw [lines, he, joinLines_cons_eq_flatMap, List.cons_append, ← joinLines_cons_eq_flatMap, ← hs]
      exact congrArg _ ih

/-- Lines without line feeds that stand before a text stay lines of their own. -/
theorem lines_joinLines_append {ls : List (List Char)} (h : ∀ l ∈ ls, '\n' ∉ l)
    (cs : List Char) : lines (joinLines (ls ++ [cs])) = ls ++ lines cs := by
  induction ls with
  | nil => simp [joinLines]
  | cons l ls ih =>
    obtain ⟨hl, hls⟩ := List.forall_mem_cons.1 h
    have hsep : ∀ c ∈ l, (c == '\n') = false := fun c hc => by
      simpa using fun (he : c = '\n') => hl (he ▸ hc)
    rw [List.cons_append, joinLines_cons l (by simp), lines,
      segments_append_sep hsep (by simp)]
    exact congrArg _ (ih hls)

/-- Lines without line feeds are read back from their joined text. -/
theorem lines_joinLines {ls : List (List Char)} (hne : ls ≠ []) (h : ∀ l ∈ ls, '\n' ∉ l) :
    lines (joinLines ls) = ls := by
  obtain ⟨front, last, rfl⟩ : ∃ front last, ls = front ++ [last] :=
    ⟨_, _, (List.dropLast_concat_getLast hne).symm⟩
  rw [List.forall_mem_append] at h
  have hlast : lines last = [last] := segments_of_not_sep fun c hc => by
    simpa using fun (he : c = '\n') => h.2 last (by simp) (he ▸ hc)
  rw [lines_joinLines_append h.1, hlast]

/-- The last line of a text, line feeds at its end apart. -/
def lastLine (cs : List Char) : List Char :=
  ((lines (cs.reverse.dropWhile (· == '\n')).reverse).getLast?).getD []

/-! ### Line ends -/

/-- Line ends in one form: a carriage return, with the line feed after it if there is one,
becomes a line feed. The output is collected in reverse. -/
def unifyLineEndsFrom (acc : List Char) : List Char → List Char
  | [] => acc.reverse
  | '\r' :: '\n' :: cs => unifyLineEndsFrom ('\n' :: acc) cs
  | c :: cs => unifyLineEndsFrom ((if c = '\r' then '\n' else c) :: acc) cs

/-- The text with every line end written as a single line feed. -/
def unifyLineEnds (cs : List Char) : List Char :=
  unifyLineEndsFrom [] cs

/-- A text without carriage returns is left alone. -/
theorem unifyLineEnds_of_not_mem {cs : List Char} (h : '\r' ∉ cs) : unifyLineEnds cs = cs := by
  have key : ∀ (cs acc : List Char), '\r' ∉ cs →
      unifyLineEndsFrom acc cs = acc.reverse ++ cs := by
    intro cs
    induction cs with
    | nil => intro acc _; simp [unifyLineEndsFrom]
    | cons c cs ih =>
      intro acc hc
      have hne : c ≠ '\r' := fun he => hc (he ▸ List.mem_cons_self ..)
      rw [unifyLineEndsFrom, ih _ fun hm => hc (List.mem_cons_of_mem _ hm)]
      · simp [hne]
      · rintro _ rfl; exact absurd rfl hne
  simpa [unifyLineEnds] using key cs [] h

end FailurePrompt.Text
