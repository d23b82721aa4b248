/-!
# White space

The white-space class used everywhere in this library: for the indentation of frame lines, for
trimming prompts, and for reading numbers in settings. `isBlank` is the class, `trimStart`,
`trimEnd` and `trim` remove it from the ends of a text. The main statements say that trimming
leaves alone a text whose ends are not blank, be it the whole or a piece, and that `trimEnd` only
ever cuts a blank tail.
-/

namespace FailurePrompt.Text

/-- White space: the characters with Unicode's white-space property together with the four
information separators `U+001C` to `U+001F`. -/
def isBlank (c : Char) : Bool :=
  let n := c.toNat
  (9 ≤ n && n ≤ 13) || (28 ≤ n && n ≤ 32) || n == 0x85 || n == 0xA0 || n == 0x1680 ||
    (0x2000 ≤ n && n ≤ 0x200A) || n == 0x2028 || n == 0x2029 || n == 0x202F || n == 0x205F ||
    n == 0x3000

/-- The text without its leading white space. -/
def trimStart (cs : List Char) : List Char :=
  cs.dropWhile isBlank

/-- The text without its trailing white space. -/
def trimEnd (cs : List Char) : List Char :=
  (cs.reverse.dropWhile isBlank).reverse

/-- The text without white space at either end. -/
def trim (cs : List Char) : List Char :=
  trimEnd (trimStart cs)

theorem trimStart_cons_of_not_blank {c : Char} {cs : List Char} (h : isBlank c = false) :
    trimStart (c :: cs) = c :: cs := by
  simp [trimStart, h]

theorem trimEnd_append_of_not_blank {c : Char} (cs : List Char) (h : isBlank c = false) :
    trimEnd (cs ++ [c]) = cs ++ [c] := by
  simp [trimEnd, h]

/-- Nothing is left exactly of white space. -/
theorem trimEnd_eq_nil_iff {cs : List Char} : trimEnd cs = [] ↔ ∀ c ∈ cs, isBlank c = true := by
  constructor
  · intro h c hc
    rw [trimEnd, List.reverse_eq_nil_iff] at h
    have hsplit := List.takeWhile_append_dropWhile (p := isBlank) (l := cs.reverse)
    rw [h, List.append_nil] at hsplit
    exact List.all_eq_true.1 (hsplit ▸ List.all_takeWhile) c (List.mem_reverse.2 hc)
  · intro h
    have hall : (cs.reverse ++ []).dropWhile isBlank = [].dropWhile isBlank :=
      List.dropWhile_append_of_pos fun c hc => h c (List.mem_reverse.1 hc)
    rw [List.append_nil] at hall
    rw [trimEnd, hall]
    rfl

/-- The end of a text is trimmed in its last part, if that is more than white space. -/
theorem trimEnd_append (front cs : List Char) :
    trimEnd (front ++ cs) = if trimEnd cs = [] then trimEnd front else front ++ trimEnd cs := by
  simp only [trimEnd, List.reverse_append, List.dropWhile_append, List.isEmpty_iff,
    List.reverse_eq_nil_iff]
  split
  · rfl
  · rw [List.reverse_append, List.reverse_reverse]

/-- What `trimEnd` removes is a run of white space. -/
theorem exists_append_blank_eq (cs : List Char) :
    ∃ tail, trimEnd cs ++ tail = cs ∧ ∀ c ∈ tail, isBlank c = true := by
  refine ⟨(cs.reverse.takeWhile isBlank).reverse, ?_, ?_⟩
  · rw [trimEnd, ← List.reverse_append, List.takeWhile_append_dropWhile, List.reverse_reverse]
  · intro c hc
    exact List.all_eq_true.1 List.all_takeWhile c (List.mem_reverse.1 hc)

private theorem infix_dropWhile {p : Char → Bool} {part cs : List Char} (h : part <:+: cs)
    (hhead : ∀ c, part.head? = some c → p c = false) : part <:+: cs.dropWhile p := by
  rcases part with _ | ⟨c, part⟩
  · exact List.nil_infix
  have hc := hhead c rfl
  induction cs with
  | nil => exact h
  | cons d cs ih =>
    rw [List.dropWhile_cons]
    split
    case isTrue hd =>
      rcases List.infix_cons_iff.1 h with hpre | h
      · obtain ⟨rfl, -⟩ := List.cons_prefix_cons.1 hpre
        simp [hc] at hd
      · exact ih h
    case isFalse => exact h

/-- Trimming does not cut into a piece whose ends are not blank. -/
theorem infix_trim {part cs : List Char} (h : part <:+: cs)
    (hhead : ∀ c, part.head? = some c → isBlank c = false)
    (hlast : ∀ c, part.getLast? = some c → isBlank c = false) : part <:+: trim cs := by
  have hstart : part.reverse <:+: (trimStart cs).reverse :=
    List.reverse_infix.2 (infix_dropWhile h hhead)
  have hend := infix_dropWhile (p := isBlank) hstart (by simpa using hlast)
  rw [trim, trimEnd, ← List.reverse_infix, List.reverse_reverse]
  exact hend

end FailurePrompt.Text
