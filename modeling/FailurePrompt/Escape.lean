import FailurePrompt.Text.Digit

/-!
# Terminal escape sequences

Error messages are often written for a terminal and hold sequences that set colours or move the
cursor. A sequence is an introducer, a run of brackets and marks, and then either a text closed by
a bell or numeric parameters with a final character. `Escape.strip` removes every sequence. A run
may be read as shorter than it is when nothing fits after the whole of it, and the parameters as
fewer when a digit has to serve as the final character. The main statement is that a text without
an introducer is left as it is.
-/

namespace FailurePrompt.Escape

/-- The characters that begin a sequence: escape and the one-character control introducer. -/
def isIntroducer (c : Char) : Bool := c == '\x1B' || c == '\x9B'

/-- The bell, which closes a text sequence. -/
def bell : Char := '\x07'

/-- The brackets and marks that may follow an introducer. -/
def isRunMark (c : Char) : Bool := ['[', ']', '(', ')', '#', ';', '?'].contains c

/-- A character of the first part of a text sequence. -/
def isCommandChar (c : Char) : Bool := c.isAlpha || Text.isDigit c

/-- A character of the further parts of a text sequence. -/
def isTextChar (c : Char) : Bool :=
  c.isAlpha || Text.isDigit c ||
    ['-', '/', '#', '&', '.', ':', '=', '?', '%', '@', '~', '_'].contains c

/-- A letter or sign that ends a control sequence. -/
def isFinalSign (c : Char) : Bool :=
  ('A' ≤ c && c ≤ 'P') || ('R' ≤ c && c ≤ 'T') || c == 'Z' || c == 'c' ||
    ('f' ≤ c && c ≤ 'n') || ['t', 'q', 'r', 'y', '=', '>', '<', '~'].contains c

/-! ### The two kinds of bodies -/

/-- The text after the parts that follow the first one, each opened by a semicolon. -/
def dropParts : List Char → List Char
  | ';' :: rest => rest.dropWhile fun c => c == ';' || isTextChar c
  | cs => cs

/-- The text after the body of a text sequence, which a bell closes. -/
def afterText? (cs : List Char) : Option (List Char) :=
  match dropParts (cs.dropWhile isCommandChar) with
  | c :: rest => if c = bell then some rest else none
  | [] => none

/-- The text after parameters and a final character. A parameter has at most four digits, of which
`room` are left for the current one. The longest parameters that leave a final character are
taken; a digit is one as well. -/
def afterParameters? (room : Nat) : List Char → Option (List Char)
  | [] => none
  | c :: rest =>
    if Text.isDigit c then
      match room with
      | 0 => some rest
      | room + 1 => (afterParameters? room rest).or (some rest)
    else if c = ';' then afterParameters? 4 rest
    else if isFinalSign c then some rest
    else none

/-- The text after the body of a control sequence. The first parameter, if there is any, has a
digit. -/
def afterControl? : List Char → Option (List Char)
  | ';' :: _ => none
  | cs => afterParameters? 4 cs

/-- The text after the body of a sequence of either kind. -/
def afterBody? (cs : List Char) : Option (List Char) :=
  (afterText? cs).or (afterControl? cs)

/-- The text after a run of marks and a body; the longest run that leaves a body is taken. -/
def afterRun? : List Char → Option (List Char)
  | [] => none
  | c :: rest =>
    if isRunMark c then (afterRun? rest).or (afterBody? (c :: rest))
    else afterBody? (c :: rest)

/-! ### Nothing grows -/

private theorem length_dropParts_le (cs : List Char) : (dropParts cs).length ≤ cs.length := by
  unfold dropParts
  split
  · exact Nat.le_succ_of_le (List.dropWhile_sublist _).length_le
  · exact Nat.le_refl _

private theorem length_afterText?_lt {cs rest : List Char} (h : afterText? cs = some rest) :
    rest.length < cs.length := by
  have h1 := length_dropParts_le (cs.dropWhile isCommandChar)
  have h2 := (List.dropWhile_sublist (l := cs) isCommandChar).length_le
  unfold afterText? at h
  split at h
  · rename_i c r he
    rw [he] at h1
    split at h
    · cases h
      simp only [List.length_cons] at h1
      omega
    · cases h
  · cases h

private theorem length_afterParameters?_lt {room : Nat} {cs rest : List Char}
    (h : afterParameters? room cs = some rest) : rest.length < cs.length := by
  induction cs generalizing room with
  | nil => simp [afterParameters?] at h
  | cons c cs ih =>
    unfold afterParameters? at h
    split at h
    · cases room with
      | zero => cases h; simp
      | succ room =>
        simp only [Option.or_eq_some_iff] at h
        rcases h with h | ⟨_, h⟩
        · exact Nat.lt_succ_of_lt (ih h)
        · cases h; simp
    · split at h
      · exact Nat.lt_succ_of_lt (ih h)
      · split at h
        · cases h; simp
        · cases h

private theorem length_afterBody?_lt {cs rest : List Char} (h : afterBody? cs = some rest) :
    rest.length < cs.length := by
  simp only [afterBody?, Option.or_eq_some_iff] at h
  rcases h with h | ⟨_, h⟩
  · exact length_afterText?_lt h
  · unfold afterControl? at h
    split at h
    · cases h
    · exact length_afterParameters?_lt h

/-- A sequence takes at least one character after its introducer. -/
theorem length_afterRun?_lt {cs rest : List Char} (h : afterRun? cs = some rest) :
    rest.length < cs.length := by
  induction cs with
  | nil => simp [afterRun?] at h
  | cons c cs ih =>
    unfold afterRun? at h
    split at h
    · simp only [Option.or_eq_some_iff] at h
      rcases h with h | ⟨_, h⟩
      · exact Nat.lt_succ_of_lt (ih h)
      · exact length_afterBody?_lt h
    · exact length_afterBody?_lt h

/-! ### Stripping -/

/-- A text without its escape sequences. -/
def strip : List Char → List Char
  | [] => []
  | c :: cs =>
    if isIntroducer c then
      match _h : afterRun? cs with
      | some rest => strip rest
      | none => c :: strip cs
    else c :: strip cs
termination_by cs => cs.length
decreasing_by
  · have := length_afterRun?_lt _h
    simp only [List.length_cons]; omega
  · simp
  · simp

theorem strip_nil : strip [] = [] := by
  rw [strip]

theorem strip_cons_of_not_introducer {c : Char} (h : isIntroducer c = false) (cs : List Char) :
    strip (c :: cs) = c :: strip cs := by
  rw [strip]
  simp [h]

theorem strip_cons_of_sequence {c : Char} {cs rest : List Char} (hc : isIntroducer c = true)
    (h : afterRun? cs = some rest) : strip (c :: cs) = strip rest := by
  rw [strip]
  simp only [hc, if_true]
  split
  · rename_i r hr
    rw [h] at hr
    cases hr
    rfl
  · rename_i hr
    rw [h] at hr
    cases hr

theorem strip_cons_of_no_sequence {c : Char} {cs : List Char} (h : afterRun? cs = none) :
    strip (c :: cs) = c :: strip cs := by
  rw [strip]
  split
  · split
    · rename_i r hr
      rw [h] at hr
      cases hr
    · rfl
  · rfl

/-- A text without an introducer is left as it is. -/
theorem strip_eq_self {cs : List Char} (h : ∀ c ∈ cs, isIntroducer c = false) :
    strip cs = cs := by
  induction cs with
  | nil => exact strip_nil
  | cons c cs ih =>
    rw [strip_cons_of_not_introducer (h c (List.mem_cons_self ..)),
      ih fun d hd => h d (List.mem_cons_of_mem _ hd)]

end FailurePrompt.Escape

namespace FailurePrompt

/-- A string without its terminal escape sequences. -/
def stripEscapes (text : String) : String :=
  String.ofList (Escape.strip text.toList)

end FailurePrompt
