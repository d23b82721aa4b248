/-!
# Environments and references to them

An environment gives values to names. A text can refer to a variable by its name in braces after
a dollar sign; `Environment.substitute` puts the values in the place of the references, in one
pass from left to right, so that a value is never searched for references itself. The main
statements, `substituteChars_reference` and `substituteChars_cons`, say what the text begins with
and what becomes of it: a reference takes its value, any other character stays.
-/

namespace FailurePrompt

/-- The variables of an environment, in the order in which they were set. -/
structure Environment where
  entries : List (String × String) := []

/-- A text refers to a variable that is not set. -/
structure UnsetVariable where
  name : String
  deriving Repr, DecidableEq

/-- The wording of a reference to a variable that is not set. -/
def UnsetVariable.message (e : UnsetVariable) : String :=
  s!"Environment variable {e.name} not found"

namespace Environment

/-- The value of a variable. -/
def get? (env : Environment) (name : String) : Option String :=
  env.entries.lookup name

/-! ### References -/

/-- The name that a text refers to at its beginning, and the text after the reference. A name is
anything but empty, and ends at the first closing brace. -/
def reference? : List Char → Option (List Char × List Char)
  | '$' :: '\x7b' :: rest =>
    match rest.takeWhile (· != '\x7d'), rest.dropWhile (· != '\x7d') with
    | c :: name, _ :: behind => some (c :: name, behind)
    | _, _ => none
  | _ => none

/-- A reference as it is written. -/
def referenceTo (name : List Char) : List Char :=
  '$' :: '\x7b' :: name ++ ['\x7d']

/-- A text that begins with a reference is that reference and the rest. -/
theorem reference?_eq_some {cs name behind : List Char}
    (h : reference? cs = some (name, behind)) : cs = referenceTo name ++ behind := by
  unfold reference? at h
  split at h
  · rename_i rest
    split at h
    · rename_i c name' d behind' ht hd
      simp only [Option.some.injEq, Prod.mk.injEq] at h
      obtain ⟨rfl, rfl⟩ := h
      have hclose : d = '\x7d' := by
        have hhead := List.head?_dropWhile_not (· != '\x7d') rest
        rw [hd] at hhead
        simpa using hhead
      have hsplit := List.takeWhile_append_dropWhile (p := (· != '\x7d')) (l := rest)
      rw [ht, hd] at hsplit
      rw [← hsplit, hclose]
      simp [referenceTo]
    · cases h
  · cases h

theorem length_lt_of_reference? {cs name behind : List Char}
    (h : reference? cs = some (name, behind)) : behind.length < cs.length := by
  rw [reference?_eq_some h]
  simp only [referenceTo, List.length_append, List.length_cons]
  omega

/-- The names that a text refers to, from left to right. -/
def references : List Char → List (List Char)
  | [] => []
  | c :: cs =>
    match _h : reference? (c :: cs) with
    | some (name, behind) => name :: references behind
    | none => references cs
termination_by cs => cs.length
decreasing_by
  · exact length_lt_of_reference? _h
  · simp

/-! ### Substitution -/

/-- Puts values in the place of references. The first reference to a name without a value decides
the failure. -/
def substituteChars (value : List Char → Option (List Char)) :
    List Char → Except UnsetVariable (List Char)
  | [] => .ok []
  | c :: cs =>
    match _h : reference? (c :: cs) with
    | some (name, behind) =>
      match value name with
      | none => .error ⟨String.ofList name⟩
      | some v => (substituteChars value behind).map (v ++ ·)
    | none => (substituteChars value cs).map (c :: ·)
termination_by cs => cs.length
decreasing_by
  · exact length_lt_of_reference? _h
  · simp

/-- The text with the value of each variable in the place of the references to it. -/
def substitute (env : Environment) (text : String) : Except UnsetVariable String :=
  (substituteChars (fun name => (env.get? (String.ofList name)).map String.toList)
    text.toList).map String.ofList

/-- A reference takes its value, and the text after it is treated on its own. -/
theorem substituteChars_reference {value : List Char → Option (List Char)}
    {cs name behind v : List Char} (h : reference? cs = some (name, behind))
    (hv : value name = some v) :
    substituteChars value cs = (substituteChars value behind).map (v ++ ·) := by
  cases cs with
  | nil => cases h
  | cons c cs =>
    rw [substituteChars]
    split
    · rename_i name' behind' h'
      rw [h] at h'
      cases h'
      rw [hv]
    · rename_i h'
      rw [h] at h'
      cases h'

/-- A character with which no reference begins stays. -/
theorem substituteChars_cons {value : List Char → Option (List Char)} {c : Char}
    {cs : List Char} (h : reference? (c :: cs) = none) :
    substituteChars value (c :: cs) = (substituteChars value cs).map (c :: ·) := by
  rw [substituteChars]
  split
  · rename_i h'
    rw [h] at h'
    cases h'
  · rfl

end Environment

end FailurePrompt
