import FailurePrompt.Frame.Basic

/-!
# Error locations

A location is a place in a source file that an error is attributed to. Its file has a name, its
line counts from one and its column from zero, the zero standing for an unknown column; the type
holds nothing else. `Location.make` checks these conditions in order, and `make_eq_ok_iff` says
that it refuses nothing that meets them.
-/

namespace FailurePrompt

/-- A place in a source file. -/
structure Location where
  filePath : String
  line : Nat
  column : Nat
  filePath_ne : filePath ≠ ""
  line_pos : 0 < line
  deriving Repr, DecidableEq

/-- An integer that is not below one stays positive as a natural number. -/
theorem toNat_pos_of_not_lt {n : Int} (h : ¬n < 1) : 0 < n.toNat := by omega

/-- Why a place in a file is no location. -/
inductive LocationError
  | emptyPath
  | line (given : Int)
  | column (given : Int)
  deriving Repr, DecidableEq

/-- The wording of a refused location. -/
def LocationError.message : LocationError → String
  | .emptyPath => "file_path must not be empty"
  | .line given => s!"line must be >= 1, got {given}"
  | .column given => s!"column must be >= 0, got {given}"

namespace Location

/-- Checks the parts of a location, the file first and the column last. -/
def make (filePath : String) (line column : Int) : Except LocationError Location :=
  if hp : filePath = "" then .error .emptyPath
  else if hl : line < 1 then .error (.line line)
  else if column < 0 then .error (.column column)
  else .ok ⟨filePath, line.toNat, column.toNat, hp, toNat_pos_of_not_lt hl⟩

/-- The location that a frame points at. -/
def ofFrame (frame : Frame) : Except LocationError Location :=
  make frame.file frame.lineNumber frame.columnNumber

/-- The usual text of a location. -/
def text (l : Location) : String :=
  s!"{l.filePath}:{l.line}:{l.column}"

/-- The conditions are all that a location needs. -/
theorem make_eq_ok_iff {filePath : String} {line column : Int} {l : Location} :
    make filePath line column = .ok l ↔
      l.filePath = filePath ∧ (l.line : Int) = line ∧ (l.column : Int) = column := by
  constructor
  · intro h
    unfold make at h
    split at h
    · cases h
    · split at h
      · cases h
      · split at h
        · cases h
        · cases h
          refine ⟨rfl, ?_, ?_⟩ <;> dsimp only <;> omega
  · rintro ⟨rfl, rfl, rfl⟩
    have hl := l.line_pos
    unfold make
    rw [dif_neg l.filePath_ne, dif_neg (by omega), if_neg (by omega)]
    rfl

end Location

end FailurePrompt
