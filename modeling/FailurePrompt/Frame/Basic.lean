/-!
# Stack frames

One line of a stack trace names a place in a program: a function, a file and a position in it, or
code of the runtime itself. Every part may be missing, which is kept apart from an empty name or
a zero. The accessors give the shown forms, in which a missing part is empty or zero.
-/

namespace FailurePrompt

/-- A line of a stack trace, taken apart. -/
structure Frame where
  /-- The line as it was written. -/
  rawText : String
  functionName : Option String := none
  filePath : Option String := none
  line : Option Int := none
  column : Option Int := none
  /-- The frame is code of the runtime and has no file. -/
  isNative : Bool := false
  /-- The function was called to construct an object. -/
  isConstructor : Bool := false
  /-- Where code made at run time comes from; never used as a location. -/
  evalOrigin : Option String := none
  deriving Repr, DecidableEq

namespace Frame

/-- The file, empty if there is none. -/
def file (f : Frame) : String := f.filePath.getD ""

/-- The line number, zero if there is none. -/
def lineNumber (f : Frame) : Int := f.line.getD 0

/-- The column number, zero if there is none. -/
def columnNumber (f : Frame) : Int := f.column.getD 0

/-- The frame points into a file at a line. -/
def hasLocation (f : Frame) : Bool :=
  f.file ≠ "" && f.lineNumber ≠ 0

theorem hasLocation_iff {f : Frame} :
    f.hasLocation = true ↔ f.file ≠ "" ∧ f.lineNumber ≠ 0 := by
  simp [hasLocation]

end Frame

end FailurePrompt
