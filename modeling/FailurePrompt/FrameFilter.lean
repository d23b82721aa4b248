import FailurePrompt.Frame.Basic
import FailurePrompt.Text.Lines

/-!
# Application frames

A frame is of interest when it points into the application itself: not into an installed package
and not into the runtime. Packages are known by the directory they are installed in, the runtime
by the start of its pseudo-paths; runtime frames can be let through. The main statements are that
a frame without a file is never accepted, that a package frame is never accepted whatever is let
through, and that any other frame is judged by the start of its path alone.
-/

namespace FailurePrompt

/-- The rules by which frames are judged. -/
structure FrameFilter where
  /-- Runtime frames are let through. -/
  showInternalFrames : Bool := false
  /-- The names of directories in which packages are installed. -/
  dependencyDirs : List String := ["node_modules"]
  /-- The starts of the pseudo-paths of the runtime. -/
  internalPrefixes : List String := ["internal", "node:"]
  deriving Repr, DecidableEq

namespace FrameFilter

/-- The characters that separate the names of a path, on any system. -/
def isSeparator (c : Char) : Bool := c == '\\' || c == '/'

/-- The names of a path. -/
def pathNames (path : String) : List String :=
  (Text.segments isSeparator path.toList).map String.ofList

/-- The path lies in a package directory. -/
def isDependency (filter : FrameFilter) (path : String) : Bool :=
  (pathNames path).any (filter.dependencyDirs.contains ·)

/-- The path is one of the runtime. -/
def isInternal (filter : FrameFilter) (path : String) : Bool :=
  filter.internalPrefixes.any fun start => start.toList.isPrefixOf path.toList

/-- The frame is left out when a location is looked for. -/
def isExcluded (filter : FrameFilter) (frame : Frame) : Bool :=
  if frame.file = "" then true
  else if filter.isDependency frame.file then true
  else if filter.isInternal frame.file then !filter.showInternalFrames
  else false

/-- The frame is an application frame. -/
def accepts (filter : FrameFilter) (frame : Frame) : Bool :=
  !filter.isExcluded frame

/-- What a frame must be to be accepted. -/
theorem accepts_iff {filter : FrameFilter} {frame : Frame} :
    filter.accepts frame = true ↔
      frame.file ≠ "" ∧ filter.isDependency frame.file = false ∧
        (filter.isInternal frame.file = true → filter.showInternalFrames = true) := by
  unfold accepts isExcluded
  split
  · simp_all
  · split
    · simp_all
    · split <;> simp_all

/-- A package frame is excluded whatever is let through. -/
theorem isExcluded_of_isDependency {filter : FrameFilter} {frame : Frame}
    (h : filter.isDependency frame.file = true) : filter.isExcluded frame = true := by
  unfold isExcluded
  split <;> simp_all

end FrameFilter

end FailurePrompt
