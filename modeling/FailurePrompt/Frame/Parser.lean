import FailurePrompt.Frame.Basic
import FailurePrompt.Frame.Url
import FailurePrompt.Frame.Balance
import FailurePrompt.Frame.Line
import FailurePrompt.Text.Lines

/-!
# Reading frames

A frame is read from a line in three steps: the line is divided into its parts (`Shape.ofLine?`),
the parentheses of a closed clause are balanced, and the file, the coordinates and the name are
brought into the form in which they are reported. A line that is no frame line gives no frame;
the only failure is a coordinate with more digits than a number may have. The main statements
say that reading keeps the line as raw text and that a line without a shape gives no frame.
-/

namespace FailurePrompt

/-- A reader of frame lines; file URLs become paths with the given separator. -/
structure FrameParser where
  pathSeparator : String := "/"
  deriving Repr, DecidableEq

namespace Frame

/-- The text between square brackets that replaces a method name called by another one, as in
`name [as alias]`: it starts at the first such bracket and runs to a bracket at the very end. -/
def alias? : List Char → Option (List Char)
  | [] => none
  | c :: rest =>
    match after? [' ', '[', 'a', 's', ' '] (c :: rest) with
    | some tail => if tail.getLast? = some ']' then some tail.dropLast else none
    | none => alias? rest

/-- The reported form of a function name: an alias stands for the whole name, and an empty name
is no name. -/
def reportedName : Option (List Char) → Option (List Char)
  | none => none
  | some [] => none
  | some name => some ((alias? name).getD name)

/-- The function name and the file of a position, balanced if a parenthesis closes the line. -/
def balanced (name : Option (List Char)) (file : List Char) (closed : Bool) :
    Option (List Char) × List Char :=
  if closed then balance name file else (name, file)

end Frame

namespace FrameParser

open FailurePrompt.Frame

/-- The frame of a divided line. -/
def frameOfShape (parser : FrameParser) (rawText : String) (shape : Shape) :
    Except Text.Numeral.TooLong Frame :=
  match shape.site with
  | .native => .ok {
      rawText
      functionName := (reportedName shape.name).map String.ofList
      isNative := true
      isConstructor := shape.isConstructor }
  | .position file line column closed =>
    let (name, file) := balanced shape.name file closed
    let path := Url.filePath parser.pathSeparator.toList file
    match Text.Numeral.read line, Text.Numeral.read column with
    | .error e, _ => .error e
    | _, .error e => .error e
    | .ok line, .ok column => .ok {
        rawText
        functionName := (reportedName name).map String.ofList
        filePath := if path = [] then none else some (String.ofList path)
        line := some line
        column := some column
        isConstructor := shape.isConstructor
        evalOrigin := shape.origin.map String.ofList }

/-- Reads one line; a line that is no frame line gives no frame. -/
def parseLine (parser : FrameParser) (text : String) :
    Except Text.Numeral.TooLong (Option Frame) :=
  match Shape.ofLine? text.toList with
  | none => .ok none
  | some shape => (parser.frameOfShape text shape).map some

/-- Reads lines in order and keeps the frames; the first failure ends the reading. -/
def parseLines (parser : FrameParser) : List String → Except Text.Numeral.TooLong (List Frame)
  | [] => .ok []
  | line :: rest =>
    match parser.parseLine line with
    | .error e => .error e
    | .ok frame =>
      match parser.parseLines rest with
      | .error e => .error e
      | .ok frames => .ok (frame.toList ++ frames)

end FrameParser

/-- The lines of a stack text; a missing one is a single empty line. -/
def stackLines (stack : Option String) : List String :=
  (Text.lines ((stack.getD "").toList)).map String.ofList

namespace FrameParser

/-- Reads every frame line of a stack text. -/
def parseStack (parser : FrameParser) (stack : Option String) :
    Except Text.Numeral.TooLong (List Frame) :=
  parser.parseLines (stackLines stack)

/-! ### What reading keeps -/

theorem rawText_of_frameOfShape {parser : FrameParser} {rawText : String} {shape : Frame.Shape}
    {frame : Frame} (h : parser.frameOfShape rawText shape = .ok frame) :
    frame.rawText = rawText := by
  unfold frameOfShape at h
  split at h
  · cases h; rfl
  · dsimp only at h
    split at h
    · cases h
    · cases h
    · cases h; rfl

/-- A frame keeps the line it was read from. -/
theorem rawText_of_parseLine {parser : FrameParser} {text : String} {frame : Frame}
    (h : parser.parseLine text = .ok (some frame)) : frame.rawText = text := by
  unfold parseLine at h
  split at h
  · cases h
  · rename_i shape _
    cases hs : parser.frameOfShape text shape with
    | error e => rw [hs] at h; cases h
    | ok f =>
      rw [hs] at h
      cases h
      exact rawText_of_frameOfShape hs

/-- A line without a shape gives no frame. -/
theorem parseLine_of_no_shape {parser : FrameParser} {text : String}
    (h : Frame.Shape.ofLine? text.toList = none) : parser.parseLine text = .ok none := by
  rw [parseLine, h]

end FrameParser

end FailurePrompt
