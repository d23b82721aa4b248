import FailurePrompt.Frame.Parser
import FailurePrompt.FrameFilter
import FailurePrompt.Log.Notice
import FailurePrompt.Text.Blank

/-!
# Resolving a stack to a location

A stack text begins with the error message, which may look like anything. The frame lines start
at the first indented line marked `at`; if there is none, every line is a candidate. The location
of the error is that of the first candidate that is an application frame. The main statements,
`resolve_cons_skip` and `resolve_cons_pick`, say what one candidate contributes: a line that
points at no application frame is passed over, the first one that does decides.
-/

namespace FailurePrompt

/-- Finds the location of an error in its stack text. -/
structure Resolver where
  parser : FrameParser := {}
  filter : FrameFilter := {}
  deriving Repr, DecidableEq

/-- Why a stack could not be resolved at all. -/
inductive ResolveError
  | numeral (e : Text.Numeral.TooLong)
  | location (e : LocationError)
  deriving Repr, DecidableEq

/-- The wording of a failure to resolve. -/
def ResolveError.message : ResolveError → String
  | .numeral e => e.message
  | .location e => e.message

namespace Resolver

/-- A line that is indented and marked `at`. -/
def isMarked (line : String) : Bool :=
  let cs := line.toList
  (cs.head?.map Text.isBlank).getD false && (Frame.afterMarker? cs).isSome

/-- The candidate lines of a stack: from the first marked line on, or all of them. -/
def frameLines (stack : Option String) : List String :=
  let lines := stackLines stack
  match lines.dropWhile (!isMarked ·) with
  | [] => lines
  | marked => marked

/-- The frame is in the application and points somewhere. -/
def isCandidate (resolver : Resolver) (frame : Frame) : Bool :=
  frame.hasLocation && resolver.filter.accepts frame

/-- A line without the white space at its ends. -/
def trimmed (line : String) : String :=
  String.ofList (Text.trim line.toList)

/-- The location of the first application frame among some lines. -/
def resolveLines (resolver : Resolver) :
    List String → Traced (Except ResolveError (Option Location))
  | [] => ⟨.ok none, [.locationNotFound]⟩
  | line :: rest =>
    match resolver.parser.parseLine line with
    | .error e => .silent (.error (.numeral e))
    | .ok none => resolver.resolveLines rest
    | .ok (some frame) =>
      if resolver.isCandidate frame then
        match Location.ofFrame frame with
        | .error e => .silent (.error (.location e))
        | .ok location => ⟨.ok (some location), [.locationResolved location]⟩
      else (resolver.resolveLines rest).preceded (.frameSkipped (trimmed line))

/-- The location of the first application frame of a stack. -/
def resolve (resolver : Resolver) (stack : Option String) :
    Traced (Except ResolveError (Option Location)) :=
  resolver.resolveLines (frameLines stack)

/-! ### What one line contributes -/

/-- A line that is no frame, or a frame that is no candidate, is passed over. -/
theorem resolve_cons_skip {resolver : Resolver} {line : String} {frame : Option Frame}
    (rest : List String) (h : resolver.parser.parseLine line = .ok frame)
    (hf : ∀ f, frame = some f → resolver.isCandidate f = false) :
    (resolver.resolveLines (line :: rest)).value = (resolver.resolveLines rest).value := by
  rw [resolveLines, h]
  cases frame with
  | none => rfl
  | some f => simp [hf f rfl]

/-- The first candidate decides, whatever follows it. -/
theorem resolve_cons_pick {resolver : Resolver} {line : String} {frame : Frame}
    (rest : List String) (h : resolver.parser.parseLine line = .ok (some frame))
    (hf : resolver.isCandidate frame = true) :
    (resolver.resolveLines (line :: rest)).value =
      ((Location.ofFrame frame).map some).mapError ResolveError.location := by
  rw [resolveLines, h]
  simp only [hf, if_true]
  cases Location.ofFrame frame <;> rfl

end Resolver

end FailurePrompt
