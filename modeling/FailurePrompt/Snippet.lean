import FailurePrompt.Encoding.Basic
import FailurePrompt.Files.Basic
import FailurePrompt.Log.Notice
import FailurePrompt.Text.Lines

/-!
# Source snippets

A snippet is a run of source lines around a location. `SnippetReader` reads a source file in its
encoding, cuts it at line feeds alone, and takes a bounded window of lines. A file that cannot be
read and a location beyond the end of the file give no snippet. The main statements,
`window_eq_nil_iff` and `length_window_le`, say when the window is empty and how long it is at
most.
-/

namespace FailurePrompt

/-- Consecutive lines of a source file. -/
structure Snippet where
  filePath : String
  /-- The number of the first line, counted from one. -/
  startLine : Int
  lines : List String
  /-- The line to point out, if it is among the lines. -/
  highlightLine : Option Int := none
  deriving Repr, DecidableEq

namespace Snippet

/-- The number of lines. -/
def lineCount (s : Snippet) : Nat := s.lines.length

/-- The number of the last line. -/
def endLine (s : Snippet) : Int := s.startLine + s.lines.length - 1

/-- The lines joined by line feeds. -/
def text (s : Snippet) : String :=
  String.ofList (Text.joinLines (s.lines.map String.toList))

end Snippet

/-- Reads snippets: how many lines on each side of a location, and in which encoding. -/
structure SnippetReader where
  contextLines : Nat := 3
  encoding : String := "utf-8"
  /-- The codecs among which the encoding is looked up. -/
  codecs : Codecs := .standard
  contextLines_pos : 0 < contextLines := by decide

/-- The number of context lines was not positive. -/
structure ContextError where
  given : Int
  deriving Repr, DecidableEq

/-- The wording of a refused number of context lines. -/
def ContextError.message (e : ContextError) : String :=
  s!"context_lines must be >= 1, got {e.given}"

/-- Why a source file could not be read as text. -/
inductive SourceFault
  /-- The name of the encoding holds a NUL character. -/
  | nulInEncoding
  | file (path : Path) (e : FileError)
  | encodingName (e : Encoding.NameError)
  | decoding (e : Encoding.DecodeError)
  deriving Repr, DecidableEq

/-- The wording of a fault. -/
def SourceFault.message : SourceFault → String
  | .nulInEncoding => "embedded null character"
  | .file path e => e.message path
  | .encodingName e => e.message
  | .decoding e => e.message

/-- A source file could not be read. -/
structure SourceError where
  /-- The path as it was given. -/
  filePath : String
  fault : SourceFault
  deriving Repr, DecidableEq

/-- The wording of an unreadable source. -/
def SourceError.message (e : SourceError) : String :=
  s!"Failed to read {e.filePath}: {e.fault.message}"

namespace SnippetReader

/-- Checks the number of context lines. -/
def make (contextLines : Int) (encoding : String) (codecs : Codecs := .standard) :
    Except ContextError SnippetReader :=
  if h : contextLines < 1 then .error ⟨contextLines⟩
  else .ok ⟨contextLines.toNat, encoding, codecs, toNat_pos_of_not_lt h⟩

/-- The text of a source file. The file is looked for before the encoding is. -/
def readText (reader : SnippetReader) (files : Files) (filePath : String) :
    Except SourceFault (List Char) :=
  if reader.encoding.toList.contains '\x00' then .error .nulInEncoding
  else
    let path := Path.ofString filePath
    match files.read path with
    | .error e => .error (.file path e)
    | .ok bytes =>
      match reader.codecs reader.encoding with
      | .error e => .error (.encodingName e)
      | .ok codec =>
        match codec bytes with
        | .error e => .error (.decoding e)
        | .ok cs => .ok cs

/-- The lines of a source file. -/
def readLines (reader : SnippetReader) (files : Files) (filePath : String) :
    Except SourceError (List String) :=
  match reader.readText files filePath with
  | .error fault => .error ⟨filePath, fault⟩
  | .ok cs => .ok ((Text.lines cs).map String.ofList)

/-! ### The window -/

/-- The index of the first line of the window around a line: as many lines before the line as the
context allows, counting from the line after it. -/
def windowStart (context line : Nat) : Nat := line - context

/-- The index after the last line of the window. -/
def windowEnd (context line count : Nat) : Nat := min count (line + context + 1)

/-- The lines of the window around a line. -/
def window (context line : Nat) (lines : List String) : List String :=
  (lines.take (windowEnd context line lines.length)).drop (windowStart context line)

/-- The snippet around a location. -/
def extract (reader : SnippetReader) (files : Files) (location : Location) :
    Traced (Option Snippet) :=
  match reader.readLines files location.filePath with
  | .error e => ⟨none, [.sourceUnreadable e.filePath e.message]⟩
  | .ok lines =>
    let start := windowStart reader.contextLines location.line
    let stop := windowEnd reader.contextLines location.line lines.length
    match window reader.contextLines location.line lines with
    | [] => ⟨none, [.windowEmpty location.filePath location.line]⟩
    | shown => .silent (some {
        filePath := location.filePath
        startLine := start + 1
        lines := shown
        highlightLine :=
          if start < location.line ∧ location.line ≤ stop then some location.line else none })

theorem length_window (context line : Nat) (lines : List String) :
    (window context line lines).length =
      windowEnd context line lines.length - windowStart context line := by
  simp only [window, windowEnd, List.length_drop, List.length_take]
  omega

/-- The window is empty exactly when the line lies beyond the file by the context or more. -/
theorem window_eq_nil_iff {context line : Nat} {lines : List String} (hl : 0 < line) :
    window context line lines = [] ↔ lines = [] ∨ lines.length + context ≤ line := by
  rw [← List.length_eq_zero_iff, length_window, ← List.length_eq_zero_iff]
  simp only [windowEnd, windowStart]
  omega

/-- A window has at most the line itself, the context on both sides, and no more. -/
theorem length_window_le (context line : Nat) (lines : List String) :
    (window context line lines).length ≤ 2 * context + 1 := by
  rw [length_window]
  simp only [windowEnd, windowStart]
  omega

end SnippetReader

end FailurePrompt
