import FailurePrompt.Yaml.Cell

/-!
# Block scalars

A block scalar is announced by a header and consists of the lines that are indented far enough
below it. Its line ends are kept, or folded where both lines around them begin with text; the
header says so, and it also says what becomes of the line ends after the last line.
-/

namespace FailurePrompt.Yaml.Block

/-- What becomes of the line ends after the last line: all are dropped, one is kept, or all are. -/
inductive Chomping
  | strip
  | clip
  | keep
  deriving Repr, DecidableEq

/-- What the header of a block scalar says. -/
structure Header where
  chomping : Chomping := .clip
  /-- The indentation relative to the surrounding block, if it is given. -/
  increment : Option Nat := none
  deriving Repr, DecidableEq

/-! ### The header -/

/-- A chomping indicator. -/
def chomping? (c : Char) : Option Chomping :=
  if c = '+' then some .keep else if c = '-' then some .strip else none

/-- An indentation indicator. -/
def increment? (c : Char) : Option Nat :=
  if '1' ≤ c ∧ c ≤ '9' then some (c.toNat - '0'.toNat) else none

/-- The indicators of a header, of which each kind may be given once, in either order. -/
def indicators (cs : List Cell) : Header × List Cell :=
  match cs with
  | [] => ({}, [])
  | a :: rest =>
    match chomping? a.char, increment? a.char, rest with
    | some chomping, _, b :: rest' =>
      match increment? b.char with
      | some n => (⟨chomping, some n⟩, rest')
      | none => (⟨chomping, none⟩, rest)
    | some chomping, _, [] => (⟨chomping, none⟩, [])
    | none, some n, b :: rest' =>
      match chomping? b.char with
      | some chomping => (⟨chomping, some n⟩, rest')
      | none => (⟨.clip, some n⟩, rest)
    | none, some n, [] => (⟨.clip, some n⟩, [])
    | none, none, _ => ({}, cs)

/-- The header with its line end, before which only spaces and a comment may stand. -/
def header (cs : List Cell) : Except Error (Header × List Cell) :=
  let (header, behind) := indicators cs
  let atEnd := dropComment (behind.dropWhile (·.char == ' '))
  if endsOr (fun c => c == ' ' || isBreak c) behind && endsOr isBreak atEnd then
    .ok (header, atEnd.drop 1)
  else .error (.malformed .blockHeader)

/-! ### The lines -/

/-- Empty lines, and the indentation of the line after them as far as a given column. -/
def breaks (column : Nat) : List Cell → List Char × List Cell
  | [] => ([], [])
  | c :: rest =>
    if c.char = ' ' ∧ c.place.column < column then breaks column rest
    else if isBreak c.char then
      let r := breaks column rest
      (c.char :: r.1, r.2)
    else ([], c :: rest)

theorem length_breaks_le (column : Nat) (cs : List Cell) :
    (breaks column cs).2.length ≤ cs.length := by
  induction cs with
  | nil => simp [breaks]
  | cons c cs ih =>
    rw [breaks]
    split
    · simp only [List.length_cons]
      omega
    · split
      · simp only [List.length_cons]
        omega
      · simp

/-- Empty lines and the indentation of the first line with text, whatever it is; the widest
indentation seen is returned too. -/
def leadingBreaks (widest : Nat) : List Cell → Nat × List Char × List Cell
  | [] => (widest, [], [])
  | c :: rest =>
    if c.char = ' ' then leadingBreaks (max widest (c.place.column + 1)) rest
    else if isBreak c.char then
      let (w, more, rest) := leadingBreaks widest rest
      (w, c.char :: more, rest)
    else (widest, [], c :: rest)

/-- A line of the scalar is about to begin. -/
def isAt (column : Nat) (cs : List Cell) : Bool :=
  cs.head?.any (·.place.column == column)

/-- What stands for the line ends between two lines of which the first is `startsBlank` or not. -/
def joint (fold startsBlank : Bool) (lineEnd : List Char) (between : List Char)
    (next : List Cell) : List Char :=
  if fold && lineEnd = ['\n'] && !startsBlank && !next.head?.any (isBlank ·.char) then
    if between = [] then [' '] else between
  else lineEnd ++ between

/-- What stands for the line ends after the last line. -/
def tail (chomping : Chomping) (lineEnd : List Char) (behind : List Char) : List Char :=
  match chomping with
  | .strip => []
  | .clip => lineEnd
  | .keep => lineEnd ++ behind

/-- The lines of a scalar from the first one on, which stands at the given column. -/
def lines (fold : Bool) (chomping : Chomping) (column : Nat) :
    List Cell → List Char × List Cell
  | [] => ([], [])
  | c :: rest =>
    let text := (rest.takeWhile (!isBreak ·.char)).map Cell.char
    let atEnd := rest.dropWhile (!isBreak ·.char)
    let lineEnd := (atEnd.take 1).map Cell.char
    let behind := breaks column (atEnd.drop 1)
    if isAt column behind.2 then
      let more := lines fold chomping column behind.2
      (c.char :: text ++ joint fold (isBlank c.char) lineEnd behind.1 behind.2 ++ more.1, more.2)
    else (c.char :: text ++ tail chomping lineEnd behind.1, behind.2)
termination_by cs => cs.length
decreasing_by
  have h₁ := length_breaks_le column ((rest.dropWhile (!isBreak ·.char)).drop 1)
  have h₂ := (List.dropWhile_sublist (l := rest) (!isBreak ·.char)).length_le
  simp only [List.length_drop] at h₁
  simp only [List.length_cons]
  omega

/-- Reads a block scalar after the sign that announces it. Its lines must stand further to the
right than the surrounding block, which stands at `outer - 1`. -/
def scan (fold : Bool) (outer : Nat) (cs : List Cell) : Except Error (List Char × List Cell) :=
  match header cs with
  | .error e => .error e
  | .ok (header, cs) =>
    let least := max outer 1
    let (column, before, cs) :=
      match header.increment with
      | some n =>
        let column := least + n - 1
        (column, breaks column cs)
      | none =>
        let (widest, before, cs) := leadingBreaks 0 cs
        (max least widest, before, cs)
    if isAt column cs then
      let (text, rest) := lines fold header.chomping column cs
      .ok (before ++ text, rest)
    else .ok (tail header.chomping [] before, cs)

end FailurePrompt.Yaml.Block
