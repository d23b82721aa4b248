import FailurePrompt.Yaml.Cell

/-!
# Plain scalars

A plain scalar is written without quotes and ends where something else could begin: at a colon or
a comment sign after a gap, within brackets also at a bracket or a comma, and where a line is
indented too little. It may run over several lines, whose ends are folded.
-/

namespace FailurePrompt.Yaml.Plain

/-- The characters that end a plain scalar within brackets. -/
def isFlowEnd (c : Char) : Bool := [',', '?', '[', ']', '\x7b', '\x7d'].contains c

/-- The characters that make an attached colon end a key within brackets. -/
def isFlowStop (c : Char) : Bool := [',', '[', ']', '\x7b', '\x7d'].contains c

/-- A character ends the run of characters that it stands in. -/
def endsRun (inFlow : Bool) (c : Char) (rest : List Cell) : Bool :=
  isGap c ||
    (c == ':' && endsOr (fun d => isGap d || (inFlow && isFlowStop d)) rest) ||
    (inFlow && isFlowEnd c)

/-- The run of characters at the beginning, and what follows. -/
def run (inFlow : Bool) : List Cell → List Char × List Cell
  | [] => ([], [])
  | c :: rest =>
    if endsRun inFlow c.char rest then ([], c :: rest)
    else
      let r := run inFlow rest
      (c.char :: r.1, r.2)

/-- The run and what follows are the whole text. -/
theorem run_append (inFlow : Bool) (cs : List Cell) :
    (run inFlow cs).1 ++ (run inFlow cs).2.map Cell.char = cs.map Cell.char := by
  induction cs with
  | nil => rfl
  | cons c cs ih =>
    rw [run]
    split
    · rfl
    · simp [ih]

/-- Further line ends and the spaces between them. Nothing is returned for the line ends if a
document marker comes up at the beginning of a line, which `atStart` tells. -/
def breaks (atStart : Bool) : List Cell → Option (List Char) × List Cell
  | [] => (some [], [])
  | c :: rest =>
    if atStart && startsWithMarker (c :: rest) then (none, c :: rest)
    else if c.char = ' ' then breaks false rest
    else if isBreak c.char then
      let r := breaks true rest
      (r.1.map (c.char :: ·), r.2)
    else (some [], c :: rest)

/-- The gap after a run. -/
structure Gap where
  /-- What the gap becomes if the scalar goes on after it; nothing if the scalar ends. -/
  chars : List Char
  /-- The gap holds a line end. -/
  broken : Bool
  rest : List Cell

/-- The gap at the beginning. -/
def gap (cs : List Cell) : Gap :=
  let spaces := (cs.takeWhile (·.char == ' ')).map Cell.char
  match cs.dropWhile (·.char == ' ') with
  | [] => ⟨spaces, false, []⟩
  | c :: rest =>
    if isBreak c.char then
      match breaks true rest with
      | (none, rest) => ⟨[], true, rest⟩
      | (some more, rest) => ⟨folded c.char more, true, rest⟩
    else ⟨spaces, false, c :: rest⟩

/-- A plain scalar with what follows it. `broken` says that a line end stands before the rest. -/
structure Scanned where
  chars : List Char
  broken : Bool
  rest : List Cell

/-- The next line is indented too little to go on. -/
def isOutdented (inFlow : Bool) (column : Nat) (cs : List Cell) : Bool :=
  !inFlow && cs.head?.any (·.place.column < column)

/-- Reads a plain scalar, whose lines must stand at a column or further to the right outside of
brackets. Every round but the last takes a run of characters. -/
def scan (inFlow : Bool) (column : Nat) : (rounds : Nat) → List Cell → Scanned
  | 0, cs => ⟨[], false, cs⟩
  | rounds + 1, cs =>
    if startsWith '#' cs then ⟨[], false, cs⟩
    else
      match run inFlow cs with
      | ([], _) => ⟨[], false, cs⟩
      | (start, behind) =>
        let g := gap behind
        if g.chars = [] || startsWith '#' g.rest || isOutdented inFlow column g.rest then
          ⟨start, g.broken, g.rest⟩
        else
          match scan inFlow column rounds g.rest with
          -- Nothing was read after the gap, so the gap is the last thing before the rest.
          | ⟨[], _, rest⟩ => ⟨start, g.broken, rest⟩
          | ⟨more, broken, rest⟩ => ⟨start ++ g.chars ++ more, broken, rest⟩

end FailurePrompt.Yaml.Plain
