import FailurePrompt.Yaml.Error

/-!
# Characters and their places

Indentation carries meaning in YAML, so the lexer has to know where each character stands. A text
is therefore turned into cells first: characters with their line and column. All line ends except
the two Unicode separators become line feeds on the way. The main statement, `map_char_cells`, is
that the cells hold the characters of the text in their order.
-/

namespace FailurePrompt.Yaml

/-- Where a character stands, counted from zero. The index counts all characters before it; the
column counts those of its line, byte order marks excepted. -/
structure Place where
  index : Nat := 0
  line : Nat := 0
  column : Nat := 0
  deriving Repr, DecidableEq

/-- A character with its place. -/
structure Cell where
  char : Char
  place : Place
  deriving Repr, DecidableEq

/-! ### Kinds of characters -/

/-- A line end within cells. -/
def isBreak (c : Char) : Bool := c == '\n' || c == '\u2028' || c == '\u2029'

/-- A space or a tab. -/
def isBlank (c : Char) : Bool := c == ' ' || c == '\t'

/-- A character that ends a token of any kind. -/
def isGap (c : Char) : Bool := isBlank c || isBreak c

/-- A mark that some editors put at the beginning of a text. -/
def isByteOrderMark (c : Char) : Bool := c == '\uFEFF'

/-- A character that may stand in a text. -/
def isAllowed (c : Char) : Bool :=
  let n := c.toNat
  n == 0x09 || n == 0x0A || n == 0x0D || n == 0x85 || (0x20 ≤ n && n ≤ 0x7E) ||
    (0xA0 ≤ n && n ≤ 0xFFFD) || 0x10000 ≤ n

/-! ### Cells of a text -/

/-- The text with each line end as one character, collected in reverse. -/
def unifyBreaksFrom (acc : List Char) : List Char → List Char
  | [] => acc.reverse
  | '\r' :: '\n' :: cs => unifyBreaksFrom ('\n' :: acc) cs
  | c :: cs => unifyBreaksFrom ((if c = '\r' ∨ c = '\x85' then '\n' else c) :: acc) cs

/-- The place after a character. -/
def Place.after (p : Place) (c : Char) : Place :=
  if isBreak c then ⟨p.index + 1, p.line + 1, 0⟩
  else if isByteOrderMark c then ⟨p.index + 1, p.line, p.column⟩
  else ⟨p.index + 1, p.line, p.column + 1⟩

/-- The cells of some characters, the first of which stands at a given place. -/
def cells (p : Place) : List Char → List Cell
  | [] => []
  | c :: cs => ⟨c, p⟩ :: cells (p.after c) cs

/-- The cells hold the characters they were made from. -/
theorem map_char_cells (p : Place) (cs : List Char) : (cells p cs).map Cell.char = cs := by
  induction cs generalizing p with
  | nil => rfl
  | cons c cs ih => simp [cells, ih]

/-- A text without a byte order mark at its beginning. -/
def withoutMark : List Char → List Char
  | c :: cs => if isByteOrderMark c then cs else c :: cs
  | [] => []

/-- The cells of a text, all of whose characters must be allowed. -/
def cellsOfText (cs : List Char) : Except Error (List Cell) :=
  match cs.find? (!isAllowed ·) with
  | some c => .error (.malformed (.forbiddenCharacter c))
  | none => .ok (cells {} (unifyBreaksFrom [] (withoutMark cs)))

/-! ### Looking ahead -/

/-- The text ends, or its next character satisfies a condition. -/
def endsOr (p : Char → Bool) (cs : List Cell) : Bool :=
  cs.head?.all (p ·.char)

/-- The next character is a given one. -/
def startsWith (c : Char) (cs : List Cell) : Bool :=
  cs.head?.any (·.char == c)

/-- A document marker: three hyphens or three dots, with nothing attached to them. -/
def startsWithMarker (cs : List Cell) : Bool :=
  let start := (cs.take 3).map Cell.char
  (start = ['-', '-', '-'] || start = ['.', '.', '.']) && endsOr isGap (cs.drop 3)

/-- Drops the rest of a line after a comment sign, up to the line end. -/
def dropComment (cs : List Cell) : List Cell :=
  if startsWith '#' cs then cs.dropWhile (!isBreak ·.char) else cs

/-- The characters of a folded line end: a single line feed becomes a space, the first of several
is dropped. -/
def folded (first : Char) (more : List Char) : List Char :=
  if first ≠ '\n' then first :: more else if more = [] then [' '] else more

end FailurePrompt.Yaml
