import FailurePrompt.Yaml.Cell
import FailurePrompt.Value.Number

/-!
# Quoted scalars

A scalar in single quotes has one escape, the doubled quote; one in double quotes has escapes
after a backslash, by name or by number. Line ends are folded in both, and a backslash before a
line end removes it.
-/

namespace FailurePrompt.Yaml.Quoted

/-- The kind of quotes. -/
inductive Style
  | single
  | double
  deriving Repr, DecidableEq

/-- The quote of a style. -/
def Style.quote : Style → Char
  | .single => '\''
  | .double => '"'

/-- The character that an escape by name stands for. -/
def namedEscape? : Char → Option Char
  | '0' => some '\x00'
  | 'a' => some '\x07'
  | 'b' => some '\x08'
  | 't' => some '\t'
  | '\t' => some '\t'
  | 'n' => some '\n'
  | 'v' => some '\x0B'
  | 'f' => some '\x0C'
  | 'r' => some '\r'
  | 'e' => some '\x1B'
  | ' ' => some ' '
  | '"' => some '"'
  | '\\' => some '\\'
  | '/' => some '/'
  | 'N' => some '\x85'
  | '_' => some '\xA0'
  | 'L' => some '\u2028'
  | 'P' => some '\u2029'
  | _ => none

/-- The number of digits of an escape by number. -/
def escapeDigits? : Char → Option Nat
  | 'x' => some 2
  | 'u' => some 4
  | 'U' => some 8
  | _ => none

/-- The character with a number; the numbers of surrogates give the replacement character. -/
def numberedCharacter (n : Nat) : Except Error Char :=
  if 0x80000000 ≤ n then .error (.badScalar .hugeCharacter)
  else if 0x110000 ≤ n then .error (.badScalar .character)
  else if 0xD800 ≤ n ∧ n < 0xE000 then .ok '\uFFFD'
  else .ok (Char.ofNat n)

/-- An escape by number: so many hexadecimal digits. -/
def numberedEscape (digits : Nat) (cs : List Cell) : Except Error (Char × List Cell) :=
  let shown := (cs.take digits).map Cell.char
  if shown.length = digits && shown.all fun c => (Number.baseDigit? c).isSome then
    (numberedCharacter (Number.natOfBase 16 shown)).map fun c => (c, cs.drop digits)
  else .error (.malformed .unknownEscape)

/-- Line ends and the blanks between them, up to the next character of the scalar. A document
marker may not come up at the beginning of a line, which `atStart` tells. -/
def breaks (atStart : Bool) : List Cell → Except Error (List Char × List Cell)
  | [] => .ok ([], [])
  | c :: rest =>
    if atStart && startsWithMarker (c :: rest) then .error (.malformed .markerQuoted)
    else if isBlank c.char then breaks false rest
    else if isBreak c.char then (breaks true rest).map fun (more, rest) => (c.char :: more, rest)
    else .ok ([], c :: rest)

/-- The gap at the beginning, with its line ends folded. -/
def gap (cs : List Cell) : Except Error (List Char × List Cell) :=
  let blanks := (cs.takeWhile (isBlank ·.char)).map Cell.char
  match cs.dropWhile (isBlank ·.char) with
  | [] => .error (.malformed .quoteOpen)
  | c :: rest =>
    if isBreak c.char then
      (breaks true rest).map fun (more, rest) => (folded c.char more, rest)
    else .ok (blanks, c :: rest)

/-- An escape after its backslash. -/
def escape : List Cell → Except Error (List Char × List Cell)
  | [] => .error (.malformed .unknownEscape)
  | c :: rest =>
    match namedEscape? c.char, escapeDigits? c.char with
    | some d, _ => .ok ([d], rest)
    | none, some digits => (numberedEscape digits rest).map fun (d, rest) => ([d], rest)
    | none, none =>
      if isBreak c.char then breaks true rest else .error (.malformed .unknownEscape)

/-- The next piece of a scalar that has not ended: a gap, an escape or a single character. -/
def piece (style : Style) (c : Cell) (rest : List Cell) : Except Error (List Char × List Cell) :=
  if isGap c.char then gap (c :: rest)
  else if style = .double ∧ c.char = '\\' then escape rest
  else if style = .single ∧ c.char = '\'' then .ok (['\''], rest.drop 1)
  else .ok ([c.char], rest)

/-- The scalar is closed here: its quote stands at the beginning and is not doubled. -/
def isClosing (style : Style) (c : Cell) (rest : List Cell) : Bool :=
  c.char == style.quote && !(style = .single && startsWith '\'' rest)

/-- Reads a quoted scalar after its opening quote, collecting it in reverse. Each round takes at
least one character. -/
def scan (style : Style) (acc : List Char) :
    (rounds : Nat) → List Cell → Except Error (List Char × List Cell)
  | 0, _ => .error (.malformed .quoteOpen)
  | _ + 1, [] => .error (.malformed .quoteOpen)
  | rounds + 1, c :: rest =>
    if isClosing style c rest then .ok (acc.reverse, rest)
    else
      match piece style c rest with
      | .error e => .error e
      | .ok (cs, rest) => scan style (cs.reverse ++ acc) rounds rest

end FailurePrompt.Yaml.Quoted
