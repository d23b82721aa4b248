import FailurePrompt.Value.Number
import FailurePrompt.Value.Shortest
import FailurePrompt.Text.Quoted

/-!
# JSON

Values are read from JSON text and written as JSON text. The reader keeps the order of keys, lets
a repeated key take its last value, tells integers from decimals, and also takes the words `NaN`,
`Infinity` and `-Infinity`. Each reader of a part returns the text after it; the number of steps
is bounded by the length of the text, which every step shortens. The writer uses ASCII alone.
-/

namespace FailurePrompt.Json

/-- The white space of JSON. -/
def isSpace (c : Char) : Bool := c == ' ' || c == '\t' || c == '\n' || c == '\r'

/-- The text without leading white space. -/
def skipSpace (cs : List Char) : List Char := cs.dropWhile isSpace

/-- An ASCII digit, the only kind that JSON has. -/
def isDigit (c : Char) : Bool := '0' ≤ c && c ≤ '9'

/-! ### Numbers -/

/-- A sign of the exponent. -/
def exponentSign : List Char → Bool × List Char
  | '-' :: rest => (true, rest)
  | '+' :: rest => (false, rest)
  | cs => (false, cs)

/-- The exponent of a number, if it has one. -/
def exponent? : List Char → Option (Int × List Char)
  | c :: rest =>
    if c = 'e' ∨ c = 'E' then
      let (negative, rest) := exponentSign rest
      match rest.takeWhile isDigit with
      | [] => none
      | digits =>
        some (Number.signed negative (Number.natOfBase 10 digits), rest.dropWhile isDigit)
    else none
  | [] => none

/-- The fraction of a number, if it has one. -/
def fraction? : List Char → Option (List Char × List Char)
  | '.' :: rest =>
    match rest.takeWhile isDigit with
    | [] => none
    | digits => some (digits, rest.dropWhile isDigit)
  | _ => none

/-- The whole part of a number: a zero alone, or digits that begin with another one. -/
def whole? : List Char → Option (List Char × List Char)
  | '0' :: rest => some (['0'], rest)
  | cs =>
    match cs.takeWhile isDigit with
    | [] => none
    | digits => some (digits, cs.dropWhile isDigit)

/-- A number without its sign. An integer with too many digits is refused. -/
def number? (negative : Bool) (cs : List Char) : Option (Value × List Char) :=
  match whole? cs with
  | none => none
  | some (whole, rest) =>
    match fraction? rest, exponent? ((fraction? rest).elim rest Prod.snd) with
    | none, none =>
      if whole.length ≤ Text.Numeral.maxDigits then
        some (.int (Number.signed negative (Number.natOfBase 10 whole)), rest)
      else none
    | none, some (exponent, rest) =>
      some (.float (Number.floatOfParts negative whole [] exponent), rest)
    | some (fraction, rest), none =>
      some (.float (Number.floatOfParts negative whole fraction 0), rest)
    | some (fraction, _), some (exponent, rest) =>
      some (.float (Number.floatOfParts negative whole fraction exponent), rest)

/-! ### Strings -/

/-- The number that four hexadecimal digits denote. -/
def fourDigits? : List Char → Option (Nat × List Char)
  | a :: b :: c :: d :: rest =>
    if [a, b, c, d].all fun x => (Number.baseDigit? x).isSome then
      some (Number.natOfBase 16 [a, b, c, d], rest)
    else none
  | _ => none

/-- The character that an escape by a single letter stands for. -/
def shortEscape? : Char → Option Char
  | '"' => some '"'
  | '\\' => some '\\'
  | '/' => some '/'
  | 'b' => some '\x08'
  | 'f' => some '\x0C'
  | 'n' => some '\n'
  | 'r' => some '\r'
  | 't' => some '\t'
  | _ => none

/-- The character of a numbered escape, for which two of them are needed beyond 16 bits; a
surrogate without its partner becomes the replacement character. -/
def numberedEscape? (cs : List Char) : Option (Char × List Char) :=
  match fourDigits? cs with
  | none => none
  | some (u, rest) =>
    if 0xD800 ≤ u ∧ u < 0xDC00 then
      match rest with
      | '\\' :: 'u' :: rest' =>
        match fourDigits? rest' with
        | some (v, rest'') =>
          if 0xDC00 ≤ v ∧ v < 0xE000 then
            some (Char.ofNat (0x10000 + 1024 * (u - 0xD800) + (v - 0xDC00)), rest'')
          else some ('\uFFFD', rest)
        | none => some ('\uFFFD', rest)
      | _ => some ('\uFFFD', rest)
    else if 0xDC00 ≤ u ∧ u < 0xE000 then some ('\uFFFD', rest)
    else some (Char.ofNat u, rest)

/-- The rest of a string up to its closing quote, collected in reverse. Control characters must be
escaped. -/
def string? : (steps : Nat) → (acc : List Char) → List Char → Option (String × List Char)
  | 0, _, _ => none
  | _ + 1, _, [] => none
  | _ + 1, acc, '"' :: rest => some (String.ofList acc.reverse, rest)
  | steps + 1, acc, '\\' :: 'u' :: rest =>
    match numberedEscape? rest with
    | some (c, rest) => string? steps (c :: acc) rest
    | none => none
  | steps + 1, acc, '\\' :: letter :: rest =>
    match shortEscape? letter with
    | some c => string? steps (c :: acc) rest
    | none => none
  | steps + 1, acc, c :: rest =>
    if c.toNat < 0x20 ∨ c = '\\' then none else string? steps (c :: acc) rest

/-! ### Values -/

/-- The words that stand for values. -/
def words : List (String × Value) :=
  [("null", .null), ("true", .bool true), ("false", .bool false), ("NaN", .float (0.0 / 0.0)),
   ("Infinity", .float (1.0 / 0.0)), ("-Infinity", .float (-1.0 / 0.0))]

/-- A value that is a word. -/
def word? (cs : List Char) : Option (Value × List Char) :=
  words.findSome? fun (word, value) =>
    if word.toList.isPrefixOf cs then some (value, cs.drop word.length) else none

mutual

/-- A value, with white space around it skipped. -/
def value? : (steps : Nat) → List Char → Option (Value × List Char)
  | 0, _ => none
  | steps + 1, cs =>
    match skipSpace cs with
    | '"' :: rest => (string? steps [] rest).map fun (s, rest) => (.text s, rest)
    | '[' :: rest =>
      match skipSpace rest with
      | ']' :: rest => some (.list [], rest)
      | rest => (items? steps rest).map fun (items, rest) => (.list items, rest)
    | '\x7b' :: rest =>
      match skipSpace rest with
      | '\x7d' :: rest => some (.map [], rest)
      | rest => (entries? steps [] rest).map fun (entries, rest) => (.map entries, rest)
    | cs =>
      match word? cs with
      | some r => some r
      | none =>
        match cs with
        | '-' :: rest => number? true rest
        | cs => number? false cs

/-- The items of a list up to the closing bracket. -/
def items? : (steps : Nat) → List Char → Option (List Value × List Char)
  | 0, _ => none
  | steps + 1, cs =>
    match value? steps cs with
    | none => none
    | some (v, rest) =>
      match skipSpace rest with
      | ',' :: rest => (items? steps rest).map fun (vs, rest) => (v :: vs, rest)
      | ']' :: rest => some ([v], rest)
      | _ => none

/-- The entries of a map up to the closing brace, added to the ones read so far. -/
def entries? : (steps : Nat) → Entries → List Char → Option (Entries × List Char)
  | 0, _, _ => none
  | steps + 1, entries, cs =>
    match skipSpace cs with
    | '"' :: rest =>
      match string? steps [] rest with
      | none => none
      | some (key, rest) =>
        match skipSpace rest with
        | ':' :: rest =>
          match value? steps rest with
          | none => none
          | some (v, rest) =>
            match skipSpace rest with
            | ',' :: rest => entries? steps (entries.insert key v) rest
            | '\x7d' :: rest => some (entries.insert key v, rest)
            | _ => none
        | _ => none
    | _ => none

end

/-- Reads a text that is one JSON value and nothing else. -/
def read? (s : String) : Option Value :=
  let cs := s.toList
  match value? (2 * cs.length + 2) cs with
  | some (v, rest) => if skipSpace rest = [] then some v else none
  | none => none

/-- Why a text is not read as JSON. -/
inductive Fault
  | malformed
  /-- The lists and maps in the text are nested deeper than the reader follows. -/
  | tooDeep
  deriving Repr, DecidableEq

/-- A reader of JSON. -/
abbrev Reader := String → Except Fault Value

/-- Reads a text as JSON, however deep its values are nested. -/
def read : Reader := fun s =>
  match read? s with
  | some v => .ok v
  | none => .error .malformed

/-! ### Writing -/

/-- A 16-bit unit as a numbered escape. -/
def escapeUnit (u : Nat) : List Char := '\\' :: 'u' :: Text.hexDigits 4 u

/-- A character between quotes. -/
def escape (c : Char) : List Char :=
  if c = '"' then ['\\', '"']
  else if c = '\\' then ['\\', '\\']
  else if c = '\n' then ['\\', 'n']
  else if c = '\r' then ['\\', 'r']
  else if c = '\t' then ['\\', 't']
  else if c = '\x08' then ['\\', 'b']
  else if c = '\x0C' then ['\\', 'f']
  else if 0x20 ≤ c.toNat ∧ c.toNat < 0x7F then [c]
  else if c.toNat < 0x10000 then escapeUnit c.toNat
  else
    let n := c.toNat - 0x10000
    escapeUnit (0xD800 + n / 1024) ++ escapeUnit (0xDC00 + n % 1024)

/-- A string in quotes. -/
def writeString (s : String) : String :=
  String.ofList ('"' :: s.toList.flatMap escape ++ ['"'])

/-- A decimal; the words for what is no number are the ones that the reader takes. -/
def writeFloat (x : Float) : String :=
  if x.isNaN then "NaN"
  else if x.isInf then (if x < 0.0 then "-Infinity" else "Infinity")
  else floatText x

mutual

/-- A value as JSON text. -/
def write : Value → String
  | .null => "null"
  | .bool b => if b then "true" else "false"
  | .int n => toString n
  | .float x => writeFloat x
  | .text s => writeString s
  | .list items => "[" ++ writeItems items ++ "]"
  | .map entries => "\x7b" ++ writeEntries entries ++ "\x7d"
  | .moment => "null"

/-- Items with commas between them. -/
def writeItems : List Value → String
  | [] => ""
  | [v] => write v
  | v :: vs => write v ++ ", " ++ writeItems vs

/-- Entries with commas between them. -/
def writeEntries : List (String × Value) → String
  | [] => ""
  | [(k, v)] => writeString k ++ ": " ++ write v
  | (k, v) :: rest => writeString k ++ ": " ++ write v ++ ", " ++ writeEntries rest

end

end FailurePrompt.Json
