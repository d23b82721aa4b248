import FailurePrompt.Yaml.Scalar.Block
import FailurePrompt.Yaml.Scalar.Plain
import FailurePrompt.Yaml.Scalar.Quoted
import FailurePrompt.Yaml.Token

/-!
# The lexer

The lexer goes through the cells of a text from left to right. It remembers the columns of the
open block collections, and on each level of brackets the place of a token that may turn out to be
a key: only the colon after it decides that, so the key sign is put in front of that token
afterwards. Such a simple key must stand on one line and be followed by its colon within a bounded
distance.
-/

namespace FailurePrompt.Yaml

/-- A token that is a key if a colon follows. -/
structure PossibleKey where
  /-- The number of tokens before it. -/
  position : Nat
  /-- It begins a line of a block mapping, so it can be nothing else. -/
  required : Bool
  place : Place
  deriving Repr, DecidableEq

/-- The memory of the lexer. -/
structure Lexer where
  /-- The tokens found so far, the last one first. -/
  tokens : List Token := []
  /-- The number of those tokens. -/
  count : Nat := 0
  /-- The columns of the open block collections, the innermost first. -/
  columns : List Nat := []
  /-- The possible key on the current level of brackets. -/
  key : Option PossibleKey := none
  /-- The possible keys on the levels around it, the nearest first. -/
  outerKeys : List (Option PossibleKey) := []
  /-- A simple key may begin here. -/
  keyAllowed : Bool := true
  deriving Repr, DecidableEq

namespace Lexer

/-- The lexer is within brackets. -/
def inFlow (lx : Lexer) : Bool := !lx.outerKeys.isEmpty

/-- The column that the lines of a nested block must reach. -/
def innerColumn (lx : Lexer) : Nat :=
  (lx.columns.head?.map (· + 1)).getD 0

/-- The lexer after a token. -/
def push (lx : Lexer) (t : Token) : Lexer :=
  { lx with tokens := t :: lx.tokens, count := lx.count + 1 }

/-- The lexer with a token put in at a position. -/
def insertAt (lx : Lexer) (position : Nat) (t : Token) : Lexer :=
  -- The list is in reverse, so the tokens after the position come first in it.
  let later := lx.count - position
  { lx with
    tokens := lx.tokens.take later ++ t :: lx.tokens.drop later
    count := lx.count + 1 }

/-- The lexer with simple keys allowed or not. -/
def allowKey (lx : Lexer) (allowed : Bool) : Lexer := { lx with keyAllowed := allowed }

/-! ### Possible keys -/

/-- The longest distance between a simple key and its colon. -/
def maxKeyLength : Nat := 1024

/-- A possible key can no longer be followed by its colon. -/
def isStale (place : Place) (k : PossibleKey) : Bool :=
  k.place.line ≠ place.line || maxKeyLength < place.index - k.place.index

/-- The possible key of a level as long as it is not stale. -/
def fresh (place : Place) : Option PossibleKey → Except Error (Option PossibleKey)
  | none => .ok none
  | some k =>
    if isStale place k then
      if k.required then .error (.malformed .colonMissing) else .ok none
    else .ok (some k)

/-- Forgets the possible keys that are stale at a place. -/
def dropStale (lx : Lexer) (place : Place) : Except Error Lexer :=
  match fresh place lx.key, lx.outerKeys.mapM (fresh place) with
  | .ok key, .ok outerKeys => .ok { lx with key := key, outerKeys := outerKeys }
  | .error e, _ => .error e
  | _, .error e => .error e

/-- Forgets the possible key of the current level, which must not be a required one. -/
def dropKey (lx : Lexer) : Except Error Lexer :=
  if lx.key.any (·.required) then .error (.malformed .colonMissing)
  else .ok { lx with key := none }

/-- Remembers that the next token, at the given place, may be a key. -/
def saveKey (lx : Lexer) (place : Place) : Except Error Lexer :=
  if lx.keyAllowed then
    let required := !lx.inFlow && lx.columns.head? = some place.column
    lx.dropKey.map fun lx => { lx with key := some ⟨lx.count, required, place⟩ }
  else .ok lx

/-! ### Indentation -/

/-- Closes the block collections that stand to the right of a column. -/
def closeBlocks (lx : Lexer) (closes : Nat → Bool) : Lexer :=
  (lx.columns.takeWhile closes).foldl (fun lx _ => lx.push .blockEnd)
    { lx with columns := lx.columns.dropWhile closes }

/-- Closes the blocks that end before a line which begins at a column. -/
def unwind (lx : Lexer) (column : Nat) : Lexer :=
  if lx.inFlow then lx else lx.closeBlocks (column < ·)

/-- Closes all blocks. -/
def unwindAll (lx : Lexer) : Lexer :=
  if lx.inFlow then lx else lx.closeBlocks fun _ => true

/-- A collection at a column would be nested in the block around it. -/
def isDeeper (lx : Lexer) (column : Nat) : Bool :=
  lx.columns.head?.all (· < column)

/-- Opens a block collection at a column if it is nested; its sign is put in at a position. -/
def openBlock (lx : Lexer) (column position : Nat) (t : Token) : Lexer :=
  if lx.isDeeper column then
    { lx with columns := column :: lx.columns }.insertAt position t
  else lx

/-! ### Tokens of one kind -/

/-- A result of the lexer: its memory and the cells that are left. -/
abbrev Step := Except Error (Lexer × List Cell)

/-- A document marker of three characters. -/
def documentMarker (lx : Lexer) (t : Token) (cs : List Cell) : Step :=
  lx.unwindAll.dropKey.map fun lx => ((lx.allowKey false).push t, cs.drop 3)

/-- An opening bracket, which may begin a simple key. -/
def flowStart (lx : Lexer) (t : Token) (place : Place) (rest : List Cell) : Step :=
  (lx.saveKey place).map fun lx =>
    ({ (lx.push t) with
        key := none, outerKeys := lx.key :: lx.outerKeys, keyAllowed := true }, rest)

/-- A closing bracket. -/
def flowEnd (lx : Lexer) (t : Token) (rest : List Cell) : Step :=
  match lx.dropKey, lx.outerKeys with
  | .error e, _ => .error e
  | .ok _, [] => .error (.malformed .unexpectedToken)
  | .ok lx, key :: outer =>
    .ok ({ (lx.push t) with key := key, outerKeys := outer, keyAllowed := false }, rest)

/-- A comma between the entries of a flow collection. -/
def flowEntry (lx : Lexer) (rest : List Cell) : Step :=
  lx.dropKey.map fun lx => ((lx.allowKey true).push .flowEntry, rest)

/-- A hyphen before an entry. -/
def blockEntry (lx : Lexer) (place : Place) (rest : List Cell) : Step :=
  if !lx.inFlow && !lx.keyAllowed then .error (.malformed .entryMisplaced)
  else
    let opened :=
      if lx.inFlow then lx else lx.openBlock place.column lx.count .blockSequenceStart
    opened.dropKey.map fun lx => ((lx.allowKey true).push .blockEntry, rest)

/-- A question mark before a key that need not be simple. -/
def explicitKey (lx : Lexer) (place : Place) (rest : List Cell) : Step :=
  if !lx.inFlow && !lx.keyAllowed then .error (.malformed .keyMisplaced)
  else
    let opened :=
      if lx.inFlow then lx else lx.openBlock place.column lx.count .blockMappingStart
    opened.dropKey.map fun lx => ((lx.allowKey (!lx.inFlow)).push .key, rest)

/-- A colon after a simple key: the key sign is put in front of the key, and a sign for the
mapping in front of that if the key is the first one. -/
def valueAfterKey (lx : Lexer) (k : PossibleKey) (rest : List Cell) : Step :=
  let marked := { lx with key := none }.insertAt k.position .key
  let opened :=
    if lx.inFlow then marked
    else marked.openBlock k.place.column k.position .blockMappingStart
  .ok ((opened.allowKey false).push .value, rest)

/-- A colon without a simple key before it. -/
def bareValue (lx : Lexer) (place : Place) (rest : List Cell) : Step :=
  if !lx.inFlow && !lx.keyAllowed then .error (.malformed .valueMisplaced)
  else
    let opened :=
      if lx.inFlow then lx else lx.openBlock place.column lx.count .blockMappingStart
    (opened.allowKey (!lx.inFlow)).dropKey.map fun lx => (lx.push .value, rest)

/-- A colon. -/
def value (lx : Lexer) (place : Place) (rest : List Cell) : Step :=
  match lx.key with
  | some k => lx.valueAfterKey k rest
  | none => lx.bareValue place rest

/-- A block scalar after the sign that announces it. -/
def blockScalar (lx : Lexer) (fold : Bool) (rest : List Cell) : Step :=
  match (lx.allowKey true).dropKey, Block.scan fold lx.innerColumn rest with
  | .error e, _ => .error e
  | .ok _, .error e => .error e
  | .ok lx, .ok (chars, rest) => .ok (lx.push (.scalar false chars), rest)

/-- A quoted scalar after its opening quote. -/
def quotedScalar (lx : Lexer) (style : Quoted.Style) (place : Place) (rest : List Cell) : Step :=
  match lx.saveKey place, Quoted.scan style [] rest.length rest with
  | .error e, _ => .error e
  | .ok _, .error e => .error e
  | .ok lx, .ok (chars, rest) => .ok ((lx.allowKey false).push (.scalar false chars), rest)

/-- A plain scalar. -/
def plainScalar (lx : Lexer) (place : Place) (cs : List Cell) : Step :=
  (lx.saveKey place).map fun lx =>
    let scanned := Plain.scan lx.inFlow lx.innerColumn cs.length cs
    ((lx.allowKey scanned.broken).push (.scalar true scanned.chars), scanned.rest)

/-! ### Directives -/

/-- A character of the name of a directive. -/
def isDirectiveChar (c : Char) : Bool := c.isAlphanum || c == '-' || c == '_'

/-- The end of a directive, where only spaces and a comment may stand. -/
def directiveEnd (d : Directive) (cs : List Cell) : Except Error (Directive × List Cell) :=
  let atEnd := dropComment (cs.dropWhile (·.char == ' '))
  if endsOr isBreak atEnd then .ok (d, atEnd.drop 1) else .error (.malformed .directive)

/-- The number of the format version: digits, a point and digits. -/
def version (cs : List Cell) : Except Error (Directive × List Cell) :=
  let isDigit : Cell → Bool := (·.char.isDigit)
  let major := cs.takeWhile isDigit
  let behind := cs.dropWhile isDigit
  let minor := (behind.drop 1).takeWhile isDigit
  let rest := (behind.drop 1).dropWhile isDigit
  if major ≠ [] ∧ startsWith '.' behind ∧ minor ≠ [] ∧
      endsOr (fun c => c == ' ' || isBreak c) rest then
    directiveEnd (.version (Number.natOfBase 10 (major.map Cell.char))) rest
  else .error (.malformed .directive)

/-- A directive after its sign. -/
def directive (cs : List Cell) : Except Error (Directive × List Cell) :=
  let name := (cs.takeWhile (isDirectiveChar ·.char)).map Cell.char
  let rest := cs.dropWhile (isDirectiveChar ·.char)
  if name = [] ∨ !endsOr (fun c => c == ' ' || isBreak c) rest then
    .error (.malformed .directive)
  else if String.ofList name = "YAML" then version (rest.dropWhile (·.char == ' '))
  else if String.ofList name = "TAG" then .error (.malformed (.unsupported '%'))
  else directiveEnd .reserved (rest.dropWhile (!isBreak ·.char))

/-- A directive before a document. -/
def directiveToken (lx : Lexer) (rest : List Cell) : Step :=
  match lx.unwindAll.dropKey, directive rest with
  | .error e, _ => .error e
  | .ok _, .error e => .error e
  | .ok lx, .ok (d, rest) => .ok ((lx.allowKey false).push (.directive d), rest)

/-! ### All tokens -/

/-- A character that cannot begin a plain scalar, whatever follows. -/
def isIndicator (c : Char) : Bool :=
  ['-', '?', ':', ',', '[', ']', '\x7b', '\x7d', '#', '&', '*', '!', '|', '>', '\'', '"', '%',
    '@', '\x60'].contains c

/-- A plain scalar begins here. Some indicators may begin one if something is attached to them. -/
def beginsPlain (lx : Lexer) (c : Char) (rest : List Cell) : Bool :=
  (!isGap c && !isIndicator c) ||
    (!endsOr isGap rest && (c == '-' || (!lx.inFlow && (c == '?' || c == ':'))))

/-- The token that begins at a cell. -/
def token (lx : Lexer) (c : Cell) (rest : List Cell) : Step :=
  let atLineStart := c.place.column = 0
  let detached := endsOr isGap rest
  match c.char with
  | '[' => lx.flowStart .flowSequenceStart c.place rest
  | '\x7b' => lx.flowStart .flowMappingStart c.place rest
  | ']' => lx.flowEnd .flowSequenceEnd rest
  | '\x7d' => lx.flowEnd .flowMappingEnd rest
  | ',' => lx.flowEntry rest
  | '*' => .error (.malformed (.unsupported '*'))
  | '&' => .error (.malformed (.unsupported '&'))
  | '!' => .error (.malformed (.unsupported '!'))
  | '\'' => lx.quotedScalar .single c.place rest
  | '"' => lx.quotedScalar .double c.place rest
  | char =>
    if char = '%' ∧ atLineStart then lx.directiveToken rest
    else if char = '-' ∧ atLineStart ∧ startsWithMarker (c :: rest) then
      lx.documentMarker .documentStart (c :: rest)
    else if char = '.' ∧ atLineStart ∧ startsWithMarker (c :: rest) then
      lx.documentMarker .documentEnd (c :: rest)
    else if char = '-' ∧ detached then lx.blockEntry c.place rest
    else if char = '?' ∧ (lx.inFlow ∨ detached) then lx.explicitKey c.place rest
    else if char = ':' ∧ (lx.inFlow ∨ detached) then lx.value c.place rest
    else if char = '|' ∧ !lx.inFlow then lx.blockScalar false rest
    else if char = '>' ∧ !lx.inFlow then lx.blockScalar true rest
    else if lx.beginsPlain char rest then lx.plainScalar c.place (c :: rest)
    else .error (.malformed (.strayCharacter char))

/-- Skips spaces, comments and line ends, and tells whether there was a line end. -/
def skipGap (inComment : Bool) : List Cell → Bool × List Cell
  | [] => (false, [])
  | c :: rest =>
    if isBreak c.char then (true, (skipGap false rest).2)
    else if inComment || c.char == '#' then skipGap true rest
    else if c.char = ' ' then skipGap false rest
    else (false, c :: rest)

/-- The tokens for which it is settled whether a key sign comes before them. -/
def settled (lx : Lexer) : List Token :=
  let positions := (lx.key :: lx.outerKeys).filterMap fun k => k.map (·.position)
  lx.tokens.reverse.take (positions.foldl min lx.count)

/-- The tokens of a text that is at fault. -/
def failed (lx : Lexer) (e : Error) : List Token := lx.settled ++ [.fault e]

/-- Reads tokens up to the end of the text or to a fault. Every round takes at least one cell. -/
def run : (rounds : Nat) → Lexer → List Cell → List Token
  | 0, lx, _ => lx.failed (.malformed .unexpectedToken)
  | rounds + 1, lx, cs =>
    let (broken, cs) := skipGap false cs
    -- Within brackets a line end says nothing about keys.
    let lx := if broken && !lx.inFlow then lx.allowKey true else lx
    match cs with
    | [] =>
      match lx.unwindAll.dropKey with
      | .error e => lx.failed e
      | .ok lx => lx.tokens.reverse
    | c :: rest =>
      match lx.dropStale c.place with
      | .error e => lx.failed e
      | .ok lx =>
        let lx := lx.unwind c.place.column
        match lx.token c rest with
        | .error e => lx.failed e
        | .ok (lx, rest) => run rounds lx rest

end Lexer

/-- The tokens of a text, which may not hold forbidden characters. -/
def tokens (text : List Char) : Except Error (List Token) :=
  (cellsOfText text).map fun cs => Lexer.run (cs.length + 1) {} cs

end FailurePrompt.Yaml
