import FailurePrompt.Yaml.Error
import FailurePrompt.Yaml.Token

/-!
# Nodes

The tokens of a document form a tree of scalars, sequences and mappings. Where a key or a value is
left out, an empty plain scalar takes its place. A sequence that is the value of a key may stand
at the column of the key, so it has no tokens of its own for its beginning and end.
-/

namespace FailurePrompt.Yaml

/-- A part of a document. -/
inductive Node
  | scalar (plain : Bool) (chars : List Char)
  | sequence (items : List Node)
  | mapping (entries : List (Node × Node))

namespace Node

/-- What stands for a node that is left out. -/
def empty : Node := .scalar true []

/-- Where a node stands, which decides how it may be written. -/
inductive Setting
  /-- Within brackets. -/
  | flow
  /-- As an entry of a block sequence, or as the whole document. -/
  | block
  /-- As a key or a value of a block mapping. -/
  | blockPair
  deriving Repr, DecidableEq

/-- The next token is one of those before which a node was left out. -/
def isLeftOut (stops : List Token) (ts : List Token) : Bool :=
  ts.head?.any (stops.contains ·)

/-- A part of a tree and the tokens after it. -/
abbrev Parsed (α : Type) := Except Error (α × List Token)

/-- The error for tokens that cannot stand here. -/
def misplaced : List Token → Error
  | .fault e :: _ => e
  | _ => .malformed .unexpectedToken

/-- What comes of tokens that cannot stand here. -/
def unexpected {α : Type} (ts : List Token) : Parsed α := .error (misplaced ts)

/-- The tokens after the comma before an entry; the first entry has none. -/
def entryStart (isFirst : Bool) (ts : List Token) : Except Error (List Token) :=
  if isFirst then .ok ts
  else
    match ts with
    | .flowEntry :: rest => .ok rest
    | _ => .error (misplaced ts)

mutual

/-- A node. The number of steps bounds the depth of the reading, and every second step takes a
token. -/
def parse : (steps : Nat) → Setting → List Token → Parsed Node
  | 0, _, ts => unexpected ts
  | steps + 1, setting, ts =>
    match ts with
    | .scalar plain chars :: rest => .ok (.scalar plain chars, rest)
    | .flowSequenceStart :: rest =>
      (flowItems steps true rest).map fun (items, rest) => (.sequence items, rest)
    | .flowMappingStart :: rest =>
      (flowPairs steps true rest).map fun (pairs, rest) => (.mapping pairs, rest)
    | .blockSequenceStart :: rest =>
      if setting = .flow then unexpected ts
      else (blockItems steps true rest).map fun (items, rest) => (.sequence items, rest)
    | .blockMappingStart :: rest =>
      if setting = .flow then unexpected ts
      else (blockPairs steps rest).map fun (pairs, rest) => (.mapping pairs, rest)
    | .blockEntry :: _ =>
      if setting = .blockPair then
        (blockItems steps false ts).map fun (items, rest) => (.sequence items, rest)
      else unexpected ts
    | _ => unexpected ts

/-- A node that may be left out before some tokens. -/
def parseOptional : (steps : Nat) → Setting → List Token → List Token → Parsed Node
  | 0, _, _, ts => unexpected ts
  | steps + 1, setting, stops, ts =>
    if isLeftOut stops ts then .ok (.empty, ts) else parse steps setting ts

/-- The items of a block sequence. A sequence with an indentation of its own is closed by a token,
one without ends where no further item follows. -/
def blockItems : (steps : Nat) → (indented : Bool) → List Token → Parsed (List Node)
  | 0, _, ts => unexpected ts
  | steps + 1, indented, ts =>
    match ts with
    | .blockEntry :: rest =>
      let stops :=
        if indented then [Token.blockEntry, .blockEnd]
        else [.blockEntry, .key, .value, .blockEnd]
      match parseOptional steps .block stops rest with
      | .error e => .error e
      | .ok (item, rest) =>
        (blockItems steps indented rest).map fun (items, rest) => (item :: items, rest)
    | .blockEnd :: rest => .ok ([], if indented then rest else ts)
    | _ => if indented then unexpected ts else .ok ([], ts)

/-- The pairs of a block mapping up to the token that closes it. -/
def blockPairs : (steps : Nat) → List Token → Parsed (List (Node × Node))
  | 0, ts => unexpected ts
  | steps + 1, ts =>
    match ts with
    | .key :: rest =>
      match parseOptional steps .blockPair [.key, .value, .blockEnd] rest with
      | .error e => .error e
      | .ok (key, rest) =>
        match pairValue steps .blockPair [.key, .value, .blockEnd] rest with
        | .error e => .error e
        | .ok (value, rest) =>
          (blockPairs steps rest).map fun (pairs, rest) => ((key, value) :: pairs, rest)
    | .blockEnd :: rest => .ok ([], rest)
    | _ => unexpected ts

/-- The value of a pair whose key has been read. -/
def pairValue : (steps : Nat) → Setting → List Token → List Token → Parsed Node
  | 0, _, _, ts => unexpected ts
  | steps + 1, setting, stops, ts =>
    match ts with
    | .value :: rest => parseOptional steps setting stops rest
    | _ => .ok (.empty, ts)

/-- The items of a sequence in brackets. An item may be a single pair without braces. -/
def flowItems : (steps : Nat) → (isFirst : Bool) → List Token → Parsed (List Node)
  | 0, _, ts => unexpected ts
  | _ + 1, _, .flowSequenceEnd :: rest => .ok ([], rest)
  | steps + 1, isFirst, ts =>
    match entryStart isFirst ts with
    | .error e => .error e
    | .ok (.flowSequenceEnd :: rest) => .ok ([], rest)
    | .ok (.key :: rest) =>
      match parseOptional steps .flow [.value, .flowEntry, .flowSequenceEnd] rest with
      | .error e => .error e
      | .ok (key, rest) =>
        match pairValue steps .flow [.flowEntry, .flowSequenceEnd] rest with
        | .error e => .error e
        | .ok (value, rest) =>
          (flowItems steps false rest).map fun (items, rest) =>
            (.mapping [(key, value)] :: items, rest)
    | .ok ts =>
      match parse steps .flow ts with
      | .error e => .error e
      | .ok (item, rest) =>
        (flowItems steps false rest).map fun (items, rest) => (item :: items, rest)

/-- The pairs of a mapping in braces. A key may stand alone. -/
def flowPairs : (steps : Nat) → (isFirst : Bool) → List Token → Parsed (List (Node × Node))
  | 0, _, ts => unexpected ts
  | _ + 1, _, .flowMappingEnd :: rest => .ok ([], rest)
  | steps + 1, isFirst, ts =>
    match entryStart isFirst ts with
    | .error e => .error e
    | .ok (.flowMappingEnd :: rest) => .ok ([], rest)
    | .ok (.key :: rest) =>
      match parseOptional steps .flow [.value, .flowEntry, .flowMappingEnd] rest with
      | .error e => .error e
      | .ok (key, rest) =>
        match pairValue steps .flow [.flowEntry, .flowMappingEnd] rest with
        | .error e => .error e
        | .ok (value, rest) =>
          (flowPairs steps false rest).map fun (pairs, rest) => ((key, value) :: pairs, rest)
    | .ok ts =>
      match parse steps .flow ts with
      | .error e => .error e
      | .ok (key, rest) =>
        (flowPairs steps false rest).map fun (pairs, rest) => ((key, .empty) :: pairs, rest)

end

/-! ### Documents -/

/-- The tokens after the directives before a document. The format version may be given once, and
its first number must be one. -/
def afterDirectives (versionSeen : Bool) : List Token → Except Error (List Token)
  | .directive (.version major) :: rest =>
    if versionSeen ∨ major ≠ 1 then .error (.malformed .directive) else afterDirectives true rest
  | .directive .reserved :: rest => afterDirectives versionSeen rest
  | ts => .ok ts

/-- The next token is a document marker or a directive, or there is none. -/
def isDocumentEdge : List Token → Bool
  | [] | .directive _ :: _ | .documentStart :: _ | .documentEnd :: _ => true
  | _ => false

/-- The whole document within some tokens, if there is one. -/
def document (ts : List Token) : Except Error (Option Node) :=
  let steps := 3 * ts.length + 3
  let parsed : Parsed (Option Node) :=
    match ts with
    | [] => .ok (none, [])
    | .documentStart :: _ | .directive _ :: _ =>
      match afterDirectives false ts with
      | .error e => .error e
      | .ok (.documentStart :: rest) =>
        if isDocumentEdge rest then .ok (some .empty, rest)
        else (parse steps .block rest).map fun (node, rest) => (some node, rest)
      | .ok ts => unexpected ts
    | _ => (parse steps .block ts).map fun (node, rest) => (some node, rest)
  match parsed with
  | .error e => .error e
  | .ok (node, rest) =>
    match rest.dropWhile (· = .documentEnd) with
    | [] => .ok node
    | .fault e :: _ => .error e
    | _ => .error (.malformed .secondDocument)

end Node

end FailurePrompt.Yaml
