import FailurePrompt.Yaml.Error

/-!
# Tokens

The lexer turns a text into tokens, which make its structure explicit: indentation becomes the
beginning and the end of block collections, and a colon after a simple key becomes a key and a
value sign. Where the text is at fault, the tokens before stand all the same, and the fault comes
last: it matters only if the tokens before it can begin a document.
-/

namespace FailurePrompt.Yaml

/-- A directive before a document. Only the number of the format version is looked at. -/
inductive Directive
  | version (major : Nat)
  | reserved
  deriving Repr, DecidableEq

/-- A token of a text. -/
inductive Token
  | documentStart
  | documentEnd
  | directive (d : Directive)
  | blockSequenceStart
  | blockMappingStart
  | blockEnd
  | blockEntry
  | flowSequenceStart
  | flowSequenceEnd
  | flowMappingStart
  | flowMappingEnd
  | flowEntry
  | key
  | value
  /-- A scalar, which is plain or not. -/
  | scalar (plain : Bool) (chars : List Char)
  /-- The place where no token could be found. -/
  | fault (e : Error)
  deriving Repr, DecidableEq

end FailurePrompt.Yaml
