import FailurePrompt.Yaml.Node
import FailurePrompt.Yaml.Scalar.Meaning
import FailurePrompt.Yaml.Token.Lexer

/-!
# Documents

A YAML text holds at most one document here. Its value is made of its nodes: scalars by their
meaning, sequences as lists, mappings as maps in which a repeated key takes its last value. Keys
that are no texts are left out of the maps, but for the outermost one: a mapping with such a key
is a document of its own kind, since settings refuse it. Of several errors the outermost is
reported, and of those at one depth the first.
-/

namespace FailurePrompt.Yaml

namespace Node

/-- The text of a key; nothing for a scalar of another kind. -/
def keyText : Node → Except Error (Option String)
  | .scalar plain chars =>
    if plain && chars = ['='] then .ok (some "=")
    else
      match Scalar.meaning plain chars with
      | .error e => .error e
      | .ok (.text s) => .ok (some s)
      | .ok _ => .ok none
  | _ => .error (.malformed .compoundKey)

mutual

/-- The value of a node. -/
def value : Node → Except Error Value
  | .scalar plain chars => Scalar.meaning plain chars
  | .sequence items => (values items).map .list
  | .mapping entries => (entryValues [] entries).map .map

/-- The values of some nodes. -/
def values : List Node → Except Error (List Value)
  | [] => .ok []
  | item :: rest =>
    match item.value with
    | .error e => .error e
    | .ok v => (values rest).map (v :: ·)

/-- The entries of a map, added to the ones before them. -/
def entryValues (before : Entries) : List (Node × Node) → Except Error Entries
  | [] => .ok before
  | (key, v) :: rest =>
    match key.keyText, v.value with
    | .error e, _ => .error e
    | .ok _, .error e => .error e
    | .ok none, .ok _ => entryValues before rest
    | .ok (some k), .ok v => entryValues (before.insert k v) rest

end

/-! ### Errors by depth -/

/-- Errors listed by depth, joined depth by depth. -/
def joinDepths : List (List Error) → List (List Error) → List (List Error)
  | [], bs => bs
  | as, [] => as
  | a :: as, b :: bs => (a ++ b) :: joinDepths as bs

/-- The errors of something that is at the least depth. -/
def errorsAtTop {α : Type} : Except Error α → List (List Error)
  | .error e => [[e]]
  | .ok _ => []

mutual

/-- The errors in a node by their depth. The content of a collection lies deeper than the
collection itself. -/
def errors : Node → List (List Error)
  | .scalar plain chars => errorsAtTop (Scalar.meaning plain chars)
  | .sequence items => [] :: itemErrors items
  | .mapping entries => [] :: entryErrors entries

/-- The errors in some nodes by their depth. -/
def itemErrors : List Node → List (List Error)
  | [] => []
  | item :: rest => joinDepths item.errors (itemErrors rest)

/-- The errors in keys and values by their depth. -/
def entryErrors : List (Node × Node) → List (List Error)
  | [] => []
  | (key, v) :: rest =>
    joinDepths (errorsAtTop key.keyText) (joinDepths v.errors (entryErrors rest))

end

/-- The error that is reported for a node: the first of the outermost ones. -/
def firstError? (node : Node) : Option Error := node.errors.flatten.head?

/-- The node is a mapping with a key that is no text. -/
def hasForeignKey : Node → Bool
  | .mapping entries => entries.any fun e => e.1.keyText.toOption = some none
  | _ => false

end Node

/-- What a text holds. -/
inductive Document
  | value (v : Value)
  /-- A mapping with a key that is no text. -/
  | foreignKeyed

/-- The document in a text; a text without one holds null. -/
def read (text : String) : Except Error Document :=
  match (tokens text.toList).bind Node.document with
  | .error e => .error e
  | .ok none => .ok (.value .null)
  | .ok (some node) =>
    match node.firstError? with
    | some e => .error e
    | none => node.value.map fun v => if node.hasForeignKey then .foreignKeyed else .value v

end FailurePrompt.Yaml
