import FailurePrompt.CommandLine.Options

/-!
# Help on a command line

The help of a command shows how it is called, and lists its commands and options with a few words
on each. Both are fitted into a fixed width: words go on a line as long as there is room, and the
explanations stand in a column of their own. The main statement, `flatten_fill`, is that filling
lines neither loses nor reorders words.
-/

namespace FailurePrompt.Help

/-- The width that texts are fitted into. -/
def width : Nat := 78

/-- The column in which explanations begin. -/
def explanationColumn : Nat := 24

/-- A number of spaces. -/
def spaces (n : Nat) : String := String.ofList (List.replicate n ' ')

/-! ### Filling lines -/

/-- Puts words on lines. `line` holds the words of the current line in reverse, which with the
space after each of them reach up to `column`; later lines begin at `start`. -/
def fill (limit start : Nat) : (column : Nat) → (line words : List String) → List (List String)
  | _, line, [] => [line.reverse]
  | column, line, word :: rest =>
    if limit < column + word.length ∧ line ≠ [] then
      line.reverse :: fill limit start (start + word.length + 1) [word] rest
    else fill limit start (column + word.length + 1) (word :: line) rest

/-- The words on the lines are the given ones in their order. -/
theorem flatten_fill (limit start column : Nat) (line words : List String) :
    (fill limit start column line words).flatten = line.reverse ++ words := by
  induction words generalizing column line with
  | nil => simp [fill]
  | cons word rest ih =>
    rw [fill]
    split <;> simp [ih]

/-- Words with a space between them. -/
def joined (words : List String) : String := String.intercalate " " words

/-- Texts as lines, each with its line end. -/
def lines (texts : List String) : String := String.join (texts.map (· ++ "\n"))

/-! ### How a command is called -/

/-- What stands before the call. -/
def callStart : String := "usage: "

/-- An option in a call: optional ones stand in brackets. -/
def inCall (spec : OptionSpec) : String :=
  let name := spec.names.headD ""
  let call := if spec.hasValue then s!"{name} {spec.valueName}" else name
  if spec.required then call else s!"[{call}]"

/-- Lines of words, of which all but the first are indented. -/
def indented (indent : Nat) : List (List String) → List String
  | [] => []
  | first :: later => joined first :: later.map fun line => spaces indent ++ joined line

/-- How a command is called, with its options and what follows them. Where not everything fits on
one line, what follows the options has lines of its own. -/
def call (name : String) (specs : List OptionSpec) (operands : List String) : String :=
  let options := specs.map inCall
  let whole := callStart ++ joined (name :: options ++ operands)
  if whole.length ≤ width then lines [whole]
  else
    let indent := callStart.length + name.length + 1
    let first := fill width indent callStart.length [] (name :: options)
    let last := if operands = [] then [] else fill width indent indent [] operands
    callStart ++ lines (indented indent (first ++ last))

/-! ### Lists of commands and options -/

/-- Something listed, with an explanation, which may be empty. -/
structure Item where
  indent : Nat := 2
  name : String
  explanation : String := ""

/-- How an option is listed: each of its names with its value. -/
def Item.ofOption (spec : OptionSpec) : Item :=
  let named := fun name => if spec.hasValue then s!"{name} {spec.valueName}" else name
  { name := String.intercalate ", " (spec.names.map named), explanation := spec.explanation }

/-- The lines of an explanation. -/
def explanationLines (text : String) : List String :=
  (fill (width - explanationColumn) 0 0 [] (text.splitOn " ")).map joined

/-- The lines of something listed. A name that does not fit in front of its explanation has a line
of its own. -/
def Item.lines (item : Item) : List String :=
  let name := spaces item.indent ++ item.name
  let indent := spaces explanationColumn
  match item.explanation, explanationLines item.explanation with
  | "", _ | _, [] => [name]
  | _, first :: later =>
    let rest := later.map (indent ++ ·)
    if name.length + 2 ≤ explanationColumn then
      (name ++ spaces (explanationColumn - name.length) ++ first) :: rest
    else name :: (indent ++ first) :: rest

/-- A list under a title. -/
def titled (title : String) (items : List Item) : List String :=
  s!"{title}:" :: items.flatMap Item.lines

end FailurePrompt.Help
