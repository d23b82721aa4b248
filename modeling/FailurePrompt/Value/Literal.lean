import FailurePrompt.Value.Shortest
import FailurePrompt.Value.Basic
import FailurePrompt.Text.Quoted

/-!
# Values on a log line

A log line shows a value as a literal: texts are quoted, lists stand in brackets and maps in
braces. A text that cannot be misread on the line is shown bare. The main statement is that a
bare text is shown as it is.
-/

namespace FailurePrompt.Literal

mutual

/-- A value as a literal. -/
def text : Value → String
  | .null => "None"
  | .bool b => if b then "True" else "False"
  | .int n => toString n
  | .float x => floatText x
  | .text s => Text.quote s
  | .list items => "[" ++ joined items ++ "]"
  | .map entries => "\x7b" ++ joinedEntries entries ++ "\x7d"
  | .moment => "None"

/-- Items with commas between them. -/
def joined : List Value → String
  | [] => ""
  | [v] => text v
  | v :: vs => text v ++ ", " ++ joined vs

/-- Entries with commas between them. -/
def joinedEntries : List (String × Value) → String
  | [] => ""
  | [(k, v)] => Text.quote k ++ ": " ++ text v
  | (k, v) :: rest => Text.quote k ++ ": " ++ text v ++ ", " ++ joinedEntries rest

end

/-- A character that makes a bare text ambiguous on a line. -/
def isDelicate (c : Char) : Bool :=
  [' ', '\t', '=', '\r', '\n', '"', '\''].contains c

/-- A value as it is shown on a log line. -/
def shown : Value → String
  | .text s => if s.toList.any isDelicate then Text.quote s else s
  | v => text v

/-- A value where nothing can be misread: a text stands as it is. -/
def plain : Value → String
  | .text s => s
  | v => text v

/-- The word for the kind of a value. -/
def kind : Value → String
  | .null => "NoneType"
  | .bool _ => "bool"
  | .int _ => "int"
  | .float _ => "float"
  | .text _ => "str"
  | .list _ => "list"
  | .map _ => "dict"
  | .moment => "date"

/-- A text without delicate characters is shown as it is. -/
theorem shown_of_not_delicate {s : String} (h : s.toList.any isDelicate = false) :
    shown (.text s) = s := by
  simp [shown, h]

end FailurePrompt.Literal
