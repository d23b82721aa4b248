import FailurePrompt.Text.Quoted

/-!
# Checks and what they complain about

A check reads something, or lists what is wrong with it, each complaint with the place inside the
settings that it is about. Where several things are read all of them are checked, so that a user
sees every mistake at once. The main statement, `Checked.both_eq_ok_iff`, says when a combination
of checks succeeds.
-/

namespace FailurePrompt

/-- A step on the way to a value inside the settings. -/
inductive Step
  | field (name : String)
  | index (i : Nat)
  deriving Repr, DecidableEq

/-- What is wrong with a value. -/
inductive Complaint
  | notBoolean
  | unclearBoolean
  | notString
  | notPath
  | notInteger
  | unclearInteger
  | overlongInteger
  | fractionalInteger
  | infiniteInteger
  | belowOne
  | aboveFifty
  | notList
  | badDirectory (name : String)
  | notSection (kind : String)
  | notAmong (choices : List String)
  | unknownName
  deriving Repr, DecidableEq

namespace Complaint

/-- The code of a complaint. -/
def code : Complaint → String
  | .notBoolean => "bool_type"
  | .unclearBoolean => "bool_parsing"
  | .notString => "string_type"
  | .notPath => "path_type"
  | .notInteger => "int_type"
  | .unclearInteger => "int_parsing"
  | .overlongInteger => "int_parsing_size"
  | .fractionalInteger => "int_from_float"
  | .infiniteInteger => "finite_number"
  | .belowOne => "greater_than_equal"
  | .aboveFifty => "less_than_equal"
  | .notList => "list_type"
  | .badDirectory _ => "value_error"
  | .notSection _ => "model_type"
  | .notAmong _ => "literal_error"
  | .unknownName => "extra_forbidden"

/-- A list of choices in words. -/
def alternatives : List String → String
  | [] => ""
  | [a] => a
  | [a, b] => s!"{a} or {b}"
  | a :: rest => s!"{a}, {alternatives rest}"

/-- The wording of a complaint. -/
def message : Complaint → String
  | .notBoolean => "Input should be a valid boolean"
  | .unclearBoolean => "Input should be a valid boolean, unable to interpret input"
  | .notString => "Input should be a valid string"
  | .notPath => "Input is not a valid path for <class 'pathlib.Path'>"
  | .notInteger => "Input should be a valid integer"
  | .unclearInteger =>
    "Input should be a valid integer, unable to parse string as an integer"
  | .overlongInteger => "Unable to parse input string as an integer, exceeded maximum size"
  | .fractionalInteger =>
    "Input should be a valid integer, got a number with a fractional part"
  | .infiniteInteger => "Input should be a finite number"
  | .belowOne => "Input should be greater than or equal to 1"
  | .aboveFifty => "Input should be less than or equal to 50"
  | .notList => "Input should be a valid list"
  | .badDirectory name =>
    s!"Value error, Invalid dependency directory name: {Text.quote name}"
  | .notSection kind => s!"Input should be a valid dictionary or instance of {kind}"
  | .notAmong choices => s!"Input should be {alternatives (choices.map Text.quote)}"
  | .unknownName => "Extra inputs are not permitted"

end Complaint

/-- A complaint about the value at a place inside the settings. -/
structure Issue where
  place : List Step
  complaint : Complaint
  deriving Repr, DecidableEq

/-- The issue seen from one step further out. -/
def Issue.under (step : Step) (issue : Issue) : Issue := ⟨step :: issue.place, issue.complaint⟩

/-- The outcome of a check: what was read, or everything that is wrong. -/
abbrev Checked (α : Type) := Except (List Issue) α

namespace Checked

variable {α β : Type}

/-- A complaint about the value itself. -/
def complain (c : Complaint) : Checked α := .error [⟨[], c⟩]

/-- Two checks, of which both are made. -/
def both (a : Checked α) (b : Checked β) : Checked (α × β) :=
  match a, b with
  | .ok x, .ok y => .ok (x, y)
  | .error e, .ok _ => .error e
  | .ok _, .error e => .error e
  | .error e, .error e' => .error (e ++ e')

/-- A check of something one step further in. -/
def under (step : Step) (a : Checked α) : Checked α := a.mapError (List.map (Issue.under step))

/-- Both checks succeed exactly when each does. -/
theorem both_eq_ok_iff {a : Checked α} {b : Checked β} {p : α × β} :
    both a b = .ok p ↔ a = .ok p.1 ∧ b = .ok p.2 := by
  cases a <;> cases b <;> simp [both, Prod.ext_iff]

end Checked

end FailurePrompt
