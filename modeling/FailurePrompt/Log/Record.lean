import FailurePrompt.Log.Event
import FailurePrompt.Value.Json
import FailurePrompt.Value.Literal

/-!
# Records

A record is an event together with its context: the values that are bound at the time, the name
and the version of the program. A value passed with the event comes before a bound one, and
neither can replace what the record says of itself; only an event that says no name takes a bound
one. A record is made here in one piece; the processors that make it step by step, and what is
relied on of them, come with the proofs on the context of records. A record is written as one JSON
map, or for people as one line with a stack and a failure below it. The main statements,
`find?_withService` and `find?_values_ofEvent`, say what the values of a record are.
-/

namespace FailurePrompt

/-- The name under which the program appears in the log. -/
def serviceName : String := "fix-with-ai"

/-- The version of the program. -/
def programVersion : String := "0.1.0"

/-- What the values of an event say of the program, whatever was passed. -/
def withService (values : Entries) : Entries :=
  (values.insert "service" (.text serviceName)).insert "version" (.text programVersion)

/-- An event with its context. -/
structure Record where
  logger : String
  level : Level
  /-- What happened, if the event or its context says it. -/
  name : Option Value
  /-- The passed and the bound values, and what is said of the program. -/
  values : Entries
  /-- The failure that is being handled is shown with it. -/
  showsFailure : Bool := false

namespace Record

/-- The name of the field for the time, which is set where the record is written. -/
def timeField : String := "timestamp"

/-- The names of the fields that a record has whatever its values are. -/
def ownFields : List String := ["event", "logger", "level", timeField]

/-- The names of values that ask for something to be shown and are not shown themselves. -/
def requests : List String := ["exc_info", "stack_info"]

/-- The values of an event with the bound values that it does not override. -/
def withBound (values bound : Entries) : Entries :=
  values ++ bound.filter fun e => (values.find? e.1).isNone

/-- The record of an event in a context of bound values. -/
def ofEvent (bound : Entries) (e : Event) : Record :=
  { logger := e.logger
    level := e.level
    name := e.name?.or ((withBound e.values bound).find? "event")
    values := (withService (withBound e.values bound)).filter fun v =>
      !(ownFields ++ requests).contains v.1
    showsFailure := e.showsFailure }

/-- The field for the name of the event, which a nameless one does not have. -/
def nameField (r : Record) : Entries := r.name.toList.map ("event", ·)

/-- All fields of a record but its time. -/
def fields (r : Record) : Entries :=
  r.nameField ++ [("logger", .text r.logger), ("level", .text r.level.word)] ++ r.values

/-- The fields of a record with its time. -/
def fieldsAt (r : Record) (time : String) : Entries :=
  r.fields ++ [(timeField, .text time)]

/-! ### Lines -/

/-- The width that the level takes on a line. -/
def levelWidth : Nat := 9

/-- The width that the name of the event takes on a line. -/
def nameWidth : Nat := 30

/-- A text filled up with spaces. -/
def padded (width : Nat) (s : String) : String :=
  s ++ String.ofList (List.replicate (width - s.length) ' ')

/-- The value that stands beside the logger on a line. -/
def besideField : String := "logger_name"

/-- The value that stands first below the line. -/
def stackField : String := "stack"

/-- The value that stands last below the line. -/
def failureField : String := "exception"

/-- The values that have places of their own. -/
def placedFields : List String := [besideField, stackField, failureField]

/-- The other values of a record in the order of their keys. -/
def sortedValues (r : Record) : Entries :=
  (r.values.filter fun e => !placedFields.contains e.1).mergeSort fun a b => decide (a.1 ≤ b.1)

/-- What stands on a line for people, without the time. -/
def columns (r : Record) : List String :=
  let level := s!"[{padded levelWidth r.level.word}]"
  let name := r.nameField.map fun e => padded nameWidth (Literal.plain e.2)
  let beside := (r.values.find? besideField).toList.map fun v => s!"[{Literal.plain v}]"
  let values := r.sortedValues.map fun (key, v) => key ++ "=" ++ Literal.shown v
  [level] ++ name ++ [s!"[{r.logger}]"] ++ beside ++ values

/-- A text without spaces at its end. -/
def withoutEndSpaces (s : String) : String :=
  String.ofList (s.toList.reverse.dropWhile (· == ' ')).reverse

/-- The line of a record. -/
def lineText (r : Record) : String :=
  withoutEndSpaces (String.intercalate " " r.columns)

/-- A value that stands below the line, if it is there. -/
def below? (r : Record) (field : String) : Option String :=
  match r.values.find? field with
  | some (.text s) => some s
  | _ => none

/-- What separates the two values below a line. -/
def rule : String := String.ofList (List.replicate 79 '=')

/-- What stands below the line. -/
def belowText (r : Record) : String :=
  match r.below? stackField, r.below? failureField with
  | none, none => ""
  | some s, none => "\n" ++ s
  | none, some f => "\n" ++ f
  | some s, some f => "\n" ++ s ++ "\n\n" ++ rule ++ "\n\n" ++ f

/-- The failure that is being handled; a caller that only reports handles none. -/
def failureText (r : Record) : String :=
  if r.showsFailure then "\nNoneType: None" else ""

/-- A record written for people, without its time. -/
def consoleText (r : Record) : String :=
  r.lineText ++ r.belowText ++ r.failureText

/-- A record as it is written in a format at a time. -/
def text (r : Record) (format : LogFormat) (time : String) : String :=
  match format with
  | .json => Json.write (.map (r.fieldsAt time)) ++ r.failureText
  | .console => s!"{time} {r.consoleText}"

/-- The value that the name of the logger is taken from, if there is one. -/
def sourceField : String := "_record"

/-- Why a record has no name of a logger: what it is taken from is a value without a name. -/
def sourceFault? (r : Record) : Option EventError :=
  match r.values.find? sourceField with
  | none | some .null => none
  | some v => some (.nameless (Literal.kind v))

/-- Why a record cannot be written for people: what stands below the line must be text. -/
def belowFault? (r : Record) : Option EventError :=
  [stackField, failureField].findSome? fun field =>
    match r.values.find? field with
    | none | some .null | some (.text _) => none
    | some v => some (.notText (Literal.kind v))

/-- Why a record cannot be written in a format. -/
def fault? (r : Record) : LogFormat → Option EventError
  | .json => r.sourceFault?
  | .console => r.sourceFault?.or r.belowFault?

/-! ### The fields -/

theorem find?_withService_of_ne {values : Entries} {key : String} (hs : key ≠ "service")
    (hv : key ≠ "version") : (withService values).find? key = values.find? key := by
  rw [withService, Entries.find?_insert_of_ne _ _ hv, Entries.find?_insert_of_ne _ _ hs]

/-- What a record says of the program cannot be replaced. -/
theorem find?_withService (values : Entries) :
    (withService values).find? "service" = some (.text serviceName) ∧
      (withService values).find? "version" = some (.text programVersion) := by
  refine ⟨?_, ?_⟩
  · rw [withService, Entries.find?_insert_of_ne _ _ (by decide), Entries.find?_insert_self]
  · rw [withService, Entries.find?_insert_self]

/-- A passed value comes before a bound one. -/
theorem find?_withBound (values bound : Entries) (key : String) :
    (withBound values bound).find? key = (values.find? key).or (bound.find? key) := by
  rw [withBound, Entries.find?_append]
  cases h : values.find? key with
  | some v => rfl
  | none =>
    rw [Entries.find?_filter_of_true (p := fun k => (values.find? k).isNone) (by simp [h])]

/-- The value of any other key is the one that was passed, else the one that is bound. -/
theorem find?_values_ofEvent {bound : Entries} {e : Event} {key : String}
    (ho : key ∉ ownFields ++ requests) (hs : key ≠ "service") (hv : key ≠ "version") :
    (ofEvent bound e).values.find? key = (e.values.find? key).or (bound.find? key) := by
  have hk : (!(ownFields ++ requests).contains key) = true := by simpa using ho
  rw [ofEvent, Entries.find?_filter_of_true (p := fun k => !(ownFields ++ requests).contains k) hk,
    find?_withService_of_ne hs hv, find?_withBound]

end Record

end FailurePrompt
