import FailurePrompt.Log.Event

/-!
# Standard streams

The standard input is read to its end, and texts are printed on the standard output one after
another; both may fail. What a program does that can be noticed from outside are its acts: it says
an event or prints a text. `perform` does acts one after another, and a print that fails is the last
of them. The main statement, `perform_cases`, is that all acts are done, or those in front of a
print that fails; then a beginning of what was to be printed gets through (`Stdout.Cuts.isPrefix`).
-/

namespace FailurePrompt

/-! ### The standard input -/

/-- Why the standard input could not be read. -/
inductive InputFault
  | undecodable (wording : String)
  /-- A refusal of the system, with its number and wording. -/
  | refused (number : Nat) (wording : String)
  /-- There is no standard input. -/
  | closed
  deriving Repr, DecidableEq

/-- The wording of a failure to read the standard input. -/
def InputFault.message : InputFault → String
  | .undecodable wording => wording
  | .refused number wording => s!"[Errno {number}] {wording}"
  | .closed => "'NoneType' object has no attribute 'read'"

/-- The standard input: what comes of reading it to its end. -/
structure Stdin where
  read : Except InputFault (List Char)

/-- A text that can be read. -/
instance : Coe String Stdin := ⟨fun text => ⟨.ok text.toList⟩⟩

/-! ### The standard output -/

/-- Why a text could not be printed. -/
inductive PrintFault
  /-- The output has no code for one of the characters. -/
  | unencodable (wording : String)
  /-- A refusal of the system, with its number and wording. -/
  | refused (number : Nat) (wording : String)
  deriving Repr, DecidableEq

/-- The wording of a failure to print. -/
def PrintFault.message : PrintFault → String
  | .unencodable wording => wording
  | .refused number wording => s!"[Errno {number}] {wording}"

/-- What comes of printing a text. -/
inductive Printing
  | taken
  /-- Of all that was printed only so many characters get through. -/
  | refused (count : Nat) (fault : PrintFault)

/-- The standard output, which takes every text unless it is said otherwise. -/
structure Stdout where
  /-- What comes of printing a text behind the ones that were taken before. -/
  print (before text : String) : Printing := .taken

namespace Stdout

/-- The output takes every text. -/
def TakesAll (stdout : Stdout) : Prop := ∀ before text, stdout.print before text = .taken

/-- The output takes texts one after another, behind what was printed before them. -/
def Takes (stdout : Stdout) (before : String) : List String → Prop
  | [] => True
  | text :: rest => stdout.print before text = .taken ∧ stdout.Takes (before ++ text) rest

/-- The output takes some of the texts and refuses the next one, and this much gets through. -/
inductive Cuts (stdout : Stdout) : String → List String → String → Prop
  | here {before text : String} {rest : List String} {count : Nat} {fault : PrintFault}
      (h : stdout.print before text = .refused count fault) :
      Cuts stdout before (text :: rest) (String.ofList ((before ++ text).toList.take count))
  | later {before text written : String} {rest : List String}
      (htaken : stdout.print before text = .taken)
      (h : Cuts stdout (before ++ text) rest written) : Cuts stdout before (text :: rest) written

variable {stdout : Stdout} {before written : String} {texts : List String}

theorem TakesAll.takes (h : stdout.TakesAll) (before : String) (texts : List String) :
    stdout.Takes before texts := by
  induction texts generalizing before with
  | nil => trivial
  | cons text rest ih => exact ⟨h before text, ih (before ++ text)⟩

theorem Cuts.not_takes (h : stdout.Cuts before texts written) : ¬stdout.Takes before texts := by
  induction h with
  | here hprint =>
    rintro ⟨htaken, -⟩
    rw [hprint] at htaken
    cases htaken
  | later _ _ ih => exact fun htakes => ih htakes.2

/-- What gets through is a beginning of all that was to be printed. -/
theorem Cuts.isPrefix (h : stdout.Cuts before texts written) :
    written.toList <+: (before ++ String.join texts).toList := by
  induction h with
  | @here before text rest =>
    have hall : (before ++ String.join (text :: rest)).toList =
        (before ++ text).toList ++ (String.join rest).toList := by
      simp [String.join_cons]
    rw [String.toList_ofList, hall]
    exact (List.take_prefix _ _).trans (List.prefix_append _ _)
  | later _ _ ih => rwa [String.join_cons, ← String.append_assoc]

end Stdout

/-! ### Acts -/

/-- Something that can be noticed from outside. -/
inductive Act
  | say (e : Event)
  | print (text : String)

/-- A value and the acts that were done while it was computed, the first one first. -/
structure Acted (α : Type) where
  value : α
  acts : List Act := []

/-- A further step, before which the notices of a computation are said. -/
def Traced.thenActed {α β : Type} (t : Traced α) (f : α → Acted β) : Acted β :=
  ⟨(f t.value).value, t.notices.map (fun n => .say n.event) ++ (f t.value).acts⟩

namespace Act

/-- The texts that acts print. -/
def printed (acts : List Act) : List String :=
  acts.filterMap fun
    | .print text => some text
    | .say _ => none

/-- The events that acts say. -/
def said (acts : List Act) : List Event :=
  acts.filterMap fun
    | .say e => some e
    | .print _ => none

/-- What acts have come to. -/
structure Performed where
  /-- What got through to the standard output. -/
  written : String
  said : List Event := []
  fault : Option PrintFault := none

/-- Does acts one after another, up to the first print that fails. -/
def perform (stdout : Stdout) (before : String) : List Act → Performed
  | [] => { written := before }
  | .say e :: rest =>
    let done := perform stdout before rest
    { done with said := e :: done.said }
  | .print text :: rest =>
    match stdout.print before text with
    | .taken => perform stdout (before ++ text) rest
    | .refused count fault =>
      { written := String.ofList ((before ++ text).toList.take count), fault := some fault }

@[simp] theorem printed_map_say {α : Type} (f : α → Event) (as : List α) :
    printed (as.map fun a => .say (f a)) = [] := by
  simp [printed]

@[simp] theorem said_map_say {α : Type} (f : α → Event) (as : List α) :
    said (as.map fun a => .say (f a)) = as.map f := by
  simp [said, Function.comp_def]

@[simp] theorem printed_map_print (texts : List String) : printed (texts.map .print) = texts := by
  simp [printed, Function.comp_def]

@[simp] theorem said_map_print (texts : List String) : said (texts.map .print) = [] := by
  simp [said]

@[simp] theorem printed_append (acts acts' : List Act) :
    printed (acts ++ acts') = printed acts ++ printed acts' :=
  List.filterMap_append

@[simp] theorem said_append (acts acts' : List Act) :
    said (acts ++ acts') = said acts ++ said acts' :=
  List.filterMap_append

/-- All acts are done, or the first ones up to a print that fails. -/
theorem perform_cases (stdout : Stdout) (before : String) (acts : List Act) :
    (stdout.Takes before (printed acts) ∧ perform stdout before acts =
      { written := before ++ String.join (printed acts), said := said acts }) ∨
    ∃ written events fault, stdout.Cuts before (printed acts) written ∧ events <+: said acts ∧
      perform stdout before acts = { written, said := events, fault := some fault } := by
  induction acts generalizing before with
  | nil => exact .inl ⟨trivial, by simp [perform, printed, said]⟩
  | cons act rest ih =>
    cases act with
    | say e =>
      rcases ih before with ⟨htakes, h⟩ | ⟨written, events, fault, hcuts, hevents, h⟩
      · exact .inl ⟨htakes, by rw [perform, h]; rfl⟩
      · exact .inr ⟨written, e :: events, fault, hcuts, List.cons_prefix_cons.2 ⟨rfl, hevents⟩,
          by rw [perform, h]⟩
    | print text =>
      rcases hprint : stdout.print before text with _ | ⟨count, fault⟩
      case refused =>
        exact .inr ⟨_, [], fault, .here hprint, List.nil_prefix, by rw [perform, hprint]⟩
      rcases ih (before ++ text) with ⟨htakes, h⟩ | ⟨written, events, fault, hcuts, hevents, h⟩
      · refine .inl ⟨⟨hprint, htakes⟩, ?_⟩
        rw [perform, hprint]
        dsimp only
        rw [h, String.append_assoc, ← String.join_cons]
        rfl
      · exact .inr ⟨written, events, fault, .later hprint hcuts, hevents, by rw [perform, hprint, h]⟩

/-- If the output takes all that is printed, all acts are done. -/
theorem perform_of_takes {stdout : Stdout} {before : String} {acts : List Act}
    (h : stdout.Takes before (printed acts)) :
    perform stdout before acts =
      { written := before ++ String.join (printed acts), said := said acts } := by
  rcases perform_cases stdout before acts with ⟨-, hdone⟩ | ⟨_, _, _, hcuts, -, -⟩
  · exact hdone
  · exact absurd h hcuts.not_takes

end Act

end FailurePrompt
