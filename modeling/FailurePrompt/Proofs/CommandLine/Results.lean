import FailurePrompt.CommandLine.Run
import FailurePrompt.Proofs.Resolution
import Mathlib.Data.List.Forall2

/-!
# The results of commands

`Completes` lists the results that a command can have, each with all that it takes to come to it.
The main statements are `prints_command_iff`, that a command prints exactly these, and
`ends_command`, that whatever can go wrong with a command goes wrong before it prints anything.
-/

namespace FailurePrompt

/-- The text of a place: the file, the line and the column with colons between them. -/
def Location.textOf (file : String) (line column : Nat) : String :=
  s!"{file}:{line}:{column}"

namespace FrameParser

variable {parser : FrameParser} {lines : List String} {found : List Frame}

theorem parseLines_of_map_eq {read : List (Option Frame)}
    (h : lines.map parser.parseLine = read.map .ok) :
    parser.parseLines lines = .ok (read.filterMap id) := by
  induction lines generalizing read with
  | nil =>
    obtain rfl : read = [] := by simpa using h.symm
    rfl
  | cons line rest ih =>
    rcases read with _ | ⟨frame, read⟩
    · simp at h
    · obtain ⟨hline, hrest⟩ := List.cons.inj h
      rw [parseLines, hline, ih hrest]
      cases frame <;> rfl

/-- Reading lines gives the frames among what each of the lines is read as. -/
theorem parseLines_eq_ok_iff_map :
    parser.parseLines lines = .ok found ↔
      ∃ read : List (Option Frame),
        lines.map parser.parseLine = read.map .ok ∧ read.filterMap id = found := by
  constructor
  · intro h
    induction lines generalizing found with
    | nil =>
      cases h
      exact ⟨[], rfl, rfl⟩
    | cons line rest ih =>
      rw [parseLines] at h
      rcases hline : parser.parseLine line with e | frame
      · rw [hline] at h
        cases h
      rcases hrest : parser.parseLines rest with e | frames
      · rw [hline, hrest] at h
        cases h
      rw [hline, hrest] at h
      cases h
      obtain ⟨read, hread, rfl⟩ := ih hrest
      refine ⟨frame :: read, by rw [List.map_cons, hline, hread, List.map_cons], ?_⟩
      cases frame <;> rfl
  · rintro ⟨read, hread, rfl⟩
    exact parseLines_of_map_eq hread

/-- The frames that were read are those of the lines. -/
theorem mem_iff_of_parseLines (h : parser.parseLines lines = .ok found) {frame : Frame} :
    frame ∈ found ↔ ∃ line ∈ lines, parser.parseLine line = .ok (some frame) := by
  obtain ⟨read, hread, rfl⟩ := parseLines_eq_ok_iff_map.1 h
  calc frame ∈ read.filterMap id
      ↔ Except.ok (some frame) ∈ (read.map .ok : List (Except Text.Numeral.TooLong _)) := by simp
    _ ↔ Except.ok (some frame) ∈ lines.map parser.parseLine := by rw [hread]
    _ ↔ ∃ line ∈ lines, parser.parseLine line = .ok (some frame) := List.mem_map

end FrameParser

namespace Run

/-! ### Complete results -/

/-- The name under which a frame is listed. -/
inductive NamedAs (frame : Frame) : String → Prop
  | named {name : String} (h : frame.functionName = some name) (hne : name ≠ "") :
      NamedAs frame name
  | nameless (h : frame.functionName = none ∨ frame.functionName = some "") :
      NamedAs frame "<anonymous>"

/-- The place at which a frame is listed. -/
inductive PlacedAt (frame : Frame) : String → Prop
  | native (h : frame.isNative = true) : PlacedAt frame "native"
  | file {line column : Nat} (h : frame.isNative = false) (hline : frame.line = some (line : Int))
      (hcolumn : frame.column = some (column : Int)) :
      PlacedAt frame (Location.textOf frame.file line column)

/-- The text is the line by which a frame is listed: its name, a tab, its place and a line feed. -/
inductive Lists (frame : Frame) : String → Prop
  | line {name place : String} (hname : NamedAs frame name) (hplace : PlacedAt frame place) :
      Lists frame (name ++ "\t" ++ place ++ "\n")

/-- The command has its settings, and it reads a stack text, after which some of the standard
input is left. -/
def Reads (host : Host) (args : Arguments) (s : Settings) (stack : String) (left : Stdin) : Prop :=
  settings host args = .ok s ∧ readInput host.files host.stdin args.stackFile = .ok (stack, left)

/-- The results that commands have, as the texts that are printed one after another. -/
inductive Completes (host : Host) (args : Arguments) : List String → Prop
  /-- The stack text points at a location. -/
  | locate {s : Settings} {stack : String} {left : Stdin} {location : Location}
      (hreads : Reads host args s stack left) (hcommand : args.command = .locate)
      (h : (s.resolver.resolve (some stack)).value = .ok (some location)) :
      Completes host args
        [Location.textOf location.filePath location.line location.column ++ "\n"]
  /-- Every line of the stack text is read; those that hold a frame are listed. -/
  | frames {s : Settings} {stack : String} {left : Stdin} {read : List (Option Frame)}
      {texts : List String} (hreads : Reads host args s stack left)
      (hcommand : args.command = .frames)
      (h : (stackLines (some stack)).map (FrameParser.parseLine {}) = read.map .ok)
      (htexts : List.Forall₂ Lists (read.filterMap id) texts) : Completes host args texts
  /-- All that a prompt is built from is there, and there is a prompt. -/
  | prompt {s : Settings} {stack : String} {left : Stdin} {input : PromptInput}
      {title messageFile text : String} {snapshotFile : Option String}
      (hreads : Reads host args s stack left)
      (hcommand : args.command = .prompt title messageFile snapshotFile)
      (hinput : promptInput host s stack left messageFile snapshotFile = .ok input)
      (h : (input.builder.build host.files title input.failure input.snapshot).value = .ok text)
      (hne : text ≠ "") : Completes host args [text ++ "\n"]

variable {host : Host} {args : Arguments} {found : List Frame} {texts : List String}

/-! ### Listed frames -/

theorem namedAs_iff {frame : Frame} {name : String} :
    NamedAs frame name ↔ name = shownName frame := by
  constructor
  · rintro (⟨h, hne⟩ | h | h)
    · rw [shownName, h]
      exact (if_neg hne).symm
    · rw [shownName, h]
    · rw [shownName, h]
      rfl
  · rintro rfl
    rw [shownName]
    split
    case h_1 h => exact .nameless (.inl h)
    case h_2 name h =>
      split
      case isTrue hempty => exact .nameless (.inr (by rw [h, hempty]))
      case isFalse hne => exact .named h hne

theorem placedAt_iff {parser : FrameParser} {text : String} {frame : Frame} {place : String}
    (h : parser.parseLine text = .ok (some frame)) :
    PlacedAt frame place ↔ place = shownPosition frame := by
  have hfile {line column : Nat} (hnative : frame.isNative = false)
      (hline : frame.line = some (line : Int)) (hcolumn : frame.column = some (column : Int)) :
      shownPosition frame = Location.textOf frame.file line column := by
    rw [shownPosition, hnative, Frame.lineNumber, Frame.columnNumber, hline, hcolumn]
    rfl
  constructor
  · rintro (hnative | ⟨hnative, hline, hcolumn⟩)
    · rw [shownPosition, if_pos hnative]
    · exact (hfile hnative hline hcolumn).symm
  · rintro rfl
    rcases FrameParser.numbers_of_parseLine h with
      ⟨hnative, -⟩ | ⟨hnative, line, column, hline, hcolumn⟩
    · rw [shownPosition, if_pos hnative]
      exact .native hnative
    · rw [hfile hnative hline hcolumn]
      exact .file hnative hline hcolumn

/-- Frames that were read are listed by their lines. -/
theorem forall₂_lists_iff (h : ∀ frame ∈ found, ∃ line, FrameParser.parseLine {} line =
    .ok (some frame)) : List.Forall₂ Lists found texts ↔ texts = found.map frameLine := by
  have hlists : ∀ frame ∈ found, ∀ text, Lists frame text ↔ text = frameLine frame := by
    intro frame hframe text
    obtain ⟨line, hline⟩ := h frame hframe
    constructor
    · rintro ⟨hname, hplace⟩
      rw [namedAs_iff.1 hname, (placedAt_iff hline).1 hplace, frameLine]
    · rintro rfl
      exact .line (namedAs_iff.2 rfl) ((placedAt_iff hline).2 rfl)
  clear h
  induction found generalizing texts with
  | nil => simp
  | cons frame rest ih =>
    obtain ⟨hframe, hrest⟩ := List.forall_mem_cons.1 hlists
    rw [List.forall₂_cons_left_iff]
    constructor
    · rintro ⟨text, others, hfirst, hothers, rfl⟩
      rw [(hframe text).1 hfirst, (ih hrest).1 hothers, List.map_cons]
    · rintro rfl
      exact ⟨_, _, (hframe _).2 rfl, (ih hrest).2 rfl, rfl⟩

theorem forall₂_lists_read_iff {stack : String} {read : List (Option Frame)}
    (h : (stackLines (some stack)).map (FrameParser.parseLine {}) = read.map .ok) :
    List.Forall₂ Lists (read.filterMap id) texts ↔ texts = (read.filterMap id).map frameLine := by
  refine forall₂_lists_iff fun frame hframe => ?_
  have hparse := FrameParser.parseLines_of_map_eq h
  obtain ⟨line, -, hline⟩ := (FrameParser.mem_iff_of_parseLines hparse).1 hframe
  exact ⟨line, hline⟩

/-! ### How commands come to an end -/

/-- The ways in which a command ends. The notices that are given on the way come first. -/
inductive Ends : Acted Result → Prop
  | failing (notices : List Notice) (e : RunError) :
      Ends ⟨.error e, notices.map fun n => .say n.event⟩
  | lacking (notices : List Notice) (event : String) (values : Entries) :
      Ends ⟨.ok 1, (notices.map fun n => .say n.event) ++ (Run.lacking event values).acts⟩
  | printing (notices : List Notice) (texts : List String) :
      Ends ⟨.ok 0, (notices.map fun n => .say n.event) ++ texts.map .print⟩

theorem ends_failing (e : RunError) : Ends (failing e) := .failing [] e

theorem ends_lacking (event : String) (values : Entries) : Ends (lacking event values) :=
  .lacking [] event values

theorem ends_printing (texts : List String) : Ends (printing texts) := .printing [] texts

/-- Notices in front of a command do not change how it ends. -/
theorem Ends.thenActed {α : Type} {t : Traced α} {f : α → Acted Result} (h : Ends (f t.value)) :
    Ends (t.thenActed f) := by
  rw [Traced.thenActed]
  generalize f t.value = done at h
  cases h with
  | failing notices e =>
    rw [← List.map_append]
    exact .failing (t.notices ++ notices) e
  | lacking notices event values =>
    rw [← List.append_assoc, ← List.map_append]
    exact .lacking (t.notices ++ notices) event values
  | printing notices texts =>
    rw [← List.append_assoc, ← List.map_append]
    exact .printing (t.notices ++ notices) texts

theorem ends_frames (stack : String) : Ends (frames stack) := by
  rw [frames]
  split
  · exact ends_failing _
  · exact ends_printing _

theorem ends_locate (s : Settings) (stack : String) : Ends (locate s stack) := by
  refine Ends.thenActed ?_
  split
  · exact ends_failing _
  · exact ends_lacking _ _
  · exact ends_printing _

theorem ends_prompt (files : Files) (title : String) (input : PromptInput) :
    Ends (prompt files title input) := by
  refine Ends.thenActed ?_
  split
  · exact ends_failing _
  · split
    · exact ends_lacking _ _
    · exact ends_printing _

/-- Every stage that can fail comes before the first print, and a command says at most one thing
that is no notice. -/
theorem ends_command (host : Host) (args : Arguments) : Ends (command host args) := by
  rw [command]
  split
  · exact ends_failing _
  split
  · exact ends_failing _
  cases args.command with
  | frames => exact ends_frames _
  | locate => exact ends_locate _ _
  | prompt title messageFile snapshotFile =>
    rw [onStack]
    split
    · exact ends_failing _
    · exact ends_prompt _ _ _

/-! ### The results of commands -/

theorem printed_thenActed {α : Type} (t : Traced α) (f : α → Acted Result) :
    Act.printed (t.thenActed f).acts = Act.printed (f t.value).acts := by
  simp [Traced.thenActed]

/-- The command succeeds with these texts. -/
def Prints (done : Acted Result) (texts : List String) : Prop :=
  done.value = .ok 0 ∧ Act.printed done.acts = texts

theorem not_prints_failing {e : RunError} : ¬Prints (failing e) texts := by
  rintro ⟨h, -⟩
  cases h

theorem not_prints_lacking {event : String} {values : Entries} :
    ¬Prints (lacking event values) texts := by
  rintro ⟨h, -⟩
  cases h

theorem prints_printing_iff {texts' : List String} : Prints (printing texts') texts ↔
    texts' = texts := by
  simp [Prints, printing]

theorem prints_thenActed_iff {α : Type} {t : Traced α} {f : α → Acted Result} :
    Prints (t.thenActed f) texts ↔ Prints (f t.value) texts := by
  rw [Prints, Prints, printed_thenActed]
  rfl

theorem prints_frames_iff {stack : String} :
    Prints (frames stack) texts ↔
      ∃ read : List (Option Frame),
        (stackLines (some stack)).map (FrameParser.parseLine {}) = read.map .ok ∧
          List.Forall₂ Lists (read.filterMap id) texts := by
  rw [frames, FrameParser.parseStack]
  rcases hparse : FrameParser.parseLines {} (stackLines (some stack)) with e | found
  · refine iff_of_false not_prints_failing ?_
    rintro ⟨read, hread, -⟩
    rw [FrameParser.parseLines_of_map_eq hread] at hparse
    cases hparse
  · dsimp only
    rw [prints_printing_iff]
    constructor
    · rintro rfl
      obtain ⟨read, hread, rfl⟩ := FrameParser.parseLines_eq_ok_iff_map.1 hparse
      exact ⟨read, hread, (forall₂_lists_read_iff hread).2 rfl⟩
    · rintro ⟨read, hread, htexts⟩
      rw [FrameParser.parseLines_of_map_eq hread] at hparse
      cases hparse
      exact ((forall₂_lists_read_iff hread).1 htexts).symm

theorem prints_locate_iff {s : Settings} {stack : String} :
    Prints (locate s stack) texts ↔
      ∃ location, (s.resolver.resolve (some stack)).value = .ok (some location) ∧
        [Location.textOf location.filePath location.line location.column ++ "\n"] = texts := by
  rw [locate, prints_thenActed_iff]
  rcases (s.resolver.resolve (some stack)).value with e | _ | location
  · exact iff_of_false not_prints_failing (by simp)
  · exact iff_of_false not_prints_lacking (by simp)
  · simp only [prints_printing_iff, Except.ok.injEq, Option.some.injEq, exists_eq_left']
    rfl

theorem prints_prompt_iff {files : Files} {title : String} {input : PromptInput} :
    Prints (prompt files title input) texts ↔
      ∃ text, (input.builder.build files title input.failure input.snapshot).value = .ok text ∧
        text ≠ "" ∧ [text ++ "\n"] = texts := by
  rw [prompt, prints_thenActed_iff]
  rcases (input.builder.build files title input.failure input.snapshot).value with e | text
  · exact iff_of_false not_prints_failing (by simp)
  simp only [Except.ok.injEq, exists_eq_left']
  -- The empty prompt is answered by a warning.
  split
  case isTrue hempty => exact iff_of_false not_prints_lacking fun h => h.1 hempty
  case isFalse hne => rw [prints_printing_iff, and_iff_right hne]

/-- A command prints its result exactly if all that it takes is there. -/
theorem prints_command_iff : Prints (command host args) texts ↔ Completes host args texts := by
  constructor
  · intro h
    rw [command] at h
    rcases hs : settings host args with e | s
    · rw [hs] at h
      exact absurd h not_prints_failing
    rcases hstack : readInput host.files host.stdin args.stackFile with e | ⟨stack, left⟩
    · rw [hs, hstack] at h
      exact absurd h not_prints_failing
    simp only [hs, hstack] at h
    rcases hcommand : args.command with _ | _ | ⟨title, messageFile, snapshotFile⟩ <;>
      rw [hcommand, onStack] at h
    case locate =>
      obtain ⟨location, hlocation, rfl⟩ := prints_locate_iff.1 h
      exact .locate ⟨hs, hstack⟩ hcommand hlocation
    case frames =>
      obtain ⟨read, hread, htexts⟩ := prints_frames_iff.1 h
      exact .frames ⟨hs, hstack⟩ hcommand hread htexts
    case prompt =>
      rcases hinput : promptInput host s stack left messageFile snapshotFile with e | input
      · rw [hinput] at h
        exact absurd h not_prints_failing
      rw [hinput] at h
      obtain ⟨text, hbuilt, hne, rfl⟩ := prints_prompt_iff.1 h
      exact .prompt ⟨hs, hstack⟩ hcommand hinput hbuilt hne
  · rintro (⟨hreads, hcommand, h⟩ | ⟨hreads, hcommand, h, htexts⟩ |
      ⟨hreads, hcommand, hinput, h, hne⟩) <;>
      simp only [command, hreads.1, hreads.2, hcommand, onStack]
    · exact prints_locate_iff.2 ⟨_, h, rfl⟩
    · exact prints_frames_iff.2 ⟨_, h, htexts⟩
    · simp only [hinput]
      exact prints_prompt_iff.2 ⟨_, h, hne, rfl⟩

end Run

end FailurePrompt
