import FailurePrompt.Proofs.CommandLine.Agreement
import FailurePrompt.Proofs.Frame.LineFeed
import FailurePrompt.Proofs.Refusal

/-!
# The listing of frames

The frames of a stack are listed with a line feed behind each of them. A frame has a line of its
own unless what is shown of it holds a line feed, and of all that is shown only the file can. The
main statement, `outcome_lists_iff`, is that a listing has one line for each frame exactly if no
line of the stack names its file by a URL with an escaped line feed.
-/

namespace FailurePrompt

namespace FrameParser

variable {parser : FrameParser} {lines : List String} {found : List Frame}

/-- A line that names a line feed is a frame, if it can be read. -/
theorem exists_frame_of_namesFeed (h : parser.parseLines lines = .ok found) {line : String}
    (hline : line ∈ lines) (hnames : NamesFeed line) :
    ∃ frame ∈ found, parser.parseLine line = .ok (some frame) := by
  obtain ⟨shape, url, hs, -⟩ := hnames
  rcases hframe : parser.frameOfShape line shape with e | frame
  · have herror : parser.parseLine line = .error e := by
      rw [parseLine_of_shape hs, hframe]
      rfl
    exact absurd ⟨e, herror⟩ (parseLines_eq_ok_iff.1 ⟨found, h⟩ line hline)
  · have hread : parser.parseLine line = .ok (some frame) := by
      rw [parseLine_of_shape hs, hframe]
      rfl
    exact ⟨frame, (mem_iff_of_parseLines h).2 ⟨line, hline, hread⟩, hread⟩

end FrameParser

namespace Run

variable {host : Host} {args : Arguments} {found : List Frame}

/-! ### What is shown of a frame -/

/-- The characters of a frame's line, the line feed at its end apart. -/
def shownChars (frame : Frame) : List Char :=
  (shownName frame ++ "\t" ++ shownPosition frame).toList

theorem toList_frameLine (frame : Frame) :
    (frameLine frame).toList = shownChars frame ++ ['\n'] := by
  simp [frameLine, shownChars]

theorem feed_notMem_repr (n : Int) : '\n' ∉ n.repr.toList := by
  have hnat (k : Nat) : '\n' ∉ k.repr.toList := by
    rw [Nat.toList_repr]
    intro hmem
    exact absurd (Nat.isDigit_of_mem_toDigits (by decide) (by decide) hmem) (by decide)
  rw [Int.repr_eq_if]
  split
  · exact hnat _
  · rw [String.toList_append]
    simpa using hnat _

theorem shownPosition_of_not_native {frame : Frame} (h : frame.isNative = false) :
    shownPosition frame =
      frame.file ++ ":" ++ frame.lineNumber.repr ++ ":" ++ frame.columnNumber.repr := by
  rw [shownPosition, h]
  rfl

/-- Of a frame that was read, only the file can bring a line feed into what is shown. -/
theorem feed_mem_shownChars_iff {parser : FrameParser} {line : String} {frame : Frame}
    (hfeed : '\n' ∉ line.toList) (h : parser.parseLine line = .ok (some frame)) :
    '\n' ∈ shownChars frame ↔ '\n' ∈ frame.file.toList := by
  have hname : '\n' ∉ (shownName frame).toList := by
    rw [shownName]
    split
    · decide
    · rename_i name hname
      split
      · decide
      · exact FrameParser.feed_notMem_functionName hfeed h hname
  have hposition : '\n' ∈ (shownPosition frame).toList ↔ '\n' ∈ frame.file.toList := by
    rcases FrameParser.numbers_of_parseLine h with ⟨hnative, hnone⟩ | ⟨hnative, -⟩
    · rw [shownPosition, if_pos hnative, Frame.file, hnone]
      decide
    · rw [shownPosition_of_not_native hnative]
      simp [feed_notMem_repr]
  simp [shownChars, hname, hposition]

/-! ### Lines of the listing -/

/-- The text lists the frames line by line: each of them has one line, and there is nothing behind
the last line feed. -/
def ListsByLine (found : List Frame) (text : String) : Prop :=
  Text.lines text.toList = found.map shownChars ++ [[]]

theorem listsByLine_of_feed_notMem (h : ∀ frame ∈ found, '\n' ∉ shownChars frame) :
    ListsByLine found (String.join (found.map frameLine)) := by
  rw [ListsByLine, String.toList_join]
  induction found with
  | nil => rfl
  | cons frame rest ih =>
    obtain ⟨hframe, hrest⟩ := List.forall_mem_cons.1 h
    -- The first line feed is the one behind the frame.
    have hsep : ∀ c ∈ shownChars frame, (c == '\n') = false := fun c hc => by
      simpa using fun (he : c = '\n') => hframe (he ▸ hc)
    rw [List.map_cons, List.flatMap_cons, toList_frameLine, List.append_assoc,
      List.singleton_append, Text.lines, Text.segments_append_sep hsep (by simp)]
    exact congrArg _ (ih hrest)

theorem feed_notMem_of_listsByLine {text : String} (h : ListsByLine found text) :
    ∀ frame ∈ found, '\n' ∉ shownChars frame := by
  intro frame hframe hmem
  have hline : shownChars frame ∈ Text.lines text.toList := by
    rw [h]
    exact List.mem_append_left _ (List.mem_map_of_mem hframe)
  have hsep := @Text.not_sep_of_mem_segments (· == '\n') _ _ _ hline hmem
  simp at hsep

/-- There is a line feed behind every frame, and there are those within. -/
theorem count_feed_listing (found : List Frame) :
    (String.join (found.map frameLine)).toList.count '\n' =
      found.length + (found.flatMap shownChars).count '\n' := by
  rw [String.toList_join]
  induction found with
  | nil => rfl
  | cons frame rest ih =>
    rw [List.map_cons, List.flatMap_cons, List.count_append, ih, toList_frameLine,
      List.count_append, List.flatMap_cons, List.count_append, List.length_cons,
      List.count_singleton_self]
    omega

/-- There are as many line feeds as frames exactly if no frame shows one. -/
theorem count_feed_listing_eq_iff :
    (String.join (found.map frameLine)).toList.count '\n' = found.length ↔
      ∀ frame ∈ found, '\n' ∉ shownChars frame := by
  rw [count_feed_listing, Nat.add_eq_left, List.count_eq_zero, List.mem_flatMap]
  simp

/-- The frames of a stack have a line each exactly if none of its lines names a line feed. -/
theorem forall_feed_notMem_iff {stack : String}
    (h : FrameParser.parseStack {} (some stack) = .ok found) :
    (∀ frame ∈ found, '\n' ∉ shownChars frame) ↔
      ∀ line ∈ stackLines (some stack), ¬NamesFeed line := by
  have hshown : ∀ line ∈ stackLines (some stack), ∀ frame,
      FrameParser.parseLine {} line = .ok (some frame) →
        ('\n' ∈ shownChars frame ↔ NamesFeed line) := by
    intro line hline frame hread
    have hfeed := feed_notMem_of_mem_stackLines hline
    exact (feed_mem_shownChars_iff hfeed hread).trans
      (FrameParser.feed_mem_file_iff (by decide) hfeed hread)
  constructor
  · intro hall line hline hnames
    obtain ⟨frame, hmem, hread⟩ := FrameParser.exists_frame_of_namesFeed h hline hnames
    exact hall frame hmem ((hshown line hline frame hread).2 hnames)
  · intro hall frame hmem hin
    obtain ⟨line, hline, hread⟩ := (FrameParser.mem_iff_of_parseLines h).1 hmem
    exact hall line hline ((hshown line hline frame hread).1 hin)

/-- A run that lists frames lists those of the stack text. -/
theorem exists_listing (hcommand : args.command = .frames)
    (hexit : (outcome host args).ending = .exit 0) :
    ∃ s stack left found, Reads host args s stack left ∧
      FrameParser.parseStack {} (some stack) = .ok found ∧
      (outcome host args).stdout = String.join (found.map frameLine) := by
  obtain ⟨texts, hcompletes, hstdout⟩ := exists_completes_of_exit hexit
  rw [hstdout]
  rcases hcompletes with ⟨-, hlocate, -⟩ | ⟨hreads, -, hread, htexts⟩ | ⟨-, hprompt, -, -, -⟩
  · rw [hcommand] at hlocate
    cases hlocate
  · rw [(forall₂_lists_read_iff hread).1 htexts]
    exact ⟨_, _, _, _, hreads, FrameParser.parseLines_of_map_eq hread, rfl⟩
  · rw [hcommand] at hprompt
    cases hprompt

/-- A listing has one line for each frame, in order, exactly if no line of the stack names its file
by a URL with an escaped line feed; otherwise there are more lines than frames. -/
theorem outcome_lists_iff (hcommand : args.command = .frames)
    (hexit : (outcome host args).ending = .exit 0) :
    ∃ s stack left found, Reads host args s stack left ∧
      FrameParser.parseStack {} (some stack) = .ok found ∧
      (outcome host args).stdout = String.join (found.map frameLine) ∧
      found.length ≤ (outcome host args).stdout.toList.count '\n' ∧
      ((outcome host args).stdout.toList.count '\n' = found.length ↔
        ∀ line ∈ stackLines (some stack), ¬NamesFeed line) ∧
      (ListsByLine found (outcome host args).stdout ↔
        ∀ line ∈ stackLines (some stack), ¬NamesFeed line) := by
  obtain ⟨s, stack, left, found, hreads, hparse, hstdout⟩ := exists_listing hcommand hexit
  have hcount := count_feed_listing found
  refine ⟨s, stack, left, found, hreads, hparse, hstdout, ?_, ?_, ?_⟩
  · rw [hstdout]
    omega
  · rw [hstdout, count_feed_listing_eq_iff, forall_feed_notMem_iff hparse]
  · rw [hstdout, ← forall_feed_notMem_iff hparse]
    exact ⟨feed_notMem_of_listsByLine, listsByLine_of_feed_notMem⟩

/-- What looks like an escape in a path is none, so each frame has its line. -/
theorem outcome_lists_path :
    let stack := "at f (/a%0Ab.js:1:2)\nat map (native)"
    let host : Host := { files := ⟨fun path =>
      if path = Path.ofString "s.txt" then .ok stack.toUTF8.toList else .error .notFound⟩ }
    let listed := outcome host { stackFile := "s.txt", command := .frames }
    listed.ending = .exit 0 ∧ listed.stdout = "f\t/a%0Ab.js:1:2\nmap\tnative\n" ∧
      ∃ found, FrameParser.parseStack {} (some stack) = .ok found ∧ found.length = 2 ∧
        ListsByLine found listed.stdout := by
  intro stack host listed
  have hexit : listed.ending = .exit 0 := by decide +kernel
  have hstdout : listed.stdout = "f\t/a%0Ab.js:1:2\nmap\tnative\n" := by decide +kernel
  have hinput : (readInput host.files host.stdin "s.txt").toOption.map Prod.fst = some stack := by
    decide +kernel
  obtain ⟨s, stack', left, found, hreads, hparse, -, hle, hcount, hlines⟩ :=
    outcome_lists_iff rfl hexit
  rw [hreads.2] at hinput
  obtain rfl : stack' = stack := Option.some.inj hinput
  have hlength : (FrameParser.parseStack {} (some stack)).toOption.map List.length = some 2 := by
    decide +kernel
  rw [hparse] at hlength
  have hlength : found.length = 2 := Option.some.inj hlength
  refine ⟨hexit, hstdout, found, hparse, hlength, hlines.2 (hcount.1 ?_)⟩
  rw [hlength, hstdout]
  decide

/-- A frame whose URL escapes a line feed is listed on two lines. -/
theorem outcome_lists_split :
    let stack := "at f (file:///a%0Ab.js:1:2)"
    let host : Host := { files := ⟨fun path =>
      if path = Path.ofString "s.txt" then .ok stack.toUTF8.toList else .error .notFound⟩ }
    let listed := outcome host { stackFile := "s.txt", command := .frames }
    listed.ending = .exit 0 ∧
      (FrameParser.parseStack {} (some stack)).toOption = some [{
        rawText := stack
        functionName := some "f"
        filePath := some "/a\nb.js"
        line := some 1
        column := some 2 }] ∧
      listed.stdout = "f\t/a\nb.js:1:2\n" ∧ listed.stdout.toList.count '\n' = 2 := by
  decide +kernel

end Run

end FailurePrompt
