import FailurePrompt.Prompt
import FailurePrompt.Proofs.Frame.RoundTrip
import FailurePrompt.Proofs.Resolution

/-!
# When a stack is refused

Text that is no frame is passed over and a source that cannot be read gives no prompt, so one thing
alone makes building a prompt fail: a numeral with more digits than a number may have, at the end
of a line that the resolver comes to. `Blocked` says this of a stack. The main statement,
`build_answers_iff`, is that resolving a stack, reading the source and building the prompt all
answer exactly if the stack is not blocked, and that reading a whole stack answers exactly if no
line of it ends in such a numeral.
-/

namespace FailurePrompt

/-! ### Lines that cannot be read -/

/-- The line ends with a line and a column, one of which has too many digits. -/
def Overlong (text : String) : Prop :=
  ∃ line column, Frame.EndsAt text.toList line column ∧
    (Text.Numeral.maxDigits < line.length ∨ Text.Numeral.maxDigits < column.length)

theorem isNumeral_replicate {n : Nat} {c : Char} (hn : n ≠ 0) (hc : Text.isDigit c = true) :
    Frame.IsNumeral (List.replicate n c) := by
  refine ⟨by simpa using hn, fun d hd => ?_⟩
  rw [List.eq_of_mem_replicate hd]
  exact hc

/-- A printed frame is overlong if its line is. -/
theorem overlong_namedLine {indent name file line column : List Char} {isConstructor : Bool}
    (hline : Frame.IsNumeral line) (hcolumn : Frame.IsNumeral column)
    (hlong : Text.Numeral.maxDigits < line.length) :
    Overlong (String.ofList
      (Frame.namedLine indent isConstructor name file line column)) := by
  refine ⟨line, column, ⟨indent ++ (['a', 't', ' '] ++ (Frame.newWord isConstructor ++
    (name ++ (Frame.opening ++ file)))), true, by simp, hline, hcolumn, ?_⟩, .inl hlong⟩
  rw [String.toList_ofList, Frame.namedLine]
  simp only [List.append_assoc]

theorem feed_notMem_namedLine {indent name file line column : List Char} {isConstructor : Bool}
    (hindent : '\n' ∉ indent) (hname : '\n' ∉ name) (hfile : '\n' ∉ file)
    (hline : Frame.IsNumeral line) (hcolumn : Frame.IsNumeral column) :
    '\n' ∉ Frame.namedLine indent isConstructor name file line column := by
  have htail : '\n' ∉ Frame.tailChars line column true :=
    Frame.notMem_tailChars hline hcolumn true (by decide) (by decide) (by decide)
  have hnew : '\n' ∉ Frame.newWord isConstructor := by
    rcases isConstructor with _ | _ <;> decide
  simp [Frame.namedLine, Frame.opening, hindent, hnew, hname, hfile, htail]

namespace FrameParser

variable {parser : FrameParser}

theorem parseLine_eq_error_iff {text : String} (hfeed : '\n' ∉ text.toList) :
    (∃ e, parser.parseLine text = .error e) ↔ Overlong text := by
  have hreads := readsAs_parseLine parser hfeed
  constructor
  · rintro ⟨e, he⟩
    rw [he] at hreads
    rcases hreads with _ | ⟨hat, hlong, _⟩
    exact ⟨_, _, hat, hlong⟩
  · rintro ⟨line, column, hat, hlong⟩
    generalize parser.parseLine text = read at hreads ⊢
    rcases hreads with ⟨hat', hl, hc, -, -, -⟩ | ⟨-, -, e⟩ | ⟨hend, -, -, -, -, -⟩ | ⟨hno, -⟩
    · obtain ⟨rfl, rfl⟩ := hat.eq hat'
      omega
    · exact ⟨e, rfl⟩
    · exact absurd hend (Frame.not_endsNative_of_endsAt hfeed hat)
    · exact absurd ⟨line, column, hat⟩ hno

/-- Reading lines answers exactly if each of them can be read. -/
theorem parseLines_eq_ok_iff {lines : List String} :
    (∃ frames, parser.parseLines lines = .ok frames) ↔
      ∀ line ∈ lines, ¬∃ e, parser.parseLine line = .error e := by
  induction lines with
  | nil => simp [parseLines]
  | cons line rest ih =>
    rw [List.forall_mem_cons, ← ih, parseLines]
    rcases hline : parser.parseLine line with e | frame
    · simp
    · rcases parser.parseLines rest with e | frames <;> simp

theorem parseStack_eq_ok_iff {stack : Option String} :
    (∃ frames, parser.parseStack stack = .ok frames) ↔
      ∀ line ∈ stackLines stack, ¬Overlong line := by
  rw [parseStack, parseLines_eq_ok_iff]
  refine forall₂_congr fun line hline => not_congr ?_
  exact parseLine_eq_error_iff (feed_notMem_of_mem_stackLines hline)

end FrameParser

/-! ### Stacks that cannot be resolved -/

namespace Resolver

/-- A candidate line cannot be read, and no candidate before it is picked. -/
def Blocked (resolver : Resolver) (stack : Option String) : Prop :=
  ∃ before line after, frameLines stack = before ++ line :: after ∧
    (∀ earlier ∈ before, ∀ frame, ¬resolver.Picks earlier frame) ∧ Overlong line

/-- A stack of a single line that cannot be read is blocked. -/
theorem blocked_of_overlong (resolver : Resolver) {line : String} (hfeed : '\n' ∉ line.toList)
    (hlong : Overlong line) : resolver.Blocked (some line) := by
  refine ⟨[], line, [], ?_, by simp, hlong⟩
  rw [frameLines, stackLines_of_feed_notMem hfeed]
  rcases h : isMarked line <;> simp [h]

theorem resolve_eq_ok_iff {resolver : Resolver} {stack : Option String} :
    (∃ found, (resolver.resolve stack).value = .ok found) ↔ ¬resolver.Blocked stack := by
  have hscan : resolver.Resolves (frameLines stack) (resolver.resolve stack).value :=
    resolves_resolveLines resolver _
  -- The lines of a stack hold no line feed, so their ends decide what they are read as.
  have hread : ∀ line ∈ frameLines stack,
      ((∃ e, resolver.parser.parseLine line = .error e) ↔ Overlong line) := fun line hline =>
    FrameParser.parseLine_eq_error_iff
      (feed_notMem_of_mem_stackLines ((candidates_frameLines stack).subset hline))
  have hblocked : (∃ e, (resolver.resolve stack).value = .error e) ↔ resolver.Blocked stack := by
    rw [hscan.eq_error_iff]
    constructor
    · rintro ⟨before, line, after, hlines, hbefore, he⟩
      exact ⟨before, line, after, hlines, hbefore, (hread line (by simp [hlines])).1 he⟩
    · rintro ⟨before, line, after, hlines, hbefore, hlong⟩
      exact ⟨before, line, after, hlines, hbefore, (hread line (by simp [hlines])).2 hlong⟩
  rw [← hblocked]
  rcases (resolver.resolve stack).value with e | found <;> simp

end Resolver

/-! ### Prompts that cannot be built -/

namespace PromptBuilder

variable {builder : PromptBuilder} {files : Files} {failure : Failure}

/-- Reading the source around a location never fails. -/
theorem snippet_eq_ok_iff :
    (∃ snippet, (builder.snippet files failure).value = .ok snippet) ↔
      ∃ found, (builder.resolver.resolve failure.stack).value = .ok found := by
  rw [snippet, Traced.value_andThen]
  rcases (builder.resolver.resolve failure.stack).value with e | _ | l <;> simp [snippetAt]

/-- Putting the prompt together never fails. -/
theorem build_eq_ok_iff {title snapshot : String} :
    (∃ prompt, (builder.build files title failure snapshot).value = .ok prompt) ↔
      ∃ snippet, (builder.snippet files failure).value = .ok snippet := by
  rw [value_build]
  rcases (builder.snippet files failure).value with e | snippet <;> simp [Except.map]

/-- An answer is given exactly if no numeral that is too long is come to. -/
theorem build_answers_iff (builder : PromptBuilder) (files : Files) (title : String)
    (failure : Failure) (snapshot : String) :
    ((∃ found, (builder.resolver.resolve failure.stack).value = .ok found) ↔
      ¬builder.resolver.Blocked failure.stack) ∧
    ((∃ snippet, (builder.snippet files failure).value = .ok snippet) ↔
      ¬builder.resolver.Blocked failure.stack) ∧
    ((∃ prompt, (builder.build files title failure snapshot).value = .ok prompt) ↔
      ¬builder.resolver.Blocked failure.stack) ∧
    ∀ parser : FrameParser, ((∃ frames, parser.parseStack failure.stack = .ok frames) ↔
      ∀ line ∈ stackLines failure.stack, ¬Overlong line) := by
  have hresolve := @Resolver.resolve_eq_ok_iff builder.resolver failure.stack
  have hsnippet := (@snippet_eq_ok_iff builder files failure).trans hresolve
  refine ⟨hresolve, hsnippet, build_eq_ok_iff.trans hsnippet, fun parser => ?_⟩
  exact FrameParser.parseStack_eq_ok_iff

/-- A single frame whose line has 4301 digits is enough for all of them to fail. -/
theorem build_refuses_overlong :
    let stack := some (String.ofList (Frame.namedLine [' ', ' ', ' ', ' '] false ['f']
      ['/', 'a', '.', 'j', 's'] (List.replicate 4301 '1') ['1']))
    let failure : Failure := ⟨some "m", stack⟩
    let files : Files := ⟨fun _ => .error .notFound⟩
    (¬∃ found, (Resolver.resolve {} stack).value = .ok found) ∧
    (¬∃ snippet, (PromptBuilder.snippet {} files failure).value = .ok snippet) ∧
    (¬∃ prompt, (build {} files "t" failure "s").value = .ok prompt) ∧
    ¬∃ frames, FrameParser.parseStack {} stack = .ok frames := by
  intro stack failure files
  have hones : Frame.IsNumeral (List.replicate 4301 '1') :=
    isNumeral_replicate (by decide) (by decide)
  have hone : Frame.IsNumeral ['1'] := by decide
  have hlong := @overlong_namedLine [' ', ' ', ' ', ' '] ['f'] ['/', 'a', '.', 'j', 's'] _ _ false
    hones hone (by rw [List.length_replicate]; decide)
  have hfeed := @feed_notMem_namedLine [' ', ' ', ' ', ' '] ['f'] ['/', 'a', '.', 'j', 's'] _ _
    false (by decide) (by decide) (by decide) hones hone
  rw [← @String.toList_ofList (Frame.namedLine ..)] at hfeed
  have hblocked (resolver : Resolver) : resolver.Blocked stack :=
    resolver.blocked_of_overlong hfeed hlong
  refine ⟨?_, ?_, ?_, ?_⟩
  · rw [Resolver.resolve_eq_ok_iff]
    exact not_not_intro (hblocked _)
  · rw [snippet_eq_ok_iff, Resolver.resolve_eq_ok_iff]
    exact not_not_intro (hblocked _)
  · rw [build_eq_ok_iff, snippet_eq_ok_iff, Resolver.resolve_eq_ok_iff]
    exact not_not_intro (hblocked _)
  · rw [FrameParser.parseStack_eq_ok_iff, stackLines_of_feed_notMem hfeed]
    exact fun h => h _ List.mem_cons_self hlong

end PromptBuilder

end FailurePrompt
