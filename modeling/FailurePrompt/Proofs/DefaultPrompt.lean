import FailurePrompt.Proofs.Refusal
import FailurePrompt.Proofs.Template
import FailurePrompt.Proofs.Window

/-!
# The default prompt

The prompt of the default template is made of its fixed pieces and of the title, the message, the
source and the snapshot between them. Trimming takes the line feed in front and white space behind,
and behind the last piece stands nothing but the snapshot. The main statement, `build_default`, says
when there is such a prompt and that it consists of nothing else.
-/

namespace FailurePrompt

/-! ### The source that is shown -/

namespace SnippetReader

variable {reader : SnippetReader} {files : Files} {location : Location}

/-- The window around a location: lines of a file that can be read, at least one of them. -/
def Windows (reader : SnippetReader) (files : Files) (location : Location)
    (shown : List String) : Prop :=
  shown ≠ [] ∧ ∃ lines, reader.readLines files location.filePath = .ok lines ∧
    shown = window reader.contextLines location.line lines

/-- There is a snippet exactly if there is a window, and its lines are those of the window. -/
theorem extract_cases (reader : SnippetReader) (files : Files) (location : Location) :
    ((reader.extract files location).value = none ∧
      ∀ shown, ¬reader.Windows files location shown) ∨
    ∃ snippet, (reader.extract files location).value = some snippet ∧
      reader.Windows files location snippet.lines := by
  rcases hread : reader.readLines files location.filePath with e | lines
  · refine .inl ⟨value_extract_of_error hread, ?_⟩
    rintro shown ⟨-, lines, hlines, -⟩
    rw [hread] at hlines
    cases hlines
  · rw [value_extract_of_ok hread]
    by_cases hwindow : window reader.contextLines location.line lines = []
    · refine .inl ⟨if_pos hwindow, ?_⟩
      rintro shown ⟨hne, lines', hlines', rfl⟩
      rw [hread] at hlines'
      cases hlines'
      exact hne hwindow
    · exact .inr ⟨_, if_neg hwindow, hwindow, lines, hread, rfl⟩

/-- The lines of a snippet are those of the window. -/
theorem windows_of_extract {snippet : Snippet}
    (h : (reader.extract files location).value = some snippet) :
    reader.Windows files location snippet.lines := by
  rcases reader.extract_cases files location with ⟨hnone, -⟩ | ⟨shown, hshown, hwindow⟩
  · rw [hnone] at h
    cases h
  · rw [hshown] at h
    cases h
    exact hwindow

end SnippetReader

namespace PromptBuilder

section Source

variable (builder : PromptBuilder) (files : Files) (failure : Failure)

/-- The stack resolves to a location around which there is no window. -/
def LacksWindow : Prop :=
  ∃ location, (builder.resolver.resolve failure.stack).value = .ok (some location) ∧
    ∀ shown, ¬builder.reader.Windows files location shown

/-- The source that a prompt shows: the window around the location that the stack resolves to. -/
def ShowsSource (source : String) : Prop :=
  ∃ location shown, (builder.resolver.resolve failure.stack).value = .ok (some location) ∧
    builder.reader.Windows files location shown ∧
    source.toList = Text.joinLines (shown.map String.toList)

/-- What there is of the source for a failure. -/
inductive Sourced : Option Snippet → Prop
  | unresolved (h : (builder.resolver.resolve failure.stack).value = .ok none) : Sourced none
  | unavailable (h : builder.LacksWindow files failure) : Sourced none
  | shown {snippet : Snippet} (h : builder.ShowsSource files failure snippet.text) :
      Sourced (some snippet)

end Source

variable {builder : PromptBuilder} {files : Files} {title : String} {failure : Failure}
  {snapshot source : String}

theorem exists_sourced (files : Files) (h : ¬builder.resolver.Blocked failure.stack) :
    ∃ snippet, (builder.snippet files failure).value = .ok snippet ∧
      builder.Sourced files failure snippet := by
  obtain ⟨found, hfound⟩ := Resolver.resolve_eq_ok_iff.2 h
  rw [snippet, Traced.value_andThen, hfound]
  rcases found with _ | location
  · exact ⟨none, rfl, .unresolved hfound⟩
  · rcases builder.reader.extract_cases files location with ⟨hnone, hno⟩ | ⟨s, hs, hwindow⟩
    · refine ⟨none, ?_, .unavailable ⟨location, hfound, hno⟩⟩
      rw [snippetAt, Traced.value_map, hnone]
    · refine ⟨some s, ?_, .shown ⟨location, s.lines, hfound, hwindow, ?_⟩⟩
      · rw [snippetAt, Traced.value_map, hs]
      · rw [Snippet.text, String.toList_ofList]

theorem ShowsSource.eq {source' : String} (h : builder.ShowsSource files failure source)
    (h' : builder.ShowsSource files failure source') : source = source' := by
  obtain ⟨location, shown, hlocation, ⟨-, lines, hlines, rfl⟩, hsource⟩ := h
  obtain ⟨location', shown', hlocation', ⟨-, lines', hlines', rfl⟩, hsource'⟩ := h'
  rw [hlocation] at hlocation'
  cases hlocation'
  rw [hlines] at hlines'
  cases hlines'
  rw [← hsource'] at hsource
  exact String.toList_injective hsource

theorem ShowsSource.not_lacksWindow (h : builder.ShowsSource files failure source) :
    ¬builder.LacksWindow files failure := by
  obtain ⟨location, shown, hlocation, hshown, -⟩ := h
  rintro ⟨location', hlocation', hno⟩
  rw [hlocation] at hlocation'
  cases hlocation'
  exact hno shown hshown

/-- A source that is shown is text, unless its window is a single empty line. -/
theorem Sourced.sourceText_eq_empty_iff {snippet : Option Snippet}
    (h : builder.Sourced files failure snippet) :
    sourceText snippet = "" ↔
      (builder.resolver.resolve failure.stack).value = .ok none ∨
        builder.LacksWindow files failure ∨ builder.ShowsSource files failure "" := by
  cases h with
  | unresolved h => exact iff_of_true rfl (.inl h)
  | unavailable h => exact iff_of_true rfl (.inr (.inl h))
  | shown h =>
    constructor
    · intro htext
      exact .inr (.inr (htext ▸ h))
    · rintro (hnone | hlacks | hempty)
      · obtain ⟨location, -, hlocation, -⟩ := h
        rw [hnone] at hlocation
        cases hlocation
      · exact absurd hlacks h.not_lacksWindow
      · exact h.eq hempty

theorem Sourced.showsSource {snippet : Option Snippet}
    (h : builder.Sourced files failure snippet) (hne : sourceText snippet ≠ "") :
    builder.ShowsSource files failure (sourceText snippet) := by
  cases h with
  | unresolved h => exact absurd rfl hne
  | unavailable h => exact absurd rfl hne
  | shown h => exact h

/-! ### The pieces and the values -/

/-- The characters of a literal are compared as a list; the kernel is slow to decode a long one. -/
private theorem notMem_toList_of_eq {s : String} {cs : List Char} {c : Char}
    (hs : s = String.ofList cs) (hc : c ∉ cs) : c ∉ s.toList := by
  rw [hs, String.toList_ofList]
  exact hc

set_option maxRecDepth 4000 in
private theorem brace_notMem_instructions : '\x7b' ∉ Template.instructions.toList :=
  notMem_toList_of_eq rfl (by decide +kernel)

/-- Every value of the default template stands between its pieces. -/
theorem render_default (title message source snapshot : String) :
    (Template.default.render (values title message source snapshot)).toList =
      Template.opening.toList ++ (title.toList ++ (Template.instructions.toList ++
        (message.toList ++ (Template.snippetHeading.toList ++ (source.toList ++
          (Template.snapshotHeading.toList ++ (snapshot.toList ++ ['\n']))))))) := by
  have hopening : '\x7b' ∉ Template.opening.toList :=
    notMem_toList_of_eq rfl (by decide +kernel)
  have hsnippet : '\x7b' ∉ Template.snippetHeading.toList :=
    notMem_toList_of_eq rfl (by decide +kernel)
  have hsnapshot : '\x7b' ∉ Template.snapshotHeading.toList :=
    notMem_toList_of_eq rfl (by decide +kernel)
  have hend : TemplatePiece.ofChars ['\n'] = [.char '\n'] := by
    rw [TemplatePiece.ofChars_cons_of_none (Placeholder.at?_cons_of_ne (by decide)),
      TemplatePiece.ofChars]
  have htext : Template.default.text.toList =
      Template.opening.toList ++ (Placeholder.title.chars ++ (Template.instructions.toList ++
        (Placeholder.error.chars ++ (Template.snippetHeading.toList ++ (Placeholder.snippet.chars ++
          (Template.snapshotHeading.toList ++ (Placeholder.ariaSnapshot.chars ++ ['\n'])))))))
      := by
    simp only [Template.default, Template.defaultText, String.toList_append, Placeholder.text,
      String.toList_ofList, List.append_assoc]
    rfl
  rw [Template.render, String.toList_ofList, htext, TemplatePiece.fill_text hopening,
    TemplatePiece.fill_placeholder rfl (by decide),
    TemplatePiece.fill_text brace_notMem_instructions,
    TemplatePiece.fill_placeholder rfl (by decide), TemplatePiece.fill_text hsnippet,
    TemplatePiece.fill_placeholder rfl (by decide), TemplatePiece.fill_text hsnapshot,
    TemplatePiece.fill_placeholder rfl (by decide), hend]
  rfl

/-- Behind the last piece only white space of the snapshot is trimmed, or with a blank snapshot the
line feeds of the piece itself. -/
theorem trimEnd_snapshot (piece snapshot : List Char) :
    Text.trimEnd (piece ++ (snapshot ++ ['\n'])) =
      if Text.trimEnd snapshot = [] then Text.trimEnd piece
      else piece ++ Text.trimEnd snapshot := by
  have hfeed : Text.trimEnd ['\n'] = [] := by decide
  rw [Text.trimEnd_append piece, Text.trimEnd_append snapshot, if_pos hfeed]

/-- The default prompt: the pieces of the template without its first line feed, the values between
them, and no white space behind. -/
def defaultChars (title message source snapshot : String) : List Char :=
  Template.opening.toList.tail ++ (title.toList ++ (Template.instructions.toList ++
    (message.toList ++ (Template.snippetHeading.toList ++ (source.toList ++
      Text.trimEnd (Template.snapshotHeading.toList ++ (snapshot.toList ++ ['\n'])))))))

theorem exists_opening_eq : ∃ lead, Template.opening.toList = '\n' :: 'Y' :: lead :=
  ⟨Template.opening.toList.drop 2, by decide +kernel⟩

theorem defaultChars_ne_nil (title message source snapshot : String) :
    defaultChars title message source snapshot ≠ [] := by
  obtain ⟨lead, hlead⟩ := exists_opening_eq
  rw [defaultChars, hlead]
  exact List.cons_ne_nil _ _

theorem compose_default (htemplate : builder.template = .default)
    (title message source snapshot : String) :
    (builder.compose title message source snapshot).toList =
      defaultChars title message source snapshot := by
  obtain ⟨lead, hlead⟩ := exists_opening_eq
  have hend : Text.trimEnd
      (Template.snapshotHeading.toList ++ (snapshot.toList ++ ['\n'])) ≠ [] := by
    rw [ne_eq, Text.trimEnd_eq_nil_iff]
    intro hblank
    have hletter : Text.isBlank 'A' = true :=
      hblank 'A' (List.mem_append_left _ (by decide +kernel))
    exact absurd hletter (by decide)
  have hstart : ∀ rest, Text.trim ('\n' :: 'Y' :: lead ++ rest) =
      Text.trimEnd ('Y' :: lead ++ rest) := fun rest => rfl
  rw [compose, htemplate, String.toList_ofList, render_default, defaultChars, hlead, hstart,
    List.tail_cons]
  generalize Template.snapshotHeading.toList ++ (snapshot.toList ++ ['\n']) = behind at hend ⊢
  have htrim := Text.trimEnd_append ('Y' :: lead ++ (title.toList ++
    (Template.instructions.toList ++ (message.toList ++ (Template.snippetHeading.toList ++
      source.toList))))) behind
  rw [if_neg hend] at htrim
  simpa only [List.append_assoc] using htrim

/-! ### When there is a prompt, and what it is -/

/-- If the stack can be read, there is no prompt exactly if there is no message, no location, no
window or nothing in it; and otherwise the prompt has every value between the pieces of the
template, where only the snapshot may lose white space at its end. -/
theorem build_default (builder : PromptBuilder) (files : Files) (title : String)
    (failure : Failure) (snapshot : String) (htemplate : builder.template = .default)
    (hread : ¬builder.resolver.Blocked failure.stack) :
    ∃ prompt, (builder.build files title failure snapshot).value = .ok prompt ∧
      (prompt = "" ↔ shownMessage failure = "" ∨
        (builder.resolver.resolve failure.stack).value = .ok none ∨
          builder.LacksWindow files failure ∨ builder.ShowsSource files failure "") ∧
      (prompt ≠ "" → ∃ source, builder.ShowsSource files failure source ∧
        prompt.toList = defaultChars title (shownMessage failure) source snapshot) ∧
      ∃ kept lost, snapshot.toList = kept ++ lost ∧ (∀ c ∈ lost, Text.isBlank c = true) ∧
        Text.trimEnd (Template.snapshotHeading.toList ++ (snapshot.toList ++ ['\n'])) =
          if kept = [] then Text.trimEnd Template.snapshotHeading.toList
          else Template.snapshotHeading.toList ++ kept := by
  obtain ⟨snippet, hsnippet, hsourced⟩ := exists_sourced files hread
  have hbuild : (builder.build files title failure snapshot).value =
      .ok (builder.assemble title failure snapshot snippet).value := by
    rw [value_build, hsnippet]
    rfl
  rw [value_assemble] at hbuild
  have hsource := hsourced.sourceText_eq_empty_iff
  have hsnapshot : ∃ kept lost, snapshot.toList = kept ++ lost ∧
      (∀ c ∈ lost, Text.isBlank c = true) ∧
      Text.trimEnd (Template.snapshotHeading.toList ++ (snapshot.toList ++ ['\n'])) =
        if kept = [] then Text.trimEnd Template.snapshotHeading.toList
        else Template.snapshotHeading.toList ++ kept := by
    obtain ⟨lost, hlost, hblank⟩ := Text.exists_append_blank_eq snapshot.toList
    exact ⟨_, lost, hlost.symm, hblank, trimEnd_snapshot _ _⟩
  by_cases hempty : shownMessage failure = "" ∨ sourceText snippet = ""
  · rw [if_pos hempty] at hbuild
    have hcause := hempty.imp_right hsource.1
    exact ⟨"", hbuild, iff_of_true rfl hcause, fun hne => absurd rfl hne, hsnapshot⟩
  · rw [if_neg hempty] at hbuild
    have hcompose := compose_default htemplate title (shownMessage failure) (sourceText snippet)
      snapshot
    have hne : builder.compose title (shownMessage failure) (sourceText snippet) snapshot ≠ "" := by
      intro h
      rw [h] at hcompose
      exact defaultChars_ne_nil _ _ _ _ hcompose.symm
    have hshows := hsourced.showsSource fun h => hempty (.inr h)
    exact ⟨_, hbuild, iff_of_false hne fun h => hempty (h.imp_right hsource.2),
      fun _ => ⟨_, hshows, hcompose⟩, hsnapshot⟩

/-- A title, a message and a line of source that look like placeholders stand in the prompt as they
are. -/
theorem build_default_lookalike :
    let failure : Failure := ⟨some "\x1b[31m\x7bsnippet\x7d", some "    at f (/a.js:1:1)"⟩
    let files : Files := ⟨fun path =>
      if path = Path.ofString "/a.js" then .ok [0x7b, 0x65, 0x72, 0x72, 0x6f, 0x72, 0x7d]
      else .error .notFound⟩
    ({} : PromptBuilder).template = .default ∧ ¬Resolver.Blocked {} failure.stack ∧
      ∃ prompt, (build {} files " \x7btitle\x7d" failure "- list \n").value = .ok prompt ∧
        prompt.toList = defaultChars " \x7btitle\x7d" "\x7bsnippet\x7d" "\x7berror\x7d"
          "- list \n" := by
  intro failure files
  have hlocation : (Resolver.resolve {} failure.stack).value =
      .ok (some ⟨"/a.js", 1, 1, by decide, by decide⟩) :=
    eq_ok_of_toOption (by decide +kernel)
  have htext : SnippetReader.readText {} files "/a.js" =
      .ok ['\x7b', 'e', 'r', 'r', 'o', 'r', '\x7d'] :=
    eq_ok_of_toOption (by decide +kernel)
  have hlines : SnippetReader.readLines {} files "/a.js" = .ok ["\x7berror\x7d"] := by
    rw [SnippetReader.readLines, htext]
    rfl
  have hshows : ShowsSource {} files failure "\x7berror\x7d" :=
    ⟨_, ["\x7berror\x7d"], hlocation, ⟨by simp, _, hlines, rfl⟩, rfl⟩
  have hmessage : shownMessage failure = "\x7bsnippet\x7d" := by decide +kernel
  have hread : ¬Resolver.Blocked {} failure.stack := Resolver.resolve_eq_ok_iff.1 ⟨_, hlocation⟩
  obtain ⟨prompt, hbuild, hempty, hprompt, -⟩ :=
    build_default {} files " \x7btitle\x7d" failure "- list \n" rfl hread
  have hne : prompt ≠ "" := by
    rw [ne_eq, hempty, hmessage, hlocation]
    rintro (h | h | h | h)
    · exact absurd h (by decide)
    · cases h
    · exact hshows.not_lacksWindow h
    · exact absurd (hshows.eq h) (by decide)
  obtain ⟨source, hsource, hchars⟩ := hprompt hne
  rw [hmessage, hsource.eq hshows] at hchars
  exact ⟨rfl, hread, prompt, hbuild, hchars⟩

end PromptBuilder

end FailurePrompt
