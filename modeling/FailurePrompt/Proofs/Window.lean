import FailurePrompt.Snippet

/-!
# The window around a location

A snippet is a window of the lines of a file. It is centred on the line behind the location, with as
many lines on both sides as the context says, so far as the file has them. `ShowsAround` says this
of a snippet, with the numbers that it reports, the line that it points out and the piece of the
file that its text is. The main statement, `extract_window`, is that there is a snippet unless the
file cannot be read or ends before the window, and that it shows this window.
-/

namespace FailurePrompt

theorem eq_ok_of_toOption {ε α : Type} {r : Except ε α} {a : α}
    (h : r.toOption = some a) : r = .ok a := by
  cases r with
  | error e => cases h
  | ok b => exact congrArg _ (Option.some.inj h)

namespace SnippetReader

variable {reader : SnippetReader} {files : Files} {filePath : String} {location : Location}
  {lines : List String} {s : Snippet}

/-! ### Files that cannot be read -/

/-- The file cannot be read as text: the name of the encoding cannot be looked up or names none, the
system refuses the file, or the codec refuses its bytes. -/
inductive Unreadable (reader : SnippetReader) (files : Files) (filePath : String) : Prop
  | nulInEncoding (h : '\x00' ∈ reader.encoding.toList)
  | file {e : FileError} (h : files.read (Path.ofString filePath) = .error e)
  | encodingName {e : Encoding.NameError} (h : reader.codecs reader.encoding = .error e)
  | decoding {bytes : List UInt8} {codec : Codec} {e : Encoding.DecodeError}
      (hbytes : files.read (Path.ofString filePath) = .ok bytes)
      (hcodec : reader.codecs reader.encoding = .ok codec) (h : codec bytes = .error e)

/-- The file is read unless something stands against it. -/
theorem unreadable_iff : reader.Unreadable files filePath ↔
    ∃ fault, reader.readText files filePath = .error fault := by
  by_cases hnul : '\x00' ∈ reader.encoding.toList
  · exact iff_of_true (.nulInEncoding hnul)
      ⟨.nulInEncoding, by rw [readText, if_pos (List.contains_iff_mem.2 hnul)]⟩
  have hplain : ¬reader.encoding.toList.contains '\x00' = true := mt List.contains_iff_mem.1 hnul
  rcases hfile : files.read (Path.ofString filePath) with e | bytes
  · exact iff_of_true (.file hfile)
      ⟨.file (Path.ofString filePath) e, by simp only [readText, if_neg hplain, hfile]⟩
  rcases hname : reader.codecs reader.encoding with e | codec
  · exact iff_of_true (.encodingName hname)
      ⟨.encodingName e, by simp only [readText, if_neg hplain, hfile, hname]⟩
  rcases hdecode : codec bytes with e | content
  · exact iff_of_true (.decoding hfile hname hdecode)
      ⟨.decoding e, by simp only [readText, if_neg hplain, hfile, hname, hdecode]⟩
  have hread : reader.readText files filePath = .ok content := by
    simp only [readText, if_neg hplain, hfile, hname, hdecode]
  refine iff_of_false ?_ (by simp [hread])
  rintro (h | h | h | ⟨hbytes, hcodec, h⟩)
  · exact hnul h
  · rw [hfile] at h
    cases h
  · rw [hname] at h
    cases h
  · obtain rfl := Except.ok.inj (hfile.symm.trans hbytes)
    obtain rfl := Except.ok.inj (hname.symm.trans hcodec)
    rw [hdecode] at h
    cases h

theorem readLines_eq_ok_iff : reader.readLines files filePath = .ok lines ↔
    ∃ content, reader.readText files filePath = .ok content ∧
      lines = (Text.lines content).map String.ofList := by
  rcases hread : reader.readText files filePath with fault | content
  · simp [readLines, hread]
  · simp [readLines, hread, eq_comm]

theorem exists_readLines_eq_error_iff : (∃ e, reader.readLines files filePath = .error e) ↔
    reader.Unreadable files filePath := by
  rw [unreadable_iff]
  rcases hread : reader.readText files filePath with fault | content <;> simp [readLines, hread]

/-! ### Snippets and windows -/

/-- The snippet that shows the window of some lines around a location. -/
def snippetAround (context : Nat) (location : Location) (lines : List String) : Snippet where
  filePath := location.filePath
  startLine := windowStart context location.line + 1
  lines := window context location.line lines
  highlightLine :=
    if windowStart context location.line < location.line ∧
        location.line ≤ windowEnd context location.line lines.length then
      some location.line
    else none

theorem value_extract_of_ok (h : reader.readLines files location.filePath = .ok lines) :
    (reader.extract files location).value =
      if window reader.contextLines location.line lines = [] then none
      else some (snippetAround reader.contextLines location lines) := by
  rw [extract, h]
  dsimp only
  split
  case h_1 hnil => rw [if_pos hnil]
  case h_2 hne =>
    rw [if_neg hne]
    rfl

theorem value_extract_of_error {e : SourceError}
    (h : reader.readLines files location.filePath = .error e) :
    (reader.extract files location).value = none := by
  rw [extract, h]

/-- A snippet shows the window of the lines that were read. -/
theorem value_extract_eq_some_iff : (reader.extract files location).value = some s ↔
    ∃ lines, reader.readLines files location.filePath = .ok lines ∧
      window reader.contextLines location.line lines ≠ [] ∧
      s = snippetAround reader.contextLines location lines := by
  rcases hread : reader.readLines files location.filePath with e | lines
  · simp [value_extract_of_error hread]
  · rw [value_extract_of_ok hread]
    constructor
    · intro h
      split at h
      case isTrue => cases h
      case isFalse hne => exact ⟨lines, rfl, hne, (Option.some.inj h).symm⟩
    · rintro ⟨_, hlines, hne, rfl⟩
      obtain rfl := Except.ok.inj hlines
      exact if_neg hne

theorem window_lines_eq_nil_iff (h : reader.readLines files filePath = .ok lines)
    (location : Location) (context : Nat) :
    window context location.line lines = [] ↔ lines.length + context ≤ location.line := by
  obtain ⟨content, -, rfl⟩ := readLines_eq_ok_iff.1 h
  have hne : (Text.lines content).map String.ofList ≠ [] := fun hnil =>
    Text.segments_ne_nil (· == '\n') content (List.map_eq_nil_iff.1 hnil)
  rw [window_eq_nil_iff location.line_pos, or_iff_right hne]

theorem value_extract_eq_none_iff : (reader.extract files location).value = none ↔
    reader.Unreadable files location.filePath ∨
      ∃ lines, reader.readLines files location.filePath = .ok lines ∧
        lines.length + reader.contextLines ≤ location.line := by
  rw [← exists_readLines_eq_error_iff]
  rcases hread : reader.readLines files location.filePath with e | lines
  · simp [value_extract_of_error hread]
  · have hnil := window_lines_eq_nil_iff hread location reader.contextLines
    rw [value_extract_of_ok hread]
    split <;> simp_all

/-! ### What a window shows -/

variable {context line : Nat}

theorem start_le_end (h : window context line lines ≠ []) :
    windowStart context line ≤ windowEnd context line lines.length := by
  have hpos := List.length_pos_iff.2 h
  rw [length_window] at hpos
  omega

theorem getElem?_window {i : Nat} (hstart : windowStart context line ≤ i)
    (hend : i < windowEnd context line lines.length) :
    (window context line lines)[i - windowStart context line]? = lines[i]? := by
  rw [window, List.getElem?_drop, Nat.add_sub_cancel' hstart, List.getElem?_take_of_lt hend]

/-- The lines are those in front of the window, its own, and those behind it. -/
theorem exists_window_eq (h : window context line lines ≠ []) :
    lines = lines.take (windowStart context line) ++ (window context line lines ++
      lines.drop (windowEnd context line lines.length)) := by
  have hstart : windowStart context line ≤ windowEnd context line lines.length := start_le_end h
  have hfront : (lines.take (windowEnd context line lines.length)).take (windowStart context line) =
      lines.take (windowStart context line) := by
    rw [List.take_take, Nat.min_eq_left hstart]
  rw [window, ← List.append_assoc, ← hfront, List.take_append_drop, List.take_append_drop]

end SnippetReader

namespace Snippet

/-- The snippet shows the window of some lines around a location. -/
structure ShowsAround (s : Snippet) (context : Nat) (location : Location) (lines : List String) :
    Prop where
  filePath : s.filePath = location.filePath
  startLine : s.startLine = max 1 (location.line - context + 1)
  endLine : s.endLine = min lines.length (location.line + context + 1)
  /-- The lines from the first to the last one, and in the text of the file what stands between the
  line feed in front of them and the one behind them. -/
  exists_eq : ∃ before behind, lines = before ++ (s.lines ++ behind) ∧
    before.length + 1 = s.startLine ∧
    Text.joinLines (lines.map String.toList) =
      before.flatMap (·.toList ++ ['\n']) ++ (s.text.toList ++ behind.flatMap ('\n' :: ·.toList))
  lineCount_le : s.lineCount ≤ 2 * context + 1
  lineCount_eq_iff : s.lineCount = 2 * context + 1 ↔
    (context : Int) ≤ location.line ∧ (location.line : Int) ≤ lines.length - context - 1
  highlightLine :
    s.highlightLine = if location.line ≤ lines.length then some ↑location.line else none
  highlighted : location.line ≤ lines.length → s.startLine ≤ location.line ∧
    location.line ≤ s.endLine ∧ ∃ line, lines[location.line - 1]? = some line ∧
      s.lines[(location.line - s.startLine).toNat]? = some line

theorem joinLines_around {before shown behind : List String} (h : shown ≠ []) :
    Text.joinLines ((before ++ (shown ++ behind)).map String.toList) =
      before.flatMap (·.toList ++ ['\n']) ++
        (Text.joinLines (shown.map String.toList) ++ behind.flatMap ('\n' :: ·.toList)) := by
  have hshown : shown.map String.toList ≠ [] := fun hnil => h (List.map_eq_nil_iff.1 hnil)
  rw [List.map_append, List.map_append,
    Text.joinLines_append_left _ (List.append_ne_nil_of_left_ne_nil hshown _),
    Text.joinLines_append_right hshown, List.flatMap_map, List.flatMap_map]

end Snippet

namespace SnippetReader

/-- The snippet of a window that is not empty shows the window. -/
theorem showsAround_snippetAround {context : Nat} {location : Location} {lines : List String}
    (hcontext : 0 < context) (h : window context location.line lines ≠ []) :
    (snippetAround context location lines).ShowsAround context location lines := by
  have hline := location.line_pos
  have hlength := length_window context location.line lines
  have hpos := List.length_pos_iff.2 h
  have hstart : windowStart context location.line = location.line - context := rfl
  have hend : windowEnd context location.line lines.length =
    min lines.length (location.line + context + 1) := rfl
  constructor
  case filePath => rfl
  case startLine =>
    simp only [snippetAround]
    omega
  case endLine =>
    simp only [Snippet.endLine, snippetAround]
    omega
  case exists_eq =>
    have hlines := exists_window_eq h
    have hle : windowStart context location.line ≤ lines.length := by omega
    refine ⟨_, _, hlines, ?_, ?_⟩
    · rw [List.length_take_of_le hle]
      rfl
    · have htext := congrArg (fun ls => Text.joinLines (ls.map String.toList)) hlines
      rw [Snippet.text, String.toList_ofList]
      exact htext.trans (Snippet.joinLines_around h)
  case lineCount_le => exact length_window_le ..
  case lineCount_eq_iff =>
    simp only [Snippet.lineCount, snippetAround]
    omega
  case highlightLine =>
    have hshown : windowStart context location.line < location.line ∧
        location.line ≤ windowEnd context location.line lines.length ↔
          location.line ≤ lines.length := by
      omega
    simp only [snippetAround, hshown]
  case highlighted =>
    intro hle
    have hindex : ((location.line : Int) - (snippetAround context location lines).startLine).toNat =
        location.line - 1 - windowStart context location.line := by
      simp only [snippetAround]
      omega
    have hget : (window context location.line lines)[location.line - 1 -
        windowStart context location.line]? = lines[location.line - 1]? :=
      getElem?_window (by omega) (by omega)
    refine ⟨?_, ?_, _, List.getElem?_eq_getElem (by omega), ?_⟩
    · simp only [snippetAround]
      omega
    · simp only [Snippet.endLine, snippetAround]
      omega
    · rw [hindex]
      exact hget.trans (List.getElem?_eq_getElem (by omega))

/-- There is a snippet unless the file cannot be read or has no line in the window, and it shows the
window around the location of the file as it was read. -/
theorem extract_window (reader : SnippetReader) (files : Files) (location : Location) :
    ((reader.extract files location).value = none ↔
      reader.Unreadable files location.filePath ∨
        ∃ lines, reader.readLines files location.filePath = .ok lines ∧
          lines.length + reader.contextLines ≤ location.line) ∧
    (reader.Unreadable files location.filePath ↔
      ∃ e, reader.readLines files location.filePath = .error e) ∧
    ∀ s, (reader.extract files location).value = some s →
      ∃ content lines, reader.readText files location.filePath = .ok content ∧
        reader.readLines files location.filePath = .ok lines ∧
        Text.joinLines (lines.map String.toList) = content ∧
        s.ShowsAround reader.contextLines location lines := by
  refine ⟨value_extract_eq_none_iff, exists_readLines_eq_error_iff.symm, fun s hs => ?_⟩
  obtain ⟨lines, hlines, hne, rfl⟩ := value_extract_eq_some_iff.1 hs
  obtain ⟨content, hcontent, rfl⟩ := readLines_eq_ok_iff.1 hlines
  have hmap : ((Text.lines content).map String.ofList).map String.toList = Text.lines content := by
    simp
  exact ⟨content, _, hcontent, hlines, by rw [hmap, Text.joinLines_lines],
    showsAround_snippetAround reader.contextLines_pos hne⟩

/-- A line behind the last one, near enough for a window. -/
theorem extract_window_beyond :
    let files : Files := ⟨fun path =>
      if path = Path.ofString "/a.js" then .ok [0x61, 0x0a, 0x62] else .error .notFound⟩
    let location : Location := ⟨"/a.js", 3, 0, by decide, by decide⟩
    ∃ s, (extract { contextLines := 2 } files location).value = some s ∧
      s.ShowsAround 2 location ["a", "b"] := by
  intro files location
  have hread : readLines { contextLines := 2 } files "/a.js" = .ok ["a", "b"] :=
    eq_ok_of_toOption (by decide +kernel)
  obtain ⟨hnone, hunreadable, hsome⟩ := extract_window { contextLines := 2 } files location
  rcases hs : (extract { contextLines := 2 } files location).value with _ | s
  · rcases hnone.1 hs with h | ⟨lines, hlines, hle⟩
    · obtain ⟨e, he⟩ := hunreadable.1 h
      cases hread.symm.trans he
    · obtain rfl := Except.ok.inj (hread.symm.trans hlines)
      exact absurd hle (by decide)
  · obtain ⟨content, lines, -, hlines, -, hshows⟩ := hsome s hs
    obtain rfl := Except.ok.inj (hread.symm.trans hlines)
    exact ⟨s, rfl, hshows⟩

end SnippetReader

end FailurePrompt
