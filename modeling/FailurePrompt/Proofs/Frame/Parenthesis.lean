import FailurePrompt.Proofs.Frame.Nesting
import FailurePrompt.Proofs.Frame.RoundTrip

/-!
# Parentheses in names and paths

A parenthesis after a space opens the clause of a frame, and nothing tells it from one in the name
of a directory or of a function. A path in a closed clause is balanced afterwards, a bare one is
not. The main statements say when an absolute path with matched parentheses is read whole:
`parseLine_bareLine_iff` in a bare line, if it has no such parenthesis, and `parseLine_wordName_iff`
in the clause after a name with a word in parentheses, if it has no other.
-/

namespace FailurePrompt.Frame

variable {cs rest name word file line column : List Char}

/-! ### Reported names -/

theorem Shows.subset {shown : List Char} (h : Shows name shown) : shown ⊆ name := by
  rcases h with ⟨base, rfl, -⟩ | ⟨-, rfl⟩
  · intro c hc
    simp [hc]
  · exact List.Subset.refl _

/-- A name that does not end in a bracket is reported as a whole. -/
theorem reportedName_of_getLast? (hname : name ≠ []) (h : name.getLast? ≠ some ']') :
    reportedName (some name) = some name := by
  obtain ⟨shown, hshows, hrep⟩ := shows_reported hname
  rcases hshows with ⟨base, rfl, -⟩ | ⟨-, rfl⟩
  · exact absurd (by simp) h
  · exact hrep

/-! ### Absolute paths -/

/-- The path begins with a slash. -/
def IsAbsolute (file : List Char) : Prop := file.head? = some '/'

instance (file : List Char) : Decidable (IsAbsolute file) :=
  inferInstanceAs (Decidable (file.head? = some '/'))

theorem IsAbsolute.ne_nil (h : IsAbsolute file) : file ≠ [] := by
  rintro rfl
  cases h

/-- No word that begins with another character begins an absolute path. -/
theorem IsAbsolute.not_prefix (h : IsAbsolute file) {c : Char} {word : List Char} (hc : c ≠ '/') :
    ¬c :: word <+: file := by
  rintro ⟨rest, rfl⟩
  exact hc (by simpa [IsAbsolute] using h)

/-! ### Bare paths with an opening -/

/-- A text with an opening has a first one. -/
theorem exists_first_opening (h : opening <:+: cs) :
    ∃ lead rest, cs = lead ++ (opening ++ rest) ∧ ¬opening <:+: lead := by
  induction cs with
  | nil => exact absurd h (by decide)
  | cons c cs ih =>
    by_cases hfirst : opening <+: c :: cs
    · obtain ⟨rest, hrest⟩ := hfirst
      exact ⟨[], rest, hrest.symm, by decide⟩
    · obtain ⟨lead, rest, rfl, hlead⟩ := ih ((List.infix_cons_iff.1 h).resolve_left hfirst)
      refine ⟨c :: lead, rest, rfl, fun hin => ?_⟩
      rcases List.infix_cons_iff.1 hin with hpre | hin
      · exact hfirst (hpre.trans (List.prefix_append (c :: lead) _))
      · exact hlead hin

/-- The site of a text that ends with coordinates is a position at the end of the text. -/
theorem Located.exists_position {origin : Option (List Char)} {site : Site} {closed : Bool}
    (hl : IsNumeral line) (hc : IsNumeral column)
    (h : Located origin site (rest ++ tailChars line column closed)) :
    ∃ place, place <:+ rest ∧ site = .position place line column closed := by
  obtain ⟨lead, text, hw, he⟩ := h.exists_written
  obtain ⟨place, rfl, hsite⟩ := hw.exists_position hl hc he.symm
  exact ⟨place, List.suffix_append .., hsite⟩

/-- In a bare line, what stands before the first opening of the path is read as a name, and only
some text after it as the path. -/
theorem ofLine?_bareLine_of_opening {indent : List Char}
    (hindent : ∀ c ∈ indent, Text.isBlank c = true) (hfile : Matched file) (hfeed : '\n' ∉ file)
    (hnew : ¬newWord true <+: file) (hopen : opening <:+: file) (hl : IsNumeral line)
    (hc : IsNumeral column) :
    ∃ lead rest origin place, file = lead ++ (opening ++ rest) ∧ rest ≠ [] ∧ place <:+ rest ∧
      (¬evalWords <+: rest → place = rest) ∧
      Shape.ofLine? (bareLine indent file line column) =
        some ⟨false, some lead, origin, .position place line column false⟩ := by
  obtain ⟨lead, rest, rfl, hlead⟩ := exists_first_opening hopen
  have hrest : rest ≠ [] := by
    rintro rfl
    have hsuffix : ['('] <:+ lead ++ (opening ++ []) := ⟨lead ++ [' '], by simp [opening]⟩
    exact absurd (hfile.count_le_of_suffix hsuffix) (by decide)
  have hrfeed : '\n' ∉ rest ++ tailChars line column false := by
    have htail : '\n' ∉ tailChars line column false :=
      notMem_tailChars hl hc false (by decide) (by decide) (by decide)
    simp only [List.mem_append, not_or] at hfeed ⊢
    exact ⟨hfeed.2.2, htail⟩
  have hw := Site.Written.position hrest hl hc false
  obtain ⟨⟨origin, site⟩, hloc⟩ := Option.isSome_iff_exists.1 (isSome_located? hrfeed (.plain hw))
  obtain ⟨place, hplace, rfl⟩ := (located_of_located? hrfeed hloc).exists_position hl hc
  refine ⟨lead, rest, origin, place, rfl, hrest, hplace, fun heval => ?_, ?_⟩
  · -- Without an origin clause the whole rest is the file.
    have hplain := located?_of_no_eval
      (fun h => heval (prefix_of_prefix_append_cons (by decide) h))
      ((site?_eq_some_iff hrfeed).2 hw)
    obtain ⟨-, he⟩ := Prod.mk.inj (Option.some.inj (hloc.symm.trans hplain))
    cases he
    rfl
  · have hlfeed : '\n' ∉ lead := fun h => hfeed (List.mem_append_left _ h)
    have hcall : called? ((lead ++ (opening ++ rest)) ++ tailChars line column false) =
        some (some lead, origin, .position place line column false) := by
      rw [List.append_assoc, List.append_assoc, called?, named?_append hlead hlfeed hloc]
    change Shape.ofLine? (indent ++ (['a', 't', ' '] ++ (newWord false ++
      ((lead ++ (opening ++ rest)) ++ tailChars line column false)))) = _
    exact ofLine?_marked hindent
      (fun _ h => hnew (prefix_of_prefix_append_cons (by decide) h)) hcall

/-! ### Names with a word in parentheses -/

theorem ofLine?_wordName {indent : List Char} (hindent : ∀ c ∈ indent, Text.isBlank c = true)
    (hnopen : '(' ∉ name) (hnfeed : '\n' ∉ name) (hnew : ¬newWord true <+: name ++ [' '])
    (hwfeed : '\n' ∉ word) (heval : ¬evalWords <+: word) (hfeed : '\n' ∉ file)
    (hl : IsNumeral line) (hc : IsNumeral column) :
    Shape.ofLine? (namedLine indent false (wordName name word) file line column) =
      some ⟨false, some name, none, .position (wordFile word file) line column true⟩ := by
  have htext : namedLine indent false (wordName name word) file line column =
      namedLine indent false name (wordFile word file) line column := by
    simp [namedLine, wordName, wordFile]
  rw [htext]
  refine ofLine?_namedLine hindent hnfeed (fun h => hnopen (h.subset (by decide))) (fun _ => hnew)
    (by simp [wordFile]) (by simp [wordFile, opening, hwfeed, hfeed]) (fun h => ?_) hl hc
  exact heval (prefix_of_prefix_append_cons (by decide) h)

end FailurePrompt.Frame

namespace FailurePrompt.FrameParser

open FailurePrompt.Frame

variable {parser : FrameParser} {text : String} {name word file line column : List Char}

theorem filePath_of_not_scheme (h : ¬Url.scheme <+: file) :
    Url.filePath parser.pathSeparator.toList file = file :=
  Url.filePath_of_not_scheme (Bool.eq_false_iff.2 (mt List.isPrefixOf_iff_prefix.1 h))

theorem frameOfShape_wordFile_of_spaced (hname : name ≠ []) (habs : IsAbsolute file)
    (hfile : Matched file) (hspaced : Spaced file) (hll : line.length ≤ Text.Numeral.maxDigits)
    (hcl : column.length ≤ Text.Numeral.maxDigits) :
    parser.frameOfShape text
        ⟨false, some name, none, .position (wordFile word file) line column true⟩ = .ok {
      rawText := text
      functionName := some (String.ofList (wordName name word))
      filePath := some (String.ofList file)
      line := some (Text.Numeral.value line)
      column := some (Text.Numeral.value column) } := by
  have hreported : reportedName (some (wordName name word)) = some (wordName name word) :=
    reportedName_of_getLast? (by simp [wordName, opening])
      (by rw [wordName, ← List.append_assoc, ← List.append_assoc, List.getLast?_concat]; decide)
  have hpath := @filePath_of_not_scheme parser file (habs.not_prefix (by decide))
  rw [frameOfShape_position rfl hll hcl]
  simp only [balanced, if_true, balance_wordFile hname hfile hspaced, hreported, hpath,
    if_neg habs.ne_nil]
  rfl

theorem frameOfShape_wordFile_of_not_spaced (hname : name ≠ []) (hword : '(' ∉ word)
    (hfile : Matched file) (hspaced : ¬Spaced file) (hll : line.length ≤ Text.Numeral.maxDigits)
    (hcl : column.length ≤ Text.Numeral.maxDigits) :
    ∃ frame shown, Shows name shown ∧
      parser.frameOfShape text
        ⟨false, some name, none, .position (wordFile word file) line column true⟩ = .ok frame ∧
      frame.functionName = some (String.ofList shown) ∧
      frame.line = some (Text.Numeral.value line : Int) ∧
      frame.column = some (Text.Numeral.value column : Int) ∧
      (¬Url.scheme <+: word →
        frame.filePath = some (String.ofList (wordFile word file))) := by
  obtain ⟨shown, hshows, hreported⟩ := shows_reported hname
  rw [frameOfShape_position rfl hll hcl]
  simp only [balanced, if_true, balance_eq_self (answered_wordFile hword hfile hspaced), hreported]
  refine ⟨_, shown, hshows, rfl, rfl, rfl, rfl, fun hurl => ?_⟩
  have hpath : Url.filePath parser.pathSeparator.toList (wordFile word file) = wordFile word file :=
    filePath_of_not_scheme fun h => hurl (prefix_of_prefix_append_cons (by decide) h)
  dsimp only
  rw [hpath, if_neg (by simp [wordFile])]

/-- A name with a word in parentheses is read back exactly if every parenthesis that the path opens
stands after a space; otherwise the word and the path are both taken for the file. -/
theorem parseLine_wordName_iff (parser : FrameParser)
    {indent name word file line column : List Char}
    (hindent : ∀ c ∈ indent, Text.isBlank c = true) (hname : name ≠ []) (hnopen : '(' ∉ name)
    (hnfeed : '\n' ∉ name) (hnew : ¬newWord true <+: name ++ [' ']) (hword : '(' ∉ word)
    (hwfeed : '\n' ∉ word) (heval : ¬evalWords <+: word) (habs : IsAbsolute file)
    (hfeed : '\n' ∉ file) (hfile : Matched file) (hline : IsNumeral line)
    (hcolumn : IsNumeral column) (hll : line.length ≤ Text.Numeral.maxDigits)
    (hcl : column.length ≤ Text.Numeral.maxDigits) :
    ∃ frame, parser.parseLine
        (String.ofList (namedLine indent false (wordName name word) file line column)) =
          .ok (some frame) ∧
      frame.line = some (Text.Numeral.value line : Int) ∧
      frame.column = some (Text.Numeral.value column : Int) ∧
      (frame.functionName = some (String.ofList (wordName name word)) ∧
        frame.filePath = some (String.ofList file) ↔ Spaced file) ∧
      (¬Spaced file → ∃ shown, Shows name shown ∧
        frame.functionName = some (String.ofList shown) ∧
        (¬Url.scheme <+: word →
          frame.filePath = some (String.ofList (wordFile word file)))) := by
  have hshape := ofLine?_wordName hindent hnopen hnfeed hnew hwfeed heval hfeed hline hcolumn
  rw [parseLine_of_shape (by rw [String.toList_ofList]; exact hshape)]
  by_cases hspaced : Spaced file
  · rw [frameOfShape_wordFile_of_spaced hname habs hfile hspaced hll hcl]
    exact ⟨_, rfl, rfl, rfl, iff_of_true ⟨rfl, rfl⟩ hspaced, absurd hspaced⟩
  · obtain ⟨frame, shown, hshows, hframe, hfunction, hl, hc, hpath⟩ :=
      frameOfShape_wordFile_of_not_spaced hname hword hfile hspaced hll hcl
    rw [hframe]
    refine ⟨frame, rfl, hl, hc, iff_of_false (fun ⟨hwhole, _⟩ => ?_) hspaced,
      fun _ => ⟨shown, hshows, hfunction, hpath⟩⟩
    -- What is reported is part of the name, which has no parenthesis.
    have he : shown = wordName name word :=
      String.ofList_injective (Option.some.inj (hfunction.symm.trans hwhole))
    exact hnopen (hshows.subset (he ▸ by simp [wordName, opening]))

/-- A directory that was copied has its parenthesis after a space. -/
theorem parseLine_wordName_copy :
    ∃ frame, parseLine {} "    at fn (weird) (/app/dir (copy)/x.js:2:3)" = .ok (some frame) ∧
      frame.functionName = some "fn (weird)" ∧ frame.filePath = some "/app/dir (copy)/x.js" := by
  have hspaced : Spaced ['/', 'a', 'p', 'p', '/', 'd', 'i', 'r', ' ', '(', 'c', 'o', 'p', 'y', ')',
      '/', 'x', '.', 'j', 's'] :=
    openCount_eq_iff_spaced.1 (by decide)
  obtain ⟨frame, hframe, -, -, hwhole, -⟩ :=
    @parseLine_wordName_iff {} [' ', ' ', ' ', ' '] ['f', 'n'] ['w', 'e', 'i', 'r', 'd']
      ['/', 'a', 'p', 'p', '/', 'd', 'i', 'r', ' ', '(', 'c', 'o', 'p', 'y', ')', '/', 'x', '.',
        'j', 's']
      ['2'] ['3'] (List.all_eq_true.1 (by decide)) (by decide) (by decide) (by decide) (by decide)
      (by decide) (by decide) (by decide) (by decide) (by decide) (by decide) (by decide)
      (by decide) (by decide) (by decide)
  exact ⟨frame, hframe, hwhole.2 hspaced⟩

/-- A directory with a name in parentheses does not. -/
theorem parseLine_wordName_group :
    Matched ['/', 'a', 'p', 'p', '/', '(', 'a', 'u', 't', 'h', ')', '/', 'x', '.', 'j', 's'] ∧
    parseLine {} "    at fn (weird) (/app/(auth)/x.js:2:3)" = .ok (some {
      rawText := "    at fn (weird) (/app/(auth)/x.js:2:3)"
      functionName := some "fn"
      filePath := some "weird) (/app/(auth)/x.js"
      line := some 2
      column := some 3 }) :=
  ⟨by decide, rfl⟩

/-! ### Bare paths -/

/-- A bare path without an opening is read back. -/
theorem parseLine_bareLine {indent : List Char} (hindent : ∀ c ∈ indent, Text.isBlank c = true)
    (habs : IsAbsolute file) (hfeed : '\n' ∉ file) (hopen : ¬opening <:+: file)
    (hline : IsNumeral line) (hcolumn : IsNumeral column)
    (hll : line.length ≤ Text.Numeral.maxDigits) (hcl : column.length ≤ Text.Numeral.maxDigits) :
    parser.parseLine (String.ofList (bareLine indent file line column)) = .ok (some {
      rawText := String.ofList (bareLine indent file line column)
      filePath := some (String.ofList file)
      line := some (Text.Numeral.value line)
      column := some (Text.Numeral.value column) }) := by
  have hshape := ofLine?_bareLine hindent hopen (habs.not_prefix (by decide)) habs.ne_nil hfeed
    hline hcolumn
  have hpath := @filePath_of_not_scheme parser file (habs.not_prefix (by decide))
  rw [parseLine_of_shape (by rw [String.toList_ofList]; exact hshape),
    frameOfShape_position rfl hll hcl]
  simp only [balanced, Bool.false_eq_true, if_false, hpath, if_neg habs.ne_nil]
  rfl

/-- A bare path with an opening is cut at the first one. -/
theorem parseLine_bareLine_of_opening {indent : List Char}
    (hsep : parser.pathSeparator.toList.length ≤ 1)
    (hindent : ∀ c ∈ indent, Text.isBlank c = true) (habs : IsAbsolute file)
    (hfeed : '\n' ∉ file) (hfile : Matched file) (hopen : opening <:+: file)
    (hline : IsNumeral line) (hcolumn : IsNumeral column)
    (hll : line.length ≤ Text.Numeral.maxDigits) (hcl : column.length ≤ Text.Numeral.maxDigits) :
    ∃ frame lead rest shown, file = lead ++ (opening ++ rest) ∧ Shows lead shown ∧
      parser.parseLine (String.ofList (bareLine indent file line column)) = .ok (some frame) ∧
      frame.functionName = some (String.ofList shown) ∧
      frame.filePath ≠ some (String.ofList file) ∧
      (¬evalWords <+: rest → ¬Url.scheme <+: rest →
        frame.filePath = some (String.ofList rest)) ∧
      frame.line = some (Text.Numeral.value line : Int) ∧
      frame.column = some (Text.Numeral.value column : Int) := by
  obtain ⟨lead, rest, origin, place, rfl, hrest, hplace, hwhole, hshape⟩ :=
    ofLine?_bareLine_of_opening hindent hfile hfeed (habs.not_prefix (by decide)) hopen hline
      hcolumn
  have hlead : lead ≠ [] := by
    rintro rfl
    exact absurd habs (by simp [IsAbsolute, opening])
  obtain ⟨shown, hshows, hreported⟩ := shows_reported hlead
  rw [parseLine_of_shape (by rw [String.toList_ofList]; exact hshape),
    frameOfShape_position rfl hll hcl]
  simp only [balanced, Bool.false_eq_true, if_false, hreported]
  refine ⟨_, lead, rest, shown, rfl, hshows, rfl, rfl, ?_, fun heval hurl => ?_, rfl, rfl⟩
  · -- What is read as the path is too short.
    intro he
    split at he
    · cases he
    · have hpath := String.ofList_injective (Option.some.inj he)
      have hle := Nat.le_trans (Url.length_filePath_le hsep place) hplace.length_le
      rw [hpath] at hle
      simp only [opening, List.length_append, List.length_cons] at hle
      omega
  · obtain rfl := hwhole heval
    have hpath := @filePath_of_not_scheme parser place hurl
    dsimp only
    rw [hpath, if_neg hrest]

/-- A matched path in a closed clause is left as it is. -/
theorem exists_parseLine_namedLine {indent : List Char}
    (hindent : ∀ c ∈ indent, Text.isBlank c = true) (hnfeed : '\n' ∉ name)
    (hnopen : ¬opening <:+: name) (hnew : ¬newWord true <+: name ++ [' ']) (habs : IsAbsolute file)
    (hfeed : '\n' ∉ file) (hfile : Matched file) (hline : IsNumeral line)
    (hcolumn : IsNumeral column) (hll : line.length ≤ Text.Numeral.maxDigits)
    (hcl : column.length ≤ Text.Numeral.maxDigits) :
    ∃ frame, parser.parseLine (String.ofList (namedLine indent false name file line column)) =
        .ok (some frame) ∧
      frame.filePath = some (String.ofList file) ∧
      frame.line = some (Text.Numeral.value line : Int) ∧
      frame.column = some (Text.Numeral.value column : Int) := by
  have hshape := ofLine?_namedLine hindent hnfeed hnopen (fun (_ : false = false) => hnew)
    habs.ne_nil hfeed (habs.not_prefix (by decide)) hline hcolumn
  have hpath := @filePath_of_not_scheme parser file (habs.not_prefix (by decide))
  rw [parseLine_of_shape (by rw [String.toList_ofList]; exact hshape),
    frameOfShape_position rfl hll hcl]
  simp only [balanced, if_true, balance_eq_self hfile.answered, hpath, if_neg habs.ne_nil]
  exact ⟨_, rfl, rfl, rfl, rfl⟩

/-- A path is read from a bare line as it is from a named one exactly if it has no opening, that is,
no parenthesis after a space. -/
theorem parseLine_bareLine_iff (parser : FrameParser) {indent name file line column : List Char}
    (hsep : parser.pathSeparator.toList.length ≤ 1)
    (hindent : ∀ c ∈ indent, Text.isBlank c = true) (hnfeed : '\n' ∉ name)
    (hnopen : ¬opening <:+: name) (hnew : ¬newWord true <+: name ++ [' ']) (habs : IsAbsolute file)
    (hfeed : '\n' ∉ file) (hfile : Matched file) (hline : IsNumeral line)
    (hcolumn : IsNumeral column) (hll : line.length ≤ Text.Numeral.maxDigits)
    (hcl : column.length ≤ Text.Numeral.maxDigits) :
    ∃ named bare,
      parser.parseLine (String.ofList (namedLine indent false name file line column)) =
        .ok (some named) ∧
      parser.parseLine (String.ofList (bareLine indent file line column)) = .ok (some bare) ∧
      named.filePath = some (String.ofList file) ∧
      (named.line = some (Text.Numeral.value line : Int) ∧ bare.line = named.line) ∧
      (named.column = some (Text.Numeral.value column : Int) ∧ bare.column = named.column) ∧
      (bare.filePath = named.filePath ↔ ¬opening <:+: file) ∧
      (opening <:+: file → ∃ lead rest shown, file = lead ++ (opening ++ rest) ∧
        Shows lead shown ∧ bare.functionName = some (String.ofList shown) ∧
        (¬evalWords <+: rest → ¬Url.scheme <+: rest →
          bare.filePath = some (String.ofList rest))) := by
  obtain ⟨named, hnamed, hfpath, hfline, hfcolumn⟩ := @exists_parseLine_namedLine parser name file
    line column indent hindent hnfeed hnopen hnew habs hfeed hfile hline hcolumn hll hcl
  by_cases hopen : opening <:+: file
  · obtain ⟨bare, lead, rest, shown, hsplit, hshows, hbare, hfunction, hne, hrest, hl, hc⟩ :=
      parseLine_bareLine_of_opening hsep hindent habs hfeed hfile hopen hline hcolumn hll hcl
    refine ⟨named, bare, hnamed, hbare, hfpath, ⟨hfline, hl.trans hfline.symm⟩,
      ⟨hfcolumn, hc.trans hfcolumn.symm⟩, iff_of_false ?_ (not_not_intro hopen),
      fun _ => ⟨lead, rest, shown, hsplit, hshows, hfunction, hrest⟩⟩
    rw [hfpath]
    exact hne
  · exact ⟨named, _, hnamed,
      parseLine_bareLine hindent habs hfeed hopen hline hcolumn hll hcl, hfpath,
      ⟨hfline, hfline.symm⟩, ⟨hfcolumn, hfcolumn.symm⟩, iff_of_true hfpath.symm hopen,
      fun h => absurd h hopen⟩

/-- Without an opening the parentheses do no harm. -/
theorem parseLine_bareLine_numbered :
    ∃ named bare, parseLine {} "    at fn (/home/dir(2)/x.js:12:5)" = .ok (some named) ∧
      parseLine {} "    at /home/dir(2)/x.js:12:5" = .ok (some bare) ∧
      named.filePath = some "/home/dir(2)/x.js" ∧ bare.filePath = named.filePath := by
  obtain ⟨named, bare, hnamed, hbare, hpath, -, -, hagree, -⟩ :=
    @parseLine_bareLine_iff {} [' ', ' ', ' ', ' '] ['f', 'n']
      ['/', 'h', 'o', 'm', 'e', '/', 'd', 'i', 'r', '(', '2', ')', '/', 'x', '.', 'j', 's']
      ['1', '2'] ['5'] (by decide) (List.all_eq_true.1 (by decide)) (by decide) (by decide)
      (by decide) (by decide) (by decide) (by decide) (by decide) (by decide) (by decide)
      (by decide)
  exact ⟨named, bare, hnamed, hbare, hpath, hagree.2 (by decide)⟩

/-- With one, the directory is taken for a function. -/
theorem parseLine_bareLine_copy :
    Matched ['/', 'h', 'o', 'm', 'e', '/', 'd', 'i', 'r', ' ', '(', 'c', 'o', 'p', 'y', ')', '/',
      'x', '.', 'j', 's'] ∧
    parseLine {} "    at fn (/home/dir (copy)/x.js:12:5)" = .ok (some {
      rawText := "    at fn (/home/dir (copy)/x.js:12:5)"
      functionName := some "fn"
      filePath := some "/home/dir (copy)/x.js"
      line := some 12
      column := some 5 }) ∧
    parseLine {} "    at /home/dir (copy)/x.js:12:5" = .ok (some {
      rawText := "    at /home/dir (copy)/x.js:12:5"
      functionName := some "/home/dir"
      filePath := some "copy)/x.js"
      line := some 12
      column := some 5 }) :=
  ⟨by decide, rfl, rfl⟩

end FailurePrompt.FrameParser
