import FailurePrompt.Frame.Parser
import FailurePrompt.Proofs.Frame.Division

/-!
# Which lines are frames

A line is a frame for its end alone. If it ends with two numerals after colons and something stands
before them, it points at that line and column, whatever else the text in front of them holds. If
it ends with the word `native`, then only a marker, `new`, an opening parenthesis or an origin
clause may stand before the word. The main statement, `parseLine_accepts_iff`, is that the reader
accepts these lines and no others; a line that it cannot read at all has a numeral that is too
long.
-/

namespace FailurePrompt.Frame

variable {cs line column : List Char}

/-- The line ends with a line and a column, and something stands before them. -/
def EndsAt (cs line column : List Char) : Prop :=
  ∃ lead closed, lead ≠ [] ∧ IsNumeral line ∧ IsNumeral column ∧
    cs = lead ++ tailChars line column closed

/-- What may stand before an origin clause or the word `native`. -/
inductive NativeLead : List Char → Prop
  | start {marker : List Char} (hm : Marker marker) (isConstructor : Bool) :
      NativeLead (marker ++ newWord isConstructor)
  | named (name : List Char) : NativeLead (name ++ opening)

/-- The line ends with the word `native`, with nothing before it that a frame does not have. -/
def EndsNative (cs : List Char) : Prop :=
  ∃ lead clause closed, NativeLead lead ∧ (clause = [] ∨ ∃ origin, OriginClause origin clause) ∧
    cs = lead ++ (clause ++ (nativeWord ++ closing closed))

/-! ### Ends and divisions -/

theorem EndsAt.exists_divides (h : EndsAt cs line column) :
    ∃ shape : Shape, shape.Divides cs ∧
      ∃ closed, shape.site.coordinates = some (line, column, closed) := by
  obtain ⟨lead, closed, hlead, hl, hc, rfl⟩ := h
  have hw := Site.Written.position hlead hl hc closed
  exact ⟨_, (Called.anonymous (.plain hw)).divides, closed, rfl⟩

theorem Shape.Divides.endsAt {shape : Shape} {file : List Char} {closed : Bool}
    (h : shape.Divides cs) (hs : shape.site = .position file line column closed) :
    EndsAt cs line column := by
  obtain ⟨lead, text, hw, rfl⟩ := h.exists_written
  rw [hs] at hw
  rcases hw with ⟨hf, hl, hc, _⟩
  exact ⟨lead ++ file, closed, by simp [hf], hl, hc, by simp⟩

theorem EndsNative.exists_divides (h : EndsNative cs) :
    ∃ shape : Shape, shape.Divides cs ∧ shape.site = .native := by
  obtain ⟨lead, clause, closed, hlead, hclause, rfl⟩ := h
  obtain ⟨origin, hloc⟩ :
      ∃ origin, Located origin .native (clause ++ (nativeWord ++ closing closed)) := by
    rcases hclause with rfl | ⟨o, ho⟩
    · exact ⟨none, .plain (.native closed)⟩
    · exact ⟨some o, .evaluated ho (.native closed)⟩
  rcases hlead with ⟨hm, isConstructor⟩ | ⟨name⟩
  · refine ⟨⟨isConstructor, none, origin, .native⟩, ?_, rfl⟩
    rw [List.append_assoc]
    exact .intro hm (.anonymous hloc)
  · rw [List.append_assoc]
    exact ⟨_, (Called.named name hloc).divides, rfl⟩

theorem Shape.Divides.endsNative {shape : Shape} (h : shape.Divides cs)
    (hs : shape.site = .native) : EndsNative cs := by
  obtain ⟨isConstructor, name, origin, site⟩ := shape
  obtain rfl : site = .native := hs
  obtain ⟨hm, hc⟩ := h
  rename_i marker rest
  dsimp only at hc ⊢
  -- What stands before the clause is the lead, with a name or without one.
  obtain ⟨origin, lead, text, hlead, hloc, he⟩ :
      ∃ origin lead text, NativeLead lead ∧ Located origin .native text ∧
        marker ++ (newWord isConstructor ++ rest) = lead ++ text := by
    rcases hc with ⟨hloc⟩ | ⟨name, hloc⟩
    · exact ⟨_, _, _, .start hm isConstructor, hloc, by simp⟩
    · exact ⟨_, _, _, .named (marker ++ (newWord isConstructor ++ name)), hloc, by simp⟩
  rw [he]
  rcases hloc with ⟨_ | ⟨closed⟩⟩ | ⟨ho, _ | ⟨closed⟩⟩
  · exact ⟨lead, [], closed, hlead, .inl rfl, rfl⟩
  · exact ⟨lead, _, closed, hlead, .inr ⟨_, ho⟩, rfl⟩

/-! ### Ends and shapes -/

/-- A line has a shape with a position exactly if it ends with coordinates, and the coordinates
are those of the shape. -/
theorem endsAt_iff_ofLine? (hfeed : '\n' ∉ cs) :
    EndsAt cs line column ↔
      ∃ shape file closed, Shape.ofLine? cs = some shape ∧
        shape.site = .position file line column closed := by
  constructor
  · intro h
    obtain ⟨shape', hd', closed, hs'⟩ := h.exists_divides
    obtain ⟨shape, hs⟩ := Option.isSome_iff_exists.1 (isSome_ofLine? hfeed hd')
    have he := (divides_of_ofLine? hfeed hs).coordinates_eq hd'
    rw [hs'] at he
    rcases hsite : shape.site with ⟨file, l, c, e⟩ | _
    · simp only [hsite, Site.coordinates, Option.some.injEq, Prod.mk.injEq] at he
      obtain ⟨rfl, rfl, rfl⟩ := he
      exact ⟨shape, file, e, hs, hsite⟩
    · simp [hsite, Site.coordinates] at he
  · rintro ⟨shape, file, closed, hs, hsite⟩
    exact (divides_of_ofLine? hfeed hs).endsAt hsite

/-- A line has the shape of runtime code exactly if it ends with the word for it. -/
theorem endsNative_iff_ofLine? (hfeed : '\n' ∉ cs) :
    EndsNative cs ↔ ∃ shape, Shape.ofLine? cs = some shape ∧ shape.site = .native := by
  constructor
  · intro h
    obtain ⟨shape', hd', hs'⟩ := h.exists_divides
    obtain ⟨shape, hs⟩ := Option.isSome_iff_exists.1 (isSome_ofLine? hfeed hd')
    have he := (divides_of_ofLine? hfeed hs).coordinates_eq hd'
    rcases hsite : shape.site with ⟨file, l, c, e⟩ | _
    · simp [hsite, hs', Site.coordinates] at he
    · exact ⟨shape, hs, hsite⟩
  · rintro ⟨shape, hs, hsite⟩
    exact (divides_of_ofLine? hfeed hs).endsNative hsite

/-- A line ends in one way. -/
theorem EndsAt.eq {line' column' : List Char} (h : EndsAt cs line column)
    (h' : EndsAt cs line' column') : line = line' ∧ column = column' := by
  obtain ⟨lead, closed, -, hl, hc, rfl⟩ := h
  obtain ⟨lead', closed', -, hl', hc', he⟩ := h'
  obtain ⟨-, rfl, rfl, -⟩ := append_tailChars_inj hl hc hl' hc' he
  exact ⟨rfl, rfl⟩

/-- A line ends with coordinates or with the word `native`, not with both. -/
theorem not_endsNative_of_endsAt (hfeed : '\n' ∉ cs) (h : EndsAt cs line column) :
    ¬EndsNative cs := fun hn => by
  obtain ⟨shape, file, closed, hs, hsite⟩ := (endsAt_iff_ofLine? hfeed).1 h
  obtain ⟨shape', hs', hsite'⟩ := (endsNative_iff_ofLine? hfeed).1 hn
  obtain rfl := Option.some.inj (hs.symm.trans hs')
  rw [hsite] at hsite'
  cases hsite'

end FailurePrompt.Frame

namespace FailurePrompt.FrameParser

open FailurePrompt.Frame

variable {parser : FrameParser} {text : String} {shape : Shape} {line column : List Char}

/-! ### From shapes to frames -/

/-- A shape of runtime code gives a frame without a place. -/
theorem frameOfShape_native (hs : shape.site = .native) :
    parser.frameOfShape text shape = .ok {
      rawText := text
      functionName := (reportedName shape.name).map String.ofList
      isNative := true
      isConstructor := shape.isConstructor } := by
  rw [frameOfShape, hs]

/-- A shape with a position gives a frame at that place if the numerals can be read. -/
theorem frameOfShape_position {file : List Char} {closed : Bool}
    (hs : shape.site = .position file line column closed)
    (hl : line.length ≤ Text.Numeral.maxDigits) (hc : column.length ≤ Text.Numeral.maxDigits) :
    parser.frameOfShape text shape = .ok {
      rawText := text
      functionName := (reportedName (balanced shape.name file closed).1).map String.ofList
      filePath :=
        if Url.filePath parser.pathSeparator.toList (balanced shape.name file closed).2 = [] then
          none
        else some (String.ofList
          (Url.filePath parser.pathSeparator.toList (balanced shape.name file closed).2))
      line := some (Text.Numeral.value line)
      column := some (Text.Numeral.value column)
      isConstructor := shape.isConstructor
      evalOrigin := shape.origin.map String.ofList } := by
  rw [frameOfShape, hs]
  simp only [Text.Numeral.read_of_length_le hl, Text.Numeral.read_of_length_le hc]

/-- A numeral that is too long leaves no frame. -/
theorem frameOfShape_overlong {file : List Char} {closed : Bool}
    (hs : shape.site = .position file line column closed)
    (h : Text.Numeral.maxDigits < line.length ∨ Text.Numeral.maxDigits < column.length) :
    ∃ e, parser.frameOfShape text shape = .error e := by
  rw [frameOfShape, hs]
  dsimp only
  rcases Nat.lt_or_ge Text.Numeral.maxDigits line.length with hl | hl
  · rw [Text.Numeral.read_eq_error_iff.2 ⟨hl, rfl⟩]
    exact ⟨_, rfl⟩
  · have hc : Text.Numeral.maxDigits < column.length := h.resolve_left (by omega)
    rw [Text.Numeral.read_of_length_le hl, Text.Numeral.read_eq_error_iff.2 ⟨hc, rfl⟩]
    exact ⟨_, rfl⟩

theorem parseLine_of_shape (hs : Shape.ofLine? text.toList = some shape) :
    parser.parseLine text = (parser.frameOfShape text shape).map some := by
  rw [parseLine, hs]

/-- A frame that was read is that of a division of its line. -/
theorem exists_shape_of_parseLine {frame : Frame} (h : parser.parseLine text = .ok (some frame)) :
    ∃ shape, Shape.ofLine? text.toList = some shape ∧
      parser.frameOfShape text shape = .ok frame := by
  rcases hs : Shape.ofLine? text.toList with _ | shape
  · rw [parseLine_of_no_shape hs] at h
    cases h
  · refine ⟨shape, rfl, ?_⟩
    rw [parseLine_of_shape hs] at h
    rcases hframe : parser.frameOfShape text shape with e | frame' <;> rw [hframe] at h <;> cases h
    rfl

/-! ### What a line is read as -/

/-- What can come of reading a line, by how the line ends. -/
inductive ReadsAs (cs : List Char) : Except Text.Numeral.TooLong (Option Frame) → Prop
  | place {line column : List Char} {frame : Frame} (hat : EndsAt cs line column)
      (hl : line.length ≤ Text.Numeral.maxDigits) (hc : column.length ≤ Text.Numeral.maxDigits)
      (hnative : frame.isNative = false) (hline : frame.line = some (Text.Numeral.value line))
      (hcolumn : frame.column = some (Text.Numeral.value column)) :
      ReadsAs cs (.ok (some frame))
  | overlong {line column : List Char} (hat : EndsAt cs line column)
      (hlong : Text.Numeral.maxDigits < line.length ∨ Text.Numeral.maxDigits < column.length)
      (e : Text.Numeral.TooLong) : ReadsAs cs (.error e)
  | native {frame : Frame} (hend : EndsNative cs) (hnative : frame.isNative = true)
      (hfile : frame.filePath = none) (hline : frame.line = none) (hcolumn : frame.column = none)
      (horigin : frame.evalOrigin = none) : ReadsAs cs (.ok (some frame))
  | none (hat : ¬∃ line column, EndsAt cs line column) (hend : ¬EndsNative cs) :
      ReadsAs cs (.ok none)

/-- The end of a line decides what it is read as. -/
theorem readsAs_parseLine (parser : FrameParser) {text : String} (hfeed : '\n' ∉ text.toList) :
    ReadsAs text.toList (parser.parseLine text) := by
  rcases hs : Shape.ofLine? text.toList with _ | shape
  · rw [parseLine_of_no_shape hs]
    refine .none (fun ⟨line, column, h⟩ => ?_) fun h => ?_
    · obtain ⟨shape, _, _, hs', -⟩ := (endsAt_iff_ofLine? hfeed).1 h
      simp [hs] at hs'
    · obtain ⟨shape, hs', -⟩ := (endsNative_iff_ofLine? hfeed).1 h
      simp [hs] at hs'
  · rw [parseLine, hs]
    dsimp only
    rcases hsite : shape.site with ⟨file, line, column, closed⟩ | _
    · have hat : EndsAt text.toList line column :=
        (endsAt_iff_ofLine? hfeed).2 ⟨shape, file, closed, hs, hsite⟩
      by_cases hread : line.length ≤ Text.Numeral.maxDigits ∧
          column.length ≤ Text.Numeral.maxDigits
      · rw [frameOfShape_position hsite hread.1 hread.2]
        exact .place hat hread.1 hread.2 rfl rfl rfl
      · have hlong : Text.Numeral.maxDigits < line.length ∨
            Text.Numeral.maxDigits < column.length := by omega
        obtain ⟨e, he⟩ : ∃ e, parser.frameOfShape text shape = .error e :=
          frameOfShape_overlong hsite hlong
        rw [he]
        exact .overlong hat hlong e
    · rw [frameOfShape_native hsite]
      exact .native ((endsNative_iff_ofLine? hfeed).2 ⟨shape, hs, hsite⟩) rfl rfl rfl rfl rfl

/-- The reader accepts exactly the lines that end with coordinates that can be read or with the
word for runtime code, and takes the line and the column from the end alone. -/
theorem parseLine_accepts_iff (parser : FrameParser) {text : String}
    (hfeed : '\n' ∉ text.toList) :
    ((∃ frame, parser.parseLine text = .ok (some frame) ∧ frame.isNative = false) ↔
      ∃ line column, EndsAt text.toList line column ∧
        line.length ≤ Text.Numeral.maxDigits ∧ column.length ≤ Text.Numeral.maxDigits) ∧
    (∀ frame line column, parser.parseLine text = .ok (some frame) →
      EndsAt text.toList line column →
        frame.line = some (Text.Numeral.value line) ∧
          frame.column = some (Text.Numeral.value column)) ∧
    ((∃ frame, parser.parseLine text = .ok (some frame) ∧ frame.isNative = true) ↔
      EndsNative text.toList) ∧
    (∀ frame, parser.parseLine text = .ok (some frame) → frame.isNative = true →
      frame.filePath = none ∧ frame.line = none ∧ frame.column = none ∧
        frame.evalOrigin = none) ∧
    (parser.parseLine text = .ok none ↔
      (¬∃ line column, EndsAt text.toList line column) ∧ ¬EndsNative text.toList) := by
  have hreads := readsAs_parseLine parser hfeed
  have hboth : ∀ {line column}, EndsAt text.toList line column → ¬EndsNative text.toList :=
    fun h => not_endsNative_of_endsAt hfeed h
  generalize parser.parseLine text = result at hreads ⊢
  rcases hreads with ⟨hat, hl, hc, hnative, hline, hcolumn⟩ | ⟨hat, hlong, e⟩ |
    ⟨hend, hnative, hfile, hline, hcolumn, horigin⟩ | ⟨hat, hend⟩
  · refine ⟨⟨fun _ => ⟨_, _, hat, hl, hc⟩, fun _ => ⟨_, rfl, hnative⟩⟩, ?_, ?_, ?_, ?_⟩
    · rintro frame line column ⟨⟩ hat'
      obtain ⟨rfl, rfl⟩ := hat.eq hat'
      exact ⟨hline, hcolumn⟩
    · refine ⟨?_, fun h => absurd h (hboth hat)⟩
      rintro ⟨frame, ⟨⟩, htrue⟩
      simp [hnative] at htrue
    · rintro frame ⟨⟩ htrue
      simp [hnative] at htrue
    · exact ⟨fun h => (by cases h), fun h => absurd ⟨_, _, hat⟩ h.1⟩
  · have hno : ∀ {r : Option Frame}, Except.error e ≠ .ok r := nofun
    refine ⟨⟨fun ⟨_, h, _⟩ => absurd h hno, ?_⟩, fun _ _ _ h => absurd h hno,
      ⟨fun ⟨_, h, _⟩ => absurd h hno, fun h => absurd h (hboth hat)⟩, fun _ h => absurd h hno,
      ⟨fun h => absurd h hno, fun h => absurd ⟨_, _, hat⟩ h.1⟩⟩
    rintro ⟨line, column, hat', hl, hc⟩
    obtain ⟨rfl, rfl⟩ := hat.eq hat'
    omega
  · have hno : ∀ {line column}, ¬EndsAt text.toList line column := fun h => hboth h hend
    refine ⟨⟨?_, fun ⟨_, _, h, _⟩ => absurd h hno⟩, fun _ _ _ _ h => absurd h hno,
      ⟨fun _ => hend, fun _ => ⟨_, rfl, hnative⟩⟩, ?_,
      ⟨fun h => (by cases h), fun h => absurd hend h.2⟩⟩
    · rintro ⟨frame, ⟨⟩, hfalse⟩
      simp [hnative] at hfalse
    · rintro frame ⟨⟩ -
      exact ⟨hfile, hline, hcolumn, horigin⟩
  · have hno : ∀ {frame : Frame}, (Except.ok none : Except Text.Numeral.TooLong _) ≠
        .ok (some frame) := nofun
    exact ⟨⟨fun ⟨_, h, _⟩ => absurd h hno, fun ⟨_, _, h, _⟩ => absurd ⟨_, _, h⟩ hat⟩,
      fun _ _ _ h => absurd h hno, ⟨fun ⟨_, h, _⟩ => absurd h hno, fun h => absurd h hend⟩,
      fun _ h => absurd h hno, ⟨fun _ => ⟨hat, hend⟩, fun _ => rfl⟩⟩

/-- An earlier place in the line does not count. -/
theorem parseLine_accepts_last :
    ∃ frame, parseLine {} "at f (g:1:2) (h:33:7)" = .ok (some frame) ∧ frame.isNative = false ∧
      frame.line = some 33 ∧ frame.column = some 7 := by
  have htext : "at f (g:1:2) (h:33:7)".toList =
      ['a', 't', ' ', 'f', ' ', '(', 'g', ':', '1', ':', '2', ')', ' ', '(', 'h'] ++
        tailChars ['3', '3'] ['7'] true := String.toList_ofList
  have hat : EndsAt "at f (g:1:2) (h:33:7)".toList ['3', '3'] ['7'] :=
    ⟨_, true, by decide, by decide, by decide, htext⟩
  have h := @parseLine_accepts_iff {} "at f (g:1:2) (h:33:7)" (by rw [htext]; decide)
  obtain ⟨frame, hframe, hnative⟩ := h.1.2 ⟨_, _, hat, by decide, by decide⟩
  obtain ⟨hline, hcolumn⟩ := h.2.1 frame _ _ hframe hat
  exact ⟨frame, hframe, hnative, hline, hcolumn⟩

end FailurePrompt.FrameParser
