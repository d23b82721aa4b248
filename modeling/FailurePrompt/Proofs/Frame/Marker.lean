import FailurePrompt.Proofs.Frame.Parenthesis

/-!
# Frame lines with and without a marker

The marker of a frame line is optional, so a line that begins with one can be divided with the
marker taken or with the marker as part of what comes after it. It is taken whenever the text after
it is a frame line: what the line is read as does not depend on the marker or on its indentation
(`parseLine_marked`). Otherwise the marker is read as something else, and then it is all there is of
the file, or of the function (`parseLine_of_marked`).
-/

namespace FailurePrompt.Frame

variable {cs rest indent : List Char} {shape : Shape}

/-- A text behind an indented marker. -/
def withMarker (indent rest : List Char) : List Char := indent ++ (['a', 't', ' '] ++ rest)

/-- The text begins with a marker, which may be indented. -/
def BeginsMarked (cs : List Char) : Prop :=
  ∃ indent rest, (∀ c ∈ indent, Text.isBlank c = true) ∧ cs = withMarker indent rest

theorem beginsMarked_iff : BeginsMarked cs ↔ (afterMarker? cs).isSome = true := by
  rw [Option.isSome_iff_exists]
  constructor
  · rintro ⟨indent, rest, hindent, rfl⟩
    exact ⟨rest, afterMarker?_append hindent rest⟩
  · rintro ⟨rest, h⟩
    obtain ⟨indent, hindent, rfl⟩ := exists_of_afterMarker? h
    exact ⟨indent, rest, hindent, rfl⟩

instance (cs : List Char) : Decidable (BeginsMarked cs) :=
  decidable_of_iff _ beginsMarked_iff.symm

/-! ### The marker is taken -/

/-- The ways to read a text without a marker are the first ways to read it with one. -/
theorem exists_starts_withMarker (hindent : ∀ c ∈ indent, Text.isBlank c = true)
    (hrest : ¬BeginsMarked rest) :
    ∃ others, starts (withMarker indent rest) = starts rest ++ others := by
  have hmarked : afterMarker? (withMarker indent rest) = some rest :=
    afterMarker?_append hindent rest
  have hplain : afterMarker? rest = none := by
    rw [← Option.not_isSome_iff_eq_none, ← beginsMarked_iff]
    exact hrest
  -- With a marker the text behind it is tried first, and without one nothing else is.
  simp only [starts, hmarked, hplain, Option.toList_some, Option.toList_none, List.nil_append,
    List.flatMap_append, List.flatMap_cons, List.flatMap_nil, List.append_nil]
  exact ⟨_, rfl⟩

/-- A line with a marker has the shape of the text behind it. -/
theorem ofLine?_withMarker (hindent : ∀ c ∈ indent, Text.isBlank c = true)
    (hrest : ¬BeginsMarked rest) (h : Shape.ofLine? rest = some shape) :
    Shape.ofLine? (withMarker indent rest) = some shape := by
  obtain ⟨others, hothers⟩ := exists_starts_withMarker hindent hrest
  rw [Shape.ofLine?] at h ⊢
  rw [hothers, List.findSome?_append, h, Option.some_or]

/-! ### The marker is read as something else -/

/-- The marker is the whole file, or it is the function of code of the runtime. -/
inductive Shape.ReportsMarker (indent : List Char) : Shape → Prop
  | file (line column : List Char) (closed : Bool) :
      ReportsMarker indent
        ⟨false, none, none, .position (indent ++ ['a', 't', ' ']) line column closed⟩
  | function (origin : Option (List Char)) :
      ReportsMarker indent ⟨false, some (indent ++ ['a', 't']), origin, .native⟩

theorem ne_of_mem_marker {c d : Char} (hindent : ∀ c ∈ indent, Text.isBlank c = true)
    (hd : Text.isBlank d = false) (hword : d ∉ ['a', 't', ' '])
    (hc : c ∈ indent ++ ['a', 't', ' ']) : c ≠ d := by
  rintro rfl
  rcases List.mem_append.1 hc with h | h
  · rw [hindent c h] at hd
    cases hd
  · exact hword h

/-- A word that begins with no blank and no marker does not begin a marked line. -/
theorem cons_ne_withMarker {d : Char} {word : List Char}
    (hindent : ∀ c ∈ indent, Text.isBlank c = true) (hd : Text.isBlank d = false)
    (hword : d ∉ ['a', 't', ' ']) : d :: word ≠ withMarker indent rest := by
  intro h
  have hsplit : d :: word = (indent ++ ['a', 't', ' ']) ++ rest := by simpa [withMarker] using h
  obtain ⟨c, marker, hmarker⟩ : ∃ c marker, indent ++ ['a', 't', ' '] = c :: marker :=
    List.exists_cons_of_ne_nil (by simp)
  rw [hmarker] at hsplit
  exact ne_of_mem_marker hindent hd hword (by rw [hmarker]; simp) (List.cons.inj hsplit).1.symm

/-- If the text behind the marker has no division, the line is not divided there. -/
theorem Called.of_divides (hindent : ∀ c ∈ indent, Text.isBlank c = true)
    (hplain : ∀ shape : Shape, ¬shape.Divides rest) (h : shape.Divides (withMarker indent rest)) :
    shape.isConstructor = false ∧
      Called shape.name shape.origin shape.site (withMarker indent rest) := by
  generalize hcs : withMarker indent rest = cs at h ⊢
  obtain ⟨hm, hc⟩ := h
  rename_i marker cs
  rcases hm with _ | hindent'
  · rcases hcon : shape.isConstructor with _ | _
    · exact ⟨rfl, by simpa [newWord] using hc⟩
    · rw [hcon] at hcs
      exact absurd hcs.symm (cons_ne_withMarker hindent (by decide) (by decide))
  · rename_i indent'
    have hrest : afterMarker? (withMarker indent rest) = some rest :=
      afterMarker?_append hindent rest
    rw [hcs, List.append_assoc, afterMarker?_append hindent', Option.some.injEq] at hrest
    exact absurd (hrest ▸ .intro .missing hc) (hplain shape)

theorem withMarker_eq_append (indent rest : List Char) :
    withMarker indent rest = (indent ++ ['a', 't', ' ']) ++ rest := by
  simp [withMarker]

/-- A file that begins at the marker is the marker, for behind it nothing is left of a file. -/
theorem reportsMarker_of_position {file line column : List Char} {closed : Bool}
    (hindent : ∀ c ∈ indent, Text.isBlank c = true) (hplain : ∀ shape : Shape, ¬shape.Divides rest)
    (hl : IsNumeral line) (hc : IsNumeral column)
    (h : withMarker indent rest = file ++ tailChars line column closed) :
    Shape.ReportsMarker indent ⟨false, none, none, .position file line column closed⟩ := by
  rw [withMarker_eq_append] at h
  rcases List.append_eq_append_iff.1 h with ⟨as, rfl, rfl⟩ | ⟨as, hlead, htail⟩
  · rcases as with _ | ⟨a, as⟩
    · rw [List.append_nil]
      exact .file line column closed
    · have hw := Site.Written.position (List.cons_ne_nil a as) hl hc closed
      exact absurd (Called.anonymous (.plain hw)).divides (hplain _)
  · rcases as with _ | ⟨a, as⟩
    · rw [List.append_nil] at hlead
      subst hlead
      exact .file line column closed
    · -- The coordinates would begin with a colon in the marker.
      obtain ⟨rfl, -⟩ := List.cons.inj htail
      exact absurd rfl (ne_of_mem_marker hindent (by decide) (by decide)
        (by rw [hlead]; simp) : ':' ≠ ':')

/-- A name that begins at the marker is the word of the marker, and the word `native` stands in the
parenthesis after it. -/
theorem reportsMarker_of_name {name tail : List Char} {origin : Option (List Char)} {site : Site}
    (hindent : ∀ c ∈ indent, Text.isBlank c = true) (hplain : ∀ shape : Shape, ¬shape.Divides rest)
    (hlocated : Located origin site tail) (h : withMarker indent rest = name ++ (opening ++ tail)) :
    Shape.ReportsMarker indent ⟨false, some name, origin, site⟩ := by
  rw [withMarker_eq_append] at h
  rcases List.append_eq_append_iff.1 h with ⟨name', -, hrest⟩ | ⟨as, hlead, htail⟩
  · exact absurd (hrest ▸ (Called.named name' hlocated).divides) (hplain _)
  rcases as with _ | ⟨a, _ | ⟨b, as⟩⟩
  · exact absurd (htail ▸ (Called.named [] hlocated).divides) (hplain _)
  · -- The opening is the last space of the marker and what follows it.
    obtain ⟨rfl, rfl⟩ : ' ' = a ∧ '(' :: tail = rest := by simpa [opening] using htail
    obtain rfl : name = indent ++ ['a', 't'] := by
      have hconcat : (indent ++ ['a', 't']) ++ [' '] = name ++ [' '] := by simpa using hlead
      exact (List.append_cancel_right hconcat).symm
    rcases site with ⟨file, line, column, closed⟩ | _
    · obtain ⟨lead, text, hw, rfl⟩ := hlocated.exists_written
      rcases hw with ⟨-, hl, hc, closed⟩
      have hw' := Site.Written.position (List.cons_ne_nil '(' (lead ++ file)) hl hc closed
      exact absurd (Called.anonymous (.plain hw')).divides (by simpa using hplain _)
    · exact .function origin
  · obtain ⟨-, rfl, -⟩ : ' ' = a ∧ '(' = b ∧ tail = as ++ rest := by
      simpa [opening] using htail
    exact absurd rfl (ne_of_mem_marker hindent (by decide) (by decide)
      (by rw [hlead]; simp) : '(' ≠ '(')

/-- A marked line that has a shape although the text behind the marker has none reports the
marker. -/
theorem reportsMarker_of_ofLine? (hindent : ∀ c ∈ indent, Text.isBlank c = true)
    (hfeed : '\n' ∉ withMarker indent rest) (hnone : Shape.ofLine? rest = none)
    (h : Shape.ofLine? (withMarker indent rest) = some shape) : shape.ReportsMarker indent := by
  have hrest : '\n' ∉ rest := fun hm => hfeed (by simp [withMarker, hm])
  have hplain : ∀ shape : Shape, ¬shape.Divides rest := fun shape hd => by
    have hsome := isSome_ofLine? hrest hd
    rw [hnone] at hsome
    cases hsome
  obtain ⟨isConstructor, name, origin, site⟩ := shape
  obtain ⟨rfl, hcalled⟩ := Called.of_divides hindent hplain (divides_of_ofLine? hfeed h)
  dsimp only at hcalled
  generalize hcs : withMarker indent rest = cs at hcalled
  rcases hcalled with ⟨⟨hw⟩ | ⟨⟨_, _, _, _, _⟩, _⟩⟩ | ⟨n, hlocated⟩
  · rcases hw with ⟨-, hl, hc, closed⟩ | ⟨closed⟩
    · exact reportsMarker_of_position hindent hplain hl hc hcs
    · exact absurd hcs.symm (cons_ne_withMarker hindent (by decide) (by decide))
  · exact absurd hcs.symm (cons_ne_withMarker hindent (by decide) (by decide))
  · exact reportsMarker_of_name hindent hplain hlocated hcs

end FailurePrompt.Frame

namespace FailurePrompt.FrameParser

open FailurePrompt.Frame

variable {parser : FrameParser} {text text' : String} {shape : Shape} {indent rest : List Char}

/-- The raw text is copied and has no part in the rest of a frame. -/
theorem frameOfShape_rawText :
    parser.frameOfShape text' shape =
      (parser.frameOfShape text shape).map fun frame => { frame with rawText := text' } := by
  unfold frameOfShape
  split
  · rfl
  · dsimp only
    split <;> rfl

/-- Lines of one shape are read as the same, up to their raw text. -/
theorem parseLine_of_shape_eq (h : Shape.ofLine? text.toList = some shape)
    (h' : Shape.ofLine? text'.toList = some shape) :
    parser.parseLine text' = (parser.parseLine text).map
      (Option.map fun frame => { frame with rawText := text' }) := by
  rw [parseLine_of_shape h, parseLine_of_shape h', @frameOfShape_rawText parser text text']
  cases parser.frameOfShape text shape <;> rfl

/-- A frame line with a marker is read as the line without it, and cannot be read if that one cannot
be read. -/
theorem parseLine_withMarker (hindent : ∀ c ∈ indent, Text.isBlank c = true)
    (hrest : ¬BeginsMarked rest) (h : parser.parseLine (String.ofList rest) ≠ .ok none) :
    parser.parseLine (String.ofList (withMarker indent rest)) =
      (parser.parseLine (String.ofList rest)).map
        (Option.map fun frame =>
          { frame with rawText := String.ofList (withMarker indent rest) }) := by
  rcases hs : Shape.ofLine? rest with _ | shape
  · exact absurd (parseLine_of_no_shape (by rw [String.toList_ofList]; exact hs)) h
  · exact parseLine_of_shape_eq (by rw [String.toList_ofList]; exact hs)
      (by rw [String.toList_ofList]; exact ofLine?_withMarker hindent hrest hs)

/-- What a frame line reports does not change when a marker is put before it, however it is
indented. -/
theorem parseLine_marked (parser : FrameParser) {rest : List Char} {frame : Frame}
    (hrest : ¬BeginsMarked rest) (h : parser.parseLine (String.ofList rest) = .ok (some frame)) :
    ∀ indent, (∀ c ∈ indent, Text.isBlank c = true) →
      parser.parseLine (String.ofList (withMarker indent rest)) =
        .ok (some { frame with rawText := String.ofList (withMarker indent rest) }) := by
  intro indent hindent
  have hne : parser.parseLine (String.ofList rest) ≠ .ok none := by
    rw [h]
    nofun
  rw [parseLine_withMarker hindent hrest hne, h]
  rfl

/-- The marker is given up for nothing that the line could be read as without it. -/
theorem parseLine_marked_evaluated :
    parseLine {} "\t\u2003at new Map.at [as of] (eval at at (a at :1:2), /at b.js:3:4)" =
      .ok (some {
        rawText := "\t\u2003at new Map.at [as of] (eval at at (a at :1:2), /at b.js:3:4)"
        functionName := some "of"
        filePath := some "/at b.js"
        line := some 3
        column := some 4
        isConstructor := true
        evalOrigin := some "at" }) := by
  refine @parseLine_marked {} "new Map.at [as of] (eval at at (a at :1:2), /at b.js:3:4)".toList
    { rawText := "new Map.at [as of] (eval at at (a at :1:2), /at b.js:3:4)"
      functionName := some "of"
      filePath := some "/at b.js"
      line := some 3
      column := some 4
      isConstructor := true
      evalOrigin := some "at" } (by decide) ?_ ['\t', '\u2003'] (List.all_eq_true.1 (by decide))
  rfl

/-! ### What is left of a marker -/

/-- A shape that reports the marker gives a frame that does. -/
theorem reports_of_frameOfShape {frame : Frame} (hindent : ∀ c ∈ indent, Text.isBlank c = true)
    (hs : shape.ReportsMarker indent) (h : parser.frameOfShape text shape = .ok frame) :
    frame.filePath = some (String.ofList (indent ++ ['a', 't', ' '])) ∨
      frame.functionName = some (String.ofList (indent ++ ['a', 't'])) := by
  rcases hs with ⟨line, column, closed⟩ | ⟨origin⟩
  · left
    have hopen : '(' ∉ indent ++ ['a', 't', ' '] := fun hc =>
      ne_of_mem_marker hindent (by decide) (by decide) hc rfl
    have hcolon : ':' ∉ indent ++ ['a', 't', ' '] := fun hc =>
      ne_of_mem_marker hindent (by decide) (by decide) hc rfl
    have hfile : (balanced none (indent ++ ['a', 't', ' ']) closed).2 =
        indent ++ ['a', 't', ' '] := by
      rcases closed with _ | _
      · rfl
      · exact congrArg Prod.snd (balance_of_not_mem hopen)
    have hpath := @filePath_of_not_scheme parser (indent ++ ['a', 't', ' '])
      fun hp => hcolon (hp.subset (by decide))
    rw [frameOfShape] at h
    dsimp only at h
    split at h <;> cases h
    dsimp only
    rw [hfile, hpath, if_neg (by simp)]
  · right
    have hname : reportedName (some (indent ++ ['a', 't'])) = some (indent ++ ['a', 't']) :=
      reportedName_of_getLast? (by simp) (by simp)
    rw [frameOfShape_native rfl, hname] at h
    cases h
    rfl

/-- What a line with a marker reports does not change when the marker is taken away, unless the line
is no frame line then: the marker was the file, or the function. -/
theorem parseLine_of_marked (parser : FrameParser) {frame : Frame}
    (hindent : ∀ c ∈ indent, Text.isBlank c = true) (hrest : ¬BeginsMarked rest)
    (hfeed : '\n' ∉ withMarker indent rest)
    (h : parser.parseLine (String.ofList (withMarker indent rest)) = .ok (some frame)) :
    parser.parseLine (String.ofList rest) =
        .ok (some { frame with rawText := String.ofList rest }) ∨
      parser.parseLine (String.ofList rest) = .ok none ∧
        (frame.filePath = some (String.ofList (indent ++ ['a', 't', ' '])) ∨
          frame.functionName = some (String.ofList (indent ++ ['a', 't']))) := by
  obtain ⟨shape, hs, hframe⟩ := exists_shape_of_parseLine h
  rw [String.toList_ofList] at hs
  rcases hs' : Shape.ofLine? rest with _ | shape'
  · right
    exact ⟨parseLine_of_no_shape (by rw [String.toList_ofList]; exact hs'),
      reports_of_frameOfShape hindent (reportsMarker_of_ofLine? hindent hfeed hs' hs) hframe⟩
  · left
    obtain rfl := Option.some.inj (hs.symm.trans (ofLine?_withMarker hindent hrest hs'))
    rw [parseLine_of_shape_eq (by rw [String.toList_ofList]; exact hs)
      (by rw [String.toList_ofList]; exact hs'), h]
    rfl

/-- A place without a file takes the marker for one. -/
example : (parseLine {} "at :1:2").map (Option.map Frame.filePath) = .ok (some (some "at ")) ∧
    parseLine {} ":1:2" = .ok none :=
  ⟨rfl, rfl⟩

end FailurePrompt.FrameParser
