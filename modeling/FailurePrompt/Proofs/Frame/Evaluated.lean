import FailurePrompt.Proofs.Frame.Parenthesis

/-!
# Code that was made at run time

The place of code that was made at run time is printed with a clause in front of it, which names the
function that made the code and the place in that function. If that function was made at run time
as well, the place in the clause has a clause of its own. The reader takes the first end of a clause
behind which there is a site, so all places behind the innermost clause come to the outer file
(`parseLine_evaluatedLine`). The main statement, `parseLine_evaluated`, is that a frame with one
clause is read back and reports the outer place.
-/

namespace FailurePrompt.Frame

variable {cs lead rest inner line column : List Char} {site : Site}

/-! ### Places -/

/-- A place in a file. -/
structure Place where
  file : List Char
  line : List Char
  column : List Char

/-- A place as it is printed. -/
def Place.chars (place : Place) : List Char :=
  place.file ++ coordinateChars place.line place.column

/-- The parts of the place are not empty and stand on one line. -/
structure Place.WellFormed (place : Place) : Prop where
  file_ne_nil : place.file ≠ []
  feed_notMem : '\n' ∉ place.file
  line_isNumeral : IsNumeral place.line
  column_isNumeral : IsNumeral place.column

instance (place : Place) : Decidable place.WellFormed :=
  decidable_of_iff (place.file ≠ [] ∧ '\n' ∉ place.file ∧ IsNumeral place.line ∧
      IsNumeral place.column)
    ⟨fun ⟨hfile, hfeed, hl, hc⟩ => ⟨hfile, hfeed, hl, hc⟩,
      fun ⟨hfile, hfeed, hl, hc⟩ => ⟨hfile, hfeed, hl, hc⟩⟩

/-- A place in code that was made at run time, with the function that made the code. -/
structure Evaluated where
  origin : List Char
  place : Place

/-- The function is written without spaces. -/
structure Evaluated.WellFormed (code : Evaluated) : Prop where
  place : code.place.WellFormed
  origin_ne_nil : code.origin ≠ []
  space_notMem : ' ' ∉ code.origin
  feed_notMem : '\n' ∉ code.origin

instance (code : Evaluated) : Decidable code.WellFormed :=
  decidable_of_iff (code.place.WellFormed ∧ code.origin ≠ [] ∧ ' ' ∉ code.origin ∧
      '\n' ∉ code.origin)
    ⟨fun ⟨hplace, horigin, hspace, hfeed⟩ => ⟨hplace, horigin, hspace, hfeed⟩,
      fun ⟨hplace, horigin, hspace, hfeed⟩ => ⟨hplace, horigin, hspace, hfeed⟩⟩

/-- A place as it is printed behind its clauses. The code comes first whose function was made by the
code after it, and the innermost place is that of a function that was not made at run time. -/
def evaluatedChars (innermost : Place) : List Evaluated → List Char
  | [] => innermost.chars
  | code :: codes => evalWords ++ (code.origin ++ (opening ++
      (evaluatedChars innermost codes ++ (clauseEnd ++ code.place.chars))))

/-- A frame as it is printed for code that was made at run time. -/
def evaluatedLine (indent : List Char) (isConstructor : Bool) (name : List Char)
    (innermost : Place) (codes : List Evaluated) : List Char :=
  indent ++ (['a', 't', ' '] ++ (newWord isConstructor ++
    (name ++ (opening ++ (evaluatedChars innermost codes ++ closing true)))))

/-- What stands before the innermost place. -/
def clauseStarts : List Evaluated → List Char
  | [] => []
  | code :: codes => evalWords ++ (code.origin ++ (opening ++ clauseStarts codes))

/-- What stands between the end of the innermost clause and the outer place. -/
def placesBetween : List Evaluated → List Char
  | [] => []
  | code :: codes => placesBetween codes ++ (code.place.chars ++ clauseEnd)

theorem evaluatedChars_append_clauseEnd (innermost : Place) (codes : List Evaluated) :
    evaluatedChars innermost codes ++ clauseEnd =
      innerChars (clauseStarts codes ++ innermost.file) innermost.line innermost.column ++
        placesBetween codes := by
  induction codes with
  | nil => simp [evaluatedChars, clauseStarts, placesBetween, Place.chars, innerChars]
  | cons code codes ih =>
    calc evaluatedChars innermost (code :: codes) ++ clauseEnd
        = evalWords ++ (code.origin ++ (opening ++ ((evaluatedChars innermost codes ++ clauseEnd) ++
            (code.place.chars ++ clauseEnd)))) := by simp [evaluatedChars]
      _ = _ := by simp [ih, clauseStarts, placesBetween, innerChars]

theorem Place.WellFormed.feed_notMem_chars {place : Place} (h : place.WellFormed) :
    '\n' ∉ place.chars := by
  simp [Place.chars, coordinateChars, h.feed_notMem, h.line_isNumeral.notMem isDigit_feed,
    h.column_isNumeral.notMem isDigit_feed]

theorem feed_notMem_evaluatedChars {innermost : Place} {codes : List Evaluated}
    (hinnermost : innermost.WellFormed) (hcodes : ∀ code ∈ codes, code.WellFormed) :
    '\n' ∉ evaluatedChars innermost codes := by
  induction codes with
  | nil => exact hinnermost.feed_notMem_chars
  | cons code codes ih =>
    obtain ⟨hcode, hcodes⟩ := List.forall_mem_cons.1 hcodes
    simp [evaluatedChars, evalWords, opening, clauseEnd, hcode.feed_notMem,
      hcode.place.feed_notMem_chars, ih hcodes]

/-! ### Where a clause ends -/

/-- A place and the end of a clause stand somewhere in the text. -/
def HoldsClauseEnd (cs : List Char) : Prop :=
  ∃ line column, IsNumeral line ∧ IsNumeral column ∧
    coordinateChars line column ++ clauseEnd <:+: cs

theorem HoldsClauseEnd.close_mem (h : HoldsClauseEnd cs) : ')' ∈ cs := by
  obtain ⟨line, column, -, -, hin⟩ := h
  exact hin.subset (by simp [clauseEnd])

theorem HoldsClauseEnd.two_le_count (h : HoldsClauseEnd cs) : 2 ≤ cs.count ':' := by
  obtain ⟨line, column, -, -, hin⟩ := h
  refine Nat.le_trans ?_ (hin.sublist.count_le ':')
  simp [coordinateChars]
  omega

/-- A clause that ends within another one ends within its inner file. -/
theorem eq_nil_or_holdsClauseEnd {inner' line' column' between : List Char} (hl : IsNumeral line)
    (hc : IsNumeral column) (hl' : IsNumeral line') (hc' : IsNumeral column')
    (h : innerChars inner line column = innerChars inner' line' column' ++ between) :
    between = [] ∨ HoldsClauseEnd inner := by
  have hholds : ∀ tail, inner = innerChars inner' line' column' ++ tail → HoldsClauseEnd inner :=
    fun tail he => ⟨line', column', hl', hc', inner', tail, by rw [he, innerChars]⟩
  rcases List.append_eq_append_iff.1 h.symm with ⟨tail, he, -⟩ | ⟨tail, he, hend⟩
  · exact .inr (hholds tail he)
  rcases List.eq_nil_or_concat tail with rfl | ⟨front, c, rfl⟩
  · exact .inr (hholds [] (by rw [List.append_nil, he, List.append_nil]))
  · -- The end that lies beyond the inner file is the end of the whole.
    obtain ⟨front', hfront'⟩ := exists_innerChars_eq inner' line' column'
    rw [hfront', List.concat_eq_append, ← List.append_assoc] at he
    obtain ⟨-, hspace⟩ := List.append_inj' he rfl
    obtain rfl := List.singleton_inj.1 hspace
    have hend : front ++ ' ' :: between = coordinateChars line column ++ clauseEnd := by
      simpa using hend.symm
    exact .inl (eq_nil_of_append_space hl hc hend)

/-- The inner file is read as a whole if no clause ends within it. -/
theorem siteAfterInner?_append (hinner : inner ≠ []) (hclause : ¬HoldsClauseEnd inner)
    (hl : IsNumeral line) (hc : IsNumeral column) (hs : site.Written rest)
    (hfeed : '\n' ∉ innerChars inner line column ++ rest) :
    siteAfterInner? (innerChars inner line column ++ rest) = some site := by
  have hrest : '\n' ∉ rest := fun hm => hfeed (List.mem_append_right _ hm)
  obtain ⟨site', rest', hsite, hafter, between, rfl⟩ :=
    (AfterInner.intro hinner hl hc hs).exists_suffix hfeed
  rw [hsite]
  generalize htext : innerChars inner line column ++ rest = text at hafter
  obtain ⟨-, hl', hc', hs'⟩ := hafter
  rw [← List.append_assoc] at htext
  obtain rfl : between = [] :=
    (eq_nil_or_holdsClauseEnd hl hc hl' hc' (List.append_cancel_right htext)).resolve_right hclause
  rw [List.nil_append] at hs'
  rw [← (site?_eq_some_iff hrest).2 hs, (site?_eq_some_iff hrest).2 hs']

/-! ### Lines with clauses -/

/-- What stands behind the first opening of a clause. -/
def clauseText (innermost : Place) (code : Evaluated) (codes : List Evaluated) : List Char :=
  evaluatedChars innermost codes ++
    (clauseEnd ++ (code.place.file ++ tailChars code.place.line code.place.column true))

theorem clauseText_eq (innermost : Place) (code : Evaluated) (codes : List Evaluated) :
    clauseText innermost code codes =
      innerChars (clauseStarts codes ++ innermost.file) innermost.line innermost.column ++
        ((placesBetween codes ++ code.place.file) ++
          tailChars code.place.line code.place.column true) := by
  rw [clauseText, ← List.append_assoc, evaluatedChars_append_clauseEnd]
  simp

theorem feed_notMem_clauseText {innermost : Place} {code : Evaluated} {codes : List Evaluated}
    (hinnermost : innermost.WellFormed) (hcode : code.WellFormed)
    (hcodes : ∀ code ∈ codes, code.WellFormed) : '\n' ∉ clauseText innermost code codes := by
  have htail := notMem_tailChars hcode.place.line_isNumeral hcode.place.column_isNumeral true
    isDigit_feed (by decide) (by decide)
  simp [clauseText, clauseEnd, feed_notMem_evaluatedChars hinnermost hcodes,
    hcode.place.feed_notMem, htail]

theorem ofLine?_evaluatedLine {indent name : List Char} {isConstructor : Bool} {innermost : Place}
    {code : Evaluated} {codes : List Evaluated}
    (hindent : ∀ c ∈ indent, Text.isBlank c = true) (hname : '\n' ∉ name)
    (hopen : ¬opening <:+: name) (hnew : isConstructor = false → ¬newWord true <+: name ++ [' '])
    (hcode : code.WellFormed) (h : siteAfterInner? (clauseText innermost code codes) = some site) :
    Shape.ofLine? (evaluatedLine indent isConstructor name innermost (code :: codes)) =
      some ⟨isConstructor, some name, some code.origin, site⟩ := by
  have htext : evaluatedChars innermost (code :: codes) ++ closing true =
      evalWords ++ (code.origin ++ (opening ++ clauseText innermost code codes)) := by
    simp [evaluatedChars, Place.chars, clauseText, tailChars]
  have hlocated : located? (evaluatedChars innermost (code :: codes) ++ closing true) =
      some (some code.origin, site) := by
    rw [htext, located?, evaluated?_append hcode.origin_ne_nil hcode.space_notMem, h]
    rfl
  refine ofLine?_marked hindent (fun hcon hpre => hnew hcon ?_) ?_
  · have hpre : newWord true <+: (name ++ [' ']) ++
        '(' :: (evaluatedChars innermost (code :: codes) ++ closing true) := by
      simpa [opening] using hpre
    exact prefix_of_prefix_append_cons (by decide) hpre
  · rw [called?, named?_append hopen hname hlocated]

end FailurePrompt.Frame

namespace FailurePrompt.FrameParser

open FailurePrompt.Frame

variable {parser : FrameParser} {indent name : List Char} {isConstructor : Bool}
  {innermost : Place} {code : Evaluated} {codes : List Evaluated}

/-- If no clause ends before the innermost place, the file begins behind it. -/
theorem parseLine_evaluatedLine (hindent : ∀ c ∈ indent, Text.isBlank c = true) (hname : name ≠ [])
    (hnfeed : '\n' ∉ name) (hopen : ¬opening <:+: name)
    (hnew : isConstructor = false → ¬newWord true <+: name ++ [' '])
    (hinnermost : innermost.WellFormed) (hcode : code.WellFormed)
    (hcodes : ∀ code ∈ codes, code.WellFormed)
    (hclause : ¬HoldsClauseEnd (clauseStarts codes ++ innermost.file))
    (hurl : ¬Url.scheme <+: placesBetween codes ++ code.place.file)
    (hanswered : Answered (placesBetween codes ++ code.place.file))
    (hll : code.place.line.length ≤ Text.Numeral.maxDigits)
    (hcl : code.place.column.length ≤ Text.Numeral.maxDigits) :
    ∃ shown, Shows name shown ∧
      parser.parseLine
          (String.ofList (evaluatedLine indent isConstructor name innermost (code :: codes))) =
        .ok (some {
          rawText := String.ofList
            (evaluatedLine indent isConstructor name innermost (code :: codes))
          functionName := some (String.ofList shown)
          filePath := some (String.ofList (placesBetween codes ++ code.place.file))
          line := some (Text.Numeral.value code.place.line)
          column := some (Text.Numeral.value code.place.column)
          isNative := false
          isConstructor
          evalOrigin := some (String.ofList code.origin) }) := by
  obtain ⟨shown, hshows, hreported⟩ := shows_reported hname
  refine ⟨shown, hshows, ?_⟩
  have hfile : placesBetween codes ++ code.place.file ≠ [] := by simp [hcode.place.file_ne_nil]
  have hsite : siteAfterInner? (clauseText innermost code codes) =
      some (.position (placesBetween codes ++ code.place.file) code.place.line code.place.column
        true) := by
    have hfeed := feed_notMem_clauseText hinnermost hcode hcodes
    rw [clauseText_eq] at hfeed ⊢
    exact siteAfterInner?_append (by simp [hinnermost.file_ne_nil]) hclause
      hinnermost.line_isNumeral hinnermost.column_isNumeral
      (.position hfile hcode.place.line_isNumeral hcode.place.column_isNumeral true) hfeed
  have hshape := ofLine?_evaluatedLine hindent hnfeed hopen hnew hcode hsite
  have hpath := @filePath_of_not_scheme parser _ hurl
  rw [parseLine_of_shape (by rw [String.toList_ofList]; exact hshape),
    frameOfShape_position rfl hll hcl]
  simp only [balanced, if_true, balance_eq_self hanswered, hpath, if_neg hfile, hreported]
  rfl

/-- A frame for code that was made at run time reports the outer place. -/
theorem parseLine_evaluated (parser : FrameParser) {indent name : List Char} {isConstructor : Bool}
    {inner : Place} {code : Evaluated} (hindent : ∀ c ∈ indent, Text.isBlank c = true)
    (hname : name ≠ []) (hnfeed : '\n' ∉ name) (hopen : ¬opening <:+: name)
    (hnew : isConstructor = false → ¬newWord true <+: name ++ [' ']) (hinner : inner.WellFormed)
    (hclause : ¬HoldsClauseEnd inner.file) (hcode : code.WellFormed)
    (hurl : ¬Url.scheme <+: code.place.file) (hanswered : Answered code.place.file)
    (hll : code.place.line.length ≤ Text.Numeral.maxDigits)
    (hcl : code.place.column.length ≤ Text.Numeral.maxDigits) :
    ∃ shown, Shows name shown ∧
      parser.parseLine (String.ofList (evaluatedLine indent isConstructor name inner [code])) =
        .ok (some {
          rawText := String.ofList (evaluatedLine indent isConstructor name inner [code])
          functionName := some (String.ofList shown)
          filePath := some (String.ofList code.place.file)
          line := some (Text.Numeral.value code.place.line)
          column := some (Text.Numeral.value code.place.column)
          isNative := false
          isConstructor
          evalOrigin := some (String.ofList code.origin) }) := by
  have hcodes : ∀ code ∈ ([] : List Evaluated), code.WellFormed := List.forall_mem_nil _
  exact parseLine_evaluatedLine hindent hname hnfeed hopen hnew hinner hcode hcodes hclause hurl
    hanswered hll hcl

/-- A function that was called by an alias, in a file whose name has parentheses, made in one whose
name almost ends a clause. -/
theorem parseLine_evaluated_aliased :
    parseLine {} "    at R.get [as size] (eval at <f> (/a:1), b (2).js:3:4), /c (5).js:6:7)" =
      .ok (some {
        rawText := "    at R.get [as size] (eval at <f> (/a:1), b (2).js:3:4), /c (5).js:6:7)"
        functionName := some "size"
        filePath := some "/c (5).js"
        line := some 6
        column := some 7
        evalOrigin := some "<f>" }) := by
  obtain ⟨shown, hshows, h⟩ :=
    @parseLine_evaluated {} [' ', ' ', ' ', ' ']
      ['R', '.', 'g', 'e', 't', ' ', '[', 'a', 's', ' ', 's', 'i', 'z', 'e', ']'] false
      ⟨['/', 'a', ':', '1', ')', ',', ' ', 'b', ' ', '(', '2', ')', '.', 'j', 's'], ['3'], ['4']⟩
      ⟨['<', 'f', '>'], ['/', 'c', ' ', '(', '5', ')', '.', 'j', 's'], ['6'], ['7']⟩
      (List.all_eq_true.1 (by decide)) (by decide) (by decide) (by decide) (by decide) (by decide)
      (fun h => absurd h.two_le_count (by decide)) (by decide) (by decide) (by decide) (by decide)
      (by decide)
  have halias : alias? ['R', '.', 'g', 'e', 't', ' ', '[', 'a', 's', ' ', 's', 'i', 'z', 'e', ']'] =
      some ['s', 'i', 'z', 'e'] := by decide
  rcases hshows with ha | ⟨hno, -⟩
  · obtain rfl := Option.some.inj (halias.symm.trans (alias?_of_aliasOf ha))
    exact h
  · exact absurd ⟨_, aliasOf_of_alias? halias⟩ hno

end FailurePrompt.FrameParser
