import Mathlib.Data.List.Basic
import FailurePrompt.Proofs.Frame.Evaluated
import FailurePrompt.Proofs.Frame.FileUrl

/-!
# Clauses within clauses

A function that was made at run time may make code itself, and then its clause stands within the
clause of that code. The reader knows one clause only: it ends the clause behind the innermost place
or before, and takes all places that follow for the file. Neither balancing parentheses nor reading
a URL takes them away again. The main statement, `parseLine_nested_iff`, is that the file of such a
frame is the outer one exactly if there is no clause within the first; line and column are right.
-/

namespace FailurePrompt.Frame

variable {cs front tail rest : List Char} {name : Option (List Char)}

/-! ### Text that stays in the file -/

theorem suffix_of_splitUnanswered {closes : Nat} {passed before lead after : List Char}
    (h : splitUnanswered closes passed before = some (lead, after)) : passed <:+ after := by
  fun_induction splitUnanswered closes passed before with
  | case1 => cases h
  | case2 closes passed before ih => exact (List.suffix_cons ..).trans (ih h)
  | case3 passed before =>
    cases h
    exact List.suffix_refl _
  | case4 passed before closes ih => exact (List.suffix_cons ..).trans (ih h)
  | case5 closes passed c before _ _ _ ih => exact (List.suffix_cons ..).trans (ih h)

/-- At most one character in front of a text without an opening parenthesis opens nothing. -/
theorem answered_append_of_notMem (hfront : front.length ≤ 1) (htail : '(' ∉ tail) :
    Answered (front ++ tail) := fun s hs => by
  rcases s with _ | ⟨c, s⟩
  · simp
  · have hsuffix : s <:+ tail := by
      refine List.suffix_of_suffix_length_le ((List.suffix_cons c s).trans hs)
        (List.suffix_append ..) ?_
      have hlength := hs.length_le
      rw [List.length_cons, List.length_append] at hlength
      omega
    have hnone : s.count '(' = 0 := List.count_eq_zero.2 fun hm => htail (hsuffix.subset hm)
    have hopen := openCount_cons_le c s
    omega

/-- Text without an opening parenthesis at the end of a file is not moved. -/
theorem suffix_balance (htail : '(' ∉ tail) : tail <:+ (balance name (front ++ tail)).2 := by
  have hanswered : Answered (front.reverse.head?.toList ++ (tail.reverse.reverse ++ [])) := by
    rw [List.reverse_reverse, List.append_nil]
    refine answered_append_of_notMem ?_ htail
    rcases front.reverse.head? with _ | c <;> simp
  obtain ⟨closes, -, hscan⟩ := exists_waiting_of_append (waiting_zero _) hanswered
  have hrev : (front ++ tail).reverse = tail.reverse ++ front.reverse := List.reverse_append
  rw [balance.eq_def, hrev, hscan, List.reverse_reverse, List.append_nil]
  split
  case h_1 => exact List.suffix_append ..
  case h_2 hsplit => exact suffix_of_splitUnanswered hsplit

/-! ### Plain places -/

/-- A place whose file has no parentheses and is named by its path. -/
structure Place.Bare (place : Place) : Prop extends place.WellFormed where
  open_notMem : '(' ∉ place.file
  close_notMem : ')' ∉ place.file
  not_scheme : ¬Url.scheme <+: place.file

instance (place : Place) : Decidable place.Bare :=
  decidable_of_iff (place.WellFormed ∧ '(' ∉ place.file ∧ ')' ∉ place.file ∧
      ¬Url.scheme <+: place.file)
    ⟨fun ⟨h, hopen, hclose, hscheme⟩ => ⟨h, hopen, hclose, hscheme⟩,
      fun ⟨h, hopen, hclose, hscheme⟩ => ⟨h, hopen, hclose, hscheme⟩⟩

variable {codes : List Evaluated}

theorem open_notMem_placesBetween (hcodes : ∀ code ∈ codes, code.place.Bare) :
    '(' ∉ placesBetween codes := by
  induction codes with
  | nil => exact List.not_mem_nil
  | cons code codes ih =>
    obtain ⟨hcode, hcodes⟩ := List.forall_mem_cons.1 hcodes
    have hline := hcode.line_isNumeral.notMem (c := '(') (by decide)
    have hcolumn := hcode.column_isNumeral.notMem (c := '(') (by decide)
    simp [placesBetween, Place.chars, coordinateChars, clauseEnd, ih hcodes, hcode.open_notMem,
      hline, hcolumn]

theorem open_notMem_outerFile {place : Place} (hcodes : ∀ code ∈ codes, code.place.Bare)
    (hplace : place.Bare) : '(' ∉ placesBetween codes ++ place.file :=
  List.not_mem_append (open_notMem_placesBetween hcodes) hplace.open_notMem

theorem close_mem_placesBetween (hcodes : codes ≠ []) : ')' ∈ placesBetween codes := by
  obtain ⟨code, codes, rfl⟩ := List.exists_cons_of_ne_nil hcodes
  simp [placesBetween, clauseEnd]

/-- Where a file URL has a slash after the colon, a place has a digit. -/
theorem scheme_prefix_of_prefix_append {file line : List Char} (hline : IsNumeral line)
    (h : Url.scheme <+: file ++ ':' :: (line ++ rest)) : Url.scheme <+: file := by
  rcases Nat.lt_or_ge file.length Url.scheme.length with hlt | hle
  · exfalso
    have hcolon : file ++ [':'] <+: Url.scheme :=
      List.prefix_of_prefix_length_le ⟨line ++ rest, by simp⟩ h
        (by rw [List.length_append]; exact hlt)
    obtain ⟨behind, hbehind⟩ := hcolon
    have hsplit : ['f', 'i', 'l', 'e'] ++ ':' :: ['/', '/'] = file ++ ':' :: behind := by
      simpa [Url.scheme] using hbehind.symm
    obtain ⟨rfl, -⟩ := (List.append_cons_inj_of_notMem (by decide) (by decide)).1 hsplit
    obtain ⟨digit, line, rfl⟩ := List.exists_cons_of_ne_nil hline.1
    obtain ⟨rfl, -⟩ : '/' = digit ∧ _ := by simpa [Url.scheme] using h
    exact absurd (hline.2 '/' List.mem_cons_self) (by decide)
  · exact List.prefix_of_prefix_length_le h (List.prefix_append ..) hle

theorem not_scheme_prefix_placesBetween (hcodes : ∀ code ∈ codes, code.place.Bare)
    (hrest : ¬Url.scheme <+: rest) : ¬Url.scheme <+: placesBetween codes ++ rest := by
  induction codes generalizing rest with
  | nil => exact hrest
  | cons code codes ih =>
    obtain ⟨hcode, hcodes⟩ := List.forall_mem_cons.1 hcodes
    rw [placesBetween, List.append_assoc]
    refine ih hcodes fun h => ?_
    have h : Url.scheme <+: code.place.file ++ ':' :: (code.place.line ++
        ':' :: (code.place.column ++ (clauseEnd ++ rest))) := by
      simpa [Place.chars, coordinateChars] using h
    exact hcode.not_scheme (scheme_prefix_of_prefix_append hcode.line_isNumeral h)

/-- The end of a clause has one space, so it stands on one side of any other. -/
theorem HoldsClauseEnd.of_append_space (h : HoldsClauseEnd (front ++ ' ' :: rest)) :
    HoldsClauseEnd (front ++ [' ']) ∨ HoldsClauseEnd rest := by
  obtain ⟨line, column, hl, hc, hin⟩ := h
  have htext : front ++ ' ' :: rest = (front ++ [' ']) ++ rest := by simp
  rw [htext, List.infix_append_iff] at hin
  rcases hin with hin | hin | ⟨before, behind, he, hbefore, hbehind⟩
  · exact .inl ⟨line, column, hl, hc, hin⟩
  · exact .inr ⟨line, column, hl, hc, hin⟩
  rcases List.eq_nil_or_concat before with rfl | ⟨before, c, rfl⟩
  · exact .inr ⟨line, column, hl, hc, he ▸ hbehind.isInfix⟩
  · obtain ⟨lead, hlead⟩ := hbefore
    rw [List.concat_eq_append, ← List.append_assoc] at hlead
    obtain ⟨-, hspace⟩ := List.append_inj' hlead rfl
    obtain rfl := List.singleton_inj.1 hspace
    have hend : before ++ ' ' :: behind = coordinateChars line column ++ clauseEnd := by
      simpa using he.symm
    obtain rfl := eq_nil_of_append_space hl hc hend
    rw [List.append_nil] at he
    exact .inl ⟨line, column, hl, hc, he ▸ ⟨lead, [], by simpa using hlead⟩⟩

theorem not_holdsClauseEnd_clauseStarts
    (hcodes : ∀ code ∈ codes, ¬HoldsClauseEnd (code.origin ++ [' '])) (hrest : ')' ∉ rest) :
    ¬HoldsClauseEnd (clauseStarts codes ++ rest) := by
  induction codes with
  | nil => exact fun h => hrest h.close_mem
  | cons code codes ih =>
    obtain ⟨hcode, hcodes⟩ := List.forall_mem_cons.1 hcodes
    intro h
    have htext : clauseStarts (code :: codes) ++ rest = ['e', 'v', 'a', 'l'] ++ ' ' ::
        (['a', 't'] ++ ' ' :: (code.origin ++ ' ' :: '(' :: (clauseStarts codes ++ rest))) := by
      simp [clauseStarts, evalWords, opening]
    rw [htext] at h
    have h := (h.of_append_space.resolve_left fun h => absurd h.close_mem (by decide))
    have h := (h.of_append_space.resolve_left fun h => absurd h.close_mem (by decide))
    obtain ⟨line, column, hl, hc, hin⟩ := h.of_append_space.resolve_left hcode
    refine ih hcodes ⟨line, column, hl, hc, (List.infix_cons_iff.1 hin).resolve_left fun hpre => ?_⟩
    simp [coordinateChars] at hpre

/-! ### Lines with nested clauses -/

/-- The file that is read ends with all that stands behind the innermost clause. -/
theorem exists_ofLine?_evaluatedLine {indent name : List Char} {isConstructor : Bool}
    {innermost : Place} {code : Evaluated} (hindent : ∀ c ∈ indent, Text.isBlank c = true)
    (hname : '\n' ∉ name) (hopen : ¬opening <:+: name)
    (hnew : isConstructor = false → ¬newWord true <+: name ++ [' '])
    (hinnermost : innermost.WellFormed) (hcode : code.WellFormed)
    (hcodes : ∀ code ∈ codes, code.WellFormed) :
    ∃ front, Shape.ofLine? (evaluatedLine indent isConstructor name innermost (code :: codes)) =
      some ⟨isConstructor, some name, some code.origin,
        .position (front ++ (placesBetween codes ++ code.place.file)) code.place.line
          code.place.column true⟩ := by
  have hl := hcode.place.line_isNumeral
  have hc := hcode.place.column_isNumeral
  have hfile : placesBetween codes ++ code.place.file ≠ [] := by simp [hcode.place.file_ne_nil]
  have hfeed := feed_notMem_clauseText hinnermost hcode hcodes
  have hinner : clauseStarts codes ++ innermost.file ≠ [] := by simp [hinnermost.file_ne_nil]
  have hafter := AfterInner.intro hinner hinnermost.line_isNumeral hinnermost.column_isNumeral
    (.position hfile hl hc true)
  rw [← clauseText_eq] at hafter
  obtain ⟨site, rest, hsite, hafter', front, rfl⟩ := hafter.exists_suffix hfeed
  have hwritten := hafter'.written
  rw [← List.append_assoc] at hwritten
  obtain ⟨place, hplace, rfl⟩ := hwritten.exists_position hl hc (List.nil_append _)
  obtain rfl : _ = place := hplace
  exact ⟨front, ofLine?_evaluatedLine hindent hname hopen hnew hcode hsite⟩

end FailurePrompt.Frame

namespace FailurePrompt.FrameParser

open FailurePrompt.Frame

variable {parser : FrameParser} {indent name : List Char} {isConstructor : Bool}
  {innermost : Place} {code : Evaluated} {codes : List Evaluated}

/-- The places between stay in front of the file, with the parentheses behind them. -/
theorem exists_parseLine_evaluatedLine (hindent : ∀ c ∈ indent, Text.isBlank c = true)
    (hnfeed : '\n' ∉ name) (hopen : ¬opening <:+: name)
    (hnew : isConstructor = false → ¬newWord true <+: name ++ [' '])
    (hinnermost : innermost.WellFormed) (hcode : code.WellFormed) (hplace : code.place.Bare)
    (hcodes : ∀ code ∈ codes, code.WellFormed) (hplaces : ∀ code ∈ codes, code.place.Bare)
    (hll : code.place.line.length ≤ Text.Numeral.maxDigits)
    (hcl : code.place.column.length ≤ Text.Numeral.maxDigits) :
    ∃ frame, parser.parseLine
        (String.ofList (evaluatedLine indent isConstructor name innermost (code :: codes))) =
          .ok (some frame) ∧
      frame.line = some (Text.Numeral.value code.place.line : Int) ∧
      frame.column = some (Text.Numeral.value code.place.column : Int) ∧
      frame.evalOrigin = some (String.ofList code.origin) ∧
      (codes ≠ [] → frame.filePath ≠ some (String.ofList code.place.file)) := by
  obtain ⟨front, hshape⟩ := exists_ofLine?_evaluatedLine hindent hnfeed hopen hnew
    hinnermost hcode hcodes
  rw [parseLine_of_shape (by rw [String.toList_ofList]; exact hshape),
    frameOfShape_position rfl hll hcl]
  refine ⟨_, rfl, rfl, rfl, rfl, fun hne hpath => ?_⟩
  have hclose : ')' ∈ placesBetween codes ++ code.place.file :=
    List.mem_append_left _ (close_mem_placesBetween hne)
  simp only [balanced, if_true] at hpath
  split at hpath
  · cases hpath
  · have hfile := String.ofList_injective (Option.some.inj hpath)
    refine hplace.close_notMem (hfile ▸ ?_)
    exact Url.close_mem_filePath _
      ((suffix_balance (open_notMem_outerFile hplaces hplace)).subset hclose)

/-- A frame for code that was made at run time has the line and the column of the outer place. Its
file is the outer one exactly if no clause stands within the first. Otherwise, if no function looks
like the end of a clause, all places but the innermost are taken for the file. -/
theorem parseLine_nested_iff (parser : FrameParser) {indent name : List Char} {isConstructor : Bool}
    {innermost : Place} {code : Evaluated} {codes : List Evaluated}
    (hindent : ∀ c ∈ indent, Text.isBlank c = true) (hname : name ≠ []) (hnfeed : '\n' ∉ name)
    (hopen : ¬opening <:+: name) (hnew : isConstructor = false → ¬newWord true <+: name ++ [' '])
    (hinnermost : innermost.Bare) (hcode : code.WellFormed) (hplace : code.place.Bare)
    (hcodes : ∀ code ∈ codes, code.WellFormed) (hplaces : ∀ code ∈ codes, code.place.Bare)
    (hll : code.place.line.length ≤ Text.Numeral.maxDigits)
    (hcl : code.place.column.length ≤ Text.Numeral.maxDigits) :
    ∃ frame, parser.parseLine
        (String.ofList (evaluatedLine indent isConstructor name innermost (code :: codes))) =
          .ok (some frame) ∧
      frame.line = some (Text.Numeral.value code.place.line : Int) ∧
      frame.column = some (Text.Numeral.value code.place.column : Int) ∧
      frame.evalOrigin = some (String.ofList code.origin) ∧
      (frame.filePath = some (String.ofList code.place.file) ↔ codes = []) ∧
      ((∀ code ∈ codes, ¬HoldsClauseEnd (code.origin ++ [' '])) →
        ∃ shown, Shows name shown ∧ frame.functionName = some (String.ofList shown) ∧
          frame.filePath = some (String.ofList (placesBetween codes ++ code.place.file))) := by
  obtain ⟨frame, hframe, hline, hcolumn, horigin, hfile⟩ :=
    exists_parseLine_evaluatedLine hindent hnfeed hopen hnew hinnermost.toWellFormed hcode hplace
      hcodes hplaces hll hcl
  have hwhole : (∀ code ∈ codes, ¬HoldsClauseEnd (code.origin ++ [' '])) →
      ∃ shown, Shows name shown ∧ frame.functionName = some (String.ofList shown) ∧
        frame.filePath = some (String.ofList (placesBetween codes ++ code.place.file)) := by
    intro hends
    have hopenless := open_notMem_outerFile hplaces hplace
    obtain ⟨shown, hshows, h⟩ := parseLine_evaluatedLine hindent hname hnfeed hopen hnew
      hinnermost.toWellFormed hcode hcodes
      (not_holdsClauseEnd_clauseStarts hends hinnermost.close_notMem)
      (not_scheme_prefix_placesBetween hplaces hplace.not_scheme)
      (@answered_append_of_notMem [] _ (Nat.zero_le 1) hopenless) hll hcl
    obtain rfl := Option.some.inj (Except.ok.inj (hframe.symm.trans h))
    exact ⟨shown, hshows, rfl, rfl⟩
  refine ⟨frame, hframe, hline, hcolumn, horigin, ⟨fun hpath => ?_, ?_⟩, hwhole⟩
  · exact Classical.not_not.1 fun hne => hfile hne hpath
  · rintro rfl
    obtain ⟨-, -, -, hpath⟩ := hwhole (List.forall_mem_nil _)
    exact hpath

/-- Of three clauses, the places of the outer two are taken for the file. -/
theorem parseLine_nested_thrice :
    ∃ frame, parseLine {}
        "    at f (eval at g (eval at h (eval at k (/a:1:2), /b:3:4), /c:5:6), /d:7:8)" =
          .ok (some frame) ∧
      frame.line = some 7 ∧ frame.column = some 8 ∧ frame.evalOrigin = some "g" ∧
      frame.filePath = some "/b:3:4), /c:5:6), /d" := by
  obtain ⟨frame, hframe, hline, hcolumn, horigin, -, hwhole⟩ :=
    @parseLine_nested_iff {} [' ', ' ', ' ', ' '] ['f'] false ⟨['/', 'a'], ['1'], ['2']⟩
      ⟨['g'], ⟨['/', 'd'], ['7'], ['8']⟩⟩
      [⟨['h'], ⟨['/', 'c'], ['5'], ['6']⟩⟩, ⟨['k'], ⟨['/', 'b'], ['3'], ['4']⟩⟩]
      (List.all_eq_true.1 (by decide)) (by decide) (by decide) (by decide) (by decide) (by decide)
      (by decide) (by decide) (by decide) (by decide) (by decide) (by decide)
  obtain ⟨-, -, -, hpath⟩ := hwhole (List.forall_mem_cons.2
    ⟨fun h => absurd h.close_mem (by decide), List.forall_mem_cons.2
      ⟨fun h => absurd h.close_mem (by decide), List.forall_mem_nil _⟩⟩)
  exact ⟨frame, hframe, hline, hcolumn, horigin, hpath⟩

/-- With one clause within the first, the place between them is taken for a part of the file. -/
theorem parseLine_nested_twice :
    parseLine {} "    at fn (eval at g (eval at h (/a.js:1:2), /b.js:3:4), /c.js:5:6)" =
      .ok (some {
        rawText := "    at fn (eval at g (eval at h (/a.js:1:2), /b.js:3:4), /c.js:5:6)"
        functionName := some "fn"
        filePath := some "/b.js:3:4), /c.js"
        line := some 5
        column := some 6
        evalOrigin := some "g" }) :=
  rfl

end FailurePrompt.FrameParser
