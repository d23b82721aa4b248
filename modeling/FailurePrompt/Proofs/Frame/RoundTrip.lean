import FailurePrompt.Proofs.Frame.Acceptance
import FailurePrompt.Proofs.Frame.Balance

/-!
# Reading back printed frames

A runtime prints a frame as a marker, an optional `new`, a name, and a place in parentheses, or as
a marker and a bare place. `namedLine` and `bareLine` are these forms. The reader tries many other
divisions of such a line, so the conditions on the parts say which of them could come first: a name
without an opening, a file that begins no origin clause, parentheses that are answered. The main
statement, `parseLine_written`, is that under them a printed frame is read back part by part.
-/

namespace FailurePrompt.Frame

variable {cs rest name file line column : List Char}

/-! ### Aliases -/

/-- The text between a method name and the name that it was called by. -/
def asWord : List Char := [' ', '[', 'a', 's', ' ']

/-- The name ends with an alias in brackets, which open for the first time there. -/
def AliasOf (name byname : List Char) : Prop :=
  ∃ base, name = base ++ (asWord ++ (byname ++ [']'])) ∧ ¬asWord <:+: base ++ asWord.dropLast

/-- The name that a frame reports: an alias if there is one, the whole name otherwise. -/
def Shows (name shown : List Char) : Prop :=
  AliasOf name shown ∨ (¬∃ byname, AliasOf name byname) ∧ shown = name

theorem aliasOf_of_alias? {byname : List Char} (h : alias? name = some byname) :
    AliasOf name byname := by
  induction name with
  | nil => simp [alias?] at h
  | cons c name ih =>
    rw [alias?] at h
    split at h
    · rename_i tail ht
      have htail : c :: name = asWord ++ tail := after?_eq_some_iff.1 ht
      split at h
      · rename_i hlast
        obtain rfl := Option.some.inj h
        refine ⟨[], ?_, by decide⟩
        obtain ⟨front, rfl⟩ := List.getLast?_eq_some_iff.1 hlast
        simpa using htail
      · cases h
    · rename_i hnone
      obtain ⟨base, rfl, hfirst⟩ := ih h
      refine ⟨c :: base, rfl, fun hin => ?_⟩
      rcases List.infix_cons_iff.1 hin with hpre | hin
      · refine after?_eq_none_iff.1 hnone (hpre.trans ?_)
        exact ⟨[' '] ++ (byname ++ [']']), by simp [asWord]⟩
      · exact hfirst hin

theorem alias?_of_aliasOf {byname : List Char} (h : AliasOf name byname) :
    alias? name = some byname := by
  obtain ⟨base, rfl, hfirst⟩ := h
  induction base with
  | nil =>
    have h : after? [' ', '[', 'a', 's', ' ']
        (' ' :: '[' :: 'a' :: 's' :: ' ' :: (byname ++ [']'])) = some (byname ++ [']']) :=
      after?_append asWord _
    simp [asWord, alias?, h]
  | cons c base ih =>
    have hnone : after? [' ', '[', 'a', 's', ' '] (c :: (base ++ (asWord ++ (byname ++ [']'])))) =
        none := by
      -- The word would begin before its first place and end within it.
      rw [after?_eq_none_iff]
      intro hpre
      have hshort : c :: (base ++ asWord.dropLast) <+:
          c :: (base ++ (asWord ++ (byname ++ [']']))) :=
        ⟨[' '] ++ (byname ++ [']']), by simp [asWord]⟩
      exact hfirst (List.prefix_of_prefix_length_le hpre hshort (by simp [asWord])).isInfix
    have hin : ¬asWord <:+: base ++ asWord.dropLast := fun hi =>
      hfirst (hi.trans (List.suffix_cons c _).isInfix)
    rw [List.cons_append, alias?]
    simp [hnone, ih hin]

theorem shows_reported (hname : name ≠ []) :
    ∃ shown, Shows name shown ∧ reportedName (some name) = some shown := by
  have hrep : reportedName (some name) = some ((alias? name).getD name) := by
    rcases name with _ | ⟨c, name⟩
    · exact absurd rfl hname
    · rfl
  refine ⟨_, ?_, hrep⟩
  rcases h : alias? name with _ | byname
  · refine .inr ⟨fun ⟨byname, ha⟩ => ?_, rfl⟩
    simp [alias?_of_aliasOf ha] at h
  · exact .inl (aliasOf_of_alias? h)

/-! ### Which division comes first -/

/-- A marker is taken, and then `new` if it is there. -/
theorem ofLine?_marked {indent : List Char} {isConstructor : Bool}
    {origin : Option (List Char)} {shown : Option (List Char)} {site : Site}
    (hindent : ∀ c ∈ indent, Text.isBlank c = true)
    (hnew : isConstructor = false → ¬newWord true <+: rest)
    (h : called? rest = some (shown, origin, site)) :
    Shape.ofLine? (indent ++ (['a', 't', ' '] ++ (newWord isConstructor ++ rest))) =
      some ⟨isConstructor, shown, origin, site⟩ := by
  rw [Shape.ofLine?, starts, afterMarker?_append hindent]
  rcases isConstructor with _ | _
  · have hnone : after? ['n', 'e', 'w', ' '] rest = none := after?_eq_none_iff.2 (hnew rfl)
    simp [newWord, hnone, h]
  · have hsome : after? ['n', 'e', 'w', ' '] (newWord true ++ rest) = some rest :=
      after?_append ..
    simp [hsome, h]

/-- An opening does not begin in one text and end in another that has no parenthesis. -/
theorem opening_infix_append (hrest : '(' ∉ rest) (h : opening <:+: cs ++ rest) :
    opening <:+: cs := by
  obtain ⟨before, behind, he⟩ := h
  rcases List.append_eq_append_iff.1 he with ⟨as, rfl, -⟩ | ⟨as, hb, rfl⟩
  · exact ⟨before, as, rfl⟩
  · -- Unless the opening ends with the first text, its parenthesis lies in the second.
    rcases List.eq_nil_or_concat as with rfl | ⟨as, c, rfl⟩
    · exact ⟨before, [], by simpa using hb⟩
    · have hc : before ++ [' '] ++ ['('] = cs ++ as ++ [c] := by simpa [opening] using hb
      obtain ⟨-, hlast⟩ := List.append_inj' hc rfl
      obtain rfl := List.singleton_inj.1 hlast
      exact absurd (by simp) hrest

/-- A text without an opening has neither a name nor an origin clause. -/
theorem called?_of_no_opening {site : Site} (hopen : ¬opening <:+: cs) (h : site? cs = some site) :
    called? cs = some (none, none, site) := by
  have hnamed : named? cs = none := by
    rw [Option.eq_none_iff_forall_ne_some]
    rintro ⟨n, r⟩ hn
    obtain ⟨tail, -, rfl⟩ := exists_of_named? hn
    exact hopen ⟨n, tail, by simp⟩
  have heval : evaluated? cs = none := by
    rw [Option.eq_none_iff_forall_ne_some]
    rintro ⟨origin, s⟩ hs
    obtain ⟨inner, -, -, -, rfl⟩ := exists_of_evaluated? hs
    exact hopen ⟨evalWords ++ origin, inner, by simp⟩
  simp [called?, hnamed, located?, heval, h]

/-- A text that does not begin with the words of an origin clause has none. -/
theorem located?_of_no_eval {site : Site} (heval : ¬evalWords <+: cs) (h : site? cs = some site) :
    located? cs = some (none, site) := by
  have hnone : evaluated? cs = none := by
    rw [Option.eq_none_iff_forall_ne_some]
    rintro ⟨origin, s⟩ hs
    obtain ⟨inner, -, -, -, rfl⟩ := exists_of_evaluated? hs
    exact heval (List.prefix_append ..)
  simp [located?, hnone, h]

/-- A word that lacks a character does not reach over it. -/
theorem prefix_of_prefix_append_cons {word : List Char} {c : Char} (hc : c ∉ word)
    (h : word <+: cs ++ c :: rest) : word <+: cs := by
  rcases Nat.lt_or_ge cs.length word.length with hlt | hle
  · have hshort : cs ++ [c] <+: word :=
      List.prefix_of_prefix_length_le ⟨rest, by simp⟩ h (by simp; omega)
    exact absurd (hshort.subset (by simp)) hc
  · exact List.prefix_of_prefix_length_le h (List.prefix_append ..) hle

private theorem prefix_of_prefix_append_tail {word : List Char} {closed : Bool}
    (hc : ':' ∉ word) (h : word <+: cs ++ tailChars line column closed) : word <+: cs :=
  prefix_of_prefix_append_cons hc h

/-! ### Printed frames -/

/-- A frame as it is printed with the name of its function. -/
def namedLine (indent : List Char) (isConstructor : Bool) (name file line column : List Char) :
    List Char :=
  indent ++ (['a', 't', ' '] ++ (newWord isConstructor ++
    (name ++ (opening ++ (file ++ tailChars line column true)))))

/-- A frame as it is printed without a name. -/
def bareLine (indent file line column : List Char) : List Char :=
  indent ++ (['a', 't', ' '] ++ (file ++ tailChars line column false))

theorem ofLine?_namedLine {indent : List Char} {isConstructor : Bool}
    (hindent : ∀ c ∈ indent, Text.isBlank c = true) (hname : '\n' ∉ name)
    (hopen : ¬opening <:+: name) (hnew : isConstructor = false → ¬newWord true <+: name ++ [' '])
    (hfile : file ≠ []) (hfeed : '\n' ∉ file) (heval : ¬evalWords <+: file)
    (hl : IsNumeral line) (hc : IsNumeral column) :
    Shape.ofLine? (namedLine indent isConstructor name file line column) =
      some ⟨isConstructor, some name, none, .position file line column true⟩ := by
  have hsite : site? (file ++ tailChars line column true) =
      some (.position file line column true) := by
    rw [site?, position?_append hfile hfeed hl hc, Option.some_or]
  have hplace : located? (file ++ tailChars line column true) =
      some (none, .position file line column true) :=
    located?_of_no_eval (fun h => heval (prefix_of_prefix_append_tail (by decide) h)) hsite
  refine ofLine?_marked hindent (fun hcon hpre => hnew hcon ?_) ?_
  · have hpre : newWord true <+:
        (name ++ [' ']) ++ '(' :: (file ++ tailChars line column true) := by
      simpa [opening] using hpre
    exact prefix_of_prefix_append_cons (by decide) hpre
  · rw [called?, named?_append hopen hname hplace]

theorem ofLine?_bareLine {indent : List Char} (hindent : ∀ c ∈ indent, Text.isBlank c = true)
    (hopen : ¬opening <:+: file) (hnew : ¬newWord true <+: file) (hfile : file ≠ [])
    (hfeed : '\n' ∉ file) (hl : IsNumeral line) (hc : IsNumeral column) :
    Shape.ofLine? (bareLine indent file line column) =
      some ⟨false, none, none, .position file line column false⟩ := by
  have hsite : site? (file ++ tailChars line column false) =
      some (.position file line column false) := by
    rw [site?, position?_append hfile hfeed hl hc, Option.some_or]
  have hparen : '(' ∉ tailChars line column false :=
    notMem_tailChars hl hc false (by decide) (by decide) (by decide)
  have hcall := called?_of_no_opening (fun h => hopen (opening_infix_append hparen h)) hsite
  change Shape.ofLine? (indent ++ (['a', 't', ' '] ++
    (newWord false ++ (file ++ tailChars line column false)))) = _
  exact ofLine?_marked hindent (fun _ h => hnew (prefix_of_prefix_append_tail (by decide) h)) hcall

end FailurePrompt.Frame

namespace FailurePrompt.FrameParser

open FailurePrompt.Frame

/-- A printed frame is read back part by part. -/
theorem parseLine_written (parser : FrameParser) {indent file line column : List Char}
    (hindent : ∀ c ∈ indent, Text.isBlank c = true) (hfile : file ≠ []) (hfeed : '\n' ∉ file)
    (hurl : ¬Url.scheme <+: file) (hline : IsNumeral line) (hcolumn : IsNumeral column)
    (hll : line.length ≤ Text.Numeral.maxDigits) (hcl : column.length ≤ Text.Numeral.maxDigits) :
    (∀ isConstructor name, name ≠ [] → '\n' ∉ name → ¬opening <:+: name →
      (isConstructor = false → ¬newWord true <+: name ++ [' ']) → ¬evalWords <+: file →
      Answered file →
      ∃ shown, Shows name shown ∧
        parser.parseLine (String.ofList (namedLine indent isConstructor name file line column)) =
          .ok (some {
            rawText := String.ofList (namedLine indent isConstructor name file line column)
            functionName := some (String.ofList shown)
            filePath := some (String.ofList file)
            line := some (Text.Numeral.value line)
            column := some (Text.Numeral.value column)
            isNative := false
            isConstructor
            evalOrigin := none })) ∧
    (¬opening <:+: file → ¬newWord true <+: file →
      parser.parseLine (String.ofList (bareLine indent file line column)) =
        .ok (some {
          rawText := String.ofList (bareLine indent file line column)
          functionName := none
          filePath := some (String.ofList file)
          line := some (Text.Numeral.value line)
          column := some (Text.Numeral.value column)
          isNative := false
          isConstructor := false
          evalOrigin := none })) := by
  have hpath : Url.filePath parser.pathSeparator.toList file = file :=
    Url.filePath_of_not_scheme (Bool.eq_false_iff.2 (mt List.isPrefixOf_iff_prefix.1 hurl))
  constructor
  · intro isConstructor name hname hnfeed hopen hnew heval hanswered
    obtain ⟨shown, hshows, hrep⟩ := shows_reported hname
    refine ⟨shown, hshows, ?_⟩
    have hshape := ofLine?_namedLine hindent hnfeed hopen hnew hfile hfeed heval hline hcolumn
    rw [parseLine_of_shape (by rw [String.toList_ofList]; exact hshape),
      frameOfShape_position rfl hll hcl]
    -- The line is closed, so the file is balanced, which leaves it as it is.
    simp only [balanced, if_true, balance_eq_self hanswered, hpath, if_neg hfile, hrep]
    rfl
  · intro hopen hnew
    have hshape := ofLine?_bareLine hindent hopen hnew hfile hfeed hline hcolumn
    rw [parseLine_of_shape (by rw [String.toList_ofList]; exact hshape),
      frameOfShape_position rfl hll hcl]
    simp only [balanced, Bool.false_eq_true, if_false, hpath, if_neg hfile]
    rfl

/-- A constructor with an alias, in a directory with an opening in its name. -/
theorem parseLine_written_aliased :
    parseLine {} "\tat new R.get [as size] (/a (1)/x.js:12:5)" = .ok (some {
      rawText := "\tat new R.get [as size] (/a (1)/x.js:12:5)"
      functionName := some "size"
      filePath := some "/a (1)/x.js"
      line := some 12
      column := some 5
      isNative := false
      isConstructor := true
      evalOrigin := none }) := by
  have hfile : Answered ['/', 'a', ' ', '(', '1', ')', '/', 'x', '.', 'j', 's'] := by decide
  obtain ⟨shown, hshows, h⟩ :=
    (@parseLine_written {} ['\t'] ['/', 'a', ' ', '(', '1', ')', '/', 'x', '.', 'j', 's']
      ['1', '2'] ['5'] (List.all_eq_true.1 (by decide)) (by decide) (by decide) (by decide)
      (by decide) (by decide) (by decide) (by decide)).1 true
      ['R', '.', 'g', 'e', 't', ' ', '[', 'a', 's', ' ', 's', 'i', 'z', 'e', ']']
      (by decide) (by decide) (by decide) (by decide) (by decide) hfile
  have halias : alias? ['R', '.', 'g', 'e', 't', ' ', '[', 'a', 's', ' ', 's', 'i', 'z', 'e', ']'] =
      some ['s', 'i', 'z', 'e'] := by decide
  rcases hshows with ha | ⟨hno, -⟩
  · obtain rfl := Option.some.inj (halias.symm.trans (alias?_of_aliasOf ha))
    exact h
  · exact absurd ⟨_, aliasOf_of_alias? halias⟩ hno

end FailurePrompt.FrameParser
