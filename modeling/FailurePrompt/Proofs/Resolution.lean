import FailurePrompt.Proofs.Frame.Acceptance
import FailurePrompt.Resolver

/-!
# What a stack resolves to

The lines of a stack are scanned in order. A line is picked if it is a frame that points somewhere
and that the filter accepts, it is skipped if it can be read and is no such frame, and a line that
cannot be read ends the scan. `Resolves` is the scan as a relation, and `resolves_resolveLines`
says that the resolver follows it; no other case arises, for a frame that was read and points
somewhere always has a location. The main statement, `resolve_sound_complete`, is that the location
found is that of the first line that is picked, and that none is found only if no line is.
-/

namespace FailurePrompt

/-! ### Candidate lines -/

/-- The line begins with white space, at least one character of it, and the marker of a frame. -/
def MarkedLine (line : String) : Prop :=
  ∃ indent rest, indent ≠ [] ∧ (∀ c ∈ indent, Text.isBlank c = true) ∧
    line.toList = indent ++ (['a', 't', ' '] ++ rest)

/-- The lines among which a frame is looked for: those from the first marked line on, or all of
them if no line is marked. -/
inductive Candidates (all : List String) : List String → Prop
  | marked {header rest : List String} {line : String} (hall : all = header ++ line :: rest)
      (hheader : ∀ earlier ∈ header, ¬MarkedLine earlier) (hline : MarkedLine line) :
      Candidates all (line :: rest)
  | unmarked (h : ∀ line ∈ all, ¬MarkedLine line) : Candidates all all

theorem Candidates.subset {all lines : List String} (h : Candidates all lines) : lines ⊆ all := by
  rcases h with ⟨rfl, -, -⟩ | -
  · exact List.subset_append_right _ _
  · exact List.Subset.refl _

/-- A line of a stack holds no line feed. -/
theorem feed_notMem_of_mem_stackLines {stack : Option String} {line : String}
    (h : line ∈ stackLines stack) : '\n' ∉ line.toList := by
  obtain ⟨cs, hcs, rfl⟩ := List.mem_map.1 h
  rw [String.toList_ofList]
  intro hfeed
  have hsep := @Text.not_sep_of_mem_segments (· == '\n') _ _ _ hcs hfeed
  simp at hsep

/-- A text on one line is its only line. -/
theorem stackLines_of_feed_notMem {text : String} (hfeed : '\n' ∉ text.toList) :
    stackLines (some text) = [text] := by
  have hlines : Text.lines (Text.joinLines [text.toList]) = [text.toList] :=
    Text.lines_joinLines (by simp) (by simpa using hfeed)
  rw [Text.joinLines_singleton] at hlines
  simp [stackLines, hlines]

namespace Resolver

theorem isMarked_iff {line : String} : isMarked line = true ↔ MarkedLine line := by
  simp only [isMarked, Bool.and_eq_true, Option.isSome_iff_exists]
  constructor
  · rintro ⟨hblank, rest, hrest⟩
    obtain ⟨indent, hindent, hline⟩ := Frame.exists_of_afterMarker? hrest
    refine ⟨indent, rest, ?_, hindent, hline⟩
    rintro rfl
    have hletter : Text.isBlank 'a' = false := by decide
    simp [hline, hletter] at hblank
  · rintro ⟨indent, rest, hne, hindent, hline⟩
    obtain ⟨c, indent, rfl⟩ := List.exists_cons_of_ne_nil hne
    rw [hline]
    exact ⟨by simp [hindent c], rest, Frame.afterMarker?_append hindent rest⟩

/-- Dropping the lines of a header leaves the candidates. -/
theorem candidates_frameLines (stack : Option String) :
    Candidates (stackLines stack) (frameLines stack) := by
  have hheader : ∀ line ∈ (stackLines stack).takeWhile (!isMarked ·), ¬MarkedLine line := by
    intro line hline hm
    have hnot := List.all_eq_true.1 List.all_takeWhile line hline
    simp [isMarked_iff.2 hm] at hnot
  have hall : stackLines stack = (stackLines stack).takeWhile (!isMarked ·) ++
      (stackLines stack).dropWhile (!isMarked ·) := List.takeWhile_append_dropWhile.symm
  rw [frameLines]
  rcases hd : (stackLines stack).dropWhile (!isMarked ·) with _ | ⟨line, rest⟩
  · rw [hd, List.append_nil] at hall
    dsimp only
    refine .unmarked ?_
    rw [hall]
    exact hheader
  · rw [hd] at hall
    dsimp only
    refine .marked hall hheader (isMarked_iff.1 ?_)
    have hfirst := List.head?_dropWhile_not (!isMarked ·) (stackLines stack)
    simpa [hd] using hfirst

end Resolver

/-! ### Locations of frames -/

/-- The location is the place that the frame points at. -/
structure Location.IsPlaceOf (l : Location) (frame : Frame) : Prop where
  isNative : frame.isNative = false
  filePath : frame.filePath = some l.filePath
  line : frame.line = some (l.line : Int)
  column : frame.column = some (l.column : Int)

theorem Location.IsPlaceOf.file_eq {frame : Frame} {l : Location} (h : l.IsPlaceOf frame) :
    frame.file = l.filePath := by
  rw [Frame.file, h.filePath]
  rfl

/-- A frame points at one place only. -/
theorem Location.IsPlaceOf.eq {frame : Frame} {l l' : Location} (h : l.IsPlaceOf frame)
    (h' : l'.IsPlaceOf frame) : l = l' := by
  have hfile : l.filePath = l'.filePath := h.file_eq.symm.trans h'.file_eq
  have hline : l.line = l'.line :=
    Int.ofNat.inj (Option.some.inj (h.line.symm.trans h'.line))
  have hcolumn : l.column = l'.column :=
    Int.ofNat.inj (Option.some.inj (h.column.symm.trans h'.column))
  cases l
  cases l'
  simp_all only

/-- A frame that was read is runtime code without a file, or it has a line and a column. -/
theorem FrameParser.numbers_of_parseLine {parser : FrameParser} {text : String} {frame : Frame}
    (h : parser.parseLine text = .ok (some frame)) :
    (frame.isNative = true ∧ frame.filePath = none) ∨
      (frame.isNative = false ∧
        ∃ line column : Nat, frame.line = some (line : Int) ∧
          frame.column = some (column : Int)) := by
  rcases hs : Frame.Shape.ofLine? text.toList with _ | shape
  · rw [parseLine_of_no_shape hs] at h
    cases h
  · rw [parseLine_of_shape hs] at h
    rcases hsite : shape.site with ⟨file, line, column, closed⟩ | _
    · by_cases hread : line.length ≤ Text.Numeral.maxDigits ∧
          column.length ≤ Text.Numeral.maxDigits
      · rw [frameOfShape_position hsite hread.1 hread.2] at h
        cases h
        exact .inr ⟨rfl, _, _, rfl, rfl⟩
      · obtain ⟨e, he⟩ : ∃ e, parser.frameOfShape text shape = .error e :=
          frameOfShape_overlong hsite (by omega)
        rw [he] at h
        cases h
    · rw [frameOfShape_native hsite] at h
      cases h
      exact .inl ⟨rfl, rfl⟩

/-- A frame that was read and points somewhere has a location. -/
theorem FrameParser.exists_ofFrame {parser : FrameParser} {text : String} {frame : Frame}
    (h : parser.parseLine text = .ok (some frame)) (hloc : frame.hasLocation = true) :
    ∃ l, Location.ofFrame frame = .ok l ∧ l.IsPlaceOf frame := by
  obtain ⟨hfile, hnumber⟩ := Frame.hasLocation_iff.1 hloc
  rcases hpath : frame.filePath with _ | path
  · exact absurd (by rw [Frame.file, hpath]; rfl) hfile
  rcases numbers_of_parseLine h with ⟨-, hnone⟩ | ⟨hnative, line, column, hline, hcolumn⟩
  · rw [hpath] at hnone
    cases hnone
  have hfile' : frame.file = path := by rw [Frame.file, hpath]; rfl
  have hline' : frame.lineNumber = line := by rw [Frame.lineNumber, hline]; rfl
  have hcolumn' : frame.columnNumber = column := by rw [Frame.columnNumber, hcolumn]; rfl
  -- The line of a frame that was read is not negative, so being there makes it positive.
  rw [hfile'] at hfile
  rw [hline'] at hnumber
  refine ⟨⟨path, line, column, hfile, by omega⟩, ?_, hnative, hpath, hline, hcolumn⟩
  exact Location.make_eq_ok_iff.2 ⟨hfile'.symm, hline'.symm, hcolumn'.symm⟩

/-! ### Application files -/

/-- The file is one of the application: it has a name, lies in no package directory, and is one of
the runtime only if those are let through. -/
structure FrameFilter.Admits (filter : FrameFilter) (path : String) : Prop where
  named : path ≠ ""
  notDependency : ∀ name ∈ pathNames path, name ∉ filter.dependencyDirs
  shown_of_internal : ∀ start ∈ filter.internalPrefixes, start.toList <+: path.toList →
    filter.showInternalFrames = true

theorem FrameFilter.accepts_iff_admits {filter : FrameFilter} {frame : Frame} :
    filter.accepts frame = true ↔ filter.Admits frame.file := by
  have hdep : filter.isDependency frame.file = false ↔
      ∀ name ∈ pathNames frame.file, name ∉ filter.dependencyDirs := by
    simp [isDependency]
  have hint : (filter.isInternal frame.file = true → filter.showInternalFrames = true) ↔
      ∀ start ∈ filter.internalPrefixes, start.toList <+: frame.file.toList →
        filter.showInternalFrames = true := by
    simp only [isInternal, List.any_eq_true, List.isPrefixOf_iff_prefix]
    exact ⟨fun h start hmem hpre => h ⟨start, hmem, hpre⟩,
      fun h ⟨start, hmem, hpre⟩ => h start hmem hpre⟩
  rw [accepts_iff, hdep, hint]
  exact ⟨fun ⟨hfile, hd, hi⟩ => ⟨hfile, hd, hi⟩, fun ⟨hfile, hd, hi⟩ => ⟨hfile, hd, hi⟩⟩

/-! ### The scan -/

namespace Resolver

variable {resolver : Resolver} {lines : List String} {line : String} {frame : Frame}
  {result : Except ResolveError (Option Location)} {l : Location}

/-- The line is a frame that points somewhere and that the filter accepts. -/
def Picks (resolver : Resolver) (line : String) (frame : Frame) : Prop :=
  resolver.parser.parseLine line = .ok (some frame) ∧ frame.hasLocation = true ∧
    resolver.filter.accepts frame = true

/-- The line can be read and is not picked. -/
def Skips (resolver : Resolver) (line : String) : Prop :=
  (∃ read, resolver.parser.parseLine line = .ok read) ∧ ∀ frame, ¬resolver.Picks line frame

/-- The scan of some lines and what comes of it. -/
inductive Resolves (resolver : Resolver) :
    List String → Except ResolveError (Option Location) → Prop
  | nil : Resolves resolver [] (.ok none)
  | skip {line : String} {rest : List String} {result : Except ResolveError (Option Location)}
      (hline : resolver.Skips line) (hrest : Resolves resolver rest result) :
      Resolves resolver (line :: rest) result
  | pick {line : String} {frame : Frame} {l : Location} (hline : resolver.Picks line frame)
      (hl : l.IsPlaceOf frame) (rest : List String) :
      Resolves resolver (line :: rest) (.ok (some l))
  | fail {line : String} {e : Text.Numeral.TooLong}
      (hline : resolver.parser.parseLine line = .error e) (rest : List String) :
      Resolves resolver (line :: rest) (.error (.numeral e))

/-- A line is picked, or it is skipped, or it cannot be read. -/
theorem picks_or_skips (resolver : Resolver) (line : String) :
    (∃ frame, resolver.Picks line frame) ∨ resolver.Skips line ∨
      ∃ e, resolver.parser.parseLine line = .error e := by
  by_cases hpick : ∃ frame, resolver.Picks line frame
  · exact .inl hpick
  · rcases hread : resolver.parser.parseLine line with e | read
    · exact .inr (.inr ⟨e, rfl⟩)
    · exact .inr (.inl ⟨⟨read, hread⟩, fun frame h => hpick ⟨frame, h⟩⟩)

theorem resolveLines_of_picks (h : resolver.Picks line frame) (rest : List String) :
    ∃ l : Location, l.IsPlaceOf frame ∧
      (resolver.resolveLines (line :: rest)).value = .ok (some l) := by
  obtain ⟨hread, hloc, haccepts⟩ := h
  obtain ⟨l, hl, hplace⟩ := FrameParser.exists_ofFrame hread hloc
  refine ⟨l, hplace, ?_⟩
  rw [resolve_cons_pick rest hread (by rw [isCandidate, hloc, haccepts]; rfl), hl]
  rfl

theorem resolveLines_of_skips (h : resolver.Skips line) (rest : List String) :
    (resolver.resolveLines (line :: rest)).value = (resolver.resolveLines rest).value := by
  obtain ⟨⟨read, hread⟩, hpick⟩ := h
  refine resolve_cons_skip rest hread fun frame hframe => ?_
  rw [Bool.eq_false_iff]
  intro hcand
  rw [isCandidate, Bool.and_eq_true] at hcand
  exact hpick frame ⟨hframe ▸ hread, hcand.1, hcand.2⟩

/-- The resolver follows the scan. -/
theorem resolves_resolveLines (resolver : Resolver) (lines : List String) :
    resolver.Resolves lines (resolver.resolveLines lines).value := by
  induction lines with
  | nil => exact .nil
  | cons line rest ih =>
    -- A picked line decides, and a skipped one leaves it to the rest.
    rcases resolver.picks_or_skips line with ⟨frame, hpick⟩ | hskip | ⟨e, he⟩
    · obtain ⟨l, hplace, hl⟩ := resolveLines_of_picks hpick rest
      rw [hl]
      exact .pick hpick hplace rest
    · rw [resolveLines_of_skips hskip]
      exact .skip hskip ih
    · rw [resolveLines, he]
      exact .fail he rest

/-- The location found is that of the first line that is picked. -/
theorem Resolves.exists_picks (h : resolver.Resolves lines (.ok (some l))) :
    ∃ before line after frame, lines = before ++ line :: after ∧
      (∀ earlier ∈ before, resolver.Skips earlier) ∧ resolver.Picks line frame ∧
        l.IsPlaceOf frame := by
  generalize hr : Except.ok (some l) = result at h
  induction h with
  | nil => cases hr
  | @skip line rest _ hline _ ih =>
    obtain ⟨before, picked, after, frame, rfl, hbefore, hpick⟩ := ih hr
    refine ⟨line :: before, picked, after, frame, rfl, ?_, hpick⟩
    exact List.forall_mem_cons.2 ⟨hline, hbefore⟩
  | @pick line frame _ hline hplace rest =>
    cases hr
    exact ⟨[], line, rest, frame, rfl, by simp, hline, hplace⟩
  | fail => cases hr

/-- Nothing is found exactly if every line is skipped. -/
theorem Resolves.eq_none_iff (h : resolver.Resolves lines result) :
    result = .ok none ↔ ∀ line ∈ lines, resolver.Skips line := by
  induction h with
  | nil => simp
  | skip hline _ ih => rw [ih, List.forall_mem_cons, and_iff_right hline]
  | @pick line frame _ hline =>
    refine ⟨nofun, fun hall => ?_⟩
    exact absurd hline ((hall line List.mem_cons_self).2 frame)
  | @fail line _ hline =>
    refine ⟨nofun, fun hall => ?_⟩
    obtain ⟨read, hread⟩ := (hall line List.mem_cons_self).1
    rw [hread] at hline
    cases hline

/-- The scan fails exactly if a line cannot be read and none before it is picked. -/
theorem Resolves.eq_error_iff (h : resolver.Resolves lines result) :
    (∃ e, result = .error e) ↔ ∃ before line after, lines = before ++ line :: after ∧
      (∀ earlier ∈ before, ∀ frame, ¬resolver.Picks earlier frame) ∧
        ∃ e, resolver.parser.parseLine line = .error e := by
  induction h with
  | nil => simp
  | @skip line rest _ hline _ ih =>
    rw [ih]
    constructor
    · rintro ⟨before, failed, after, rfl, hbefore, he⟩
      exact ⟨line :: before, failed, after, rfl, List.forall_mem_cons.2 ⟨hline.2, hbefore⟩, he⟩
    · rintro ⟨before, failed, after, hlines, hbefore, e, he⟩
      rcases before with _ | ⟨first, before⟩
      · -- The line that is skipped can be read.
        obtain ⟨rfl, -⟩ := List.cons.inj hlines
        obtain ⟨read, hread⟩ := hline.1
        rw [hread] at he
        cases he
      · obtain ⟨-, hrest⟩ := List.cons.inj hlines
        exact ⟨before, failed, after, hrest, (List.forall_mem_cons.1 hbefore).2, e, he⟩
  | @pick line frame _ hline _ rest =>
    refine ⟨nofun, ?_⟩
    rintro ⟨before, failed, after, hlines, hbefore, e, he⟩
    rcases before with _ | ⟨first, before⟩
    · obtain ⟨rfl, -⟩ := List.cons.inj hlines
      rw [hline.1] at he
      cases he
    · obtain ⟨rfl, -⟩ := List.cons.inj hlines
      exact absurd hline (hbefore _ List.mem_cons_self frame)
  | @fail line e hline rest =>
    exact ⟨fun _ => ⟨[], line, rest, rfl, by simp, e, hline⟩, fun _ => ⟨_, rfl⟩⟩

/-- Resolution finds the place of the first candidate line that is picked, that place is in the
application, and it finds nothing only if no candidate line is picked. -/
theorem resolve_sound_complete (resolver : Resolver) (stack : Option String) :
    Candidates (stackLines stack) (frameLines stack) ∧
    (∀ l, (resolver.resolve stack).value = .ok (some l) →
      resolver.filter.Admits l.filePath ∧ 1 ≤ l.line ∧ 0 ≤ l.column ∧
        ∃ before line after frame, frameLines stack = before ++ line :: after ∧
          resolver.Picks line frame ∧ l.IsPlaceOf frame ∧
            ∀ earlier ∈ before, ∀ frame, ¬resolver.Picks earlier frame) ∧
    ((∀ line ∈ frameLines stack, ∃ read, resolver.parser.parseLine line = .ok read) →
      (∃ found, (resolver.resolve stack).value = .ok found) ∧
      ((resolver.resolve stack).value = .ok none ↔
        ∀ line ∈ frameLines stack, ∀ frame, ¬resolver.Picks line frame)) ∧
    (∀ line frame, resolver.parser.parseLine line = .ok (some frame) →
      frame.hasLocation = true → ∃ l, Location.ofFrame frame = .ok l) := by
  have hscan : resolver.Resolves (frameLines stack) (resolver.resolve stack).value :=
    resolves_resolveLines resolver _
  refine ⟨candidates_frameLines stack, fun l hl => ?_, fun hread => ⟨?_, ?_⟩,
    fun line frame hread hloc => ?_⟩
  · rw [hl] at hscan
    obtain ⟨before, line, after, frame, hlines, hbefore, hpick, hplace⟩ := hscan.exists_picks
    refine ⟨?_, l.line_pos, Nat.zero_le _, before, line, after, frame, hlines, hpick, hplace,
      fun earlier hmem => (hbefore earlier hmem).2⟩
    rw [← hplace.file_eq]
    exact FrameFilter.accepts_iff_admits.1 hpick.2.2
  · rcases hr : (resolver.resolve stack).value with e | found
    · obtain ⟨before, line, after, hlines, -, e, he⟩ := hscan.eq_error_iff.1 ⟨e, hr⟩
      obtain ⟨read, hline⟩ := hread line (by rw [hlines]; simp)
      rw [he] at hline
      cases hline
    · exact ⟨found, rfl⟩
  · rw [hscan.eq_none_iff]
    exact ⟨fun h line hmem => (h line hmem).2, fun h line hmem => ⟨hread line hmem, h line hmem⟩⟩
  · obtain ⟨l, hl, -⟩ := FrameParser.exists_ofFrame hread hloc
    exact ⟨l, hl⟩

/-- A package comes before the application in a stack; without the application nothing is found. -/
theorem resolve_sound_complete_behind_package :
    let frames := "Error: lost\n    at open (/w/node_modules/a.js:1:2)\n"
    let stack := frames ++ "    at run (/w/b.js:3:4)"
    (∃ l : Location, (({} : Resolver).resolve (some stack)).value = .ok (some l) ∧
      l.filePath = "/w/b.js" ∧ ({} : Resolver).filter.Admits l.filePath ∧
      ∃ before line after frame, frameLines (some stack) = before ++ line :: after ∧
        ({} : Resolver).Picks line frame ∧ l.IsPlaceOf frame ∧
          ∀ earlier ∈ before, ∀ frame, ¬({} : Resolver).Picks earlier frame) ∧
    (∀ line ∈ frameLines (some frames), ∃ read,
      ({} : Resolver).parser.parseLine line = .ok read) ∧
    (({} : Resolver).resolve (some frames)).value = .ok none ∧
    ∀ line ∈ frameLines (some frames), ∀ frame, ¬({} : Resolver).Picks line frame := by
  intro frames stack
  have hstack : frameLines (some stack) =
      ["    at open (/w/node_modules/a.js:1:2)", "    at run (/w/b.js:3:4)"] := by decide +kernel
  have hfound : (({} : Resolver).resolve (some stack)).value =
      .ok (some ⟨"/w/b.js", 3, 4, by decide, by decide⟩) := by
    rw [resolve, hstack]
    rfl
  have hlines : frameLines (some frames) = ["    at open (/w/node_modules/a.js:1:2)", ""] := by
    decide +kernel
  have hread : ∀ line ∈ frameLines (some frames), ∃ read,
      ({} : Resolver).parser.parseLine line = .ok read := by
    rw [hlines]
    simp only [List.forall_mem_cons]
    exact ⟨⟨_, rfl⟩, ⟨_, rfl⟩, nofun⟩
  have hnone : (({} : Resolver).resolve (some frames)).value = .ok none := by
    rw [resolve, hlines]
    rfl
  obtain ⟨-, hsound, -, -⟩ := resolve_sound_complete {} (some stack)
  obtain ⟨-, -, hcomplete, -⟩ := resolve_sound_complete {} (some frames)
  obtain ⟨hadmits, -, -, hfirst⟩ := hsound _ hfound
  exact ⟨⟨_, hfound, rfl, hadmits, hfirst⟩, hread, hnone, (hcomplete hread).2.mp hnone⟩

end Resolver

end FailurePrompt
