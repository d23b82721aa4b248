import FailurePrompt.Proofs.Resolution
import Mathlib.Data.List.TakeWhile

/-!
# Edits that leave a location where it is

A stack is resolved by its first application frame, so nothing else in it matters: not the message
above the frames, however much it looks like one, not the frames that are passed over, and not what
follows the frame that is found. The one thing an edit must not do is move the first marked line.
The main statement, `resolve_edits`, compares a stack that has a marked line with its edited forms.
-/

namespace FailurePrompt

/-! ### Lines of an edited text -/

/-- Lines put before a text stay lines of their own. -/
theorem stackLines_intercalate_append {lines : List String}
    (h : ∀ line ∈ lines, '\n' ∉ line.toList) (text : String) :
    stackLines (some ("\n".intercalate (lines ++ [text]))) = lines ++ stackLines (some text) := by
  have hfeed : ∀ cs ∈ lines.map String.toList, '\n' ∉ cs := by simpa using h
  have hjoin : ("\n".intercalate (lines ++ [text])).toList =
      Text.joinLines (lines.map String.toList ++ [text.toList]) := by
    simp [Text.joinLines, String.toList_intercalate]
  simp only [stackLines, Option.getD_some]
  rw [hjoin, Text.lines_joinLines_append hfeed]
  simp

/-- Lines are read back from the text that they are joined to. -/
theorem stackLines_intercalate {lines : List String} (hne : lines ≠ [])
    (h : ∀ line ∈ lines, '\n' ∉ line.toList) :
    stackLines (some ("\n".intercalate lines)) = lines := by
  obtain ⟨front, last, rfl⟩ : ∃ front last, lines = front ++ [last] :=
    ⟨_, _, (List.dropLast_concat_getLast hne).symm⟩
  rw [List.forall_mem_append] at h
  rw [stackLines_intercalate_append h.1, stackLines_of_feed_notMem (h.2 last (by simp))]

namespace Resolver

variable {resolver : Resolver} {lines lines' before after : List String} {line : String}
  {stack : Option String}

/-! ### Candidates of an edited stack -/

/-- The candidates begin among the lines that have a marked one. -/
theorem frameLines_of_append (hlines : stackLines stack = before ++ after)
    (hmarked : ∃ line ∈ before, MarkedLine line) :
    frameLines stack = before.dropWhile (!isMarked ·) ++ after := by
  obtain ⟨marked, hmem, hmark⟩ := hmarked
  have hne : before.dropWhile (!isMarked ·) ≠ [] := fun hnil => by
    have hall := List.dropWhile_eq_nil_iff.1 hnil marked hmem
    simp [isMarked_iff.2 hmark] at hall
  have hdrop : (before ++ after).dropWhile (!isMarked ·) =
      before.dropWhile (!isMarked ·) ++ after := by
    rw [List.dropWhile_append, if_neg (by simpa using hne)]
  rw [frameLines, hlines, hdrop]
  obtain ⟨first, rest, hfirst⟩ := List.exists_cons_of_ne_nil hne
  rw [hfirst]
  rfl

/-- A header without marked lines is dropped. -/
theorem frameLines_of_header {header : List String} {edited : Option String}
    (hlines : stackLines edited = header ++ stackLines stack)
    (hheader : ∀ line ∈ header, ¬MarkedLine line)
    (hmarked : ∃ line ∈ stackLines stack, MarkedLine line) :
    frameLines edited = frameLines stack := by
  obtain ⟨marked, hmem, hmark⟩ := hmarked
  have hstack := @frameLines_of_append _ [] stack (List.append_nil _).symm ⟨marked, hmem, hmark⟩
  have hedited := @frameLines_of_append _ [] edited (by rw [hlines, List.append_nil])
    ⟨marked, List.mem_append_right _ hmem, hmark⟩
  have hdrop : ∀ line ∈ header, (!isMarked line) = true := fun line hline => by
    simpa using mt isMarked_iff.1 (hheader line hline)
  rw [hedited, hstack, List.dropWhile_append_of_pos hdrop]

/-- Lines after the first marked one that are replaced are replaced among the candidates. -/
theorem frameLines_of_replace {edited : Option String} {lead : List String}
    (hlines : stackLines stack = before ++ after) (hcand : frameLines stack = lead ++ after)
    (hmarked : ∃ line ∈ before, MarkedLine line) (hedited : stackLines edited = before ++ lines) :
    frameLines edited = lead ++ lines := by
  rw [frameLines_of_append hlines hmarked] at hcand
  rw [frameLines_of_append hedited hmarked, List.append_cancel_right hcand]

/-- The candidates of a stack with a marked line are what follows its header. -/
theorem exists_header (hmarked : ∃ line ∈ stackLines stack, MarkedLine line) :
    ∃ header first rest, stackLines stack = header ++ frameLines stack ∧
      frameLines stack = first :: rest ∧ MarkedLine first := by
  have hcand := candidates_frameLines stack
  generalize hlines : frameLines stack = lines at hcand ⊢
  rcases hcand with ⟨hall, -, hfirst⟩ | ⟨hnone⟩
  · exact ⟨_, _, _, hall, rfl, hfirst⟩
  · obtain ⟨marked, hmem, hmark⟩ := hmarked
    exact absurd hmark (hnone marked hmem)

/-! ### The scan of edited lines -/

/-- A line that is no frame is skipped, and so is a frame without a location or one that the filter
leaves out. -/
theorem skips_iff : resolver.Skips line ↔
    resolver.parser.parseLine line = .ok none ∨
      ∃ frame, resolver.parser.parseLine line = .ok (some frame) ∧
        (frame.hasLocation = false ∨ resolver.filter.isExcluded frame = true) := by
  have haccepts : ∀ frame, resolver.filter.accepts frame = !resolver.filter.isExcluded frame :=
    fun _ => rfl
  constructor
  · rintro ⟨⟨read, hread⟩, hpick⟩
    rcases read with _ | frame
    · exact .inl hread
    · refine .inr ⟨frame, hread, ?_⟩
      rcases hloc : frame.hasLocation with _ | _
      · exact .inl rfl
      · rcases hex : resolver.filter.isExcluded frame with _ | _
        · exact absurd ⟨hread, hloc, by rw [haccepts, hex]; rfl⟩ (hpick frame)
        · exact .inr rfl
  · rintro (hnone | ⟨frame, hread, hno⟩)
    · exact ⟨⟨none, hnone⟩, fun frame ⟨hread, _, _⟩ => by simp [hnone] at hread⟩
    · refine ⟨⟨some frame, hread⟩, fun picked ⟨hpicked, hloc, hok⟩ => ?_⟩
      obtain rfl : frame = picked := by simpa [hread] using hpicked
      rw [haccepts] at hok
      rcases hno with hno | hno <;> simp_all

/-- The lines after one that is picked do not matter. -/
theorem value_resolveLines_of_picks {frame : Frame} (h : resolver.Picks line frame)
    (lines lines' : List String) :
    (resolver.resolveLines (line :: lines)).value =
      (resolver.resolveLines (line :: lines')).value := by
  obtain ⟨hread, hloc, haccepts⟩ := h
  have hcand : resolver.isCandidate frame = true := by rw [isCandidate, hloc, haccepts]; rfl
  rw [resolve_cons_pick lines hread hcand, resolve_cons_pick lines' hread hcand]

/-- What comes before some lines has its say first, whatever those lines are. -/
theorem value_resolveLines_append_congr (before : List String)
    (h : (resolver.resolveLines lines).value = (resolver.resolveLines lines').value) :
    (resolver.resolveLines (before ++ lines)).value =
      (resolver.resolveLines (before ++ lines')).value := by
  induction before with
  | nil => exact h
  | cons line before ih =>
    rcases resolver.picks_or_skips line with ⟨frame, hpick⟩ | hskip | ⟨e, he⟩
    · exact value_resolveLines_of_picks hpick ..
    · rw [List.cons_append, List.cons_append, resolveLines_of_skips hskip,
        resolveLines_of_skips hskip, ih]
    · rw [List.cons_append, List.cons_append, resolveLines, resolveLines, he]

/-! ### Edited stacks -/

/-- A skipped line after a marked one may be there or not. -/
theorem value_resolve_of_skips {edited : Option String}
    (hstack : stackLines stack = before ++ after)
    (hedited : stackLines edited = before ++ line :: after)
    (hmarked : ∃ marked ∈ before, MarkedLine marked) (hline : resolver.Skips line) :
    (resolver.resolve edited).value = (resolver.resolve stack).value := by
  rw [resolve, resolve, frameLines_of_append hstack hmarked, frameLines_of_append hedited hmarked]
  exact value_resolveLines_append_congr _ (resolveLines_of_skips hline after)

/-- The lines after the one that is picked may be any. -/
theorem value_resolve_of_picks {edited : Option String} {skipped more : List String} {frame : Frame}
    (hstack : stackLines stack = (before ++ [line]) ++ after)
    (hcand : frameLines stack = (skipped ++ [line]) ++ after)
    (hmarked : ∃ marked ∈ before ++ [line], MarkedLine marked) (hpick : resolver.Picks line frame)
    (hedited : stackLines edited = (before ++ [line]) ++ more) :
    (resolver.resolve edited).value = (resolver.resolve stack).value := by
  rw [resolve, resolve, hcand, frameLines_of_replace hstack hcand hmarked hedited,
    List.append_assoc, List.append_assoc]
  exact value_resolveLines_append_congr _ (value_resolveLines_of_picks hpick ..)

/-- The location of a stack with a marked line comes from a line that stands after its header and
after candidates that are skipped. -/
theorem exists_picks_of_resolve {l : Location}
    (hmarked : ∃ line ∈ stackLines stack, MarkedLine line)
    (hl : (resolver.resolve stack).value = .ok (some l)) :
    ∃ header skipped line after frame,
      stackLines stack = header ++ skipped ++ line :: after ∧
      frameLines stack = skipped ++ line :: after ∧
      (∃ marked ∈ header ++ skipped ++ [line], MarkedLine marked) ∧
      (∀ earlier ∈ skipped, resolver.Skips earlier) ∧
      resolver.Picks line frame ∧ l.IsPlaceOf frame := by
  obtain ⟨header, first, rest, hall, hfirst, hmark⟩ := exists_header hmarked
  have hscan := resolves_resolveLines resolver (frameLines stack)
  rw [← resolve, hl] at hscan
  obtain ⟨skipped, line, after, frame, hlines, hskipped, hpick, hplace⟩ := hscan.exists_picks
  refine ⟨header, skipped, line, after, frame, by rw [hall, hlines, List.append_assoc], hlines,
    ⟨first, ?_, hmark⟩, hskipped, hpick, hplace⟩
  -- The first candidate is skipped, or it is the line that is picked.
  have hmem : first ∈ skipped ++ [line] := by
    rcases skipped with _ | ⟨other, skipped⟩ <;>
      simp [(List.cons.inj (hfirst.symm.trans hlines)).1]
  rw [List.append_assoc]
  exact List.mem_append_right _ hmem

/-- A header, a skipped line and the lines after the picked one leave the location of a stack with a
marked line where it is. -/
theorem resolve_edits (resolver : Resolver) (stack : String)
    (hmarked : ∃ line ∈ stackLines (some stack), MarkedLine line) :
    (∀ header : List String, (∀ line ∈ header, '\n' ∉ line.toList ∧ ¬MarkedLine line) →
      resolver.resolve (some ("\n".intercalate (header ++ [stack]))) =
        resolver.resolve (some stack)) ∧
    (∀ before line after, (∃ marked ∈ before, MarkedLine marked) →
      (resolver.parser.parseLine line = .ok none ∨
        ∃ frame, resolver.parser.parseLine line = .ok (some frame) ∧
          (frame.hasLocation = false ∨ resolver.filter.isExcluded frame = true)) →
      (stackLines (some stack) = before ++ after → '\n' ∉ line.toList →
        (resolver.resolve (some ("\n".intercalate (before ++ line :: after)))).value =
          (resolver.resolve (some stack)).value) ∧
      (stackLines (some stack) = before ++ line :: after →
        (resolver.resolve (some ("\n".intercalate (before ++ after)))).value =
          (resolver.resolve (some stack)).value)) ∧
    (∀ l, (resolver.resolve (some stack)).value = .ok (some l) →
      ∃ header skipped line after frame,
        stackLines (some stack) = header ++ skipped ++ line :: after ∧
        frameLines (some stack) = skipped ++ line :: after ∧
        (∀ earlier ∈ skipped, resolver.Skips earlier) ∧
        resolver.Picks line frame ∧ l.IsPlaceOf frame ∧
        (resolver.resolve (some ("\n".intercalate (header ++ skipped ++ [line])))).value =
          .ok (some l) ∧
        ∀ text, (resolver.resolve
          (some ("\n".intercalate (header ++ skipped ++ [line] ++ [text])))).value =
            .ok (some l)) := by
  have hfeed : ∀ line ∈ stackLines (some stack), '\n' ∉ line.toList := fun line hline =>
    feed_notMem_of_mem_stackLines hline
  refine ⟨fun header hheader => ?_, fun before line after hmark hline => ⟨fun hlines hl => ?_,
    fun hlines => ?_⟩, fun l hl => ?_⟩
  · have hedited := stackLines_intercalate_append (fun line hline => (hheader line hline).1) stack
    rw [resolve, resolve,
      frameLines_of_header hedited (fun line hline => (hheader line hline).2) hmarked]
  · have hall : ∀ other ∈ before ++ line :: after, '\n' ∉ other.toList := by
      rw [hlines, List.forall_mem_append] at hfeed
      rw [List.forall_mem_append, List.forall_mem_cons]
      exact ⟨hfeed.1, hl, hfeed.2⟩
    exact value_resolve_of_skips hlines (stackLines_intercalate (by simp) hall) hmark
      (skips_iff.2 hline)
  · have hall : ∀ other ∈ before ++ after, '\n' ∉ other.toList := by
      rw [hlines, List.forall_mem_append, List.forall_mem_cons] at hfeed
      rw [List.forall_mem_append]
      exact ⟨hfeed.1, hfeed.2.2⟩
    have hne : before ++ after ≠ [] := by
      obtain ⟨marked, hmem, -⟩ := hmark
      exact List.ne_nil_of_mem (List.mem_append_left _ hmem)
    exact (value_resolve_of_skips (stackLines_intercalate hne hall) hlines hmark
      (skips_iff.2 hline)).symm
  · obtain ⟨header, skipped, line, after, frame, hlines, hcand, hmark, hskipped, hpick, hplace⟩ :=
      exists_picks_of_resolve hmarked hl
    refine ⟨header, skipped, line, after, frame, hlines, hcand, hskipped, hpick, hplace, ?_⟩
    rw [List.append_cons] at hlines hcand
    have hall : ∀ other ∈ header ++ skipped ++ [line], '\n' ∉ other.toList := fun other hother =>
      hfeed other (hlines ▸ List.mem_append_left _ hother)
    rw [← hl]
    constructor
    · exact value_resolve_of_picks hlines hcand hmark hpick
        ((stackLines_intercalate (by simp) hall).trans (List.append_nil _).symm)
    · intro text
      exact value_resolve_of_picks hlines hcand hmark hpick
        (stackLines_intercalate_append hall text)

/-- The message may look like a frame, and frames of packages may come and go. -/
theorem resolve_edits_lookalike :
    let package := "    at g (/node_modules/m.js:1:1)"
    let stack := "\n".intercalate [package, "    at f (/a.js:2:3)", "    at h (/b.js:4:5)"]
    (∃ line ∈ stackLines (some stack), MarkedLine line) ∧
    resolve {} (some ("\n".intercalate (["at e (/c.js:9:9)"] ++ [stack]))) =
      resolve {} (some stack) ∧
    (resolve {} (some ("\n".intercalate
      ([package] ++ package :: ["    at f (/a.js:2:3)", "    at h (/b.js:4:5)"])))).value =
        (resolve {} (some stack)).value ∧
    ∃ l, (resolve {} (some stack)).value = .ok (some l) ∧ l.filePath = "/a.js" ∧
      ∃ lines, ∀ text, (resolve {} (some ("\n".intercalate (lines ++ [text])))).value =
        .ok (some l) := by
  intro package stack
  have hlines : stackLines (some stack) =
      [package] ++ ["    at f (/a.js:2:3)", "    at h (/b.js:4:5)"] := by decide +kernel
  have hmarked : ∃ line ∈ stackLines (some stack), MarkedLine line :=
    ⟨package, by rw [hlines]; simp, isMarked_iff.1 (by decide +kernel)⟩
  have hl : (resolve {} (some stack)).value = .ok (some ⟨"/a.js", 2, 3, by decide, by decide⟩) := by
    decide +kernel
  obtain ⟨hheader, hskip, hpick⟩ := resolve_edits {} stack hmarked
  refine ⟨hmarked, hheader _ ?_, (hskip [package] package _ ?_ ?_).1 hlines ?_, _, hl, rfl, ?_⟩
  · simp only [List.mem_singleton, forall_eq, ← isMarked_iff]
    decide +kernel
  · exact ⟨package, by simp, isMarked_iff.1 (by decide +kernel)⟩
  · exact .inr ⟨⟨package, some "g", some "/node_modules/m.js", some 1, some 1, false, false, none⟩,
      by decide +kernel, .inr (by decide +kernel)⟩
  · decide +kernel
  · obtain ⟨header, skipped, line, -, -, -, -, -, -, -, -, htext⟩ := hpick _ hl
    exact ⟨_, htext⟩

end Resolver

end FailurePrompt
