import FailurePrompt.Proofs.Resolution

/-!
# Filters that accept more

If one filter accepts every frame that another one accepts, the line that it picks cannot come
later: what it skips the other one skips too, and the line that the other one picks it would pick
itself at the latest. A line that it picks earlier is one that the other filter leaves out. Letting
runtime frames through, and naming fewer directories or fewer starts of paths, are ways to accept
more; none of them lets a package frame through whose directory is still named. The main statement
is `resolve_mono`.
-/

namespace FailurePrompt

/-! ### Ways to accept more -/

namespace FrameFilter

variable {f g : FrameFilter} {path : String}

/-- Every frame that the first filter accepts is accepted by the second. -/
def Within (f g : FrameFilter) : Prop :=
  ∀ frame, f.accepts frame = true → g.accepts frame = true

/-- A file stays one of the application if there are fewer reasons to leave it out. -/
theorem Admits.mono (hdirs : g.dependencyDirs ⊆ f.dependencyDirs)
    (hstarts : g.internalPrefixes ⊆ f.internalPrefixes)
    (hshow : f.showInternalFrames = true → g.showInternalFrames = true) (h : f.Admits path) :
    g.Admits path where
  named := h.named
  notDependency name hname hdir := h.notDependency name hname (hdirs hdir)
  shown_of_internal start hstart hpre := hshow (h.shown_of_internal start (hstarts hstart) hpre)

theorem within_of_subset (hdirs : g.dependencyDirs ⊆ f.dependencyDirs)
    (hstarts : g.internalPrefixes ⊆ f.internalPrefixes)
    (hshow : f.showInternalFrames = true → g.showInternalFrames = true) : f.Within g :=
  fun _ h => accepts_iff_admits.2 ((accepts_iff_admits.1 h).mono hdirs hstarts hshow)

theorem isExcluded_eq_true_of_not_accepts {frame : Frame} (h : ¬f.accepts frame = true) :
    f.isExcluded frame = true := by
  simpa [accepts] using h

end FrameFilter

namespace Resolver

variable {resolver : Resolver} {parser : FrameParser} {f g : FrameFilter} {stack : Option String}
  {lines before : List String} {line : String} {frame : Frame} {i : Nat} {l : Location}

/-! ### The line that is picked -/

/-- The line with the given number is picked, and the ones before it are skipped. -/
inductive PicksAt (resolver : Resolver) : List String → Nat → Frame → Prop
  | here {line : String} {frame : Frame} (hline : resolver.Picks line frame)
      (rest : List String) : PicksAt resolver (line :: rest) 0 frame
  | later {line : String} {rest : List String} {i : Nat} {frame : Frame}
      (hline : resolver.Skips line) (hrest : PicksAt resolver rest i frame) :
      PicksAt resolver (line :: rest) (i + 1) frame

/-- What is picked has a line, and the lines in front of it are skipped. -/
theorem PicksAt.exists_eq_append (h : resolver.PicksAt lines i frame) :
    ∃ before line after, lines = before ++ line :: after ∧ before.length = i ∧
      (∀ earlier ∈ before, resolver.Skips earlier) ∧ resolver.Picks line frame := by
  induction h with
  | @here line frame hline rest => exact ⟨[], line, rest, rfl, rfl, by simp, hline⟩
  | @later line rest i frame hline _ ih =>
    obtain ⟨before, picked, after, rfl, rfl, hbefore, hpick⟩ := ih
    refine ⟨line :: before, picked, after, rfl, rfl, ?_, hpick⟩
    exact List.forall_mem_cons.2 ⟨hline, hbefore⟩

theorem picksAt_append (hbefore : ∀ earlier ∈ before, resolver.Skips earlier)
    (hline : resolver.Picks line frame) (after : List String) :
    resolver.PicksAt (before ++ line :: after) before.length frame := by
  induction before with
  | nil => exact .here hline after
  | cons earlier before ih =>
    obtain ⟨hearlier, hbefore⟩ := List.forall_mem_cons.1 hbefore
    exact .later hearlier (ih hbefore)

theorem PicksAt.exists_value_resolveLines (h : resolver.PicksAt lines i frame) :
    ∃ l : Location, l.IsPlaceOf frame ∧ (resolver.resolveLines lines).value = .ok (some l) := by
  induction h with
  | here hline rest => exact resolveLines_of_picks hline rest
  | later hline _ ih =>
    rw [resolveLines_of_skips hline]
    exact ih

/-- A location is found exactly if a candidate line is picked that points at it. -/
theorem value_resolve_eq_some_iff : (resolver.resolve stack).value = .ok (some l) ↔
    ∃ i frame, resolver.PicksAt (frameLines stack) i frame ∧ l.IsPlaceOf frame := by
  constructor
  · intro hl
    have hscan := resolves_resolveLines resolver (frameLines stack)
    rw [← resolve, hl] at hscan
    obtain ⟨before, line, after, frame, hlines, hbefore, hpick, hplace⟩ := hscan.exists_picks
    rw [hlines]
    exact ⟨_, frame, picksAt_append hbefore hpick after, hplace⟩
  · rintro ⟨i, frame, hpick, hplace⟩
    obtain ⟨found, hfound, hvalue⟩ := hpick.exists_value_resolveLines
    rw [resolve, hvalue, hfound.eq hplace]

/-! ### Two filters -/

theorem Picks.mono (hfg : f.Within g) (h : Picks ⟨parser, f⟩ line frame) :
    Picks ⟨parser, g⟩ line frame :=
  ⟨h.1, h.2.1, hfg frame h.2.2⟩

theorem Skips.anti (hfg : f.Within g) (h : Skips ⟨parser, g⟩ line) : Skips ⟨parser, f⟩ line :=
  ⟨h.1, fun frame hpick => h.2 frame (hpick.mono hfg)⟩

/-- What only one of two filters picks is left out by the other one. -/
theorem Picks.isExcluded_of_skips (hg : Picks ⟨parser, g⟩ line frame)
    (hf : Skips ⟨parser, f⟩ line) : f.isExcluded frame = true :=
  FrameFilter.isExcluded_eq_true_of_not_accepts fun h => hf.2 frame ⟨hg.1, hg.2.1, h⟩

/-- The filter that accepts more picks the same line, or an earlier one that the other one leaves
out. -/
theorem PicksAt.exists_le (hfg : f.Within g) (h : PicksAt ⟨parser, f⟩ lines i frame) :
    ∃ j frame', PicksAt ⟨parser, g⟩ lines j frame' ∧ j ≤ i ∧
      (j ≠ i → f.isExcluded frame' = true) := by
  induction h with
  | @here line frame hline rest =>
    exact ⟨0, frame, .here (hline.mono hfg) rest, Nat.le_refl 0, nofun⟩
  | @later line rest i frame hline _ ih =>
    rcases picks_or_skips ⟨parser, g⟩ line with ⟨frame', hpick⟩ | hskip | ⟨e, he⟩
    · exact ⟨0, frame', .here hpick rest, Nat.zero_le _, fun _ => hpick.isExcluded_of_skips hline⟩
    · obtain ⟨j, frame', hpick, hle, hexcluded⟩ := ih
      refine ⟨j + 1, frame', .later hskip hpick, by omega, fun hne => hexcluded ?_⟩
      rintro rfl
      exact hne rfl
    · -- A line that is skipped can be read, by whatever filter.
      obtain ⟨read, hread⟩ := hline.1
      rw [he] at hread
      cases hread

theorem resolve_eq_none_of_within (hfg : f.Within g)
    (h : (resolve ⟨parser, g⟩ stack).value = .ok none) :
    (resolve ⟨parser, f⟩ stack).value = .ok none := by
  have hskip := (resolves_resolveLines ⟨parser, g⟩ (frameLines stack)).eq_none_iff.1 h
  refine (resolves_resolveLines ⟨parser, f⟩ (frameLines stack)).eq_none_iff.2 ?_
  exact fun line hmem => (hskip line hmem).anti hfg

/-- A package frame is not picked, whatever is let through. -/
theorem not_picks_of_isDependency (h : resolver.filter.isDependency frame.file = true)
    (line : String) : ¬resolver.Picks line frame := fun hpick => by
  have haccepts := hpick.2.2
  rw [FrameFilter.accepts, FrameFilter.isExcluded_of_isDependency h] at haccepts
  cases haccepts

/-- Under a filter that accepts more, resolution picks no later line, and a line that it picks
earlier is left out by the other filter; what it does not find the other filter does not find. It
accepts more to let runtime frames through or to name fewer directories or starts of paths, and to
let runtime frames through leaves every package frame out. -/
theorem resolve_mono (parser : FrameParser) (f : FrameFilter) (stack : Option String) :
    (∀ g : FrameFilter, f.Within g →
      (∀ i frame, PicksAt ⟨parser, f⟩ (frameLines stack) i frame →
        ∃ j frame', PicksAt ⟨parser, g⟩ (frameLines stack) j frame' ∧ j ≤ i ∧
          (j ≠ i → f.isExcluded frame' = true)) ∧
      ((resolve ⟨parser, g⟩ stack).value = .ok none →
        (resolve ⟨parser, f⟩ stack).value = .ok none)) ∧
    (∀ (filter : FrameFilter) (l : Location),
      (resolve ⟨parser, filter⟩ stack).value = .ok (some l) ↔
        ∃ i frame, PicksAt ⟨parser, filter⟩ (frameLines stack) i frame ∧ l.IsPlaceOf frame) ∧
    f.Within { f with showInternalFrames := true } ∧
    (∀ dirs ⊆ f.dependencyDirs, f.Within { f with dependencyDirs := dirs }) ∧
    (∀ starts ⊆ f.internalPrefixes, f.Within { f with internalPrefixes := starts }) ∧
    (∀ frame, f.isDependency frame.file = true →
      ∀ line, ¬Picks ⟨parser, { f with showInternalFrames := true }⟩ line frame) ∧
    (∀ l, (resolve ⟨parser, { f with showInternalFrames := true }⟩ stack).value = .ok (some l) →
      f.isDependency l.filePath = false) := by
  refine ⟨fun g hfg => ⟨fun i frame h => h.exists_le hfg, resolve_eq_none_of_within hfg⟩,
    fun filter l => value_resolve_eq_some_iff, ?_, fun dirs hdirs => ?_,
    fun starts hstarts => ?_, fun frame hdep line => ?_, fun l hl => ?_⟩
  · exact FrameFilter.within_of_subset (List.Subset.refl _) (List.Subset.refl _) fun _ => rfl
  · exact FrameFilter.within_of_subset hdirs (List.Subset.refl _) id
  · exact FrameFilter.within_of_subset (List.Subset.refl _) hstarts id
  · exact not_picks_of_isDependency hdep line
  · obtain ⟨i, frame, hpick, hplace⟩ := value_resolve_eq_some_iff.1 hl
    obtain ⟨-, line, -, -, -, -, hpick⟩ := hpick.exists_eq_append
    rw [← hplace.file_eq, Bool.eq_false_iff]
    exact fun hdep => not_picks_of_isDependency hdep line hpick

/-- Letting runtime frames through moves the choice up to one of them, and a package frame whose
path begins like one of theirs stays out. -/
theorem resolve_mono_shown :
    let stack := some "    at a (node:fs:1:1)\n    at b (/a.js:2:3)"
    let package := some "    at c (node:/node_modules/x.js:1:1)"
    let shown : FrameFilter := { showInternalFrames := true }
    let own : Frame :=
      { rawText := "    at b (/a.js:2:3)", functionName := some "b", filePath := some "/a.js",
        line := some 2, column := some 3 }
    PicksAt {} (frameLines stack) 1 own ∧
      (∃ j frame, PicksAt ⟨{}, shown⟩ (frameLines stack) j frame ∧ j ≤ 1 ∧
        (j ≠ 1 → FrameFilter.isExcluded {} frame = true)) ∧
      (resolve ⟨{}, shown⟩ package).value = .ok none ∧ (resolve {} package).value = .ok none := by
  intro stack package shown own
  have hlines : frameLines stack = ["    at a (node:fs:1:1)", "    at b (/a.js:2:3)"] := by
    decide +kernel
  have hwithin : FrameFilter.Within {} shown := (resolve_mono {} {} stack).2.2.1
  have hskip : Skips {} "    at a (node:fs:1:1)" := by
    let runtime : Frame :=
      { rawText := "    at a (node:fs:1:1)", functionName := some "a", filePath := some "node:fs",
        line := some 1, column := some 1 }
    refine ⟨⟨some runtime, rfl⟩, fun frame hpick => ?_⟩
    obtain rfl := Option.some.inj (Except.ok.inj hpick.1)
    exact absurd hpick.2.2 (by decide)
  have hpick : PicksAt {} (frameLines stack) 1 own := by
    rw [hlines]
    exact .later hskip (.here ⟨rfl, by decide, by decide⟩ [])
  have hnone : (resolve ⟨{}, { showInternalFrames := true }⟩
      (some "    at c (node:/node_modules/x.js:1:1)")).value = .ok none := rfl
  exact ⟨hpick, ((resolve_mono {} {} stack).1 shown hwithin).1 1 own hpick, hnone,
    ((resolve_mono {} {} package).1 shown hwithin).2 hnone⟩

end Resolver

end FailurePrompt
