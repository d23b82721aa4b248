import Mathlib.Data.List.Forall2
import FailurePrompt.FrameFilter

/-!
# Package paths

A path lies in a package directory if the name of the directory stands in it as a whole: what stands
beside the name, if anything, is a separator. Where the path is cut at a separator makes no
difference, nor does which separators it is written with. The main statement is
`isDependency_standsWhole`, and that such a path is left out whatever else is let through.
-/

namespace FailurePrompt

/-! ### Segments of a text -/

namespace Text

variable {sep : Char → Bool} {cs s : List Char}

/-- A piece between these texts has nothing or a separator on both of its sides. -/
structure Bordered (sep : Char → Bool) (before after : List Char) : Prop where
  left : ∀ c ∈ before.getLast?, sep c = true
  right : ∀ c ∈ after.head?, sep c = true

theorem exists_bordered_of_mem_segments (h : s ∈ segments sep cs) :
    ∃ before after, cs = before ++ (s ++ after) ∧ Bordered sep before after := by
  induction hn : cs.length using Nat.strongRecOn generalizing cs with
  | _ n ih =>
    rcases hfind : cs.find? sep with _ | c
    · have hcs : ∀ c ∈ cs, sep c = false := by simpa using hfind
      rw [segments_of_not_sep hcs, List.mem_singleton] at h
      exact ⟨[], [], by simp [h], nofun, nofun⟩
    · obtain ⟨hc, lead, rest, rfl, hlead⟩ := List.find?_eq_some_iff_append.1 hfind
      rw [segments_append_sep (by simpa using hlead) hc] at h
      rcases List.mem_cons.1 h with rfl | h
      · exact ⟨[], c :: rest, rfl, nofun, by simpa using hc⟩
      · have hlength : rest.length < n := by simp [← hn]; omega
        obtain ⟨before, after, rfl, hborder⟩ := ih rest.length hlength h rfl
        refine ⟨lead ++ c :: before, after, by simp, ?_, hborder.right⟩
        rw [List.getLast?_append_cons, List.getLast?_cons]
        rcases hlast : before.getLast? with _ | d
        · simpa using hc
        · simpa using hborder.left d hlast

theorem mem_segments_of_bordered {before after : List Char} (hs : ∀ c ∈ s, sep c = false)
    (h : Bordered sep before after) : s ∈ segments sep (before ++ (s ++ after)) := by
  have hfirst : s ∈ segments sep (s ++ after) := by
    rcases after with _ | ⟨c, after⟩
    · rw [List.append_nil, segments_of_not_sep hs]
      exact List.mem_singleton_self s
    · rw [segments_append_sep hs (h.right c rfl)]
      exact List.mem_cons_self
  rcases List.eq_nil_or_concat before with rfl | ⟨before, c, rfl⟩
  · exact hfirst
  · rw [List.concat_eq_append, List.append_assoc, List.singleton_append,
      segments_append_cons (h.left c (by simp))]
    exact List.mem_append_right _ hfirst

/-- Texts that differ only in their separators have the same segments. -/
theorem segments_eq_of_forall₂ {ds : List Char}
    (h : List.Forall₂ (fun c d => c = d ∨ sep c = true ∧ sep d = true) cs ds) :
    segments sep cs = segments sep ds := by
  induction h with
  | nil => rfl
  | @cons c d cs ds hcd _ ih =>
    rcases hcd with rfl | ⟨hc, hd⟩
    · rw [segments_cons, segments_cons, ih]
    · rw [segments_cons_sep hc, segments_cons_sep hd, ih]

end Text

/-! ### Names of a path -/

namespace FrameFilter

variable {filter : FrameFilter} {name path : String}

/-- The name stands in the path as a whole, with nothing or a separator on both of its sides. -/
def StandsWhole (name path : String) : Prop :=
  ∃ before after : String, path = before ++ name ++ after ∧
    Text.Bordered isSeparator before.toList after.toList

/-- The paths differ at most in the separators that they are written with. -/
def SamePath (path other : String) : Prop :=
  List.Forall₂ (fun c d => c = d ∨ isSeparator c = true ∧ isSeparator d = true)
    path.toList other.toList

theorem mem_pathNames_iff (hname : ∀ c ∈ name.toList, isSeparator c = false) :
    name ∈ pathNames path ↔ StandsWhole name path := by
  have hmem : name ∈ pathNames path ↔ name.toList ∈ Text.segments isSeparator path.toList := by
    rw [pathNames, List.mem_map]
    exact ⟨fun ⟨s, hs, he⟩ => by rwa [← he, String.toList_ofList],
      fun hs => ⟨_, hs, String.ofList_toList⟩⟩
  rw [hmem]
  constructor
  · intro hs
    obtain ⟨before, after, hpath, hborder⟩ := Text.exists_bordered_of_mem_segments hs
    refine ⟨String.ofList before, String.ofList after, String.toList_injective ?_, ?_⟩
    · simpa using hpath
    · simpa using hborder
  · rintro ⟨before, after, rfl, hborder⟩
    rw [String.toList_append, String.toList_append, List.append_assoc]
    exact Text.mem_segments_of_bordered hname hborder

theorem isDependency_iff : filter.isDependency path = true ↔
    ∃ name ∈ filter.dependencyDirs, name ∈ pathNames path := by
  simp [isDependency, and_comm]

theorem pathNames_append {c : Char} (hc : isSeparator c = true) (path rest : String) :
    pathNames (path ++ String.singleton c ++ rest) = pathNames path ++ pathNames rest := by
  simp [pathNames, Text.segments_append_cons hc]

theorem SamePath.pathNames_eq {other : String} (h : SamePath path other) :
    pathNames path = pathNames other := by
  rw [pathNames, pathNames, Text.segments_eq_of_forall₂ h]

/-- If the names of package directories hold no separator, a path lies in such a directory exactly
if a name stands in it as a whole. A separator joins two paths of which one does, and any separator
will do. A frame with such a path is left out, whatever its place and whatever is let through. -/
theorem isDependency_standsWhole (filter : FrameFilter)
    (hdirs : ∀ name ∈ filter.dependencyDirs, ∀ c ∈ name.toList, isSeparator c = false) :
    (∀ path, filter.isDependency path = true ↔
      ∃ name ∈ filter.dependencyDirs, StandsWhole name path) ∧
    (∀ path rest c, isSeparator c = true →
      filter.isDependency (path ++ String.singleton c ++ rest) =
        (filter.isDependency path || filter.isDependency rest)) ∧
    (∀ path other, SamePath path other →
      filter.isDependency path = filter.isDependency other) ∧
    (∀ path, filter.isDependency path = true → ∀ frame : Frame, frame.filePath = some path →
      ∀ (shown : Bool) (starts : List String),
        isExcluded ⟨shown, filter.dependencyDirs, starts⟩ frame = true) := by
  refine ⟨fun path => ?_, fun path rest c hc => ?_, fun path other h => ?_,
    fun path h frame hframe shown starts => ?_⟩
  · rw [isDependency_iff]
    exact exists_congr fun name => and_congr_right fun hname =>
      mem_pathNames_iff (hdirs name hname)
  · rw [isDependency, pathNames_append hc, List.any_append]
    rfl
  · rw [isDependency, h.pathNames_eq]
    rfl
  · refine isExcluded_of_isDependency ?_
    rw [Frame.file, hframe]
    exact h

/-- Separators of both kinds, and a frame whose path also begins like one of the runtime. -/
theorem isDependency_standsWhole_mixed :
    let filter : FrameFilter := { dependencyDirs := ["node_modules", "vendor"] }
    let path := "node:\\vendor/x.js"
    (∀ name ∈ filter.dependencyDirs, ∀ c ∈ name.toList, isSeparator c = false) ∧
      StandsWhole "vendor" path ∧ filter.isDependency path = true ∧
      ∀ frame : Frame, frame.filePath = some path →
        isExcluded ⟨true, filter.dependencyDirs, ["node:"]⟩ frame = true := by
  intro filter path
  have hdirs : ∀ name ∈ filter.dependencyDirs, ∀ c ∈ name.toList, isSeparator c = false := by
    have hall : filter.dependencyDirs.all (·.toList.all (!isSeparator ·)) = true := by
      decide +kernel
    simpa using hall
  have hwhole : StandsWhole "vendor" path :=
    ⟨"node:\\", "/x.js", by decide +kernel, by simp [isSeparator], by simp [isSeparator]⟩
  obtain ⟨hiff, -, -, hexcluded⟩ := isDependency_standsWhole filter hdirs
  have hpath : filter.isDependency path = true :=
    (hiff path).2 ⟨"vendor", List.mem_cons_of_mem _ (List.mem_singleton_self _), hwhole⟩
  exact ⟨hdirs, hwhole, hpath, fun frame hframe => hexcluded path hpath frame hframe true _⟩

end FrameFilter

end FailurePrompt
