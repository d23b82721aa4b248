import FailurePrompt.Files.Tree
import FailurePrompt.Proofs.Rendering
import FailurePrompt.Settings.Builder

/-!
# Loading a template

A template from a file has the decoded text of the file and holds the four placeholders. A file that
the system refuses, and a text that lacks a placeholder, are errors of the configuration. Two other
things can go wrong, and they are not told apart from errors elsewhere: the path holds a NUL
character, or the bytes are not well-formed. The main statement, `load_configuration_iff`, is that
loading fails only with errors of the configuration exactly if neither is the case, also when the
file is named by settings.
-/

namespace FailurePrompt

/-! ### Names with a NUL character -/

namespace Tree

variable {t : Tree} {p : Path} {place : Place} {name : List Char} {e : FileError}

theorem ne_nulInName_of_follow (h : t.follow place name = .error e) : e ≠ .nulInName := by
  rintro rfl
  unfold follow at h
  split at h
  · split at h
    · cases h
    · split at h
      · cases h
      · split at h
        · split at h <;> cases h
        · cases h
  · cases h

theorem ne_nulInName_of_foldlM {names : List (List Char)}
    (h : names.foldlM t.follow place = .error e) : e ≠ .nulInName := by
  induction names generalizing place with
  | nil => cases h
  | cons name names ih =>
    rw [List.foldlM_cons] at h
    rcases hfollow : t.follow place name with e' | place'
    · rw [hfollow] at h
      cases h
      exact ne_nulInName_of_follow hfollow
    · rw [hfollow] at h
      exact ih h

/-- In a tree a path is refused for a NUL character exactly if it holds one. -/
theorem read_eq_error_nulInName_iff : t.read p = .error .nulInName ↔ '\x00' ∈ p.chars := by
  by_cases hnul : '\x00' ∈ p.chars
  · refine iff_of_true ?_ hnul
    have hlocate : t.locate p = .error .nulInName := if_pos (List.contains_iff_mem.2 hnul)
    rw [read, hlocate]
  · refine iff_of_false (fun h => ?_) hnul
    have hlocate : ∀ e, t.locate p = .error e → e ≠ .nulInName := fun e he => by
      rw [locate, if_neg (mt List.contains_iff_mem.1 hnul)] at he
      split at he
      · cases he
        exact FileError.noConfusion
      · exact ne_nulInName_of_foldlM he
    unfold read at h
    split at h
    · rename_i e he
      cases h
      exact hlocate _ he rfl
    · split at h <;> cases h

end Tree

namespace Template

variable {files : Files} {path : Path} {t : Template}

/-! ### Errors of the configuration -/

/-- The error is one of the configuration: the file of the template cannot be read, or placeholders
are missing in it. -/
def LoadError.IsConfiguration : LoadError → Prop
  | .refused _ _ => True
  | .nulInPath => False
  | .undecodable _ => False
  | .incomplete _ => True

/-- A template has the text of its file, with every line end written as a line feed. -/
theorem load_eq_ok_iff : load files path = .ok t ↔
    ∃ bytes cs, files.read path = .ok bytes ∧ Utf8.decode bytes = .ok cs ∧
      t.text = String.ofList (Text.unifyLineEnds cs) ∧ t.placeholders = standardNames := by
  rcases hread : files.read path with e | bytes
  · refine iff_of_false (fun h => ?_) (by simp)
    cases e <;> simp [load, hread] at h
  rcases hdecode : Utf8.decode bytes with e | cs
  · simp [load, hread, hdecode]
  have hload : load files path =
      (make (String.ofList (Text.unifyLineEnds cs)) standardNames).mapError .incomplete := by
    simp only [load, hread, hdecode]
  rw [hload]
  constructor
  · intro h
    rcases hmake : make (String.ofList (Text.unifyLineEnds cs)) standardNames with e | made
    · rw [hmake] at h
      cases h
    · rw [hmake] at h
      cases h
      exact ⟨bytes, cs, rfl, hdecode, make_eq_ok_iff.1 hmake⟩
  · rintro ⟨_, cs', hbytes, hcs, ht⟩
    cases hbytes
    cases hdecode.symm.trans hcs
    rw [make_eq_ok_iff.2 ht]
    rfl

/-- Loading fails in another way than by an error of the configuration exactly if the path holds a
NUL character or the bytes of the file are not well-formed. -/
theorem exists_load_not_configuration_iff :
    (∃ e, load files path = .error e ∧ ¬e.IsConfiguration) ↔
      files.read path = .error .nulInName ∨
        ∃ bytes, files.read path = .ok bytes ∧ ¬Utf8.WellFormed bytes := by
  rcases hread : files.read path with e | bytes
  · cases e <;> simp [load, hread, LoadError.IsConfiguration]
  rcases hdecode : Utf8.decode bytes with e | cs
  · have hmalformed : ¬Utf8.WellFormed bytes := fun h => by
      cases hdecode.symm.trans (Utf8.decode_eq_ok_iff.2 ⟨h, rfl⟩)
    simp [load, hread, hdecode, hmalformed, LoadError.IsConfiguration]
  · have hformed : Utf8.WellFormed bytes := (Utf8.decode_eq_ok_iff.1 hdecode).1
    rcases hmake : make (String.ofList (Text.unifyLineEnds cs)) standardNames with e | made
    · have hload : load files path = .error (.incomplete e) := by
        simp only [load, hread, hdecode, hmake]
        rfl
      simp [hload, hformed, LoadError.IsConfiguration]
    · have hload : load files path = .ok made := by
        simp only [load, hread, hdecode, hmake]
        rfl
      simp [hload, hformed]

end Template

/-- A builder from settings that name a template file fails exactly as loading the file does. -/
theorem Settings.builder_eq_error_iff {settings : Settings} {files : Files} {path : Path}
    {e : Template.LoadError} (hpath : settings.templatePath = some path) :
    settings.builder files = .error e ↔ Template.load files path = .error e := by
  have htemplate : settings.template files = Template.load files path := by
    rw [Settings.template, hpath]
  rw [Settings.builder, htemplate]
  cases Template.load files path <;> simp [Except.map]

namespace Template

/-- A template that is loaded has the decoded text of its file and holds the four placeholders, and
loading fails only with errors of the configuration exactly if the path holds no NUL character and
the bytes of the file are well-formed. The same goes for a builder from settings that name the
file. -/
theorem load_configuration_iff (files : Files) (path : Path) :
    (∀ t, load files path = .ok t ↔
      ∃ bytes cs, files.read path = .ok bytes ∧ Utf8.decode bytes = .ok cs ∧
        t.text = String.ofList (Text.unifyLineEnds cs) ∧ t.placeholders = standardNames) ∧
    (∀ t, load files path = .ok t → ∀ p : Placeholder, p.chars <:+: t.text.toList) ∧
    ((∀ e, load files path = .error e → e.IsConfiguration) ↔
      files.read path ≠ .error .nulInName ∧
        ∀ bytes, files.read path = .ok bytes → Utf8.WellFormed bytes) ∧
    (∀ tree : Tree, tree.files.read path = .error .nulInName ↔ '\x00' ∈ path.chars) ∧
    ∀ settings : Settings, settings.templatePath = some path →
      (∀ b, settings.builder files = .ok b ↔ b.resolver = settings.resolver ∧
        b.reader = settings.reader ∧ load files path = .ok b.template) ∧
      ∀ e, settings.builder files = .error e ↔ load files path = .error e := by
  refine ⟨fun t => load_eq_ok_iff, fun t ht p => ?_, ?_,
    fun tree => Tree.read_eq_error_nulInName_iff, fun settings hpath => ⟨fun b => ?_,
      fun e => Settings.builder_eq_error_iff hpath⟩⟩
  · obtain ⟨_, cs, -, -, htext, hnames⟩ := load_eq_ok_iff.1 ht
    exact chars_infix_of_make (make_eq_ok_iff.2 ⟨htext, hnames⟩) p
  · have h := not_congr (@exists_load_not_configuration_iff files path)
    simpa only [not_exists, not_and, Classical.not_not, not_or] using h
  · rw [Settings.builder_eq_ok_iff, Settings.template, hpath]

/-- A byte that begins no character, and a path with a NUL character. -/
theorem load_not_configuration :
    let tree := Tree.empty.write [['t']] (.file [0xFF])
    let e := LoadError.undecodable ⟨0, 0xFF, 1, .startByte⟩
    load tree.files (Path.ofString "t") = .error e ∧ ¬e.IsConfiguration ∧
      load tree.files (Path.ofString "t\x00") = .error .nulInPath ∧
      ¬LoadError.nulInPath.IsConfiguration := by
  intro tree e
  have hread : tree.files.read (Path.ofString "t") = .ok [0xFF] := rfl
  have hdecode : Utf8.decode [0xFF] = .error ⟨0, 0xFF, 1, .startByte⟩ := by cbv
  have hnul : tree.files.read (Path.ofString "t\x00") = .error .nulInName := rfl
  refine ⟨?_, id, ?_, id⟩
  · simp only [load, hread, hdecode, e]
  · simp only [load, hnul]

end Template

end FailurePrompt
