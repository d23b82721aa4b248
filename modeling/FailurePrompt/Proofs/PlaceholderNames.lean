import Mathlib.Logic.Function.Basic
import FailurePrompt.Proofs.Rendering

/-!
# Names of placeholders

A template is checked for the names that it promises to hold, whatever they are, but only the four
placeholders are ever filled in. `Replaces` says what it is for names to be filled in: the text is
taken apart so that each of them is a part where it stands first, and the parts are put together
again with the values. The main statement, `render_replaces_iff`, is that a template keeps its
promise for all values exactly if it promises none but placeholders.
-/

namespace FailurePrompt

/-- A part of a text: a character that stands for itself, or a name in braces. -/
inductive NamedPiece
  | char (c : Char)
  | slot (name : String)
  deriving Repr, DecidableEq

namespace NamedPiece

/-- A part as it is written. -/
def chars : NamedPiece → List Char
  | .char c => [c]
  | .slot name => Placeholder.braced name.toList

/-- A part as it stands in the filled-in text: the value of a name, or the part as it is written. -/
def filled (values : String → Option String) : NamedPiece → List Char
  | .char c => [c]
  | .slot name => ((values name).map String.toList).getD (Placeholder.braced name.toList)

/-- The part that a part of a template is. -/
def ofPiece : TemplatePiece → NamedPiece
  | .char c => .char c
  | .slot p => .slot p.name

theorem chars_ofPiece (piece : TemplatePiece) : (ofPiece piece).chars = piece.chars := by
  cases piece <;> rfl

theorem filled_ofPiece (values : String → Option String) (piece : TemplatePiece) :
    (ofPiece piece).filled values =
      piece.filled fun p => (values p.name).map String.toList := by
  cases piece <;> rfl

theorem flatMap_chars_ofPiece (pieces : List TemplatePiece) :
    (pieces.map ofPiece).flatMap chars = pieces.flatMap TemplatePiece.chars := by
  simp only [List.flatMap_map, chars_ofPiece]

end NamedPiece

variable {names : List String} {values : String → Option String} {text result : List Char}

/-- The result is the text with the values of names in their place, each where the name stands first
in braces; all of `names` are among them. -/
def Replaces (names : List String) (values : String → Option String) (text result : List Char) :
    Prop :=
  ∃ pieces : List NamedPiece, pieces.flatMap NamedPiece.chars = text ∧
    (∀ name ∈ names, .slot name ∈ pieces) ∧
    (∀ name before behind, pieces = before ++ .slot name :: behind →
      Leftmost (Placeholder.braced name.toList) (before.flatMap NamedPiece.chars) text) ∧
    result = pieces.flatMap (NamedPiece.filled values)

/-- The value of a name stands in the result. -/
theorem infix_of_replaces (h : Replaces names values text result) {name value : String}
    (hname : name ∈ names) (hvalue : values name = some value) : value.toList <:+: result := by
  obtain ⟨pieces, -, hslot, -, rfl⟩ := h
  obtain ⟨before, behind, rfl⟩ := List.append_of_mem (hslot name hname)
  refine ⟨before.flatMap (NamedPiece.filled values), behind.flatMap (NamedPiece.filled values), ?_⟩
  simp [NamedPiece.filled, hvalue]

namespace Template

open TemplatePiece

theorem name_mem_standardNames (p : Placeholder) : p.name ∈ standardNames :=
  List.mem_map_of_mem (by cases p <;> decide)

theorem exists_firstSlots_render (t : Template) (values : Placeholder → Option String) :
    ∃ pieces, FirstSlots (fun p => (values p).isSome) t.text.toList pieces ∧
      (t.render values).toList =
        pieces.flatMap (filled fun p => (values p).map String.toList) := by
  refine ⟨_, firstSlots_settle _ _, ?_⟩
  rw [render, String.toList_ofList, fill_eq_flatMap_settle]
  simp only [Option.isSome_map]

/-- A template that promises placeholders alone has them filled in. -/
theorem replaces_render {t : Template} (hnames : ∀ name ∈ t.placeholders, name ∈ standardNames)
    (hvalues : ∀ name ∈ t.placeholders, (values name).isSome = true) :
    Replaces t.placeholders values t.text.toList
      (t.render fun p => values p.name).toList := by
  obtain ⟨pieces, hfirst, hrender⟩ := t.exists_firstSlots_render fun p => values p.name
  refine ⟨pieces.map NamedPiece.ofPiece, ?_, fun name hname => ?_,
    fun name before behind hpieces => ?_, ?_⟩
  · rw [NamedPiece.flatMap_chars_ofPiece, hfirst.text]
  · obtain ⟨p, -, rfl⟩ := List.mem_map.1 (hnames name hname)
    have hslot : .slot p ∈ pieces := (hfirst.slot_iff p).2
      ⟨hvalues _ hname, occursIn_eq_true_iff.1 (t.complete _ hname)⟩
    exact List.mem_map_of_mem hslot
  · obtain ⟨front, back, hsplit, rfl, hback⟩ := List.map_eq_append_iff.1 hpieces
    obtain ⟨piece, back, rfl, hpiece, -⟩ := List.map_eq_cons_iff.1 hback
    rw [NamedPiece.flatMap_chars_ofPiece]
    cases piece with
    | char c => cases hpiece
    | slot p =>
      cases hpiece
      exact hfirst.leftmost p front back hsplit
  · rw [hrender, List.flatMap_map]
    simp only [NamedPiece.filled_ofPiece]

/-- The values of other names are not looked at. -/
theorem render_congr_of_notMem (t : Template) {name : String} (hname : name ∉ standardNames)
    (values : String → Option String) (value : Option String) :
    (t.render fun p => Function.update values name value p.name) =
      t.render fun p => values p.name := by
  have hne : ∀ p : Placeholder, p.name ≠ name := fun p he => hname (he ▸ name_mem_standardNames p)
  simp only [Function.update_of_ne (hne _)]

/-- The names that a template was checked for are filled in, whatever their values are, exactly if
all of them are placeholders. -/
theorem render_replaces_iff (t : Template) :
    (∀ values : String → Option String,
      (∀ name ∈ t.placeholders, (values name).isSome = true) →
        Replaces t.placeholders values t.text.toList
          (t.render fun p => values p.name).toList) ↔
      ∀ name ∈ t.placeholders, name ∈ standardNames := by
  refine ⟨fun h name hname => ?_, fun hnames values hvalues => replaces_render hnames hvalues⟩
  by_contra hother
  -- A value that is longer than all that is rendered without it.
  let plain := t.render fun _ => some ""
  have hreplaces := h (Function.update (fun _ => some "") name (some (plain ++ "x")))
    fun other _ => by
      rw [Function.update_apply]
      split <;> rfl
  rw [t.render_congr_of_notMem hother] at hreplaces
  have hle := (infix_of_replaces hreplaces hname (Function.update_self ..)).length_le
  rw [String.toList_append, List.length_append] at hle
  exact absurd hle (Nat.not_succ_le_self _)

/-- A template that was checked for a name of its own leaves it in braces. -/
theorem render_keeps_name :
    let text := "\x7btitle\x7d \x7bcustom\x7d"
    let values : String → Option String := fun name => if name = "title" then some "T" else some "C"
    ∃ t, make text ["title", "custom"] = .ok t ∧
      (∀ name ∈ t.placeholders, (values name).isSome = true) ∧
      (t.render fun p => values p.name) = "T \x7bcustom\x7d" ∧
      ¬Replaces t.placeholders values t.text.toList
        (t.render fun p => values p.name).toList := by
  intro text values
  have hheld : ∀ name ∈ ["title", "custom"], holdsPlaceholder text name = true := by
    decide +kernel
  have hrender : (render ⟨text, ["title", "custom"], hheld⟩ fun p => values p.name) =
      "T \x7bcustom\x7d" := by
    change String.ofList (fill (fun p => (if p.name = "title" then some "T" else some "C").map
      String.toList) [] (ofChars "\x7btitle\x7d \x7bcustom\x7d".toList)) = _
    decide +kernel
  refine ⟨⟨text, _, hheld⟩, make_eq_ok_iff.2 ⟨rfl, rfl⟩, ?_, hrender, fun h => ?_⟩
  · intro name _
    dsimp only [values]
    split <;> rfl
  · rw [hrender] at h
    have hname := List.mem_cons_of_mem "title" (List.mem_singleton_self "custom")
    have hvalue := infix_of_replaces h hname rfl
    exact absurd (hvalue.subset (List.mem_singleton_self 'C')) (by decide)

end Template

end FailurePrompt
