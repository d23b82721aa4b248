import FailurePrompt.Template

/-!
# Values in a filled-in template

A placeholder that stands somewhere in the text of a template is found when the template is taken
apart, for no other placeholder can overlap it, and text without an opening brace is copied. The
main statements, `fill_text`, `fill_placeholder` and `infix_render`, say what becomes of the
beginning of a text, and that the value of a placeholder stands in the filled-in template.
-/

namespace FailurePrompt

variable {cs rest part : List Char} {p q : Placeholder}

theorem occursIn_eq_true_iff : occursIn part cs = true ↔ part <:+: cs := by
  induction cs with
  | nil => simp [occursIn]
  | cons c cs ih =>
    rw [occursIn, Bool.or_eq_true, List.isPrefixOf_iff_prefix, ih, List.infix_cons_iff]

/-- An element that a list does not hold comes behind that list. -/
theorem exists_of_append_eq_append_cons {α : Type} {lead behind before tail : List α} {a : α}
    (ha : a ∉ lead) (h : lead ++ behind = before ++ a :: tail) :
    ∃ before', before = lead ++ before' ∧ behind = before' ++ a :: tail := by
  rcases List.append_eq_append_iff.1 h with ⟨between, rfl, hbehind⟩ | ⟨between, rfl, he⟩
  · exact ⟨between, rfl, hbehind⟩
  · rcases between with _ | ⟨b, between⟩
    · exact ⟨[], by simp, he.symm⟩
    · obtain ⟨rfl, -⟩ := List.cons.inj he
      exact absurd (by simp) ha

namespace Placeholder

/-- A text does not begin with two different placeholders. -/
theorem eq_of_chars_append (h : q.chars <+: p.chars ++ rest) : q = p := by
  cases q <;> cases p <;> first | rfl | simp [chars, braced, name] at h

theorem opening_notMem_tail (p : Placeholder) : '\x7b' ∉ p.name.toList ++ ['\x7d'] := by
  cases p <;> simp [name]

/-- Placeholders do not overlap. -/
theorem eq_or_exists_of_append {before behind : List Char}
    (h : p.chars ++ rest = before ++ (q.chars ++ behind)) :
    (before = [] ∧ q = p) ∨
      ∃ before', before = p.chars ++ before' ∧ rest = before' ++ (q.chars ++ behind) := by
  rcases before with _ | ⟨c, before⟩
  · exact .inl ⟨rfl, eq_of_chars_append ⟨behind, h.symm⟩⟩
  · obtain ⟨rfl, htail⟩ := List.cons.inj h
    obtain ⟨before', rfl, hrest⟩ := exists_of_append_eq_append_cons p.opening_notMem_tail htail
    exact .inr ⟨before', rfl, hrest⟩

theorem not_chars_prefix_of_at? (h : at? cs = none) (p : Placeholder) : ¬p.chars <+: cs := by
  intro hpre
  have hp : p ∈ all := by cases p <;> decide
  have hnone := List.findSome?_eq_none_iff.1 h p hp
  rw [if_pos (List.isPrefixOf_iff_prefix.2 hpre)] at hnone
  cases hnone

theorem at?_chars_append (p : Placeholder) (rest : List Char) :
    at? (p.chars ++ rest) = some (p, rest) := by
  rcases h : at? (p.chars ++ rest) with _ | ⟨q, behind⟩
  · exact absurd (List.prefix_append ..) (not_chars_prefix_of_at? h p)
  · have hsplit := at?_eq_some h
    obtain rfl : p = q := eq_of_chars_append ⟨rest, hsplit⟩
    rw [List.append_cancel_left hsplit]

/-- A placeholder begins with a brace. -/
theorem at?_cons_of_ne {c : Char} (hc : c ≠ '\x7b') : at? (c :: cs) = none := by
  rcases h : at? (c :: cs) with _ | ⟨p, behind⟩
  · rfl
  · exact absurd (List.cons.inj (at?_eq_some h)).1 hc

end Placeholder

namespace TemplatePiece

/-! ### What becomes of the beginning of a text -/

theorem ofChars_cons_of_none {c : Char} (h : Placeholder.at? (c :: cs) = none) :
    ofChars (c :: cs) = .char c :: ofChars cs := by
  rw [ofChars]
  split <;> simp_all

theorem ofChars_of_some (h : Placeholder.at? cs = some (p, rest)) :
    ofChars cs = .slot p :: ofChars rest := by
  rcases cs with _ | ⟨c, cs⟩
  · cases h
  · rw [ofChars]
    split <;> simp_all

variable {values : Placeholder → Option (List Char)} {used : List Placeholder}

/-- Text without an opening brace is copied. -/
theorem fill_text (h : '\x7b' ∉ cs) :
    fill values used (ofChars (cs ++ rest)) = cs ++ fill values used (ofChars rest) := by
  induction cs with
  | nil => rfl
  | cons c cs ih =>
    have hc : c ≠ '\x7b' := fun hc => h (hc ▸ List.mem_cons_self)
    have hcs : '\x7b' ∉ cs := fun hmem => h (List.mem_cons_of_mem _ hmem)
    rw [List.cons_append, ofChars_cons_of_none (Placeholder.at?_cons_of_ne hc), fill, ih hcs,
      List.cons_append]

/-- The first placeholder of its kind gives way to its value. -/
theorem fill_placeholder {value : List Char} (hvalue : values p = some value) (hused : p ∉ used) :
    fill values used (ofChars (p.chars ++ rest)) =
      value ++ fill values (p :: used) (ofChars rest) := by
  rw [ofChars_of_some (Placeholder.at?_chars_append p rest)]
  simp only [fill, hvalue, if_neg hused]

/-! ### Values in the filled-in text -/

/-- Wherever a placeholder stands in a text, it is found there. -/
theorem exists_slot_of_append {before behind : List Char}
    (h : cs = before ++ (p.chars ++ behind)) :
    ∃ front back, ofChars cs = front ++ .slot p :: back ∧ front.flatMap chars = before := by
  fun_induction ofChars cs generalizing before with
  | case1 => simp [Placeholder.chars, Placeholder.braced] at h
  | case2 c cs q rest hat ih =>
    rw [Placeholder.at?_eq_some hat] at h
    rcases Placeholder.eq_or_exists_of_append h with ⟨rfl, rfl⟩ | ⟨before', rfl, hrest⟩
    · exact ⟨[], ofChars rest, rfl, rfl⟩
    · obtain ⟨front, back, hpieces, rfl⟩ := ih hrest
      exact ⟨.slot q :: front, back, by rw [hpieces]; rfl, rfl⟩
  | case3 c cs hat ih =>
    rcases before with _ | ⟨d, before⟩
    · exact absurd ⟨behind, h.symm⟩ (Placeholder.not_chars_prefix_of_at? hat p)
    · obtain ⟨rfl, hcs⟩ := List.cons.inj h
      obtain ⟨front, back, hpieces, rfl⟩ := ih hcs
      exact ⟨.char c :: front, back, by rw [hpieces]; rfl, rfl⟩

/-- The slots of a text are the placeholders that stand in it. -/
theorem slot_mem_ofChars_iff : .slot p ∈ ofChars cs ↔ p.chars <:+: cs := by
  constructor
  · intro h
    obtain ⟨front, back, hpieces⟩ := List.append_of_mem h
    have hcs := chars_pieces cs
    rw [hpieces, List.flatMap_append, List.flatMap_cons] at hcs
    exact ⟨front.flatMap chars, back.flatMap chars, by simpa [chars] using hcs⟩
  · rintro ⟨before, behind, h⟩
    obtain ⟨front, back, hpieces, -⟩ := exists_slot_of_append (h.symm.trans (List.append_assoc ..))
    rw [hpieces]
    simp

/-- The value of a placeholder that is not used yet stands in the filled-in text. -/
theorem infix_fill {values : Placeholder → Option (List Char)} {used : List Placeholder}
    {pieces : List TemplatePiece} {value : List Char} (hp : .slot p ∈ pieces) (hused : p ∉ used)
    (hvalue : values p = some value) : value <:+: fill values used pieces := by
  induction pieces generalizing used with
  | nil => simp at hp
  | cons piece pieces ih =>
    cases piece with
    | char c =>
      have hp' : .slot p ∈ pieces := by simpa using hp
      exact (ih hp' hused).trans (List.suffix_cons ..).isInfix
    | slot q =>
      by_cases hq : p = q
      · subst hq
        simp only [fill, hvalue, if_neg hused]
        exact (List.prefix_append ..).isInfix
      · -- Whatever becomes of another slot, the value stands behind it.
        have hp' : .slot p ∈ pieces := by simpa [hq] using hp
        have hrest : ∀ used', p ∉ used' → ∀ text, value <:+: text ++ fill values used' pieces :=
          fun _ hused' _ => (ih hp' hused').trans (List.suffix_append ..).isInfix
        simp only [fill]
        split
        · exact hrest used hused _
        · split
          · exact hrest used hused _
          · exact hrest (q :: used) (by simp [hq, hused]) _

end TemplatePiece

/-- The value of a placeholder that the template holds stands in the filled-in template. -/
theorem Template.infix_render {t : Template} {values : Placeholder → Option String} {value : String}
    (hp : holdsPlaceholder t.text p.name = true) (hvalue : values p = some value) :
    value.toList <:+: (t.render values).toList := by
  have hslot : .slot p ∈ TemplatePiece.ofChars t.text.toList :=
    TemplatePiece.slot_mem_ofChars_iff.2 (occursIn_eq_true_iff.1 hp)
  rw [render, String.toList_ofList]
  exact TemplatePiece.infix_fill hslot (by simp) (by rw [hvalue]; rfl)

end FailurePrompt
