import FailurePrompt.Proofs.Escape.Characters

/-!
# Stripping twice

A text is left as it is exactly if no sequence stands in it, and so stripping twice is stripping
once exactly if what remains holds none. It may hold one: an introducer that begins no sequence is
kept, and once a sequence behind it is removed, what follows may complete it. The main statement,
`containsSequence_strip_iff`, says that there is no other way. It rests on the fact that a sequence
has no introducer but the first character, so that the scan from the left comes to all of them.
-/

namespace FailurePrompt.Escape

variable {cs rest taken : List Char} {c : Char}

/-! ### The scan -/

/-- The first character is kept unless a sequence begins with it. -/
theorem strip_cons_of_not (h : ¬(isIntroducer c = true ∧ Completes cs)) :
    strip (c :: cs) = c :: strip cs := by
  by_cases hc : isIntroducer c = true
  · exact strip_cons_of_no_sequence (afterRun?_eq_none_iff.2 fun hcs => h ⟨hc, hcs⟩)
  · exact strip_cons_of_not_introducer (Bool.eq_false_iff.2 hc) cs

/-- Induction along the scan: a character is kept, or a sequence is removed. -/
@[elab_as_elim]
theorem strip_induction {motive : List Char → Prop} (nil : motive [])
    (keep : ∀ c cs, ¬(isIntroducer c = true ∧ Completes cs) →
      strip (c :: cs) = c :: strip cs → motive cs → motive (c :: cs))
    (remove : ∀ c taken rest, isIntroducer c = true → Completion taken →
      strip (c :: (taken ++ rest)) = strip rest → motive rest → motive (c :: (taken ++ rest)))
    (cs : List Char) : motive cs := by
  induction cs using strip.induct with
  | case1 => exact nil
  | case2 c cs hc rest h ih =>
    have hstrip := strip_cons_of_sequence hc h
    obtain ⟨taken, htaken, rfl⟩ := exists_of_afterRun? h
    exact remove c taken rest hc htaken hstrip ih
  | case3 c cs hc h ih =>
    have hnot : ¬(isIntroducer c = true ∧ Completes cs) := fun h' =>
      afterRun?_eq_none_iff.1 h h'.2
    exact keep c cs hnot (strip_cons_of_not hnot) ih
  | case4 c cs hc ih =>
    have hnot : ¬(isIntroducer c = true ∧ Completes cs) := fun h' => hc h'.1
    exact keep c cs hnot (strip_cons_of_not hnot) ih

/-- Stripping only leaves characters out. -/
theorem strip_sublist (cs : List Char) : (strip cs).Sublist cs := by
  induction cs using strip_induction with
  | nil => simp [strip_nil]
  | keep c cs _ he ih =>
    rw [he]
    exact ih.cons_cons c
  | remove c taken rest _ _ he ih =>
    rw [he]
    exact ih.trans ((List.sublist_append_right taken rest).cons c)

theorem not_containsSequence_nil : ¬ContainsSequence [] := by
  rintro ⟨_, ⟨_, _⟩, hin⟩
  simp at hin

theorem length_strip_lt (h : ContainsSequence cs) : (strip cs).length < cs.length := by
  induction cs using strip_induction with
  | nil => exact absurd h not_containsSequence_nil
  | keep c cs hnot he ih =>
    rw [he]
    exact Nat.succ_lt_succ (ih ((containsSequence_cons_iff.1 h).resolve_left hnot))
  | remove c taken rest _ _ he _ =>
    have hle := (strip_sublist rest).length_le
    rw [he, List.length_cons, List.length_append]
    omega

/-- A text is left as it is exactly if no sequence stands in it. -/
theorem strip_eq_self_iff : strip cs = cs ↔ ¬ContainsSequence cs := by
  constructor
  · intro he h
    have hlt := length_strip_lt h
    rw [he] at hlt
    exact Nat.lt_irrefl _ hlt
  · intro h
    induction cs with
    | nil => exact strip_nil
    | cons c cs ih =>
      rw [containsSequence_cons_iff, not_or] at h
      rw [strip_cons_of_not h.1, ih h.2]

/-- The text from some character on, if the character is not in front. -/
private theorem suffix_of_suffix_append {lead : List Char} (hc : c ∉ lead)
    (h : c :: rest <:+ lead ++ cs) : c :: rest <:+ cs := by
  induction lead with
  | nil => exact h
  | cons d lead ih =>
    rw [List.mem_cons, not_or] at hc
    rcases List.suffix_cons_iff.1 h with he | h
    · exact absurd (List.cons.inj he).1 hc.1
    · exact ih hc.2 h

/-- What remains holds a sequence exactly if some introducer that begins none is completed once the
sequences behind it are removed. -/
theorem containsSequence_strip_iff :
    ContainsSequence (strip cs) ↔ ∃ c rest, c :: rest <:+ cs ∧ isIntroducer c = true ∧
      ¬Completes rest ∧ Completes (strip rest) := by
  induction cs using strip_induction with
  | nil =>
    rw [strip_nil]
    exact iff_of_false not_containsSequence_nil (by simp)
  | keep d cs hnot he ih =>
    -- A sequence of what remains begins with the kept character, or it stands behind it.
    rw [he, containsSequence_cons_iff, ih]
    constructor
    · rintro (⟨hd, hcs⟩ | ⟨c, rest, hsuf, h⟩)
      · exact ⟨d, cs, List.suffix_refl _, hd, fun h => hnot ⟨hd, h⟩, hcs⟩
      · exact ⟨c, rest, hsuf.trans (List.suffix_cons d cs), h⟩
    · rintro ⟨c, rest, hsuf, hc, hrest, hstrip⟩
      rcases List.suffix_cons_iff.1 hsuf with he | hsuf
      · obtain ⟨rfl, rfl⟩ := List.cons.inj he
        exact .inl ⟨hc, hstrip⟩
      · exact .inr ⟨c, rest, hsuf, hc, hrest, hstrip⟩
  | remove d taken after hd htaken he ih =>
    rw [he, ih]
    constructor
    · rintro ⟨c, rest, hsuf, h⟩
      exact ⟨c, rest, hsuf.trans ((List.suffix_append taken after).trans (List.suffix_cons ..)), h⟩
    · rintro ⟨c, rest, hsuf, hc, hrest, hstrip⟩
      refine ⟨c, rest, ?_, hc, hrest, hstrip⟩
      rcases List.suffix_cons_iff.1 hsuf with he | hsuf
      · obtain ⟨rfl, rfl⟩ := List.cons.inj he
        exact absurd ⟨taken, htaken, List.prefix_append ..⟩ hrest
      · -- The introducer cannot be a part of what is removed, so it stands behind it.
        have hnot : c ∉ taken := fun hmem => by
          simp [htaken.isIntroducer_eq_false c hmem] at hc
        exact suffix_of_suffix_append hnot hsuf

end FailurePrompt.Escape

namespace FailurePrompt

open Escape

theorem stripEscapes_eq_self_iff {text : String} :
    stripEscapes text = text ↔ ¬ContainsSequence text.toList := by
  rw [← strip_eq_self_iff, ← String.toList_inj, stripEscapes, String.toList_ofList]

end FailurePrompt
