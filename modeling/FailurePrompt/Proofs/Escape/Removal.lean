import FailurePrompt.Proofs.Escape.Strip

/-!
# What is removed

A text may be put together from plain pieces and sequences. Stripping gives back the plain pieces as
long as the end of every sequence shows: its parameters end in a letter or a sign, for a digit might
be one of them, and its further pieces come after a first one, for their semicolon might be a mark.
A plain piece has neither an introducer nor a bell, which could close a sequence before it. The main
statement, `stripEscapes_interleaved`, says that then exactly the sequences are removed.
-/

namespace FailurePrompt.Escape

variable {cs rest marks body : List Char} {c : Char}

/-! ### Well-formed sequences -/

/-- A body whose end shows. -/
inductive WellFormedBody : List Char → Prop
  | text {command : List Char} {pieces : List (List Char)}
      (hcommand : ∀ c ∈ command, isCommandChar c = true)
      (hpieces : ∀ piece ∈ pieces, ∀ c ∈ piece, isTextChar c = true)
      (hnil : command = [] → pieces = []) :
      WellFormedBody (command ++ (furtherPieces pieces ++ [bell]))
  | control {first : List Char} {pieces : List (List Char)} {final : Char}
      (hfirst : IsParameter first) (hpieces : ∀ piece ∈ pieces, IsParameter piece)
      (hnil : first = [] → pieces = []) (hfinal : isFinalSign final = true) :
      WellFormedBody (first ++ (furtherPieces pieces ++ [final]))

/-- A sequence whose end shows. -/
inductive WellFormed : List Char → Prop
  | mk {c : Char} {marks body : List Char} (hc : isIntroducer c = true)
      (hmarks : ∀ c ∈ marks, isRunMark c = true) (hbody : WellFormedBody body) :
      WellFormed (c :: (marks ++ body))

/-- Text without an introducer and without a bell. -/
def Plain (cs : List Char) : Prop := ∀ c ∈ cs, isIntroducer c = false ∧ c ≠ bell

instance (cs : List Char) : Decidable (Plain cs) :=
  List.decidableBAll (fun c => isIntroducer c = false ∧ c ≠ bell) cs

/-- No bell stands in the text before its first introducer. -/
def Silent (cs : List Char) : Prop := bell ∉ cs.takeWhile fun c => !isIntroducer c

theorem Plain.silent_append {plain : List Char} (h : Plain plain) (hrest : Silent rest) :
    Silent (plain ++ rest) := by
  have hall : ∀ c ∈ plain, (!isIntroducer c) = true := fun c hc => by simp [(h c hc).1]
  rw [Silent, List.takeWhile_append_of_pos hall, List.mem_append, not_or]
  exact ⟨fun hbell => (h _ hbell).2 rfl, hrest⟩

theorem silent_cons_introducer (hc : isIntroducer c = true) : Silent (c :: rest) := by
  rw [Silent, List.takeWhile_cons_of_neg (by simp [hc])]
  exact List.not_mem_nil

/-! ### Characters of a body -/

/-- A letter or sign that ends a sequence is no digit. -/
theorem isDigit_eq_false_of_isFinalSign (h : isFinalSign c = true) : Text.isDigit c = false :=
  of_isFinalSign (p := fun c => Text.isDigit c = false) (by decide +kernel) h

/-- A character that has a property that no mark has is no mark. -/
private theorem isRunMark_eq_false {p : Char → Bool}
    (hmark : ['[', ']', '(', ')', '#', ';', '?'].any p = false) (h : p c = true) :
    isRunMark c = false :=
  Bool.eq_false_iff.2 fun hc => List.any_eq_false.1 hmark c (List.contains_iff_mem.1 hc) h

/-- No mark begins a well-formed body. -/
theorem WellFormedBody.exists_cons (h : WellFormedBody body) :
    ∃ c tail, body = c :: tail ∧ isRunMark c = false := by
  rcases h with ⟨hcommand, -, hnil⟩ | ⟨hfirst, -, hnil, hfinal⟩
  · rename_i command pieces
    rcases command with _ | ⟨c, command⟩
    · exact ⟨bell, [], by rw [hnil rfl]; rfl, by decide⟩
    · exact ⟨c, _, rfl, isRunMark_eq_false (by decide) (hcommand c List.mem_cons_self)⟩
  · rename_i first pieces final
    rcases first with _ | ⟨c, first⟩
    · exact ⟨final, [], by rw [hnil rfl]; rfl, isRunMark_eq_false (by decide) hfinal⟩
    · exact ⟨c, _, rfl, isRunMark_eq_false (by decide) (hfirst.2 c List.mem_cons_self)⟩

/-! ### The end of a body -/

/-- A text body does not reach beyond the first bell or introducer. -/
theorem afterText?_of_silent (h : Silent cs) : afterText? cs = none := by
  rw [Option.eq_none_iff_forall_ne_some]
  intro rest hrest
  obtain ⟨body, hbody, rfl⟩ := exists_of_afterText? hrest
  have hall : ∀ c ∈ body, (!isIntroducer c) = true := fun c hc => by
    simp [Body.isIntroducer_eq_false (.inl hbody) c hc]
  rw [Silent, List.takeWhile_append_of_pos hall] at h
  obtain ⟨-, -⟩ := hbody
  exact h (by simp)

/-- The digits of a parameter are passed over where what follows them is read with any room. -/
theorem afterParameters?_digits {room : Nat} {digits : List Char} (hroom : digits.length ≤ room)
    (hdigits : ∀ c ∈ digits, Text.isDigit c = true)
    (h : ∀ room, afterParameters? room cs = some rest) :
    afterParameters? room (digits ++ cs) = some rest := by
  induction digits generalizing room with
  | nil => exact h room
  | cons c digits ih =>
    obtain ⟨hc, hdigits⟩ := List.forall_mem_cons.1 hdigits
    rcases room with _ | room
    · simp at hroom
    · rw [List.cons_append, afterParameters?, if_pos hc,
        ih (Nat.le_of_succ_le_succ hroom) hdigits, Option.some_or]

/-- Parameters are taken up to a final letter or sign. -/
theorem afterParameters?_pieces {room : Nat} {first : List Char} {pieces : List (List Char)}
    {final : Char} (hroom : first.length ≤ room) (hfirst : ∀ c ∈ first, Text.isDigit c = true)
    (hpieces : ∀ piece ∈ pieces, IsParameter piece) (hfinal : isFinalSign final = true) :
    afterParameters? room (first ++ (furtherPieces pieces ++ final :: rest)) = some rest := by
  induction pieces generalizing room first with
  | nil =>
    refine afterParameters?_digits hroom hfirst fun room => ?_
    have hsemi : final ≠ ';' := by
      rintro rfl
      exact absurd hfinal (by decide)
    change afterParameters? room (final :: rest) = some rest
    unfold afterParameters?
    rw [if_neg (by simp [isDigit_eq_false_of_isFinalSign hfinal]), if_neg hsemi, if_pos hfinal]
  | cons piece pieces ih =>
    obtain ⟨hpiece, hpieces⟩ := List.forall_mem_cons.1 hpieces
    refine afterParameters?_digits hroom hfirst fun room => ?_
    rw [furtherPieces_cons, List.cons_append, List.append_assoc]
    unfold afterParameters?
    rw [if_neg (by decide), if_pos rfl]
    exact ih hpiece.1 hpiece.2 hpieces

/-- The body of a control sequence has no bell. -/
private theorem bell_notMem_control {first : List Char} {pieces : List (List Char)} {final : Char}
    (hfirst : IsParameter first) (hpieces : ∀ piece ∈ pieces, IsParameter piece)
    (hfinal : isFinalSign final = true) : bell ∉ first ++ (furtherPieces pieces ++ [final]) := by
  have hdigit : ∀ piece, IsParameter piece → bell ∉ piece := fun piece hpiece hmem =>
    absurd (hpiece.2 bell hmem) (by decide)
  simp only [furtherPieces, List.mem_append, List.mem_flatMap, List.mem_cons, List.not_mem_nil,
    or_false]
  rintro (hmem | ⟨piece, hpiece, hsemi | hmem⟩ | rfl)
  · exact hdigit first hfirst hmem
  · exact absurd hsemi (by decide)
  · exact hdigit piece (hpieces piece hpiece) hmem
  · exact absurd hfinal (by decide)

/-- A control body that ends in a letter or a sign is taken as a whole. -/
theorem afterControl?_append {first : List Char} {pieces : List (List Char)} {final : Char}
    (hfirst : IsParameter first) (hpieces : ∀ piece ∈ pieces, IsParameter piece)
    (hnil : first = [] → pieces = []) (hfinal : isFinalSign final = true) :
    afterControl? (first ++ (furtherPieces pieces ++ final :: rest)) = some rest := by
  have htaken := @afterParameters?_pieces rest 4 first pieces final hfirst.1 hfirst.2 hpieces hfinal
  unfold afterControl?
  split
  · -- Neither a digit nor the final character is the semicolon that is excluded.
    rename_i tail he
    exfalso
    rcases first with _ | ⟨c, first⟩
    · rw [hnil rfl] at he
      obtain ⟨rfl, -⟩ := List.cons.inj he
      exact absurd hfinal (by decide)
    · obtain ⟨rfl, -⟩ := List.cons.inj he
      exact absurd (hfirst.2 _ List.mem_cons_self) (by decide)
  · exact htaken

/-- A well-formed body is taken as a whole where no bell follows. -/
theorem afterBody?_append (h : WellFormedBody body) (hrest : Silent rest) :
    afterBody? (body ++ rest) = some rest := by
  rcases h with ⟨hcommand, hpieces, hnil⟩ | ⟨hfirst, hpieces, hnil, hfinal⟩
  · rw [afterBody?, afterText?_append (.mk hcommand hpieces), Option.some_or]
  · rename_i first pieces final
    have hcontrol : ControlBody (first ++ (furtherPieces pieces ++ [final])) :=
      .mk hfirst hpieces hnil (by simp [isFinal, hfinal])
    have hplain : Plain (first ++ (furtherPieces pieces ++ [final])) := fun c hc =>
      ⟨Body.isIntroducer_eq_false (.inr hcontrol) c hc, fun he =>
        bell_notMem_control hfirst hpieces hfinal (he ▸ hc)⟩
    rw [afterBody?, afterText?_of_silent (hplain.silent_append hrest), Option.none_or,
      List.append_assoc, List.append_assoc, List.singleton_append]
    exact afterControl?_append hfirst hpieces hnil hfinal

/-- The marks of a sequence are passed over as a whole. -/
theorem afterRun?_append (hmarks : ∀ c ∈ marks, isRunMark c = true) (hbody : WellFormedBody body)
    (hrest : Silent rest) : afterRun? (marks ++ (body ++ rest)) = some rest := by
  induction marks with
  | nil =>
    have htaken := afterBody?_append hbody hrest
    obtain ⟨c, tail, rfl, hc⟩ := hbody.exists_cons
    rw [List.nil_append, List.cons_append, afterRun?, if_neg (by simp [hc])]
    exact htaken
  | cons c marks ih =>
    obtain ⟨hc, hmarks⟩ := List.forall_mem_cons.1 hmarks
    rw [List.cons_append, afterRun?, if_pos hc, ih hmarks, Option.some_or]

/-! ### Stripping -/

/-- A well-formed sequence is removed. -/
theorem WellFormed.strip_append {sequence : List Char} (h : WellFormed sequence)
    (hrest : Silent rest) : strip (sequence ++ rest) = strip rest := by
  obtain ⟨hc, hmarks, hbody⟩ := h
  rw [List.cons_append, List.append_assoc]
  exact strip_cons_of_sequence hc (afterRun?_append hmarks hbody hrest)

/-- Plain text is kept. -/
theorem Plain.strip_append {plain : List Char} (h : Plain plain) (rest : List Char) :
    strip (plain ++ rest) = plain ++ strip rest := by
  induction plain with
  | nil => rfl
  | cons c plain ih =>
    obtain ⟨hc, hplain⟩ := List.forall_mem_cons.1 h
    rw [List.cons_append, strip_cons_of_not_introducer hc.1, ih hplain, List.cons_append]

/-- Sequences, each with the plain text after it. -/
def interleaved (parts : List (List Char × List Char)) : List Char :=
  parts.flatMap fun part => part.1 ++ part.2

theorem silent_interleaved {parts : List (List Char × List Char)}
    (h : ∀ part ∈ parts, WellFormed part.1) : Silent (interleaved parts) := by
  rcases parts with _ | ⟨⟨sequence, plain⟩, parts⟩
  · exact List.not_mem_nil
  · obtain ⟨⟨hc, _, _⟩, -⟩ := List.forall_mem_cons.1 h
    exact silent_cons_introducer hc

/-- Exactly the sequences are removed. -/
theorem strip_interleaved {parts : List (List Char × List Char)}
    (h : ∀ part ∈ parts, WellFormed part.1 ∧ Plain part.2) :
    strip (interleaved parts) = parts.flatMap Prod.snd := by
  induction parts with
  | nil => exact strip_nil
  | cons part parts ih =>
    obtain ⟨⟨hsequence, hplain⟩, hparts⟩ := List.forall_mem_cons.1 h
    have hsilent : Silent (part.2 ++ interleaved parts) :=
      hplain.silent_append (silent_interleaved fun p hp => (hparts p hp).1)
    have hcons : interleaved (part :: parts) = part.1 ++ (part.2 ++ interleaved parts) := by
      rw [interleaved, List.flatMap_cons, List.append_assoc]
      rfl
    rw [hcons, hsequence.strip_append hsilent, hplain.strip_append, ih hparts, List.flatMap_cons]

end FailurePrompt.Escape

namespace FailurePrompt

open Escape

/-- From a text that interleaves plain pieces and well-formed sequences, stripping removes exactly
the sequences. -/
theorem stripEscapes_interleaved {plain : List Char} {parts : List (List Char × List Char)}
    (hplain : Plain plain) (hparts : ∀ part ∈ parts, WellFormed part.1 ∧ Plain part.2) :
    stripEscapes (String.ofList (plain ++ interleaved parts)) =
      String.ofList (plain ++ parts.flatMap Prod.snd) := by
  rw [stripEscapes, String.toList_ofList, hplain.strip_append, strip_interleaved hparts]

/-- A colour before letters that could go on, and a title that a bell closes. -/
theorem stripEscapes_interleaved_title :
    stripEscapes "a\x1b[1;31mm;7\x9b]0;t\x07[1m" = "am;7[1m" := by
  have hparameter : ∀ digits : List Char, digits.length ≤ 4 → digits.all Text.isDigit = true →
      IsParameter digits := fun _ hlength hdigits => ⟨hlength, List.all_eq_true.1 hdigits⟩
  have hcolour : WellFormed ['\x1b', '[', '1', ';', '3', '1', 'm'] :=
    @WellFormed.mk '\x1b' ['['] _ (by decide) (List.all_eq_true.1 (by decide))
      (@WellFormedBody.control ['1'] [['3', '1']] 'm' (hparameter _ (by decide) (by decide))
        (List.forall_mem_singleton.2 (hparameter _ (by decide) (by decide))) (by decide)
        (by decide))
  have htitle : WellFormed ['\x9b', ']', '0', ';', 't', '\x07'] :=
    @WellFormed.mk '\x9b' [']'] _ (by decide) (List.all_eq_true.1 (by decide))
      (@WellFormedBody.text ['0'] [['t']] (List.all_eq_true.1 (by decide))
        (List.forall_mem_singleton.2 (List.all_eq_true.1 (by decide))) (by decide))
  exact @stripEscapes_interleaved ['a']
    [(['\x1b', '[', '1', ';', '3', '1', 'm'], ['m', ';', '7']),
      (['\x9b', ']', '0', ';', 't', '\x07'], ['[', '1', 'm'])]
    (by decide) (by simpa using ⟨⟨hcolour, by decide⟩, htitle, by decide⟩)

end FailurePrompt
