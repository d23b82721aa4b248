import FailurePrompt.Proofs.Escape.Sequence

/-!
# The characters of a sequence

Behind its introducer a sequence is made of few characters: letters, digits, the bell, marks and
signs. The main statement, `isSequenceChar_iff_exists_completion`, says that these are just the
characters that some sequence goes on with. No introducer is among them, so a sequence has no
introducer but its first character.
-/

namespace FailurePrompt.Escape

variable {c : Char}

/-- The marks and signs that may stand in a sequence. -/
def sequenceSigns : List Char :=
  ['[', ']', '(', ')', '#', ';', '?', '-', '/', '&', '.', ':', '=', '%', '@', '~', '_', '<', '>']

/-- A character that may stand in a sequence behind its introducer. -/
def isSequenceChar (c : Char) : Bool :=
  c.isAlpha || Text.isDigit c || c == bell || sequenceSigns.contains c

/-- A statement on final letters and signs is checked over the characters of ASCII. -/
theorem of_isFinalSign {p : Char → Prop}
    (hall : ∀ n < 0x80, isFinalSign (Char.ofNat n) = true → p (Char.ofNat n))
    (h : isFinalSign c = true) : p c := by
  have hascii : c.toNat < 0x80 := by
    have hle (a b : Char) : a ≤ b ↔ a.toNat ≤ b.toNat := UInt32.le_iff_toNat_le
    simp [isFinalSign, hle, ← Char.toNat_inj] at h
    omega
  have hc := hall c.toNat hascii
  rw [Char.ofNat_toNat] at hc
  exact hc h

/-- A character of a sequence is a mark, a character of a text, the bell or a final sign. -/
theorem isSequenceChar_iff : isSequenceChar c = true ↔
    isRunMark c = true ∨ isTextChar c = true ∨ c = bell ∨ isFinalSign c = true := by
  simp only [isSequenceChar, Bool.or_eq_true, beq_iff_eq, List.contains_iff_mem]
  constructor
  · rintro (((halpha | hdigit) | hbell) | hsign)
    · exact .inr (.inl (by simp [isTextChar, halpha]))
    · exact .inr (.inl (by simp [isTextChar, hdigit]))
    · exact .inr (.inr (.inl hbell))
    · have hall : sequenceSigns.all
          (fun d => isRunMark d || isTextChar d || d == bell || isFinalSign d) = true := by
        decide +kernel
      simpa [or_assoc] using List.all_eq_true.1 hall c hsign
  · rintro (hmark | htext | hbell | hfinal)
    · refine .inr ((?_ : _ ⊆ sequenceSigns) (List.contains_iff_mem.1 hmark))
      decide
    · rw [isTextChar, Bool.or_eq_true, Bool.or_eq_true] at htext
      refine htext.imp (fun h => .inl h) fun hsign => ?_
      refine (?_ : _ ⊆ sequenceSigns) (List.contains_iff_mem.1 hsign)
      decide
    · exact .inl (.inr hbell)
    · have hsign : c.isAlpha = true ∨ c ∈ sequenceSigns :=
        of_isFinalSign (p := fun c => c.isAlpha = true ∨ c ∈ sequenceSigns) (by decide +kernel)
          hfinal
      exact hsign.imp_left fun h => .inl (.inl h)

theorem isSequenceChar_of_isRunMark (h : isRunMark c = true) : isSequenceChar c = true :=
  isSequenceChar_iff.2 (.inl h)

theorem isSequenceChar_of_isTextChar (h : isTextChar c = true) : isSequenceChar c = true :=
  isSequenceChar_iff.2 (.inr (.inl h))

theorem isSequenceChar_of_isCommandChar (h : isCommandChar c = true) :
    isSequenceChar c = true := by
  refine isSequenceChar_of_isTextChar ?_
  rw [isTextChar, ← isCommandChar, h, Bool.true_or]

theorem isSequenceChar_of_isDigit (h : Text.isDigit c = true) : isSequenceChar c = true :=
  isSequenceChar_of_isCommandChar (by rw [isCommandChar, h, Bool.or_true])

theorem isSequenceChar_of_isFinalSign (h : isFinalSign c = true) : isSequenceChar c = true :=
  isSequenceChar_iff.2 (.inr (.inr (.inr h)))

/-! ### What a sequence is made of -/

private theorem isSequenceChar_of_mem_furtherPieces {pieces : List (List Char)}
    (h : ∀ piece ∈ pieces, ∀ c ∈ piece, isSequenceChar c = true) (hc : c ∈ furtherPieces pieces) :
    isSequenceChar c = true := by
  obtain ⟨piece, hpiece, hc⟩ := List.mem_flatMap.1 hc
  rcases List.mem_cons.1 hc with rfl | hc
  · decide
  · exact h piece hpiece c hc

theorem Body.isSequenceChar {body : List Char} (h : Body body) (hc : c ∈ body) :
    isSequenceChar c = true := by
  rcases h with ⟨hcommand, hpieces⟩ | ⟨hfirst, hpieces, -, hfinal⟩ <;>
    simp only [List.mem_append, List.mem_singleton] at hc
  · rcases hc with hc | hc | rfl
    · exact isSequenceChar_of_isCommandChar (hcommand c hc)
    · exact isSequenceChar_of_mem_furtherPieces
        (fun piece hpiece d hd => isSequenceChar_of_isTextChar (hpieces piece hpiece d hd)) hc
    · decide
  · rcases hc with hc | hc | rfl
    · exact isSequenceChar_of_isDigit (hfirst.2 c hc)
    · exact isSequenceChar_of_mem_furtherPieces
        (fun piece hpiece d hd => isSequenceChar_of_isDigit ((hpieces piece hpiece).2 d hd)) hc
    · rw [isFinal, Bool.or_eq_true] at hfinal
      exact hfinal.elim isSequenceChar_of_isDigit isSequenceChar_of_isFinalSign

theorem Completion.isSequenceChar {taken : List Char} (h : Completion taken) (hc : c ∈ taken) :
    isSequenceChar c = true := by
  obtain ⟨hmarks, hbody⟩ := h
  rcases List.mem_append.1 hc with hc | hc
  · exact isSequenceChar_of_isRunMark (hmarks c hc)
  · exact hbody.isSequenceChar hc

/-- These are just the characters that sequences go on with. -/
theorem isSequenceChar_iff_exists_completion :
    isSequenceChar c = true ↔ ∃ taken, Completion taken ∧ c ∈ taken := by
  refine ⟨fun h => ?_, fun ⟨_, htaken, hc⟩ => htaken.isSequenceChar hc⟩
  have htext : ∀ marks pieces, (∀ c ∈ marks, isRunMark c = true) →
      (∀ piece ∈ pieces, ∀ c ∈ piece, isTextChar c = true) →
      Completion (marks ++ ([] ++ (furtherPieces pieces ++ [bell]))) := fun _ _ hmarks hpieces =>
    .mk hmarks (.inl (.mk (by simp) hpieces))
  rcases isSequenceChar_iff.1 h with hmark | hchar | rfl | hfinal
  · exact ⟨_, htext [c] [] (by simpa using hmark) (by simp), by simp⟩
  · exact ⟨_, htext [] [[c]] (by simp) (by simpa using hchar), by simp [furtherPieces]⟩
  · exact ⟨_, htext [] [] (by simp) (by simp), by simp⟩
  · have hbody : ControlBody ([] ++ (furtherPieces [] ++ [c])) :=
      .mk isParameter_nil (by simp) (fun _ => rfl) (by simp [isFinal, hfinal])
    exact ⟨_, @Completion.mk [] _ (by simp) (.inr hbody), by simp⟩

/-! ### Introducers -/

theorem isIntroducer_eq_false_of_isSequenceChar (h : isSequenceChar c = true) :
    isIntroducer c = false := by
  rw [isIntroducer, Bool.or_eq_false_iff, beq_eq_false_iff_ne, beq_eq_false_iff_ne]
  constructor <;> rintro rfl <;> exact absurd h (by decide)

theorem Body.isIntroducer_eq_false {body : List Char} (h : Body body) :
    ∀ c ∈ body, isIntroducer c = false := fun _ hc =>
  isIntroducer_eq_false_of_isSequenceChar (h.isSequenceChar hc)

/-- A sequence has no introducer but its first character. -/
theorem Completion.isIntroducer_eq_false {taken : List Char} (h : Completion taken) :
    ∀ c ∈ taken, isIntroducer c = false := fun _ hc =>
  isIntroducer_eq_false_of_isSequenceChar (h.isSequenceChar hc)

end FailurePrompt.Escape
