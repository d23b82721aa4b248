import FailurePrompt.Proofs.Escape.Strip
import FailurePrompt.Text.Lines

/-!
# Stripping part by part

Where a text is cut in front of a character that stands in no sequence, no sequence of the first
part reaches into the second, and the matcher takes from the first part what it would take from it
alone. So the parts may be stripped one by one. A line feed is such a character, and the lines of a
stripped text are the stripped lines. The main statement is `stripEscapes_append`.
-/

namespace FailurePrompt.Escape

variable {cs rest : List Char} {c : Char}

/-- No sequence goes on with the text: it is empty, or it begins with a character that stands in
none. -/
def Apart (cs : List Char) : Prop := ∀ c ∈ cs.head?, isSequenceChar c = false

theorem Apart.ne_of_isSequenceChar {tail : List Char} (h : Apart (c :: tail)) {d : Char}
    (hd : isSequenceChar d = true) : c ≠ d := by
  rintro rfl
  exact absurd hd (by simp [h c rfl])

/-! ### What the matcher takes -/

theorem Apart.dropWhile_append {p : Char → Bool} (h : Apart rest)
    (hp : ∀ c, p c = true → isSequenceChar c = true) (cs : List Char) :
    (cs ++ rest).dropWhile p = cs.dropWhile p ++ rest := by
  induction cs with
  | nil =>
    rcases rest with _ | ⟨c, rest⟩
    · rfl
    · have hc : ¬p c = true := fun hc => h.ne_of_isSequenceChar (hp c hc) rfl
      exact List.dropWhile_cons_of_neg hc
  | cons c cs ih =>
    rw [List.cons_append, List.dropWhile_cons, List.dropWhile_cons, ih]
    split <;> rfl

theorem Apart.dropParts_append (h : Apart rest) (cs : List Char) :
    dropParts (cs ++ rest) = dropParts cs ++ rest := by
  have hpart : ∀ c, (c == ';' || isTextChar c) = true → isSequenceChar c = true := by
    intro c hc
    rw [Bool.or_eq_true, beq_iff_eq] at hc
    rcases hc with rfl | hc
    · decide
    · exact isSequenceChar_of_isTextChar hc
  rcases cs with _ | ⟨c, cs⟩
  · rcases rest with _ | ⟨c, rest⟩
    · rfl
    · have hc : c ≠ ';' := h.ne_of_isSequenceChar (by decide)
      simp [dropParts, hc]
  · by_cases hc : c = ';'
    · subst hc
      exact h.dropWhile_append hpart cs
    · simp [dropParts, hc]

theorem Apart.afterText?_append (h : Apart rest) (cs : List Char) :
    afterText? (cs ++ rest) = (afterText? cs).map (· ++ rest) := by
  rw [afterText?, afterText?, h.dropWhile_append (fun _ => isSequenceChar_of_isCommandChar),
    h.dropParts_append]
  rcases dropParts (cs.dropWhile isCommandChar) with _ | ⟨c, tail⟩
  · rcases rest with _ | ⟨c, rest⟩
    · rfl
    · exact if_neg (h.ne_of_isSequenceChar (by decide))
  · dsimp only [List.cons_append]
    split <;> rfl

/-- Nothing is read of a text that no sequence goes on with. -/
theorem Apart.afterParameters?_eq_none (h : Apart rest) (room : Nat) :
    afterParameters? room rest = none := by
  rcases rest with _ | ⟨c, rest⟩
  · rfl
  · have hdigit : ¬Text.isDigit c = true := fun hc =>
      h.ne_of_isSequenceChar (isSequenceChar_of_isDigit hc) rfl
    have hsign : ¬isFinalSign c = true := fun hc =>
      h.ne_of_isSequenceChar (isSequenceChar_of_isFinalSign hc) rfl
    unfold afterParameters?
    rw [if_neg hdigit, if_neg (h.ne_of_isSequenceChar (by decide)), if_neg hsign]

theorem Apart.afterParameters?_append (h : Apart rest) (room : Nat) (cs : List Char) :
    afterParameters? room (cs ++ rest) = (afterParameters? room cs).map (· ++ rest) := by
  induction cs generalizing room with
  | nil => exact h.afterParameters?_eq_none room
  | cons c cs ih =>
    rw [List.cons_append]
    unfold afterParameters?
    split
    · rcases room with _ | room
      · rfl
      · simp only [ih, Option.map_or, Option.map_some]
    · split
      · exact ih 4
      · split <;> rfl

private theorem afterControl?_cons_of_ne (hc : c ≠ ';') (cs : List Char) :
    afterControl? (c :: cs) = afterParameters? 4 (c :: cs) := by
  simp [afterControl?, hc]

theorem Apart.afterControl?_append (h : Apart rest) (cs : List Char) :
    afterControl? (cs ++ rest) = (afterControl? cs).map (· ++ rest) := by
  rcases cs with _ | ⟨c, cs⟩
  · rcases rest with _ | ⟨c, rest⟩
    · rfl
    · rw [List.nil_append, afterControl?_cons_of_ne (h.ne_of_isSequenceChar (by decide))]
      exact h.afterParameters?_eq_none 4
  · by_cases hc : c = ';'
    · subst hc
      rfl
    · rw [List.cons_append, afterControl?_cons_of_ne hc, afterControl?_cons_of_ne hc]
      exact h.afterParameters?_append 4 (c :: cs)

theorem Apart.afterBody?_append (h : Apart rest) (cs : List Char) :
    afterBody? (cs ++ rest) = (afterBody? cs).map (· ++ rest) := by
  rw [afterBody?, afterBody?, h.afterText?_append, h.afterControl?_append, Option.map_or]

/-- From the first part the matcher takes what it takes from it alone. -/
theorem Apart.afterRun?_append (h : Apart rest) (cs : List Char) :
    afterRun? (cs ++ rest) = (afterRun? cs).map (· ++ rest) := by
  induction cs with
  | nil =>
    rcases rest with _ | ⟨c, rest⟩
    · rfl
    · have hmark : ¬isRunMark c = true := fun hc =>
        h.ne_of_isSequenceChar (isSequenceChar_of_isRunMark hc) rfl
      have hbody := h.afterBody?_append []
      rw [List.nil_append] at hbody ⊢
      unfold afterRun?
      rw [if_neg hmark]
      exact hbody
  | cons c cs ih =>
    have hbody := h.afterBody?_append (c :: cs)
    rw [List.cons_append] at hbody ⊢
    rw [afterRun?, afterRun?, ih, hbody]
    split
    · rw [Option.map_or]
    · rfl

/-! ### Stripping -/

/-- A text is stripped part by part where it is cut in front of a character that stands in no
sequence. -/
theorem Apart.strip_append (h : Apart rest) (cs : List Char) :
    strip (cs ++ rest) = strip cs ++ strip rest := by
  induction cs using strip.induct with
  | case1 => rw [strip_nil, List.nil_append, List.nil_append]
  | case2 c cs hc tail htail ih =>
    have happend : afterRun? (cs ++ rest) = some (tail ++ rest) := by
      rw [h.afterRun?_append, htail]
      rfl
    rw [List.cons_append, strip_cons_of_sequence hc happend, strip_cons_of_sequence hc htail, ih]
  | case3 c cs hc hnone ih =>
    have happend : afterRun? (cs ++ rest) = none := by
      rw [h.afterRun?_append, hnone]
      rfl
    rw [List.cons_append, strip_cons_of_no_sequence happend, strip_cons_of_no_sequence hnone, ih,
      List.cons_append]
  | case4 c cs hc ih =>
    rw [Bool.not_eq_true] at hc
    rw [List.cons_append, strip_cons_of_not_introducer hc, strip_cons_of_not_introducer hc, ih,
      List.cons_append]

theorem apart_feed (cs : List Char) : Apart ('\n' :: cs) := by
  intro c hc
  obtain rfl := Option.some.inj hc
  decide

theorem strip_feed_cons (cs : List Char) : strip ('\n' :: cs) = '\n' :: strip cs :=
  strip_cons_of_not_introducer (by decide) cs

/-- Joined lines are stripped one by one. -/
theorem strip_joinLines (ls : List (List Char)) :
    strip (Text.joinLines ls) = Text.joinLines (ls.map strip) := by
  induction ls with
  | nil => exact strip_nil
  | cons l ls ih =>
    by_cases hls : ls = []
    · rw [hls, Text.joinLines_singleton]
      exact (Text.joinLines_singleton _).symm
    · rw [Text.joinLines_cons l hls, (apart_feed _).strip_append, strip_feed_cons, ih,
        List.map_cons, Text.joinLines_cons _ (by simpa using hls)]

/-- The lines of a stripped text are its stripped lines. -/
theorem lines_strip (cs : List Char) : Text.lines (strip cs) = (Text.lines cs).map strip := by
  have hfeed : ∀ l ∈ (Text.lines cs).map strip, '\n' ∉ l := by
    intro l hl hmem
    obtain ⟨line, hline, rfl⟩ := List.mem_map.1 hl
    have hsep := Text.not_sep_of_mem_segments hline ((strip_sublist line).subset hmem)
    simp at hsep
  have hne : (Text.lines cs).map strip ≠ [] := fun hnil =>
    Text.segments_ne_nil (· == '\n') cs (List.map_eq_nil_iff.1 hnil)
  calc Text.lines (strip cs)
      = Text.lines (strip (Text.joinLines (Text.lines cs))) := by rw [Text.joinLines_lines]
    _ = Text.lines (Text.joinLines ((Text.lines cs).map strip)) := by rw [strip_joinLines]
    _ = (Text.lines cs).map strip := Text.lines_joinLines hne hfeed

end FailurePrompt.Escape

namespace FailurePrompt

open Escape

/-- Stripping goes part by part where no sequence can reach from one part into the next, and so
line by line; the characters with which a sequence can reach on are those of the completions. -/
theorem stripEscapes_append (text rest : String) :
    ((∀ c ∈ rest.toList.head?, isSequenceChar c = false) →
      stripEscapes (text ++ rest) = stripEscapes text ++ stripEscapes rest) ∧
    Text.lines (stripEscapes text).toList =
      (Text.lines text.toList).map (fun line => (stripEscapes (String.ofList line)).toList) ∧
    ((∀ c ∈ text.toList, isIntroducer c = false) → stripEscapes text = text) ∧
    ∀ c, isSequenceChar c = true ↔ ∃ taken, Completion taken ∧ c ∈ taken := by
  refine ⟨fun hrest => ?_, ?_, fun hplain => ?_, fun _ => isSequenceChar_iff_exists_completion⟩
  · have happend := Apart.strip_append hrest text.toList
    simp only [stripEscapes, String.toList_append, happend, String.ofList_append]
  · have hline : (fun line => (stripEscapes (String.ofList line)).toList) = strip :=
      funext fun line => by rw [stripEscapes, String.toList_ofList, String.toList_ofList]
    rw [hline, stripEscapes, String.toList_ofList, lines_strip]
  · rw [stripEscapes, strip_eq_self hplain, String.ofList_toList]

/-- A sequence that ends with the line, before text that could belong to it. -/
theorem stripEscapes_append_feed :
    (∀ c ∈ "\n1mb".toList.head?, isSequenceChar c = false) ∧
      stripEscapes ("a\x1b[3" ++ "\n1mb") = stripEscapes "a\x1b[3" ++ stripEscapes "\n1mb" := by
  have hfeed : ∀ c ∈ "\n1mb".toList.head?, isSequenceChar c = false :=
    apart_feed ['1', 'm', 'b']
  exact ⟨hfeed, (stripEscapes_append "a\x1b[3" "\n1mb").1 hfeed⟩

end FailurePrompt
