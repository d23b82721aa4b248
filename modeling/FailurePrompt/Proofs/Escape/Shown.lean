import FailurePrompt.Prompt
import FailurePrompt.Proofs.Escape.Strip
import FailurePrompt.Proofs.Template

/-!
# Sequences in prompts

The message of a failure is stripped before it is shown, and what remains is put into the prompt as
it is. Nothing in the prompt can break a sequence that remains: a value is put in as a whole, and
trimming stops at the ends of a sequence, which are not blank. The main statement,
`stripEscapes_stripEscapes_iff`, says which texts are the same stripped once and twice, and that any
other text brings a sequence into every prompt that shows it.
-/

namespace FailurePrompt

namespace Escape

variable {cs taken sequence : List Char} {c : Char}

/-- The code points of white space. -/
private def blankCodes : List Nat :=
  List.range' 9 5 ++ (List.range' 28 5 ++ (List.range' 0x2000 11 ++
    [0x85, 0xA0, 0x1680, 0x2028, 0x2029, 0x202F, 0x205F, 0x3000]))

private theorem toNat_mem_blankCodes (h : Text.isBlank c = true) : c.toNat ∈ blankCodes := by
  simp only [Text.isBlank, Bool.or_eq_true, Bool.and_eq_true, decide_eq_true_eq, beq_iff_eq] at h
  simp only [blankCodes, List.mem_append, List.mem_range'_1, List.mem_cons, List.not_mem_nil,
    or_false]
  omega

/-- White space ends no sequence. -/
theorem isBlank_eq_false_of_isFinal (h : isFinal c = true) : Text.isBlank c = false := by
  refine Bool.eq_false_iff.2 fun hblank => ?_
  -- Digits come from many scripts, white space does not, so it is white space that is gone through.
  have hall : ∀ n ∈ blankCodes, isFinal (Char.ofNat n) = false := by decide +kernel
  have hc := hall c.toNat (toNat_mem_blankCodes hblank)
  rw [Char.ofNat_toNat, h] at hc
  cases hc

theorem isBlank_eq_false_of_isIntroducer (h : isIntroducer c = true) : Text.isBlank c = false := by
  rw [isIntroducer, Bool.or_eq_true, beq_iff_eq, beq_iff_eq] at h
  rcases h with rfl | rfl <;> decide

theorem Body.exists_concat {body : List Char} (h : Body body) :
    ∃ front c, body = front ++ [c] ∧ Text.isBlank c = false := by
  rcases h with ⟨_, _⟩ | ⟨_, _, _, hfinal⟩
  · exact ⟨_, bell, (List.append_assoc ..).symm, by decide⟩
  · exact ⟨_, _, (List.append_assoc ..).symm, isBlank_eq_false_of_isFinal hfinal⟩

theorem Sequence.isBlank_head (h : Sequence sequence) (hc : sequence.head? = some c) :
    Text.isBlank c = false := by
  obtain ⟨hd, _⟩ := h
  obtain rfl := Option.some.inj hc
  exact isBlank_eq_false_of_isIntroducer hd

theorem Sequence.isBlank_getLast (h : Sequence sequence) (hc : sequence.getLast? = some c) :
    Text.isBlank c = false := by
  obtain ⟨_, _, hbody⟩ := h
  obtain ⟨front, d, rfl, hd⟩ := hbody.exists_concat
  rw [← List.append_assoc, ← List.cons_append, List.getLast?_concat] at hc
  exact Option.some.inj hc ▸ hd

theorem ContainsSequence.of_infix {part : List Char} (h : ContainsSequence part)
    (hin : part <:+: cs) : ContainsSequence cs := by
  obtain ⟨sequence, hs, hpart⟩ := h
  exact ⟨sequence, hs, hpart.trans hin⟩

/-- Trimming breaks no sequence. -/
theorem ContainsSequence.trim (h : ContainsSequence cs) : ContainsSequence (Text.trim cs) := by
  obtain ⟨sequence, hs, hin⟩ := h
  exact ⟨sequence, hs, Text.infix_trim hin (fun _ => hs.isBlank_head) fun _ => hs.isBlank_getLast⟩

end Escape

open Escape

namespace PromptBuilder

variable {builder : PromptBuilder} {title message source snapshot prompt : String}

/-- A sequence of the shown message stands in the prompt. -/
theorem containsSequence_compose
    (hslot : holdsPlaceholder builder.template.text Placeholder.error.name = true)
    (h : ContainsSequence message.toList) :
    ContainsSequence (builder.compose title message source snapshot).toList := by
  have hin : message.toList <:+:
      (builder.template.render (values title message source snapshot)).toList :=
    Template.infix_render hslot rfl
  rw [compose, String.toList_ofList]
  exact (h.of_infix hin).trim

/-- A prompt that is not empty is composed with the shown message. -/
theorem exists_compose_of_build {files : Files} {failure : Failure}
    (hbuild : (builder.build files title failure snapshot).value = .ok prompt)
    (hne : prompt ≠ "") :
    ∃ source, prompt = builder.compose title (shownMessage failure) source snapshot := by
  rw [value_build] at hbuild
  cases hs : (builder.snippet files failure).value with
  | error e =>
    rw [hs] at hbuild
    cases hbuild
  | ok snippet =>
    rw [hs] at hbuild
    have hprompt : (builder.assemble title failure snapshot snippet).value = prompt :=
      Except.ok.inj hbuild
    rw [value_assemble] at hprompt
    split at hprompt
    · exact absurd hprompt.symm hne
    · exact ⟨sourceText snippet, hprompt.symm⟩

end PromptBuilder

/-- Stripping twice is stripping once exactly if no sequence stands in what remains. One does
exactly if some introducer that begins no sequence is completed once the sequences behind it are
removed, and then one stands in every prompt that shows the text. -/
theorem stripEscapes_stripEscapes_iff (text : String) :
    (stripEscapes (stripEscapes text) = stripEscapes text ↔
      ¬ContainsSequence (stripEscapes text).toList) ∧
    (ContainsSequence (stripEscapes text).toList ↔
      ∃ c rest, c :: rest <:+ text.toList ∧ isIntroducer c = true ∧ ¬Completes rest ∧
        Completes (strip rest)) ∧
    ∀ (builder : PromptBuilder) (files : Files) (title : String) (stack : Option String)
        (snapshot prompt : String),
      holdsPlaceholder builder.template.text Placeholder.error.name = true →
      (builder.build files title ⟨some text, stack⟩ snapshot).value = .ok prompt → prompt ≠ "" →
      ContainsSequence (stripEscapes text).toList → ContainsSequence prompt.toList := by
  refine ⟨stripEscapes_eq_self_iff, ?_, ?_⟩
  · rw [stripEscapes, String.toList_ofList, containsSequence_strip_iff]
  · intro builder files title stack snapshot prompt hslot hbuild hne h
    obtain ⟨source, rfl⟩ := PromptBuilder.exists_compose_of_build hbuild hne
    exact PromptBuilder.containsSequence_compose hslot h

/-- The first introducer begins no sequence. With the colour behind it removed it begins one, which
is then shown. -/
theorem stripEscapes_nested :
    stripEscapes "\x1b\x1b[31m[31m" = "\x1b[31m" ∧ stripEscapes "\x1b[31m" = "" ∧
      Sequence ['\x1b', '[', '3', '1', 'm'] ∧
      ContainsSequence (({} : PromptBuilder).compose "t" "\x1b[31m" "s" "").toList := by
  have hcolour : afterRun? ['[', '3', '1', 'm'] = some [] := by decide +kernel
  have hnone : afterRun? ['\x1b', '[', '3', '1', 'm', '[', '3', '1', 'm'] = none := by
    decide +kernel
  have hbehind : afterRun? ['[', '3', '1', 'm', '[', '3', '1', 'm'] =
      some ['[', '3', '1', 'm'] := by
    decide +kernel
  have hrest : strip ['[', '3', '1', 'm'] = ['[', '3', '1', 'm'] :=
    strip_eq_self (by simp [isIntroducer])
  have hsequence : Sequence ['\x1b', '[', '3', '1', 'm'] := by
    obtain ⟨taken, htaken, he⟩ := exists_of_afterRun? hcolour
    rw [List.append_nil] at he
    exact .mk rfl (he ▸ htaken)
  refine ⟨?_, ?_, hsequence, ?_⟩
  · change String.ofList (strip ['\x1b', '\x1b', '[', '3', '1', 'm', '[', '3', '1', 'm']) = _
    rw [strip_cons_of_no_sequence hnone, strip_cons_of_sequence rfl hbehind, hrest]
  · change String.ofList (strip ['\x1b', '[', '3', '1', 'm']) = _
    rw [strip_cons_of_sequence rfl hcolour, strip_nil]
  · exact PromptBuilder.containsSequence_compose (Template.default.complete _ (by decide))
      ⟨_, hsequence, List.infix_refl _⟩

end FailurePrompt
