import FailurePrompt.Escape

/-!
# The grammar of escape sequences

An escape sequence is an introducer, a run of marks and a body. The body is a text, that is a
command and further pieces up to a bell, or it is a list of parameters up to a final character; in
both the pieces after the first are opened by semicolons. The grammar leaves open how much of a text
is run and how much is body, while the matcher takes as much as it can at each place. The main
statements compare the two: `exists_of_afterRun?` says that what is taken after an introducer
completes a sequence, and `isSome_afterRun?_iff` that something is taken whenever some sequence
begins there.
-/

namespace FailurePrompt.Escape

variable {cs rest : List Char} {c : Char}

/-! ### The grammar -/

/-- Pieces of a body after the first one, each opened by a semicolon. -/
def furtherPieces (pieces : List (List Char)) : List Char := pieces.flatMap (';' :: ·)

/-- A parameter of a control sequence. -/
def IsParameter (piece : List Char) : Prop :=
  piece.length ≤ 4 ∧ ∀ c ∈ piece, Text.isDigit c = true

/-- A character that ends a control sequence: a letter or sign, or a digit. -/
def isFinal (c : Char) : Bool := Text.isDigit c || isFinalSign c

/-- The body of a text sequence: a command and further pieces, closed by a bell. -/
inductive TextBody : List Char → Prop
  | mk {command : List Char} {pieces : List (List Char)}
      (hcommand : ∀ c ∈ command, isCommandChar c = true)
      (hpieces : ∀ piece ∈ pieces, ∀ c ∈ piece, isTextChar c = true) :
      TextBody (command ++ (furtherPieces pieces ++ [bell]))

/-- The body of a control sequence: parameters and a final character. There are further parameters
only if the first one has a digit. -/
inductive ControlBody : List Char → Prop
  | mk {first : List Char} {pieces : List (List Char)} {final : Char} (hfirst : IsParameter first)
      (hpieces : ∀ piece ∈ pieces, IsParameter piece) (hnil : first = [] → pieces = [])
      (hfinal : isFinal final = true) : ControlBody (first ++ (furtherPieces pieces ++ [final]))

/-- The body of a sequence of either kind. -/
def Body (body : List Char) : Prop := TextBody body ∨ ControlBody body

/-- What completes a sequence after its introducer: a run of marks and a body. -/
inductive Completion : List Char → Prop
  | mk {marks body : List Char} (hmarks : ∀ c ∈ marks, isRunMark c = true) (hbody : Body body) :
      Completion (marks ++ body)

/-- An escape sequence. -/
inductive Sequence : List Char → Prop
  | mk {c : Char} {cs : List Char} (hc : isIntroducer c = true) (hcs : Completion cs) :
      Sequence (c :: cs)

/-- The text begins with something that completes a sequence. -/
def Completes (cs : List Char) : Prop := ∃ taken, Completion taken ∧ taken <+: cs

/-- A sequence stands somewhere in the text. -/
def ContainsSequence (cs : List Char) : Prop := ∃ sequence, Sequence sequence ∧ sequence <:+: cs

/-! ### Text bodies -/

theorem furtherPieces_cons (piece : List Char) (pieces : List (List Char)) :
    furtherPieces (piece :: pieces) = ';' :: (piece ++ furtherPieces pieces) :=
  List.flatMap_cons

/-- A text after a semicolon is cut into pieces at its semicolons. -/
theorem exists_furtherPieces {p : Char → Bool} (h : ∀ c ∈ cs, c = ';' ∨ p c = true) :
    ∃ pieces, (∀ piece ∈ pieces, ∀ c ∈ piece, p c = true) ∧ ';' :: cs = furtherPieces pieces := by
  induction cs with
  | nil => exact ⟨[[]], by simp, rfl⟩
  | cons c cs ih =>
    obtain ⟨hc, hcs⟩ := List.forall_mem_cons.1 h
    obtain ⟨pieces, hpieces, he⟩ := ih hcs
    by_cases hsemi : c = ';'
    · subst hsemi
      exact ⟨[] :: pieces, by simpa using hpieces, by rw [he]; rfl⟩
    · -- The character goes to the first piece, the one that the semicolon in front opens.
      rcases pieces with _ | ⟨piece, pieces⟩
      · cases he
      · obtain ⟨hpiece, hpieces⟩ := List.forall_mem_cons.1 hpieces
        rw [furtherPieces_cons] at he
        obtain ⟨-, rfl⟩ := List.cons.inj he
        have hall : ∀ d ∈ c :: piece, p d = true :=
          List.forall_mem_cons.2 ⟨hc.resolve_left hsemi, hpiece⟩
        exact ⟨(c :: piece) :: pieces, List.forall_mem_cons.2 ⟨hall, hpieces⟩, rfl⟩

theorem exists_of_dropParts (cs : List Char) :
    ∃ pieces, (∀ piece ∈ pieces, ∀ c ∈ piece, isTextChar c = true) ∧
      cs = furtherPieces pieces ++ dropParts cs := by
  unfold dropParts
  split
  · rename_i rest
    obtain ⟨pieces, hpieces, he⟩ :=
      @exists_furtherPieces (rest.takeWhile fun c => c == ';' || isTextChar c) isTextChar
        (fun c hc => by simpa using List.all_eq_true.1 List.all_takeWhile c hc)
    refine ⟨pieces, hpieces, ?_⟩
    rw [← he, List.cons_append, List.takeWhile_append_dropWhile]
  · exact ⟨[], by simp, rfl⟩

theorem exists_of_afterText? (h : afterText? cs = some rest) :
    ∃ body, TextBody body ∧ cs = body ++ rest := by
  obtain ⟨pieces, hpieces, he⟩ := exists_of_dropParts (cs.dropWhile isCommandChar)
  unfold afterText? at h
  split at h
  · rename_i c tail htail
    split at h
    · obtain rfl := Option.some.inj h
      subst c
      have hcommand : ∀ c ∈ cs.takeWhile isCommandChar, isCommandChar c = true :=
        List.all_eq_true.1 List.all_takeWhile
      refine ⟨_, .mk hcommand hpieces, ?_⟩
      rw [htail] at he
      rw [List.append_assoc, List.append_assoc, List.singleton_append, ← he,
        List.takeWhile_append_dropWhile]
    · cases h
  · cases h

theorem dropParts_furtherPieces_bell {pieces : List (List Char)}
    (h : ∀ piece ∈ pieces, ∀ c ∈ piece, isTextChar c = true) (rest : List Char) :
    dropParts (furtherPieces pieces ++ bell :: rest) = bell :: rest := by
  rcases pieces with _ | ⟨piece, pieces⟩
  · rfl
  · have hall : ∀ c ∈ piece ++ furtherPieces pieces, (c == ';' || isTextChar c) = true := by
      simp only [List.forall_mem_cons] at h
      simp only [furtherPieces, List.mem_append, List.mem_flatMap, List.mem_cons]
      rintro c (hc | ⟨q, hq, rfl | hc⟩)
      · simp [h.1 c hc]
      · rfl
      · simp [h.2 q hq c hc]
    rw [furtherPieces_cons, List.cons_append, dropParts, List.dropWhile_append_of_pos hall]
    rfl

/-- The body of a text sequence is taken as a whole. -/
theorem afterText?_append {body : List Char} (h : TextBody body) (rest : List Char) :
    afterText? (body ++ rest) = some rest := by
  obtain ⟨hcommand, hpieces⟩ := h
  rename_i command pieces
  have hhead : (furtherPieces pieces ++ bell :: rest).dropWhile isCommandChar =
      furtherPieces pieces ++ bell :: rest := by
    rcases pieces with _ | ⟨piece, pieces⟩ <;> rfl
  rw [List.append_assoc, List.append_assoc, List.singleton_append, afterText?,
    List.dropWhile_append_of_pos hcommand, hhead, dropParts_furtherPieces_bell hpieces]
  rfl

/-! ### Control bodies -/

/-- Parameters and a final character stand in front of the rest, and the first parameter has at most
`room` digits. -/
def ParametersBefore (room : Nat) (cs rest : List Char) : Prop :=
  ∃ first pieces final, first.length ≤ room ∧ IsParameter first ∧
    (∀ piece ∈ pieces, IsParameter piece) ∧ isFinal final = true ∧
    cs = first ++ (furtherPieces pieces ++ final :: rest)

theorem isParameter_nil : IsParameter [] := ⟨Nat.zero_le 4, by simp⟩

theorem ParametersBefore.final {room : Nat} (hc : isFinal c = true) :
    ParametersBefore room (c :: rest) rest :=
  ⟨[], [], c, Nat.zero_le room, isParameter_nil, by simp, hc, rfl⟩

theorem ParametersBefore.digit {room : Nat} (hroom : room + 1 ≤ 4) (hc : Text.isDigit c = true)
    (h : ParametersBefore room cs rest) : ParametersBefore (room + 1) (c :: cs) rest := by
  obtain ⟨first, pieces, final, hlen, hfirst, hpieces, hfinal, rfl⟩ := h
  have hlen' : (c :: first).length ≤ room + 1 := Nat.succ_le_succ hlen
  have hdigits : ∀ d ∈ c :: first, Text.isDigit d = true :=
    List.forall_mem_cons.2 ⟨hc, hfirst.2⟩
  exact ⟨c :: first, pieces, final, hlen', ⟨Nat.le_trans hlen' hroom, hdigits⟩, hpieces, hfinal,
    rfl⟩

theorem ParametersBefore.semicolon {room : Nat} (h : ParametersBefore 4 cs rest) :
    ParametersBefore room (';' :: cs) rest := by
  obtain ⟨first, pieces, final, -, hfirst, hpieces, hfinal, rfl⟩ := h
  refine ⟨[], first :: pieces, final, Nat.zero_le room, isParameter_nil,
    List.forall_mem_cons.2 ⟨hfirst, hpieces⟩, hfinal, ?_⟩
  rw [furtherPieces_cons, List.nil_append, List.cons_append, List.append_assoc]

theorem parametersBefore_of_afterParameters? {room : Nat} (hroom : room ≤ 4)
    (h : afterParameters? room cs = some rest) : ParametersBefore room cs rest := by
  induction cs generalizing room with
  | nil => cases h
  | cons c cs ih =>
    unfold afterParameters? at h
    split at h
    case isTrue hdigit =>
      have hfinal : isFinal c = true := by simp [isFinal, hdigit]
      rcases room with _ | room
      · obtain rfl := Option.some.inj h
        exact .final hfinal
      · rcases Option.or_eq_some_iff.1 h with h | ⟨-, h⟩
        · exact .digit hroom hdigit (ih (Nat.le_of_succ_le hroom) h)
        · obtain rfl := Option.some.inj h
          exact .final hfinal
    case isFalse hdigit =>
      split at h
      · subst c
        exact .semicolon (ih (Nat.le_refl 4) h)
      · split at h
        case isTrue hsign =>
          obtain rfl := Option.some.inj h
          exact .final (by simp [isFinal, hsign])
        case isFalse => cases h

theorem exists_of_afterControl? (h : afterControl? cs = some rest) :
    ∃ body, ControlBody body ∧ cs = body ++ rest := by
  unfold afterControl? at h
  split at h
  · cases h
  · rename_i hsemi
    obtain ⟨first, pieces, final, -, hfirst, hpieces, hfinal, rfl⟩ :=
      parametersBefore_of_afterParameters? (Nat.le_refl 4) h
    -- Without a first parameter, further ones would begin with the semicolon that is excluded.
    have hnil : first = [] → pieces = [] := by
      rintro rfl
      rcases pieces with _ | ⟨piece, pieces⟩
      · rfl
      · exact absurd rfl (hsemi (piece ++ furtherPieces pieces ++ final :: rest) ·)
    exact ⟨_, .mk hfirst hpieces hnil hfinal, by simp⟩

private theorem isSome_afterParameters?_final (room : Nat) (hc : isFinal c = true)
    (rest : List Char) : (afterParameters? room (c :: rest)).isSome := by
  unfold afterParameters?
  split
  · -- A digit is the final character if nothing fits after it.
    rcases room with _ | room
    · rfl
    · simp
  · rename_i hdigit
    have hsign : isFinalSign c = true := by simpa [isFinal, hdigit] using hc
    have hsemi : c ≠ ';' := by
      rintro rfl
      exact absurd hsign (by decide)
    rw [if_neg hsemi, if_pos hsign]
    rfl

/-- Where the body of a control sequence begins one is taken, though maybe of another length. -/
theorem isSome_afterControl?_append {body : List Char} (h : ControlBody body) (rest : List Char) :
    (afterControl? (body ++ rest)).isSome := by
  obtain ⟨hfirst, hpieces, hnil, hfinal⟩ := h
  rename_i first pieces final
  obtain ⟨c, tail, he, hc⟩ : ∃ c tail,
      first ++ (furtherPieces pieces ++ final :: rest) = c :: tail ∧ isFinal c = true := by
    -- The first digit of a parameter may serve as the final character.
    rcases first with _ | ⟨c, first⟩
    · exact ⟨final, rest, by rw [hnil rfl]; rfl, hfinal⟩
    · exact ⟨c, _, rfl, by simp [isFinal, hfirst.2 c List.mem_cons_self]⟩
  have hsome := isSome_afterParameters?_final 4 hc tail
  rw [List.append_assoc, List.append_assoc, List.singleton_append, he]
  unfold afterControl?
  split
  · rename_i tail' he'
    obtain ⟨rfl, -⟩ := List.cons.inj he'
    exact absurd hc (by decide)
  · exact hsome

/-! ### Runs and bodies -/

theorem exists_of_afterBody? (h : afterBody? cs = some rest) :
    ∃ body, Body body ∧ cs = body ++ rest := by
  rcases Option.or_eq_some_iff.1 h with h | ⟨-, h⟩
  · obtain ⟨body, hbody, he⟩ := exists_of_afterText? h
    exact ⟨body, .inl hbody, he⟩
  · obtain ⟨body, hbody, he⟩ := exists_of_afterControl? h
    exact ⟨body, .inr hbody, he⟩

theorem isSome_afterBody?_append {body : List Char} (h : Body body) (rest : List Char) :
    (afterBody? (body ++ rest)).isSome := by
  rw [afterBody?, Option.isSome_or, Bool.or_eq_true]
  rcases h with h | h
  · exact .inl (by rw [afterText?_append h]; rfl)
  · exact .inr (isSome_afterControl?_append h rest)

/-- What is taken after an introducer completes a sequence. -/
theorem exists_of_afterRun? (h : afterRun? cs = some rest) :
    ∃ taken, Completion taken ∧ cs = taken ++ rest := by
  induction cs with
  | nil => cases h
  | cons c cs ih =>
    have hbody : afterBody? (c :: cs) = some rest →
        ∃ taken, Completion taken ∧ c :: cs = taken ++ rest := fun h => by
      obtain ⟨body, hbody, he⟩ := exists_of_afterBody? h
      exact ⟨[] ++ body, .mk (by simp) hbody, he⟩
    rw [afterRun?] at h
    split at h
    case isTrue hmark =>
      rcases Option.or_eq_some_iff.1 h with h | ⟨-, h⟩
      · obtain ⟨_, ⟨hmarks, hb⟩, rfl⟩ := ih h
        exact ⟨_, .mk (List.forall_mem_cons.2 ⟨hmark, hmarks⟩) hb, rfl⟩
      · exact hbody h
    case isFalse => exact hbody h

theorem Body.ne_nil {body : List Char} (h : Body body) : body ≠ [] := by
  rcases h with ⟨_, _⟩ | ⟨_, _, _, _⟩ <;> simp

private theorem isSome_afterRun?_append {marks body : List Char}
    (hmarks : ∀ c ∈ marks, isRunMark c = true) (hbody : Body body) (rest : List Char) :
    (afterRun? (marks ++ (body ++ rest))).isSome := by
  have hb := isSome_afterBody?_append hbody rest
  induction marks with
  | nil =>
    obtain ⟨c, body, rfl⟩ := List.exists_cons_of_ne_nil hbody.ne_nil
    simp only [List.nil_append, List.cons_append] at hb ⊢
    rw [afterRun?]
    split
    · simp [hb]
    · exact hb
  | cons c marks ih =>
    obtain ⟨hc, hmarks⟩ := List.forall_mem_cons.1 hmarks
    rw [List.cons_append, afterRun?, if_pos hc]
    simp [ih hmarks]

/-- Something is taken after an introducer exactly if a sequence begins with it. -/
theorem isSome_afterRun?_iff : (afterRun? cs).isSome ↔ Completes cs := by
  constructor
  · intro h
    obtain ⟨rest, h⟩ := Option.isSome_iff_exists.1 h
    obtain ⟨taken, htaken, rfl⟩ := exists_of_afterRun? h
    exact ⟨taken, htaken, List.prefix_append ..⟩
  · rintro ⟨_, ⟨hmarks, hbody⟩, rest, rfl⟩
    rw [List.append_assoc]
    exact isSome_afterRun?_append hmarks hbody rest

theorem afterRun?_eq_none_iff : afterRun? cs = none ↔ ¬Completes cs := by
  rw [← isSome_afterRun?_iff, Option.not_isSome_iff_eq_none]

instance (cs : List Char) : Decidable (Completes cs) :=
  decidable_of_iff _ isSome_afterRun?_iff

/-- A sequence begins with the first character, or it stands in the rest. -/
theorem containsSequence_cons_iff :
    ContainsSequence (c :: cs) ↔
      (isIntroducer c = true ∧ Completes cs) ∨ ContainsSequence cs := by
  constructor
  · rintro ⟨_, ⟨hd, hcs⟩, hin⟩
    rcases List.infix_cons_iff.1 hin with hpre | hin
    · obtain ⟨rfl, htaken⟩ := List.cons_prefix_cons.1 hpre
      exact .inl ⟨hd, _, hcs, htaken⟩
    · exact .inr ⟨_, .mk hd hcs, hin⟩
  · rintro (⟨hc, taken, htaken, hpre⟩ | ⟨sequence, hs, hin⟩)
    · exact ⟨c :: taken, .mk hc htaken, (List.cons_prefix_cons.2 ⟨rfl, hpre⟩).isInfix⟩
    · exact ⟨sequence, hs, hin.trans (List.suffix_cons c cs).isInfix⟩

end FailurePrompt.Escape
