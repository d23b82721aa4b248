import FailurePrompt.Proofs.Template

/-!
# First places

Filling in a template is a replacement at several places of a text at once: each placeholder that
has a value gives way to it where it stands first, and all else is copied. `FirstSlots` says which
places these are, from the text alone and without a scan: a text is taken apart into characters and
slots, the slots are the placeholders that have a value and stand in the text, and each is at the
leftmost place of its placeholder. There is just one such way to take a text apart. The main
statement, `render_firstSlots`, is that a template renders as its parts with the values in the
slots.
-/

namespace FailurePrompt

/-- The part stands in the text behind `before`, and nowhere further to the left. -/
def Leftmost (part before cs : List Char) : Prop :=
  (∃ behind, cs = before ++ (part ++ behind)) ∧
    ∀ before' behind', cs = before' ++ (part ++ behind') → before.length ≤ before'.length

theorem Leftmost.length_eq {part before before' cs : List Char} (h : Leftmost part before cs)
    (h' : Leftmost part before' cs) : before.length = before'.length := by
  obtain ⟨⟨behind, hplace⟩, hfirst⟩ := h
  obtain ⟨⟨behind', hplace'⟩, hfirst'⟩ := h'
  exact Nat.le_antisymm (hfirst _ _ hplace') (hfirst' _ _ hplace)

namespace TemplatePiece

variable {cs : List Char} {p : Placeholder} {given : Placeholder → Bool}
  {pieces before behind : List TemplatePiece} {used : List Placeholder}
  {values : Placeholder → Option (List Char)}

/-- The text is taken apart so that the slots are the first places of the placeholders that a value
is given for. -/
structure FirstSlots (given : Placeholder → Bool) (cs : List Char) (pieces : List TemplatePiece) :
    Prop where
  text : pieces.flatMap chars = cs
  slot_iff : ∀ p, .slot p ∈ pieces ↔ given p = true ∧ p.chars <:+: cs
  leftmost : ∀ p before behind, pieces = before ++ .slot p :: behind →
    Leftmost p.chars (before.flatMap chars) cs

/-- A part as it stands in the filled-in text: the value of a slot, or the part as it is written. -/
def filled (values : Placeholder → Option (List Char)) : TemplatePiece → List Char
  | .char c => [c]
  | .slot p => (values p).getD p.chars

/-! ### There is one way -/

theorem chars_ne_nil (piece : TemplatePiece) : piece.chars ≠ [] := by
  cases piece <;> simp [chars, Placeholder.chars, Placeholder.braced]

theorem length_flatMap_chars_lt (before behind : List TemplatePiece) (piece : TemplatePiece) :
    (before.flatMap chars).length < ((before ++ piece :: behind).flatMap chars).length := by
  have hpos := List.length_pos_iff.2 piece.chars_ne_nil
  simp only [List.flatMap_append, List.flatMap_cons, List.length_append]
  omega

/-- A list of parts that goes on with a slot goes on with no character where a slot must stand. -/
private theorem FirstSlots.not_char {c : Char} {other behind' : List TemplatePiece}
    (h : FirstSlots given cs pieces) (h' : FirstSlots given cs other)
    (hpieces : pieces = before ++ .slot p :: behind) : other ≠ before ++ .char c :: behind' := by
  intro hother
  have hp : .slot p ∈ other := (h'.slot_iff p).2 ((h.slot_iff p).1 (by rw [hpieces]; simp))
  obtain ⟨front, back, hsplit⟩ := List.append_of_mem hp
  have hlength : (before.flatMap chars).length = (front.flatMap chars).length :=
    (h.leftmost p _ _ hpieces).length_eq (h'.leftmost p _ _ hsplit)
  -- The slot is neither in front of the character, nor in its place, nor behind it.
  rcases List.append_eq_append_iff.1 (hother.symm.trans hsplit) with
    ⟨between, rfl, he⟩ | ⟨between, rfl, he⟩
  · rcases between with _ | ⟨piece, between⟩
    · cases (List.cons.inj he).1
    · exact absurd hlength (Nat.ne_of_lt (length_flatMap_chars_lt ..))
  · rcases between with _ | ⟨piece, between⟩
    · cases (List.cons.inj he).1
    · exact absurd hlength.symm (Nat.ne_of_lt (length_flatMap_chars_lt ..))

/-- The text and the given placeholders determine the parts. -/
theorem FirstSlots.eq {other : List TemplatePiece} (h : FirstSlots given cs pieces)
    (h' : FirstSlots given cs other) : other = pieces := by
  suffices key : ∀ behind before behind', pieces = before ++ behind → other = before ++ behind' →
      behind' = behind by
    exact key pieces [] other rfl rfl
  intro behind
  induction behind with
  | nil =>
    intro before behind' hpieces hother
    rcases behind' with _ | ⟨piece, behind'⟩
    · rfl
    · have hlt := length_flatMap_chars_lt before behind' piece
      rw [← hother, h'.text, ← h.text, hpieces, List.append_nil] at hlt
      exact absurd hlt (Nat.lt_irrefl _)
  | cons piece behind ih =>
    intro before behind' hpieces hother
    rcases behind' with _ | ⟨piece', behind'⟩
    · have hlt := length_flatMap_chars_lt before behind piece
      rw [← hpieces, h.text, ← h'.text, hother, List.append_nil] at hlt
      exact absurd hlt (Nat.lt_irrefl _)
    · have htext : piece.chars ++ behind.flatMap chars = piece'.chars ++ behind'.flatMap chars := by
        have htext := h.text.trans h'.text.symm
        rw [hpieces, hother, List.flatMap_append, List.flatMap_append, List.flatMap_cons,
          List.flatMap_cons] at htext
        exact List.append_cancel_left htext
      have hpiece : piece = piece' := by
        cases piece with
        | char c =>
          cases piece' with
          | char d => exact congrArg _ (List.cons.inj htext).1
          | slot q => exact absurd hpieces (h'.not_char h hother)
        | slot p =>
          cases piece' with
          | char d => exact absurd hother (h.not_char h' hpieces)
          | slot q => exact congrArg _ (Placeholder.eq_of_chars_append ⟨_, htext⟩)
      subst hpiece
      rw [ih (before ++ [piece]) behind' (by simp [hpieces]) (by simp [hother])]

/-- No slot is there twice. -/
theorem FirstSlots.count_eq_one (h : FirstSlots given cs pieces) (hp : .slot p ∈ pieces) :
    pieces.count (.slot p) = 1 := by
  obtain ⟨before, behind, hpieces⟩ := List.append_of_mem hp
  have honce : ∀ front back, pieces = front ++ .slot p :: back →
      (before.flatMap chars).length = (front.flatMap chars).length := fun _ _ hsplit =>
    (h.leftmost p _ _ hpieces).length_eq (h.leftmost p _ _ hsplit)
  have hbefore : .slot p ∉ before := by
    intro hmem
    obtain ⟨front, back, rfl⟩ := List.append_of_mem hmem
    have hlength := honce front (back ++ .slot p :: behind) (by simp [hpieces])
    exact absurd hlength.symm (Nat.ne_of_lt (length_flatMap_chars_lt ..))
  have hbehind : .slot p ∉ behind := by
    intro hmem
    obtain ⟨front, back, rfl⟩ := List.append_of_mem hmem
    have hlength := honce (before ++ .slot p :: front) back (by simp [hpieces])
    exact absurd hlength (Nat.ne_of_lt (length_flatMap_chars_lt ..))
  rw [hpieces, List.count_append, List.count_cons_self, List.count_eq_zero.2 hbefore,
    List.count_eq_zero.2 hbehind]

/-! ### The scan finds it -/

/-- The parts with the slots that are filled in; any other slot is the text that it is. -/
def settle (given : Placeholder → Bool) : (used : List Placeholder) → List TemplatePiece →
    List TemplatePiece
  | _, [] => []
  | used, .char c :: rest => .char c :: settle given used rest
  | used, .slot p :: rest =>
    if given p = true ∧ p ∉ used then .slot p :: settle given (p :: used) rest
    else p.chars.map .char ++ settle given used rest

/-- A text of characters alone is copied. -/
theorem flatMap_map_char {f : TemplatePiece → List Char} (hf : ∀ c, f (.char c) = [c])
    (cs : List Char) : (cs.map .char).flatMap f = cs := by
  simp [List.flatMap_map, hf]

theorem slot_notMem_map_char (p : Placeholder) (cs : List Char) :
    .slot p ∉ cs.map TemplatePiece.char := by
  simp

theorem flatMap_chars_settle (given : Placeholder → Bool) (used : List Placeholder)
    (pieces : List TemplatePiece) :
    (settle given used pieces).flatMap chars = pieces.flatMap chars := by
  fun_induction settle given used pieces with
  | case1 => rfl
  | case2 used c rest ih => rw [List.flatMap_cons, List.flatMap_cons, ih]
  | case3 used p rest _ ih => rw [List.flatMap_cons, List.flatMap_cons, ih]
  | case4 used p rest _ ih =>
    rw [List.flatMap_append, List.flatMap_cons, ih, flatMap_map_char fun _ => rfl]
    rfl

/-- Filling in parts is putting the values into those slots. -/
theorem fill_eq_flatMap_settle (values : Placeholder → Option (List Char))
    (used : List Placeholder) (pieces : List TemplatePiece) :
    fill values used pieces =
      (settle (fun p => (values p).isSome) used pieces).flatMap (filled values) := by
  induction pieces generalizing used with
  | nil => rfl
  | cons piece pieces ih =>
    cases piece with
    | char c => exact congrArg _ (ih used)
    | slot p =>
      have hchars : (p.chars.map .char).flatMap (filled values) = p.chars :=
        flatMap_map_char (fun _ => rfl) p.chars
      rcases hvalue : values p with _ | value
      · simp [fill, settle, hvalue, ih, hchars]
      · by_cases hused : p ∈ used
        · simp [fill, settle, hvalue, hused, ih, hchars]
        · simp [fill, settle, hvalue, hused, ih, filled]

theorem slot_mem_settle_iff : .slot p ∈ settle given used pieces ↔
    given p = true ∧ p ∉ used ∧ .slot p ∈ pieces := by
  fun_induction settle given used pieces with
  | case1 => simp
  | case2 used c rest ih => simpa using ih
  | case3 used q rest hq ih =>
    rw [List.mem_cons, List.mem_cons, ih, List.mem_cons]
    by_cases hpq : p = q
    · subst hpq
      simpa using hq
    · simp [hpq]
  | case4 used q rest hq ih =>
    rw [List.mem_append, or_iff_right (slot_notMem_map_char p q.chars), ih, List.mem_cons]
    by_cases hpq : p = q
    · subst hpq
      exact ⟨fun h => absurd ⟨h.1, h.2.1⟩ hq, fun h => absurd ⟨h.1, h.2.1⟩ hq⟩
    · simp [hpq]

/-- The slot that is filled in is the first one of its placeholder. -/
theorem exists_first_of_settle (h : settle given used pieces = before ++ .slot p :: behind) :
    ∃ front back, pieces = front ++ .slot p :: back ∧ .slot p ∉ front ∧
      front.flatMap chars = before.flatMap chars := by
  have hsettled : ∀ used pieces before behind,
      settle given used pieces = before ++ .slot p :: behind → given p = true ∧ p ∉ used :=
    fun used pieces before behind h => by
      have hmem : .slot p ∈ settle given used pieces := by rw [h]; simp
      obtain ⟨hgiven, hused, -⟩ := slot_mem_settle_iff.1 hmem
      exact ⟨hgiven, hused⟩
  fun_induction settle given used pieces generalizing before with
  | case1 => simp at h
  | case2 used c rest ih =>
    rcases before with _ | ⟨piece, before⟩
    · cases (List.cons.inj h).1
    · obtain ⟨rfl, hrest⟩ := List.cons.inj h
      obtain ⟨front, back, rfl, hfront, htext⟩ := ih hrest
      exact ⟨.char c :: front, back, rfl, by simpa using hfront,
        by rw [List.flatMap_cons, List.flatMap_cons, htext]⟩
  | case3 used q rest hq ih =>
    rcases before with _ | ⟨piece, before⟩
    · obtain ⟨hpq, -⟩ := List.cons.inj h
      cases hpq
      exact ⟨[], rest, rfl, by simp, rfl⟩
    · obtain ⟨rfl, hrest⟩ := List.cons.inj h
      -- What is filled in behind a slot belongs to another placeholder.
      have hne : p ≠ q := fun hpq => (hsettled _ _ _ _ hrest).2 (by simp [hpq])
      obtain ⟨front, back, rfl, hfront, htext⟩ := ih hrest
      exact ⟨.slot q :: front, back, rfl, by simp [hne, hfront],
        by rw [List.flatMap_cons, List.flatMap_cons, htext]⟩
  | case4 used q rest hq ih =>
    obtain ⟨before, rfl, hrest⟩ :=
      exists_of_append_eq_append_cons (slot_notMem_map_char p q.chars) h
    have hne : p ≠ q := fun hpq => hq (hpq ▸ hsettled _ _ _ _ hrest)
    obtain ⟨front, back, rfl, hfront, htext⟩ := ih hrest
    refine ⟨.slot q :: front, back, rfl, by simp [hne, hfront], ?_⟩
    rw [List.flatMap_cons, List.flatMap_append, flatMap_map_char fun _ => rfl, htext]
    rfl

/-- The first slot of a placeholder is the leftmost place where it stands. -/
theorem leftmost_of_first (h : ofChars cs = before ++ .slot p :: behind) (hp : .slot p ∉ before) :
    Leftmost p.chars (before.flatMap chars) cs := by
  refine ⟨⟨behind.flatMap chars, ?_⟩, fun other rest hother => ?_⟩
  · have hcs := chars_pieces cs
    rw [h, List.flatMap_append, List.flatMap_cons] at hcs
    exact hcs.symm
  · obtain ⟨front, back, hpieces, rfl⟩ := exists_slot_of_append hother
    obtain ⟨front, rfl, -⟩ := exists_of_append_eq_append_cons hp (h.symm.trans hpieces)
    rw [List.flatMap_append, List.length_append]
    exact Nat.le_add_right _ _

theorem firstSlots_settle (given : Placeholder → Bool) (cs : List Char) :
    FirstSlots given cs (settle given [] (ofChars cs)) where
  text := by rw [flatMap_chars_settle, chars_pieces]
  slot_iff p := by simp [slot_mem_settle_iff, slot_mem_ofChars_iff]
  leftmost p before behind h := by
    obtain ⟨front, back, hpieces, hfront, htext⟩ := exists_first_of_settle h
    rw [← htext]
    exact leftmost_of_first hpieces hfront

end TemplatePiece

namespace Template

open TemplatePiece

/-- A text that holds the named placeholders is refused for nothing else. -/
theorem make_eq_ok_iff {text : String} {placeholders : List String} {t : Template} :
    make text placeholders = .ok t ↔ t.text = text ∧ t.placeholders = placeholders := by
  constructor
  · intro h
    unfold make at h
    split at h
    · cases h
      exact ⟨rfl, rfl⟩
    · cases h
  · rintro ⟨rfl, rfl⟩
    have hmissing : t.placeholders.filter (!holdsPlaceholder t.text ·) = [] :=
      List.filter_eq_nil_iff.2 fun name hname => by simp [t.complete name hname]
    exact dif_pos hmissing

/-- A template that was checked for the four placeholders holds each of them. -/
theorem chars_infix_of_make {text : String} {t : Template}
    (h : make text standardNames = .ok t) (p : Placeholder) : p.chars <:+: t.text.toList := by
  have hp : p.name ∈ t.placeholders := by
    rw [(make_eq_ok_iff.1 h).2]
    exact List.mem_map_of_mem (by cases p <;> decide)
  exact occursIn_eq_true_iff.1 (t.complete p.name hp)

/-- A template renders as its text with the values in the first places of the placeholders that they
are given for. Of a template that was checked for the four placeholders, and with values for all of
them, each placeholder is replaced exactly once. -/
theorem render_firstSlots (t : Template) (values : Placeholder → Option String) :
    ∃ pieces, FirstSlots (fun p => (values p).isSome) t.text.toList pieces ∧
      (∀ other, FirstSlots (fun p => (values p).isSome) t.text.toList other → other = pieces) ∧
      (t.render values).toList = pieces.flatMap (filled fun p => (values p).map String.toList) ∧
      (∀ p, .slot p ∈ pieces → pieces.count (.slot p) = 1) ∧
      ∀ text, make text standardNames = .ok t → (∀ p, (values p).isSome = true) →
        ∀ p, pieces.count (.slot p) = 1 := by
  have hfirst := firstSlots_settle (fun p => (values p).isSome) t.text.toList
  refine ⟨_, hfirst, fun _ hother => hfirst.eq hother, ?_, fun p hp => hfirst.count_eq_one hp,
    fun text hmake hvalues p => ?_⟩
  · rw [render, String.toList_ofList, fill_eq_flatMap_settle]
    simp only [Option.isSome_map]
  · exact hfirst.count_eq_one ((hfirst.slot_iff p).2 ⟨hvalues p, chars_infix_of_make hmake p⟩)

/-- A title that looks like a placeholder, and a second place for it. -/
theorem render_firstSlots_repeated :
    let text := "\x7b\x7btitle\x7d \x7btitle\x7d\x7berror\x7d\x7bsnippet\x7d\x7bariaSnapshot\x7d"
    let values : Placeholder → Option String :=
      fun p => some (if p = .title then "\x7berror\x7d" else "")
    ∃ t, make text standardNames = .ok t ∧ (∀ p, (values p).isSome = true) ∧
      ∃ pieces, FirstSlots (fun _ => true) text.toList pieces ∧
        (t.render values).toList = pieces.flatMap (filled fun p => (values p).map String.toList) ∧
        ∀ p, pieces.count (.slot p) = 1 := by
  intro text values
  have hheld : ∀ name ∈ standardNames, holdsPlaceholder text name = true := by decide +kernel
  have hmake : make text standardNames = .ok ⟨text, standardNames, hheld⟩ :=
    make_eq_ok_iff.2 ⟨rfl, rfl⟩
  obtain ⟨pieces, hfirst, -, hrender, -, honce⟩ :=
    render_firstSlots ⟨text, standardNames, hheld⟩ values
  exact ⟨_, hmake, fun _ => rfl, pieces, hfirst, hrender, honce text hmake fun _ => rfl⟩

end Template

end FailurePrompt
