import FailurePrompt.Proofs.Frame.Balance
import FailurePrompt.Proofs.Frame.Division

/-!
# Matched parentheses

A path may hold parentheses as long as they are matched, and then the scan from its end passes over
all of it. It counts every closing parenthesis but only the opening ones that stand after a space,
so at the start of the path something may still wait. `Spaced` says that nothing does. The main
statements are on a path after a word in parentheses: `balance_wordFile` gives the word to the name
if the path is spaced, and by `answered_wordFile` the scan finds no place to cut otherwise.
-/

namespace FailurePrompt.Frame

variable {cs name word file : List Char}

/-! ### Matched parentheses -/

/-- The parentheses of the text are matched: nothing is closed before it is opened, and everything
that is opened is closed. -/
structure Matched (cs : List Char) : Prop where
  count_eq : cs.count '(' = cs.count ')'
  count_le : ∀ lead, lead <+: cs → lead.count ')' ≤ lead.count '('

instance (cs : List Char) : Decidable (Matched cs) :=
  decidable_of_iff (cs.count '(' = cs.count ')' ∧
      ∀ i < cs.length + 1, (cs.take i).count ')' ≤ (cs.take i).count '(')
    ⟨fun h => ⟨h.1, fun lead hlead => by
      rw [List.prefix_iff_eq_take.1 hlead]
      exact h.2 _ (Nat.lt_succ_of_le hlead.length_le)⟩,
      fun h => ⟨h.1, fun i _ => h.2 _ (List.take_prefix i cs)⟩⟩

theorem Matched.count_le_of_suffix (h : Matched cs) {tail : List Char} (ht : tail <:+ cs) :
    tail.count '(' ≤ tail.count ')' := by
  obtain ⟨lead, rfl⟩ := ht
  have heq := h.count_eq
  have hle := h.count_le lead (List.prefix_append ..)
  rw [List.count_append, List.count_append] at heq
  omega

/-- Every opening parenthesis stands after a space. -/
def Spaced (cs : List Char) : Prop :=
  ∀ lead rest, cs = lead ++ '(' :: rest → lead.getLast? = some ' '

/-- The scan counts some of the opening parentheses. -/
theorem openCount_cons_le (c : Char) (cs : List Char) : openCount (c :: cs) ≤ cs.count '(' := by
  induction cs generalizing c with
  | nil => simp
  | cons d cs ih =>
    have hd := ih d
    rw [openCount_cons_cons, List.count_cons]
    grind

theorem openCount_le (cs : List Char) : openCount cs ≤ cs.count '(' := by
  rcases cs with _ | ⟨c, cs⟩
  · simp
  · exact Nat.le_trans (openCount_cons_le c cs) ((List.sublist_cons_self c cs).count_le '(')

private theorem forall_getLast?_cons_iff {c d : Char} :
    (∀ lead rest, d :: cs = lead ++ '(' :: rest → (c :: lead).getLast? = some ' ') ↔
      (d = '(' → c = ' ') ∧
        ∀ lead rest, cs = lead ++ '(' :: rest → (d :: lead).getLast? = some ' ' := by
  constructor
  · intro h
    refine ⟨?_, ?_⟩
    · rintro rfl
      simpa using h [] cs rfl
    · rintro lead rest rfl
      simpa using h (d :: lead) rest rfl
  · rintro ⟨hfirst, hrest⟩ (_ | ⟨e, lead⟩) rest he
    · obtain ⟨rfl, -⟩ := List.cons.inj he
      simp [hfirst rfl]
    · obtain ⟨rfl, rfl⟩ := List.cons.inj he
      simpa using hrest lead rest rfl

private theorem openCount_cons_eq_iff (c : Char) (cs : List Char) :
    openCount (c :: cs) = cs.count '(' ↔
      ∀ lead rest, cs = lead ++ '(' :: rest → (c :: lead).getLast? = some ' ' := by
  induction cs generalizing c with
  | nil => simp
  | cons d cs ih =>
    have hle := openCount_cons_le d cs
    rw [forall_getLast?_cons_iff, ← ih d, openCount_cons_cons, List.count_cons]
    grind

/-- The scan counts all of them exactly if they all stand after a space. -/
theorem openCount_eq_iff_spaced : openCount cs = cs.count '(' ↔ Spaced cs := by
  rcases cs with _ | ⟨c, cs⟩
  · exact iff_of_true rfl fun lead rest he => by simp at he
  by_cases hc : c = '('
  · subst hc
    have hle := openCount_cons_le '(' cs
    rw [List.count_cons_self]
    exact iff_of_false (by omega) fun h => by simpa using h [] cs rfl
  · rw [List.count_cons_of_ne hc, openCount_cons_eq_iff]
    constructor
    · rintro h (_ | ⟨d, lead⟩) rest he
      · exact absurd (List.cons.inj he).1 hc
      · obtain ⟨rfl, rfl⟩ := List.cons.inj he
        exact h lead rest rfl
    · rintro h lead rest rfl
      exact h (c :: lead) rest rfl

theorem Matched.answered (h : Matched cs) : Answered cs := fun s hs =>
  Nat.le_trans (openCount_le s) (h.count_le_of_suffix hs)

/-! ### A clause after a word in parentheses -/

theorem openCount_cons_of_ne {c : Char} (hc : c ≠ ' ') (cs : List Char) :
    openCount (c :: cs) = openCount cs := by
  rcases cs with _ | ⟨d, cs⟩
  · rfl
  · rw [openCount_cons_cons, if_neg (fun h => hc h.1), Nat.add_zero]

theorem Answered.cons {c : Char} (h : Answered cs)
    (hc : openCount (c :: cs) ≤ (c :: cs).count ')') : Answered (c :: cs) := fun s hs => by
  rcases List.suffix_cons_iff.1 hs with rfl | hs
  · exact hc
  · exact h s hs

/-- A text without openings in front of one that answers them. -/
theorem Answered.append {lead : List Char} (h : Answered cs) (hlead : '(' ∉ lead)
    (hhead : cs.head? ≠ some '(') : Answered (lead ++ cs) := by
  induction lead with
  | nil => exact h
  | cons c lead ih =>
    obtain ⟨-, hlead⟩ : '(' ≠ c ∧ '(' ∉ lead := by simpa using hlead
    have hrest := ih hlead
    have hnext : (lead ++ cs).head? ≠ some '(' := by
      rcases lead with _ | ⟨d, lead⟩
      · exact hhead
      · simpa using fun (he : d = '(') => hlead (he ▸ List.mem_cons_self)
    refine hrest.cons ?_
    have hcount : openCount (c :: (lead ++ cs)) = openCount (lead ++ cs) := by
      rcases hl : lead ++ cs with _ | ⟨d, rest⟩
      · rfl
      · rw [openCount_cons_cons, if_neg, Nat.add_zero]
        rintro ⟨-, rfl⟩
        simp [hl] at hnext
    rw [hcount]
    exact Nat.le_trans (hrest _ (List.suffix_refl _))
      ((List.sublist_cons_self c _).count_le ')')

/-- What is read as the file of a clause that follows a word in parentheses. -/
def wordFile (word file : List Char) : List Char := word ++ (')' :: (opening ++ file))

/-- A name with a word in parentheses after it. -/
def wordName (name word : List Char) : List Char := name ++ (opening ++ (word ++ [')']))

theorem Matched.answered_cons_open (h : Matched file) : Answered ('(' :: file) := by
  refine h.answered.cons ?_
  rw [openCount_cons_of_ne (by decide), List.count_cons_of_ne (by decide)]
  exact h.answered file (List.suffix_refl file)

/-- If every parenthesis of the path stands after a space, the scan finds the end of the word. -/
theorem balance_wordFile (hname : name ≠ []) (hfile : Matched file) (hspaced : Spaced file) :
    balance (some name) (wordFile word file) = (some (wordName name word), file) := by
  have hopen : file.count ')' < openCount (' ' :: '(' :: file) := by
    rw [openCount_cons_cons, if_pos ⟨rfl, rfl⟩, openCount_cons_of_ne (by decide),
      openCount_eq_iff_spaced.2 hspaced, hfile.count_eq]
    exact Nat.lt_succ_self _
  have hs := @splitUnanswered_of_unanswered (word ++ [')']) file hfile.answered_cons_open hopen
  have hfile : wordFile word file = (word ++ [')']) ++ ' ' :: '(' :: file := by
    simp [wordFile, opening]
  obtain ⟨c, name, rfl⟩ := List.exists_cons_of_ne_nil hname
  simp only [balance, hfile, hs]
  simp [wordName, opening]

/-- Otherwise something of the path waits, and the word and the path stay together. -/
theorem answered_wordFile (hword : '(' ∉ word) (hfile : Matched file) (hspaced : ¬Spaced file) :
    Answered (wordFile word file) := by
  have hlt : openCount file + 1 ≤ file.count ')' := by
    have hle := openCount_le file
    have hne := mt openCount_eq_iff_spaced.1 hspaced
    have hcount := hfile.count_eq
    omega
  have hspace : Answered (' ' :: '(' :: file) := by
    refine hfile.answered_cons_open.cons ?_
    rw [openCount_cons_cons, if_pos ⟨rfl, rfl⟩, openCount_cons_of_ne (by decide),
      List.count_cons_of_ne (by decide), List.count_cons_of_ne (by decide)]
    exact hlt
  have hclose : Answered (')' :: ' ' :: '(' :: file) := by
    refine hspace.cons ?_
    rw [openCount_cons_of_ne (by decide), List.count_cons_self]
    exact Nat.le_succ_of_le (hspace _ (List.suffix_refl _))
  exact hclose.append hword (by simp)

end FailurePrompt.Frame
