import FailurePrompt.Frame.Balance

/-!
# Counting parentheses

A parenthesis opens a clause when it stands after a space. `openCount` counts such parentheses. The
scan from the end of a text keeps the number of closing parentheses that wait for an answer, so it
finds an unanswered one only where some suffix has more openings than closings. The main statements
are `balance_eq_self`, that a text without such a suffix is left as it is, and
`splitUnanswered_of_unanswered`, that the scan stops where the last such suffix begins.
-/

namespace FailurePrompt.Frame

/-- The number of opening parentheses that stand after a space. -/
def openCount (cs : List Char) : Nat := (cs.zip cs.tail).count (' ', '(')

@[simp] theorem openCount_nil : openCount [] = 0 := rfl

@[simp] theorem openCount_singleton (c : Char) : openCount [c] = 0 := rfl

theorem openCount_cons_cons (c d : Char) (cs : List Char) :
    openCount (c :: d :: cs) =
      openCount (d :: cs) + if c = ' ' ∧ d = '(' then 1 else 0 := by
  simp [openCount, List.count_cons, Prod.ext_iff]

/-- Every suffix of the text answers its openings. -/
def Answered (cs : List Char) : Prop :=
  ∀ s, s <:+ cs → openCount s ≤ s.count ')'

instance (cs : List Char) : Decidable (Answered cs) :=
  decidable_of_iff (∀ i < cs.length + 1, openCount (cs.drop i) ≤ (cs.drop i).count ')')
    ⟨fun h s hs => by
      rw [List.suffix_iff_eq_drop.1 hs]
      exact h _ (by omega), fun h i _ => h _ (List.drop_suffix i cs)⟩

/-- The invariant of the scan: what waits is what the text passed over closes and does not open.
A parenthesis at its head counts once the space before it is known. -/
def Waiting (closes : Nat) (passed before : List Char) : Prop :=
  closes + openCount (before.head?.toList ++ passed) = passed.count ')'

/-- A character in front opens nothing unless it is a space before a parenthesis. -/
private theorem openCount_head_append {before passed : List Char} {c : Char}
    (h : before.head? = some ' ' → c ≠ '(') :
    openCount (before.head?.toList ++ c :: passed) = openCount (c :: passed) := by
  rcases before with _ | ⟨d, before⟩
  · rfl
  · have hcd : ¬(d = ' ' ∧ c = '(') := fun ⟨hd, hc⟩ => h (by simp [hd]) hc
    change openCount (d :: c :: passed) = _
    rw [openCount_cons_cons, if_neg hcd, Nat.add_zero]

/-- One step of the scan: a character is passed over, unless it opens what nothing answers. -/
theorem exists_waiting_of_cons {closes : Nat} {passed before : List Char} {c : Char}
    (hw : Waiting closes passed (c :: before))
    (h : before.head? = some ' ' → openCount (' ' :: c :: passed) ≤ (c :: passed).count ')') :
    ∃ closes', Waiting closes' (c :: passed) before ∧
      splitUnanswered closes passed (c :: before) =
        splitUnanswered closes' (c :: passed) before := by
  have hcount : closes + openCount (c :: passed) = passed.count ')' := hw
  by_cases hclose : c = ')'
  · subst hclose
    refine ⟨closes + 1, ?_, by rw [splitUnanswered]⟩
    rw [Waiting, openCount_head_append (by simp), List.count_cons_self]
    omega
  by_cases hopen : c = '(' ∧ before.head? = some ' '
  · obtain ⟨rfl, hspace⟩ := hopen
    have hle := h hspace
    obtain ⟨before, rfl⟩ := List.head?_eq_some_iff.1 hspace
    rw [openCount_cons_cons, if_pos ⟨rfl, rfl⟩, List.count_cons_of_ne hclose] at hle
    -- Something waits, for otherwise the text from this space on would open too much.
    obtain ⟨closes, rfl⟩ : ∃ n, closes = n + 1 := ⟨closes - 1, by omega⟩
    refine ⟨closes, ?_, by rw [splitUnanswered]⟩
    change closes + openCount (' ' :: '(' :: passed) = ('(' :: passed).count ')'
    rw [openCount_cons_cons, if_pos ⟨rfl, rfl⟩, List.count_cons_of_ne hclose]
    omega
  · have hhead : before.head? = some ' ' → c ≠ '(' := fun hspace hc => hopen ⟨hc, hspace⟩
    refine ⟨closes, ?_, ?_⟩
    · rw [Waiting, openCount_head_append hhead, List.count_cons_of_ne hclose]
      exact hcount
    · have hno : ∀ rest, c = '(' → before ≠ ' ' :: rest := by
        rintro rest hc rfl
        exact hhead rfl hc
      rw [splitUnanswered] <;> grind

/-- The scan passes over a text whose suffixes answer their openings. -/
theorem exists_waiting_of_append {closes : Nat} {passed scanned before : List Char}
    (hw : Waiting closes passed (scanned ++ before))
    (h : Answered (before.head?.toList ++ (scanned.reverse ++ passed))) :
    ∃ closes', Waiting closes' (scanned.reverse ++ passed) before ∧
      splitUnanswered closes passed (scanned ++ before) =
        splitUnanswered closes' (scanned.reverse ++ passed) before := by
  induction scanned generalizing closes passed with
  | nil => exact ⟨closes, hw, rfl⟩
  | cons c scanned ih =>
    rw [List.reverse_cons, List.append_assoc, List.singleton_append] at h ⊢
    have hstep : (scanned ++ before).head? = some ' ' →
        openCount (' ' :: c :: passed) ≤ (c :: passed).count ')' := by
      intro hspace
      have hsuffix : ' ' :: c :: passed <:+
          before.head?.toList ++ (scanned.reverse ++ c :: passed) := by
        rcases scanned with _ | ⟨d, scanned⟩
        · have hhead : before.head? = some ' ' := hspace
          simp [hhead]
        · obtain rfl : d = ' ' := by simpa using hspace
          exact ⟨before.head?.toList ++ scanned.reverse, by simp⟩
      have hcount := h _ hsuffix
      rwa [List.count_cons_of_ne (by decide)] at hcount
    obtain ⟨closes₁, hw₁, he₁⟩ := exists_waiting_of_cons hw hstep
    obtain ⟨closes₂, hw₂, he₂⟩ := ih hw₁ h
    exact ⟨closes₂, hw₂, he₁.trans he₂⟩

/-- Nothing waits before the scan. -/
theorem waiting_zero (before : List Char) : Waiting 0 [] before := by
  rw [Waiting]
  rcases before with _ | ⟨c, before⟩ <;> rfl

/-- The scan stops at a parenthesis that the text after it leaves unanswered. -/
theorem splitUnanswered_of_unanswered {before after : List Char} (h : Answered ('(' :: after))
    (hopen : after.count ')' < openCount (' ' :: '(' :: after)) :
    splitUnanswered 0 [] (before ++ ' ' :: '(' :: after).reverse = some (before, after) := by
  obtain ⟨closes, hw, hs⟩ := @exists_waiting_of_append 0 [] after.reverse
    ('(' :: ' ' :: before.reverse) (waiting_zero _) (by simpa using h)
  rw [List.reverse_reverse, List.append_nil] at hw hs
  -- Nothing waits behind the parenthesis.
  obtain rfl : closes = 0 := by
    have hcount : closes + openCount ('(' :: after) = after.count ')' := hw
    rw [openCount_cons_cons, if_pos ⟨rfl, rfl⟩] at hopen
    omega
  have hreverse : (before ++ ' ' :: '(' :: after).reverse =
      after.reverse ++ '(' :: ' ' :: before.reverse := by simp
  rw [hreverse, hs, splitUnanswered, List.reverse_reverse]

/-- A file that answers its openings is left as it is. -/
theorem balance_eq_self {functionName : Option (List Char)} {file : List Char}
    (h : Answered file) : balance functionName file = (functionName, file) := by
  have hscan := @exists_waiting_of_append 0 [] file.reverse [] (waiting_zero _) (by simpa using h)
  obtain ⟨closes, -, hs⟩ := hscan
  rw [List.append_nil, splitUnanswered] at hs
  simp only [balance, hs]

end FailurePrompt.Frame
