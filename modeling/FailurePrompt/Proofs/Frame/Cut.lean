import Mathlib.Data.Nat.Find
import FailurePrompt.Proofs.Frame.Balance
import FailurePrompt.Proofs.Frame.Division

/-!
# Where a file is cut

The scan from the end of a file can be told from counts alone. From each index on, count the
parentheses that open after a space and those that close. If no index has more of the former, the
file is left as it is; otherwise it is cut at the last such index. The main statement,
`balance_counts`, says so, that the cut loses nothing of the text, and that a file is not cut twice.
-/

namespace FailurePrompt.Frame

variable {cs file : List Char} {functionName : Option (List Char)} {k : Nat}

/-! ### Counting from an index -/

/-- The indices of a text from `k` on. The first of all is left out, for nothing stands before
it. -/
def indicesFrom (cs : List Char) (k : Nat) : List Nat :=
  List.range' (max k 1) (cs.length - max k 1)

/-- How many parentheses open after a space from an index on. -/
def opensFrom (cs : List Char) (k : Nat) : Nat :=
  (indicesFrom cs k).countP fun i => cs[i]? == some '(' && cs[i - 1]? == some ' '

/-- How many parentheses close from an index on. -/
def closesFrom (cs : List Char) (k : Nat) : Nat :=
  (indicesFrom cs k).countP fun i => cs[i]? == some ')'

/-- The last index from which more is opened than closed. -/
structure IsCut (cs : List Char) (k : Nat) : Prop where
  lt : closesFrom cs k < opensFrom cs k
  le_of_lt : ∀ j, k < j → opensFrom cs j ≤ closesFrom cs j

theorem indicesFrom_of_le (h : cs.length ≤ k) : indicesFrom cs k = [] := by
  rw [indicesFrom, Nat.sub_eq_zero_of_le (Nat.le_trans h (Nat.le_max_left ..))]
  rfl

theorem indicesFrom_succ (h : k + 1 < cs.length) :
    indicesFrom cs (k + 1) = (k + 1) :: indicesFrom cs (k + 2) := by
  have hlength : cs.length - (k + 1) = cs.length - (k + 2) + 1 := by omega
  rw [indicesFrom, indicesFrom, Nat.max_eq_left (by omega), Nat.max_eq_left (by omega), hlength]
  rfl

/-- What closes from an index on is what the text from there on closes. -/
theorem closesFrom_succ (cs : List Char) (k : Nat) :
    closesFrom cs (k + 1) = (cs.drop (k + 1)).count ')' := by
  induction hn : cs.length - k generalizing k with
  | zero =>
    rw [closesFrom, indicesFrom_of_le (by omega), List.drop_eq_nil_of_le (by omega)]
    rfl
  | succ n ih =>
    by_cases h : k + 1 < cs.length
    · have hrest := ih (k + 1) (by omega)
      rw [closesFrom] at hrest ⊢
      rw [indicesFrom_succ h, List.countP_cons, hrest, List.drop_eq_getElem_cons h,
        List.count_cons, List.getElem?_eq_getElem h]
      rfl
    · rw [closesFrom, indicesFrom_of_le (by omega), List.drop_eq_nil_of_le (by omega)]
      rfl

/-- What opens from an index on is what the text from the index before opens. -/
theorem opensFrom_succ (cs : List Char) (k : Nat) :
    opensFrom cs (k + 1) = openCount (cs.drop k) := by
  induction hn : cs.length - k generalizing k with
  | zero =>
    rw [opensFrom, indicesFrom_of_le (by omega), List.drop_eq_nil_of_le (by omega)]
    rfl
  | succ n ih =>
    have hk : k < cs.length := by omega
    rw [List.drop_eq_getElem_cons hk]
    by_cases h : k + 1 < cs.length
    · have hrest := ih (k + 1) (by omega)
      rw [opensFrom] at hrest ⊢
      rw [indicesFrom_succ h, List.countP_cons, hrest, List.drop_eq_getElem_cons h,
        openCount_cons_cons, Nat.add_sub_cancel, List.getElem?_eq_getElem h,
        List.getElem?_eq_getElem hk]
      simp [and_comm]
    · rw [opensFrom, indicesFrom_of_le (by omega), List.drop_eq_nil_of_le (by omega)]
      rfl

/-! ### The cut -/

/-- A file from each of whose indices no more is opened than closed answers its openings. -/
theorem answered_of_le (h : ∀ j, k < j → opensFrom cs j ≤ closesFrom cs j) :
    Answered (cs.drop k) := fun s hs => by
  rw [List.suffix_iff_eq_drop.1 hs, List.drop_drop]
  generalize (cs.drop k).length - s.length = i
  have hle := h (k + i + 1) (by omega)
  rw [opensFrom_succ, closesFrom_succ] at hle
  have hdrop : (cs.drop (k + i + 1)).count ')' ≤ (cs.drop (k + i)).count ')' :=
    (List.drop_sublist_drop_left cs (by omega)).count_le ')'
  exact Nat.le_trans hle hdrop

/-- At the cut a parenthesis opens after a space, and the text after it leaves it unanswered. -/
theorem IsCut.exists_eq_append (h : IsCut cs k) :
    ∃ before, cs = before ++ (opening ++ cs.drop (k + 1)) ∧
      Answered ('(' :: cs.drop (k + 1)) ∧
      (cs.drop (k + 1)).count ')' < openCount (' ' :: '(' :: cs.drop (k + 1)) := by
  rcases k with _ | k
  · exact absurd h.lt (Nat.not_lt.2 (h.le_of_lt 1 Nat.one_pos))
  have hlt := h.lt
  have hle := h.le_of_lt (k + 2) (Nat.lt_succ_self _)
  rw [closesFrom_succ, opensFrom_succ] at hlt hle
  have hanswered := answered_of_le h.le_of_lt
  rcases hdrop : cs.drop k with _ | ⟨c, _ | ⟨d, rest⟩⟩
  · simp [hdrop] at hlt
  · simp [hdrop] at hlt
  · have hsecond : cs.drop (k + 1) = d :: rest := by rw [← List.tail_drop, hdrop]; rfl
    have hrest : cs.drop (k + 1 + 1) = rest := by rw [← List.tail_drop, hsecond]; rfl
    rw [hdrop, hsecond, openCount_cons_cons] at hlt
    rw [hsecond, hrest] at hle
    have hcount : rest.count ')' ≤ (d :: rest).count ')' :=
      (List.sublist_cons_self d rest).count_le ')'
    -- Only the parenthesis itself makes the difference between this index and the next.
    obtain ⟨rfl, rfl⟩ : c = ' ' ∧ d = '(' := by
      by_contra hne
      rw [if_neg hne] at hlt
      omega
    rw [hrest]
    refine ⟨cs.take k, ?_, hsecond ▸ hanswered, ?_⟩
    · rw [opening, List.cons_append, List.singleton_append, ← hdrop, List.take_append_drop]
    · rw [openCount_cons_cons]
      simpa using hlt

theorem IsCut.length_drop_lt (h : IsCut cs k) : (cs.drop (k + 1)).length < cs.length := by
  obtain ⟨before, hcs, -⟩ := h.exists_eq_append
  have hlength := congrArg List.length hcs
  simp only [opening, List.length_append, List.length_cons, List.length_nil] at hlength
  omega

/-- There is a cut, unless no more is opened than closed from any index. -/
theorem exists_isCut (h : ¬∀ k, opensFrom cs k ≤ closesFrom cs k) : ∃ k, IsCut cs k := by
  simp only [not_forall, not_le] at h
  obtain ⟨k, hk⟩ := h
  have hbound : ∀ j, closesFrom cs j < opensFrom cs j → j ≤ cs.length := by
    intro j hj
    by_contra hlt
    rw [opensFrom, indicesFrom_of_le (by omega)] at hj
    simp at hj
  refine ⟨Nat.findGreatest (fun j => closesFrom cs j < opensFrom cs j) cs.length, ?_, ?_⟩
  · exact Nat.findGreatest_spec (P := fun j => closesFrom cs j < opensFrom cs j) (hbound k hk) hk
  · intro j hlt
    by_contra hj
    refine absurd hlt (Nat.not_lt.2 ?_)
    exact Nat.le_findGreatest (hbound j (Nat.not_le.1 hj)) (Nat.not_le.1 hj)

/-- A file is cut behind the parenthesis, and what stands before goes to the name. -/
theorem IsCut.exists_balance_eq (h : IsCut file k) (functionName : Option (List Char)) :
    ∃ name, balance functionName file = (some name, file.drop (k + 1)) ∧
      (∀ given, functionName = some given → given ≠ [] →
        name ++ (opening ++ file.drop (k + 1)) = given ++ (opening ++ file)) ∧
      (functionName.getD [] = [] → name ++ (opening ++ file.drop (k + 1)) = '(' :: file) := by
  obtain ⟨before, hfile, hanswered, hopen⟩ := h.exists_eq_append
  generalize file.drop (k + 1) = after at hfile hanswered hopen ⊢
  have hs : splitUnanswered 0 [] (before ++ (opening ++ after)).reverse = some (before, after) :=
    splitUnanswered_of_unanswered hanswered hopen
  simp only [hfile, balance, hs]
  rcases functionName with _ | _ | ⟨c, given⟩
  · exact ⟨_, rfl, fun _ he => by simp at he, fun _ => by simp⟩
  · exact ⟨_, rfl, fun _ he hne => absurd (Option.some.inj he).symm hne, fun _ => by simp⟩
  · refine ⟨_, rfl, fun _ he _ => ?_, fun he => by simp at he⟩
    rw [← Option.some.inj he]
    simp [opening]

/-- A file is left as it is exactly if from no index more is opened than closed. Otherwise it is
cut at the last such index: the file begins behind it, and what stands before is moved to the name,
so that nothing of the text is lost. What comes out is left as it is. -/
theorem balance_counts (functionName : Option (List Char)) (file : List Char) :
    (balance functionName file = (functionName, file) ↔
      ∀ k, opensFrom file k ≤ closesFrom file k) ∧
    ((¬∀ k, opensFrom file k ≤ closesFrom file k) →
      ∃ k name, IsCut file k ∧ balance functionName file = (some name, file.drop (k + 1)) ∧
        (∀ given, functionName = some given → given ≠ [] →
          name ++ (opening ++ file.drop (k + 1)) = given ++ (opening ++ file)) ∧
        (functionName.getD [] = [] →
          name ++ (opening ++ file.drop (k + 1)) = '(' :: file)) ∧
    balance (balance functionName file).1 (balance functionName file).2 =
      balance functionName file := by
  by_cases hle : ∀ k, opensFrom file k ≤ closesFrom file k
  · have hself : balance functionName file = (functionName, file) :=
      balance_eq_self (answered_of_le fun j (_ : 0 < j) => hle j)
    refine ⟨iff_of_true hself hle, fun h => absurd hle h, ?_⟩
    rw [hself, hself]
  · obtain ⟨k, hcut⟩ := exists_isCut hle
    obtain ⟨name, hbalance, hgiven, hmissing⟩ := hcut.exists_balance_eq functionName
    refine ⟨iff_of_false (fun hself => ?_) hle,
      fun _ => ⟨k, name, hcut, hbalance, hgiven, hmissing⟩, ?_⟩
    · rw [hbalance] at hself
      have hlt := hcut.length_drop_lt
      rw [(Prod.mk.inj hself).2] at hlt
      exact absurd hlt (Nat.lt_irrefl _)
    · rw [hbalance]
      have hanswered := answered_of_le fun j (hj : k + 1 < j) => hcut.le_of_lt j (by omega)
      exact balance_eq_self hanswered

/-- A clause that was cut at its first parenthesis instead of its last. -/
theorem balance_counts_alias :
    let name := ['f', 'n']
    let file := ['a', '.', 'j', 's', ':', '1', ')', ' ', '(', 'b', '.', 'j', 's']
    closesFrom file 8 < opensFrom file 8 ∧
      ∃ k lead, IsCut file k ∧ balance (some name) file = (some lead, file.drop (k + 1)) ∧
        lead ++ (opening ++ file.drop (k + 1)) = name ++ (opening ++ file) := by
  intro name file
  have hlt : closesFrom file 8 < opensFrom file 8 := by decide
  obtain ⟨k, lead, hcut, hbalance, hgiven, -⟩ :=
    (balance_counts (some name) file).2.1 fun hle => absurd hlt (Nat.not_lt.2 (hle 8))
  exact ⟨hlt, k, lead, hcut, hbalance, hgiven name rfl (by decide)⟩

end FailurePrompt.Frame
