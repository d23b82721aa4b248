/-!
# Balancing parentheses

When the clause in parentheses at the end of a frame line was cut at the wrong opening
parenthesis, its file part holds an opening parenthesis too many. `balance` finds the last one
that no closing one answers and moves everything before it onto the function name. Only a
parenthesis after a space opens a clause, while every closing one counts. The main statement is
that a text without such a parenthesis is left as it is.
-/

namespace FailurePrompt.Frame

/-- Looks from the end of a text for the last parenthesis after a space that is not answered. The
first argument counts the closing parentheses still to be answered, the second is the text passed
over, the third the text before it in reverse. The answer is the text before the space and the
text after the parenthesis. -/
def splitUnanswered : Nat → List Char → List Char → Option (List Char × List Char)
  | _, _, [] => none
  | closes, passed, ')' :: before => splitUnanswered (closes + 1) (')' :: passed) before
  | 0, passed, '(' :: ' ' :: before => some (before.reverse, passed)
  | closes + 1, passed, '(' :: ' ' :: before =>
    splitUnanswered closes ('(' :: passed) (' ' :: before)
  | closes, passed, c :: before => splitUnanswered closes (c :: passed) before

/-- The function name and the file with the part before an unanswered parenthesis moved from the
file to the name. -/
def balance (functionName : Option (List Char)) (file : List Char) :
    Option (List Char) × List Char :=
  match splitUnanswered 0 [] file.reverse with
  | none => (functionName, file)
  | some (before, after) =>
    let lead := match functionName with
      | none => []
      | some [] => []
      | some name => name ++ [' ']
    (some (lead ++ '(' :: before), after)

private theorem splitUnanswered_of_not_mem {closes : Nat} {passed before : List Char}
    (h : '(' ∉ before) : splitUnanswered closes passed before = none := by
  induction before generalizing closes passed with
  | nil => unfold splitUnanswered; rfl
  | cons c before ih =>
    have hc : c ≠ '(' := fun hc => h (hc ▸ List.mem_cons_self ..)
    have hb : '(' ∉ before := fun hb => h (List.mem_cons_of_mem _ hb)
    unfold splitUnanswered
    split <;> simp_all

/-- A file without an opening parenthesis is left as it is. -/
theorem balance_of_not_mem {functionName : Option (List Char)} {file : List Char}
    (h : '(' ∉ file) : balance functionName file = (functionName, file) := by
  have hs : splitUnanswered 0 [] file.reverse = none :=
    splitUnanswered_of_not_mem (by simpa using h)
  simp only [balance, hs]

end FailurePrompt.Frame
