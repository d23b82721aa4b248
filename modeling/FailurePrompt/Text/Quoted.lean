import FailurePrompt.Text.Printable

/-!
# Quoted literals

A text is shown in a message as a quoted literal: between quotation marks, with the mark in use,
backslashes and unprintable characters escaped. The mark is the apostrophe, or the double quote
for a text that has an apostrophe and no double quote. The main statement is that quoting a text
of printable characters without backslashes or apostrophes only puts marks around it.
-/

namespace FailurePrompt.Text

/-- The last `width` hexadecimal digits of a number, in lower case and padded with zeros. -/
def hexDigits : Nat → Nat → List Char
  | 0, _ => []
  | width + 1, n => hexDigits width (n / 16) ++ [Nat.digitChar (n % 16)]

@[simp] theorem length_hexDigits (width n : Nat) : (hexDigits width n).length = width := by
  induction width generalizing n with
  | zero => rfl
  | succ width ih => simp [hexDigits, ih]

namespace Quoted

/-- The quotation mark that needs the fewest escapes, the apostrophe being preferred. -/
def mark (cs : List Char) : Char :=
  if cs.contains '\'' && !cs.contains '"' then '"' else '\''

/-- How one character is written between marks: letters stand for line feed, carriage return and
tab, and two, four or eight hexadecimal digits for any other unprintable character. -/
def escape (mark c : Char) : List Char :=
  if c == mark || c == '\\' then ['\\', c]
  else if c == '\n' then ['\\', 'n']
  else if c == '\r' then ['\\', 'r']
  else if c == '\t' then ['\\', 't']
  else if isPrintable c then [c]
  else if c.toNat < 0x100 then '\\' :: 'x' :: hexDigits 2 c.toNat
  else if c.toNat < 0x10000 then '\\' :: 'u' :: hexDigits 4 c.toNat
  else '\\' :: 'U' :: hexDigits 8 c.toNat

/-- A text as a quoted literal. -/
def encode (cs : List Char) : List Char :=
  let m := mark cs
  m :: cs.flatMap (escape m) ++ [m]

theorem mark_eq (cs : List Char) : mark cs = '"' ∨ mark cs = '\'' := by
  unfold mark
  split <;> simp

theorem mark_of_not_mem {cs : List Char} (h : '\'' ∉ cs) : mark cs = '\'' := by
  simp [mark, h]

/-- A printable character other than a backslash and the mark stands for itself. -/
theorem escape_of_isPrintable {m c : Char} (hc : isPrintable c = true) (hm : c ≠ m)
    (hb : c ≠ '\\') : escape m c = [c] := by
  have hn : c ≠ '\n' := by rintro rfl; exact absurd hc (by decide +kernel)
  have hr : c ≠ '\r' := by rintro rfl; exact absurd hc (by decide +kernel)
  have ht : c ≠ '\t' := by rintro rfl; exact absurd hc (by decide +kernel)
  simp [escape, hm, hb, hn, hr, ht, hc]

/-- Quoting a text that needs no escape puts apostrophes around it. -/
theorem encode_of_plain {cs : List Char}
    (h : ∀ c ∈ cs, isPrintable c = true ∧ c ≠ '\'' ∧ c ≠ '\\') :
    encode cs = '\'' :: cs ++ ['\''] := by
  have hm : mark cs = '\'' := mark_of_not_mem fun hq => (h _ hq).2.1 rfl
  have hflat : ∀ xs : List Char, (∀ c ∈ xs, c ∈ cs) → xs.flatMap (escape '\'') = xs := by
    intro xs
    induction xs with
    | nil => intro _; rfl
    | cons x xs ih =>
      intro hx
      have hxc := h x (hx x (List.mem_cons_self ..))
      rw [List.flatMap_cons, escape_of_isPrintable hxc.1 hxc.2.1 hxc.2.2,
        ih fun c hc => hx c (List.mem_cons_of_mem _ hc)]
      rfl
  simp only [encode, hm, hflat cs fun _ hc => hc]

end Quoted

/-- A string as a quoted literal. -/
def quote (s : String) : String :=
  String.ofList (Quoted.encode s.toList)

end FailurePrompt.Text
