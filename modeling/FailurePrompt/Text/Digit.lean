/-!
# Decimal digits and numerals

Positions in stack traces are written in decimal digits of any script: Arabic-Indic, Devanagari,
fullwidth and mathematical digits count as well as ASCII ones. `digitValue?` reads one digit,
`Numeral.value` a run of them, and `Numeral.read` refuses runs beyond `Numeral.maxDigits`, which
keeps the cost of reading a hostile number bounded.
-/

namespace FailurePrompt.Text

/-- The code points of the digit zero in every script that has ten consecutive decimal digits. -/
def digitZeros : List Nat :=
  [0x30, 0x660, 0x6F0, 0x7C0, 0x966, 0x9E6, 0xA66, 0xAE6, 0xB66, 0xBE6, 0xC66, 0xCE6, 0xD66,
   0xDE6, 0xE50, 0xED0, 0xF20, 0x1040, 0x1090, 0x17E0, 0x1810, 0x1946, 0x19D0, 0x1A80, 0x1A90,
   0x1B50, 0x1BB0, 0x1C40, 0x1C50, 0xA620, 0xA8D0, 0xA900, 0xA9D0, 0xA9F0, 0xAA50, 0xABF0,
   0xFF10, 0x104A0, 0x10D30, 0x11066, 0x110F0, 0x11136, 0x111D0, 0x112F0, 0x11450, 0x114D0,
   0x11650, 0x116C0, 0x11730, 0x118E0, 0x11950, 0x11C50, 0x11D50, 0x11DA0, 0x16A60, 0x16AC0,
   0x16B50, 0x1D7CE, 0x1D7D8, 0x1D7E2, 0x1D7EC, 0x1D7F6, 0x1E140, 0x1E2F0, 0x1E950, 0x1FBF0]

/-- The value of a decimal digit: its distance from the zero of its script. -/
def digitValue? (c : Char) : Option Nat :=
  (digitZeros.find? fun base => base ≤ c.toNat && c.toNat < base + 10).map (c.toNat - ·)

/-- A decimal digit of any script. -/
def isDigit (c : Char) : Bool :=
  (digitValue? c).isSome

theorem isDigit_iff {c : Char} : isDigit c = true ↔ ∃ n, digitValue? c = some n :=
  Option.isSome_iff_exists

/-- A digit stands for a number below ten. -/
theorem digitValue?_lt {c : Char} {n : Nat} (h : digitValue? c = some n) : n < 10 := by
  obtain ⟨base, hz, rfl⟩ := Option.map_eq_some_iff.1 h
  have := List.find?_some hz
  simp only [Bool.and_eq_true, decide_eq_true_eq] at this
  omega

/-! ### Numerals -/

namespace Numeral

/-- The longest run of digits that is read as a number. -/
def maxDigits : Nat := 4300

/-- The number that a run of digits denotes in base ten; a character that is no digit counts as
zero. -/
def value (digits : List Char) : Nat :=
  digits.foldl (fun n c => 10 * n + (digitValue? c).getD 0) 0

/-- A run of digits was too long to be read; it had `digits` of them. -/
structure TooLong where
  digits : Nat
  deriving Repr, DecidableEq

/-- The wording of the error for an overlong numeral. -/
def TooLong.message (e : TooLong) : String :=
  s!"Exceeds the limit ({maxDigits} digits) for integer string conversion: " ++
    s!"value has {e.digits} digits; use sys.set_int_max_str_digits() to increase the limit"

/-- Reads a run of digits, leading zeros included in its length. -/
def read (digits : List Char) : Except TooLong Nat :=
  if digits.length ≤ maxDigits then .ok (value digits) else .error ⟨digits.length⟩

theorem read_of_length_le {digits : List Char} (h : digits.length ≤ maxDigits) :
    read digits = .ok (value digits) :=
  if_pos h

theorem read_eq_error_iff {digits : List Char} {e : TooLong} :
    read digits = .error e ↔ maxDigits < digits.length ∧ e = ⟨digits.length⟩ := by
  unfold read
  split <;> simp_all [eq_comm, Nat.not_lt.2]

@[simp] theorem value_nil : value [] = 0 := rfl

/-- Appending a digit multiplies by ten and adds. -/
theorem value_concat (digits : List Char) (c : Char) :
    value (digits ++ [c]) = 10 * value digits + (digitValue? c).getD 0 := by
  simp [value]

end Numeral

end FailurePrompt.Text
