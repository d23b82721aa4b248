import FailurePrompt.Encoding.Utf16

/-!
# Characters in UTF-16

A character is written as one unit, or as a surrogate pair if it has more than sixteen bits. A text
is read back from the bytes of its characters, in either byte order. The main statements are
`decode_charBytes_append`, which reads the character at the front, and `stands_iff`, that the two
or four bytes that are read as a character are the bytes of that character.
-/

namespace FailurePrompt.Utf16

variable {order : ByteOrder} {a b : UInt8} {bytes rest : List UInt8} {c : Char}

/-! ### The bytes of a unit -/

/-- The two bytes of a unit. -/
def unitBytes (order : ByteOrder) (u : Nat) : List UInt8 :=
  match order with
  | .little => [UInt8.ofNat u, UInt8.ofNat (u / 0x100)]
  | .big => [UInt8.ofNat (u / 0x100), UInt8.ofNat u]

theorem unit_lt (order : ByteOrder) (a b : UInt8) : order.unit a b < 0x10000 := by
  have ha := a.toNat_lt
  have hb := b.toNat_lt
  cases order <;> simp only [ByteOrder.unit] <;> omega

theorem unitBytes_unit (order : ByteOrder) (a b : UInt8) :
    unitBytes order (order.unit a b) = [a, b] := by
  have ha := a.toNat_lt
  have hb := b.toNat_lt
  cases order <;>
    simp only [unitBytes, ByteOrder.unit, List.cons.injEq, and_true, ← UInt8.toNat_inj,
      UInt8.toNat_ofNat'] <;>
    omega

theorem exists_unitBytes (order : ByteOrder) {u : Nat} (hu : u < 0x10000) :
    ∃ a b, unitBytes order u = [a, b] ∧ order.unit a b = u := by
  cases order
  · refine ⟨_, _, rfl, ?_⟩
    simp only [ByteOrder.unit, UInt8.toNat_ofNat']
    omega
  · refine ⟨_, _, rfl, ?_⟩
    simp only [ByteOrder.unit, UInt8.toNat_ofNat']
    omega

/-! ### The units of a character -/

/-- The units of a character. -/
def units (c : Char) : List Nat :=
  if c.toNat < 0x10000 then [c.toNat]
  else [0xD800 + (c.toNat - 0x10000) / 0x400, 0xDC00 + (c.toNat - 0x10000) % 0x400]

/-- The bytes of a character. -/
def charBytes (order : ByteOrder) (c : Char) : List UInt8 :=
  (units c).flatMap (unitBytes order)

/-- The bytes are read as the character. -/
inductive Stands (order : ByteOrder) : List UInt8 → Char → Prop
  | unit {a b : UInt8} (h : isHigh (order.unit a b) = false) (l : isLow (order.unit a b) = false) :
      Stands order [a, b] (Char.ofNat (order.unit a b))
  | pair {a b a' b' : UInt8} (h : isHigh (order.unit a b) = true)
      (l : isLow (order.unit a' b') = true) :
      Stands order [a, b, a', b'] (combine (order.unit a b) (order.unit a' b'))

theorem stands_charBytes (order : ByteOrder) (c : Char) : Stands order (charBytes order c) c := by
  have hvalid : c.toNat < 0xD800 ∨ 0xDFFF < c.toNat ∧ c.toNat < 0x110000 := c.valid
  rw [charBytes, units]
  split
  case isTrue hc =>
    obtain ⟨a, b, hbytes, hunit⟩ := exists_unitBytes order hc
    have h : isHigh (order.unit a b) = false := by
      simp only [isHigh, hunit, Bool.and_eq_false_iff, decide_eq_false_iff_not]
      omega
    have l : isLow (order.unit a b) = false := by
      simp only [isLow, hunit, Bool.and_eq_false_iff, decide_eq_false_iff_not]
      omega
    have hstands := Stands.unit h l
    rw [hunit, Char.ofNat_toNat] at hstands
    simpa [hbytes] using hstands
  case isFalse hc =>
    obtain ⟨a, b, hbytes, hunit⟩ :=
      @exists_unitBytes order (0xD800 + (c.toNat - 0x10000) / 0x400) (by omega)
    obtain ⟨a', b', hbytes', hunit'⟩ :=
      @exists_unitBytes order (0xDC00 + (c.toNat - 0x10000) % 0x400) (by omega)
    have h : isHigh (order.unit a b) = true := by
      simp only [isHigh, hunit, Bool.and_eq_true, decide_eq_true_eq]
      omega
    have l : isLow (order.unit a' b') = true := by
      simp only [isLow, hunit', Bool.and_eq_true, decide_eq_true_eq]
      omega
    have hcode : 0x10000 + 1024 * (0xD800 + (c.toNat - 0x10000) / 0x400 - 0xD800) +
        (0xDC00 + (c.toNat - 0x10000) % 0x400 - 0xDC00) = c.toNat := by omega
    have hstands := Stands.pair h l
    rw [hunit, hunit', combine, hcode, Char.ofNat_toNat] at hstands
    simpa [hbytes, hbytes'] using hstands

/-- Bytes are read as a character exactly if they are its bytes. -/
theorem stands_iff : Stands order bytes c ↔ bytes = charBytes order c := by
  constructor
  · rintro (⟨h, l⟩ | ⟨h, l⟩)
    · rename_i a b
      have hlt := unit_lt order a b
      have hcode : (Char.ofNat (order.unit a b)).toNat = order.unit a b := by
        simp only [isHigh, isLow, Bool.and_eq_false_iff, decide_eq_false_iff_not] at h l
        rw [Char.ofNat, dif_pos (by rw [Nat.isValidChar]; omega)]
        rfl
      rw [charBytes, units, hcode, if_pos hlt]
      simp [unitBytes_unit]
    · rename_i a b a' b'
      simp only [isHigh, isLow, Bool.and_eq_true, decide_eq_true_eq] at h l
      have hcode : (combine (order.unit a b) (order.unit a' b')).toNat =
          0x10000 + 1024 * (order.unit a b - 0xD800) + (order.unit a' b' - 0xDC00) := by
        rw [combine, Char.ofNat, dif_pos (by rw [Nat.isValidChar]; omega)]
        rfl
      have hhigh : 0xD800 + (0x10000 + 1024 * (order.unit a b - 0xD800) +
          (order.unit a' b' - 0xDC00) - 0x10000) / 0x400 = order.unit a b := by omega
      have hlow : 0xDC00 + (0x10000 + 1024 * (order.unit a b - 0xD800) +
          (order.unit a' b' - 0xDC00) - 0x10000) % 0x400 = order.unit a' b' := by omega
      rw [charBytes, units, hcode, if_neg (by omega), hhigh, hlow]
      simp [unitBytes_unit]
  · rintro rfl
    exact stands_charBytes order c

/-- The character at the front is read, and the rest after it. -/
theorem decode_charBytes_append (order : ByteOrder) (c : Char) (rest : List UInt8) :
    decode order (charBytes order c ++ rest) = c :: decode order rest := by
  have hs := stands_charBytes order c
  generalize charBytes order c = bytes at hs ⊢
  rcases hs with ⟨h, l⟩ | ⟨h, l⟩
  · exact decode_cons_cons rest h l
  · exact decode_pair rest h l

/-! ### Bytes of no character -/

/-- No character begins with a low surrogate. -/
theorem Stands.not_prefix_of_isLow (hs : Stands order bytes c)
    (h : isHigh (order.unit a b) = false) (l : isLow (order.unit a b) = true) :
    ¬bytes <+: a :: b :: rest := by
  rcases hs with ⟨h', l'⟩ | ⟨h', l'⟩ <;> rintro ⟨rest', ⟨⟩⟩
  · simp [l] at l'
  · simp [h] at h'

/-- No character begins with a high surrogate that has no low one after it. -/
theorem Stands.not_prefix_of_isHigh (hs : Stands order bytes c)
    (h : isHigh (order.unit a b) = true)
    (l : ∀ a' b' rest', rest = a' :: b' :: rest' → isLow (order.unit a' b') = false) :
    ¬bytes <+: a :: b :: rest := by
  rcases hs with ⟨h', l'⟩ | ⟨h', l'⟩ <;> rintro ⟨rest', ⟨⟩⟩
  · simp [h] at h'
  · simp [l _ _ _ rfl] at l'

/-- No character is written as one byte. -/
theorem Stands.not_prefix_singleton (hs : Stands order bytes c) : ¬bytes <+: [a] := by
  rcases hs with ⟨h', l'⟩ | ⟨h', l'⟩ <;> rintro ⟨rest', ⟨⟩⟩

end FailurePrompt.Utf16
