import FailurePrompt.Encoding.Utf8

/-!
# Characters in UTF-8

The bytes of a character are read as one piece that gives the character back, so a text is read back
from the bytes of its characters, whatever they are. No other bytes are read as a character
(`eq_append_of_piece`), and in a malformed run no character begins. Bytes beyond ASCII never stand
for a character of ASCII and never take one away. The main statements are `decodeLossy_flatMap`,
which undoes the encoding of a text, and `mem_decodeLossy_iff`, which finds a character of ASCII in
a decoded text exactly where its byte was.
-/

namespace FailurePrompt.Utf8

/-! ### The bytes of a character -/

/-- A continuation byte in range adds its six bits. -/
theorem continuation_ofNat {following low high bits taken n : Nat} {rest : List UInt8}
    (hlow : low ≤ n + 0x80) (hhigh : n + 0x80 ≤ high) (hn : n < 0x40) :
    continuation (following + 1) low high bits taken (UInt8.ofNat (n + 0x80) :: rest) =
      continuation following 0x80 0xBF (64 * bits + n) (taken + 1) rest := by
  have hbyte : (UInt8.ofNat (n + 0x80)).toNat = n + 0x80 := by
    rw [UInt8.toNat_ofNat']
    omega
  rw [continuation, hbyte, if_pos (by simp; omega), Nat.add_sub_cancel]

/-- A lead byte begins the continuation that it announces. -/
theorem piece_ofNat {n following low high bits : Nat} {rest : List UInt8} (hn : n < 0x100)
    (h : lead? n = some ⟨following, low, high, bits⟩) :
    piece (UInt8.ofNat n) rest = continuation following low high bits 1 rest := by
  have hbyte : (UInt8.ofNat n).toNat = n := by
    rw [UInt8.toNat_ofNat']
    omega
  rw [piece, hbyte, h]

theorem lead?_ascii {n : Nat} (h : n < 0x80) : lead? n = some ⟨0, 0x80, 0xBF, n⟩ :=
  if_pos h

theorem lead?_two {n : Nat} (hlow : 0xC2 ≤ n) (hhigh : n < 0xE0) :
    lead? n = some ⟨1, 0x80, 0xBF, n - 0xC0⟩ := by
  rw [lead?, if_neg (by omega), if_neg (by omega), if_pos hhigh]

theorem lead?_three {n : Nat} (hlow : 0xE0 ≤ n) (hhigh : n < 0xF0) :
    lead? n = some ⟨2, if n = 0xE0 then 0xA0 else 0x80, if n = 0xED then 0x9F else 0xBF,
      n - 0xE0⟩ := by
  rw [lead?, if_neg (by omega), if_neg (by omega), if_neg (by omega), if_pos hhigh]

theorem lead?_four {n : Nat} (hlow : 0xF0 ≤ n) (hhigh : n < 0xF5) :
    lead? n = some ⟨3, if n = 0xF0 then 0x90 else 0x80, if n = 0xF4 then 0x8F else 0xBF,
      n - 0xF0⟩ := by
  rw [lead?, if_neg (by omega), if_neg (by omega), if_neg (by omega), if_neg (by omega),
    if_pos hhigh]

/-- The bytes of a character are one piece. -/
theorem pieces_utf8EncodeChar_append (c : Char) (rest : List UInt8) :
    pieces (String.utf8EncodeChar c ++ rest) =
      .scalar c (String.utf8EncodeChar c).length :: pieces rest := by
  have hvalid : c.val.toNat < 0xD800 ∨ 0xDFFF < c.val.toNat ∧ c.val.toNat < 0x110000 := c.valid
  have hchar : Char.ofNat c.val.toNat = c := Char.ofNat_toNat c
  rw [String.utf8EncodeChar]
  generalize c.val.toNat = v at hvalid hchar ⊢
  split
  · rw [List.singleton_append, pieces_cons, piece_ofNat (by omega) (lead?_ascii (by omega)),
      continuation, hchar]
    rfl
  split
  · have hvalue : 64 * (v / 64 % 32 + 192 - 0xC0) + v % 64 = v := by omega
    simp only [List.cons_append, List.nil_append]
    rw [pieces_cons, piece_ofNat (by omega) (lead?_two (by omega) (by omega)),
      continuation_ofNat (by omega) (by omega) (by omega), continuation, hvalue, hchar]
    rfl
  split
  · have hvalue : 64 * (64 * (v / 4096 % 16 + 224 - 0xE0) + v / 64 % 64) + v % 64 = v := by omega
    simp only [List.cons_append, List.nil_append]
    rw [pieces_cons, piece_ofNat (by omega) (lead?_three (by omega) (by omega)),
      continuation_ofNat (by split <;> omega) (by split <;> omega) (by omega),
      continuation_ofNat (by omega) (by omega) (by omega), continuation, hvalue, hchar]
    rfl
  · have hvalue : 64 * (64 * (64 * (v / 262144 % 8 + 240 - 0xF0) + v / 4096 % 64) +
        v / 64 % 64) + v % 64 = v := by omega
    simp only [List.cons_append, List.nil_append]
    rw [pieces_cons, piece_ofNat (by omega) (lead?_four (by omega) (by omega)),
      continuation_ofNat (by split <;> omega) (by split <;> omega) (by omega),
      continuation_ofNat (by omega) (by omega) (by omega),
      continuation_ofNat (by omega) (by omega) (by omega), continuation, hvalue, hchar]
    rfl

theorem decodeLossy_cons (b : UInt8) (rest : List UInt8) :
    decodeLossy (b :: rest) =
      (piece b rest).shown :: decodeLossy (rest.drop ((piece b rest).width - 1)) := by
  rw [decodeLossy, pieces_cons, List.map_cons, decodeLossy]

/-- A text is read back from the bytes of its characters. -/
theorem decodeLossy_flatMap (cs : List Char) :
    decodeLossy (cs.flatMap String.utf8EncodeChar) = cs := by
  induction cs with
  | nil => simp [decodeLossy]
  | cons c cs ih =>
    rw [decodeLossy] at ih
    rw [List.flatMap_cons, decodeLossy, pieces_utf8EncodeChar_append, List.map_cons, ih]
    rfl

/-! ### The character of some bytes -/

/-- A continuation that gives a character has taken a byte in range. -/
theorem exists_of_continuation {following low high bits taken width : Nat} {bytes : List UInt8}
    {c : Char} (hlow : 0x80 ≤ low)
    (h : continuation (following + 1) low high bits taken bytes = .scalar c width) :
    ∃ n rest, bytes = UInt8.ofNat (n + 0x80) :: rest ∧ low ≤ n + 0x80 ∧ n + 0x80 ≤ high ∧
      continuation following 0x80 0xBF (64 * bits + n) (taken + 1) rest = .scalar c width := by
  rcases bytes with _ | ⟨b, rest⟩
  · simp [continuation] at h
  rw [continuation] at h
  split at h
  case isTrue hb =>
    simp only [Bool.and_eq_true, decide_eq_true_eq] at hb
    have hsum : b.toNat - 0x80 + 0x80 = b.toNat := by omega
    refine ⟨b.toNat - 0x80, rest, ?_, by omega, by omega, h⟩
    rw [hsum, UInt8.ofNat_toNat]
  case isFalse => cases h

/-- The bytes of the character of a scalar value. -/
theorem utf8EncodeChar_ofNat {v : Nat} (h : v.isValidChar) :
    String.utf8EncodeChar (Char.ofNat v) =
      if v ≤ 0x7f then [UInt8.ofNat v]
      else if v ≤ 0x7ff then [UInt8.ofNat (v / 64 % 32 + 192), UInt8.ofNat (v % 64 + 128)]
      else if v ≤ 0xffff then
        [UInt8.ofNat (v / 4096 % 16 + 224), UInt8.ofNat (v / 64 % 64 + 128),
          UInt8.ofNat (v % 64 + 128)]
      else
        [UInt8.ofNat (v / 262144 % 8 + 240), UInt8.ofNat (v / 4096 % 64 + 128),
          UInt8.ofNat (v / 64 % 64 + 128), UInt8.ofNat (v % 64 + 128)] := by
  have hval : (Char.ofNat v).val.toNat = v := by
    rw [Char.ofNat, dif_pos h]
    rfl
  rw [String.utf8EncodeChar, hval]

theorem utf8EncodeChar_two {m n : Nat} (hm : 0xC2 ≤ m) (hm' : m < 0xE0) (hn : n < 0x40) :
    String.utf8EncodeChar (Char.ofNat (64 * (m - 0xC0) + n)) =
      [UInt8.ofNat m, UInt8.ofNat (n + 0x80)] := by
  have hlead : (64 * (m - 0xC0) + n) / 64 % 32 + 192 = m := by omega
  have hfirst : (64 * (m - 0xC0) + n) % 64 = n := by omega
  rw [utf8EncodeChar_ofNat (.inl (by omega)), if_neg (by omega), if_pos (by omega), hlead, hfirst]

theorem utf8EncodeChar_three {m n n' : Nat} (hm : 0xE0 ≤ m) (hm' : m < 0xF0) (hn : n < 0x40)
    (hleast : m = 0xE0 → 0x20 ≤ n) (hsurrogate : m = 0xED → n < 0x20) (hn' : n' < 0x40) :
    String.utf8EncodeChar (Char.ofNat (64 * (64 * (m - 0xE0) + n) + n')) =
      [UInt8.ofNat m, UInt8.ofNat (n + 0x80), UInt8.ofNat (n' + 0x80)] := by
  have hlead : (64 * (64 * (m - 0xE0) + n) + n') / 4096 % 16 + 224 = m := by omega
  have hfirst : (64 * (64 * (m - 0xE0) + n) + n') / 64 % 64 = n := by omega
  have hsecond : (64 * (64 * (m - 0xE0) + n) + n') % 64 = n' := by omega
  have hvalid : (64 * (64 * (m - 0xE0) + n) + n').isValidChar := by
    rw [Nat.isValidChar]
    omega
  rw [utf8EncodeChar_ofNat hvalid, if_neg (by omega), if_neg (by omega), if_pos (by omega), hlead,
    hfirst, hsecond]

theorem utf8EncodeChar_four {m n n' n'' : Nat} (hm : 0xF0 ≤ m) (hm' : m < 0xF5) (hn : n < 0x40)
    (hleast : m = 0xF0 → 0x10 ≤ n) (hlast : m = 0xF4 → n < 0x10) (hn' : n' < 0x40)
    (hn'' : n'' < 0x40) :
    String.utf8EncodeChar (Char.ofNat (64 * (64 * (64 * (m - 0xF0) + n) + n') + n'')) =
      [UInt8.ofNat m, UInt8.ofNat (n + 0x80), UInt8.ofNat (n' + 0x80),
        UInt8.ofNat (n'' + 0x80)] := by
  have hlead : (64 * (64 * (64 * (m - 0xF0) + n) + n') + n'') / 262144 % 8 + 240 = m := by omega
  have hfirst : (64 * (64 * (64 * (m - 0xF0) + n) + n') + n'') / 4096 % 64 = n := by omega
  have hsecond : (64 * (64 * (64 * (m - 0xF0) + n) + n') + n'') / 64 % 64 = n' := by omega
  have hthird : (64 * (64 * (64 * (m - 0xF0) + n) + n') + n'') % 64 = n'' := by omega
  have hvalid : (64 * (64 * (64 * (m - 0xF0) + n) + n') + n'').isValidChar := by
    rw [Nat.isValidChar]
    omega
  rw [utf8EncodeChar_ofNat hvalid, if_neg (by omega), if_neg (by omega), if_neg (by omega), hlead,
    hfirst, hsecond, hthird]

/-- A piece that gives a character is made of its bytes. -/
theorem exists_of_piece {b : UInt8} {rest : List UInt8} {c : Char} {width : Nat}
    (h : piece b rest = .scalar c width) :
    ∃ rest', b :: rest = String.utf8EncodeChar c ++ rest' := by
  have hb : UInt8.ofNat b.toNat = b := UInt8.ofNat_toNat
  rw [piece] at h
  rcases hlead : lead? b.toNat with _ | lead
  · rw [hlead] at h
    cases h
  rw [hlead] at h
  generalize b.toNat = m at hb hlead
  subst hb
  -- The ranges of the lead byte, in the order of `lead?`.
  rw [lead?] at hlead
  split at hlead
  · cases hlead
    dsimp only at h
    rw [continuation] at h
    cases h
    refine ⟨rest, ?_⟩
    rw [utf8EncodeChar_ofNat (.inl (by omega)), if_pos (by omega)]
    rfl
  split at hlead
  · cases hlead
  split at hlead
  · cases hlead
    dsimp only at h
    obtain ⟨n, rest, rfl, -, hn, h⟩ := exists_of_continuation (Nat.le_refl _) h
    rw [continuation] at h
    cases h
    refine ⟨rest, ?_⟩
    rw [utf8EncodeChar_two (by omega) (by omega) (by omega)]
    rfl
  split at hlead
  · cases hlead
    dsimp only at h
    obtain ⟨n, rest, rfl, hlow, hhigh, h⟩ := exists_of_continuation (by split <;> omega) h
    obtain ⟨n', rest, rfl, -, hn', h⟩ := exists_of_continuation (Nat.le_refl _) h
    rw [continuation] at h
    cases h
    refine ⟨rest, ?_⟩
    split at hlow <;> split at hhigh <;>
      rw [utf8EncodeChar_three (by omega) (by omega) (by omega) (by omega) (by omega)
        (by omega)] <;>
      rfl
  split at hlead
  · cases hlead
    dsimp only at h
    obtain ⟨n, rest, rfl, hlow, hhigh, h⟩ := exists_of_continuation (by split <;> omega) h
    obtain ⟨n', rest, rfl, -, hn', h⟩ := exists_of_continuation (Nat.le_refl _) h
    obtain ⟨n'', rest, rfl, -, hn'', h⟩ := exists_of_continuation (Nat.le_refl _) h
    rw [continuation] at h
    cases h
    refine ⟨rest, ?_⟩
    split at hlow <;> split at hhigh <;>
      rw [utf8EncodeChar_four (by omega) (by omega) (by omega) (by omega) (by omega) (by omega)
        (by omega)] <;>
      rfl
  · cases hlead

/-- A piece that gives a character takes its bytes and no others. -/
theorem eq_append_of_piece {b : UInt8} {rest : List UInt8} {c : Char} {width : Nat}
    (h : piece b rest = .scalar c width) :
    b :: rest = String.utf8EncodeChar c ++ rest.drop (width - 1) := by
  obtain ⟨rest', hrest'⟩ := exists_of_piece h
  have hpieces := pieces_utf8EncodeChar_append c rest'
  rw [← hrest', pieces_cons, h] at hpieces
  obtain ⟨-, hwidth⟩ := Piece.scalar.inj (List.cons.inj hpieces).1
  have hdrop : (b :: rest).drop width = rest' := by
    rw [hrest', hwidth, List.drop_left]
  have hpos : 0 < width := by
    rw [hwidth, String.length_utf8EncodeChar]
    exact c.utf8Size_pos
  obtain ⟨n, rfl⟩ : ∃ n, width = n + 1 := ⟨width - 1, by omega⟩
  rw [hrest', ← hdrop]
  rfl

/-- No character stands where a malformed run begins. -/
theorem not_prefix_of_malformed {b : UInt8} {rest : List UInt8} {width : Nat} {fault : Fault}
    (h : piece b rest = .malformed width fault) (c : Char) :
    ¬String.utf8EncodeChar c <+: b :: rest := by
  rintro ⟨rest', hrest'⟩
  have hpieces := pieces_utf8EncodeChar_append c rest'
  rw [hrest', pieces_cons, h] at hpieces
  cases (List.cons.inj hpieces).1

/-- A byte of ASCII is a piece of its own. -/
theorem piece_of_ascii {b : UInt8} (rest : List UInt8) (hb : b.toNat < 0x80) :
    piece b rest = .scalar (Char.ofNat b.toNat) 1 := by
  rw [piece, lead?, if_pos hb]
  rfl

/-- A continuation byte begins nothing. -/
theorem piece_of_continuation {b : UInt8} (rest : List UInt8) (hlow : 0x80 ≤ b.toNat)
    (hhigh : b.toNat ≤ 0xBF) : piece b rest = .malformed 1 .startByte := by
  rw [piece, lead?, if_neg (by omega), if_pos (by omega)]

/-! ### Continuation bytes -/

/-- What the continuation of a lead byte passes over are continuation bytes. -/
theorem exists_width_continuation {following low high bits taken : Nat} {bytes : List UInt8}
    (hlow : 0x80 ≤ low) (hhigh : high ≤ 0xBF) :
    ∃ width, (continuation following low high bits taken bytes).width = taken + width ∧
      ∀ b ∈ bytes.take width, 0x80 ≤ b.toNat ∧ b.toNat ≤ 0xBF := by
  induction following generalizing low high bits taken bytes with
  | zero => exact ⟨0, by rw [continuation, Piece.width, Nat.add_zero], by simp⟩
  | succ following ih =>
    rcases bytes with _ | ⟨b, rest⟩
    · exact ⟨0, by rw [continuation, Piece.width, Nat.add_zero], by simp⟩
    · rw [continuation]
      split
      case isTrue hb =>
        simp only [Bool.and_eq_true, decide_eq_true_eq] at hb
        obtain ⟨width, hwidth, hall⟩ := ih (Nat.le_refl 0x80) (Nat.le_refl 0xBF)
        refine ⟨width + 1, by rw [hwidth]; omega, ?_⟩
        rw [List.take_succ_cons, List.forall_mem_cons]
        exact ⟨by omega, hall⟩
      case isFalse => exact ⟨0, by rw [Piece.width, Nat.add_zero], by simp⟩

/-- The least value that some more continuation bytes lead to. -/
def leastValue : (following bits : Nat) → Nat
  | 0, bits => bits
  | following + 1, bits => leastValue following (64 * bits)

theorem leastValue_mono {following bits bits' : Nat} (h : bits ≤ bits') :
    leastValue following bits ≤ leastValue following bits' := by
  induction following generalizing bits bits' with
  | zero => exact h
  | succ following ih => exact ih (Nat.mul_le_mul_left _ h)

/-- A continuation is malformed, or the bits of the lead byte and the first byte after it make its
value large. -/
theorem shown_continuation (following low high bits taken : Nat) (bytes : List UInt8) :
    (continuation (following + 1) low high bits taken bytes).shown = replacement ∨
      ∃ n, leastValue following (64 * bits + (low - 0x80)) ≤ n ∧
        (continuation (following + 1) low high bits taken bytes).shown = Char.ofNat n := by
  induction following generalizing low high bits taken bytes with
  | zero =>
    rcases bytes with _ | ⟨b, rest⟩
    · exact .inl (by rw [continuation, Piece.shown])
    · rw [continuation]
      split
      case isTrue hb =>
        simp only [Bool.and_eq_true, decide_eq_true_eq] at hb
        refine .inr ⟨64 * bits + (b.toNat - 0x80), ?_, ?_⟩
        · rw [leastValue]
          omega
        · rw [continuation, Piece.shown]
      case isFalse => exact .inl rfl
  | succ following ih =>
    rcases bytes with _ | ⟨b, rest⟩
    · exact .inl (by rw [continuation, Piece.shown])
    · rw [continuation]
      split
      case isTrue hb =>
        simp only [Bool.and_eq_true, decide_eq_true_eq] at hb
        refine (ih ..).imp_right fun ⟨n, hn, hshown⟩ => ⟨n, Nat.le_trans ?_ hn, hshown⟩
        rw [leastValue]
        exact leastValue_mono (by omega)
      case isFalse => exact .inl rfl

/-- A lead byte beyond ASCII announces other bytes and a value beyond ASCII. -/
theorem announces_of_lead? {b : Nat} {lead : Lead} (hb : 0x80 ≤ b) (h : lead? b = some lead) :
    ∃ following, lead.following = following + 1 ∧ (0x80 ≤ lead.low ∧ lead.high ≤ 0xBF) ∧
      0x80 ≤ leastValue following (64 * lead.bits + (lead.low - 0x80)) := by
  rw [lead?, if_neg (by omega)] at h
  split at h
  · cases h
  split at h
  · cases h
    exact ⟨0, rfl, ⟨Nat.le_refl _, Nat.le_refl _⟩, by dsimp only [leastValue]; omega⟩
  split at h
  · cases h
    refine ⟨1, rfl, ⟨?_, ?_⟩, ?_⟩ <;> dsimp only [leastValue] <;> split <;> omega
  split at h
  · cases h
    refine ⟨2, rfl, ⟨?_, ?_⟩, ?_⟩ <;> dsimp only [leastValue] <;> split <;> omega
  · cases h

/-- A piece that begins beyond ASCII passes over nothing but continuation bytes. -/
theorem toNat_bounds_of_mem_piece {b : UInt8} {rest : List UInt8} (hb : 0x80 ≤ b.toNat) :
    ∀ b' ∈ rest.take ((piece b rest).width - 1), 0x80 ≤ b'.toNat ∧ b'.toNat ≤ 0xBF := by
  rw [piece]
  rcases hlead : lead? b.toNat with _ | lead
  · simp [Piece.width]
  · obtain ⟨following, -, ⟨hlow, hhigh⟩, -⟩ := announces_of_lead? hb hlead
    obtain ⟨width, hwidth, hall⟩ := exists_width_continuation hlow hhigh
    dsimp only
    rw [hwidth, Nat.add_sub_cancel_left]
    exact hall

/-- No character begins within a malformed run. -/
theorem not_prefix_drop_of_malformed {b : UInt8} {rest : List UInt8} {width k : Nat}
    {fault : Fault} (h : piece b rest = .malformed width fault)
    (hk : k < (b :: rest.take (width - 1)).length) (c : Char) :
    ¬String.utf8EncodeChar c <+: (b :: rest).drop k := by
  rcases k with _ | k
  · exact not_prefix_of_malformed h c
  have hb : 0x80 ≤ b.toNat := Nat.le_of_not_lt fun hb => by
    rw [piece_of_ascii rest hb] at h
    cases h
  have hbounds := @toNat_bounds_of_mem_piece b rest hb
  rw [h, Piece.width] at hbounds
  have hk' : k < (rest.take (width - 1)).length := by simpa using hk
  have hrest : k < rest.length :=
    Nat.lt_of_lt_of_le hk' (List.length_take_le' (width - 1) rest)
  have hmem : rest[k] ∈ rest.take (width - 1) := by
    simpa using List.getElem_mem hk'
  obtain ⟨hlow, hhigh⟩ := hbounds _ hmem
  rw [List.drop_succ_cons, List.drop_eq_getElem_cons hrest]
  exact not_prefix_of_malformed (piece_of_continuation _ hlow hhigh) c

/-! ### Bytes of ASCII -/

/-- A piece that begins beyond ASCII shows a character beyond it, or none that is valid. -/
theorem shown_piece {b : UInt8} (rest : List UInt8) (hb : 0x80 ≤ b.toNat) :
    ∃ n, 0x80 ≤ n ∧ (piece b rest).shown = Char.ofNat n := by
  rw [piece]
  rcases hlead : lead? b.toNat with _ | lead
  · exact ⟨0xFFFD, by decide, rfl⟩
  · obtain ⟨following, hfollowing, -, hvalue⟩ := announces_of_lead? hb hlead
    dsimp only
    rw [hfollowing]
    rcases shown_continuation following lead.low lead.high lead.bits 1 rest with h | ⟨n, hn, h⟩
    · exact ⟨0xFFFD, by decide, h⟩
    · exact ⟨n, Nat.le_trans hvalue hn, h⟩

/-- A number that is no scalar value stands for the NUL character. -/
private theorem eq_toNat_of_eq_ofNat {c : Char} {n : Nat} (hc : 0 < c.toNat)
    (h : c = Char.ofNat n) : n = c.toNat := by
  by_cases hn : n.isValidChar
  · have hvalid : (Char.ofNat n).toNat = n := by
      rw [Char.ofNat, dif_pos hn]
      rfl
    rw [h, hvalid]
  · have hinvalid : (Char.ofNat n).toNat = 0 := by
      rw [Char.ofNat, dif_neg hn]
      rfl
    rw [h, hinvalid] at hc
    exact absurd hc (Nat.lt_irrefl 0)

/-- A character of ASCII other than NUL is decoded from its own byte and from no other. -/
theorem mem_decodeLossy_iff {c : Char} {bytes : List UInt8} (hpos : 0 < c.toNat)
    (hascii : c.toNat < 0x80) : c ∈ decodeLossy bytes ↔ UInt8.ofNat c.toNat ∈ bytes := by
  have hcode : (UInt8.ofNat c.toNat).toNat = c.toNat := by
    rw [UInt8.toNat_ofNat']
    omega
  induction h : bytes.length using Nat.strongRecOn generalizing bytes with
  | _ n ih =>
    rcases bytes with _ | ⟨b, rest⟩
    · simp [decodeLossy]
    have hrest : c ∈ decodeLossy (rest.drop ((piece b rest).width - 1)) ↔
        UInt8.ofNat c.toNat ∈ rest.drop ((piece b rest).width - 1) :=
      ih _ (by rw [← h, List.length_drop, List.length_cons]; omega) rfl
    rw [decodeLossy_cons, List.mem_cons, List.mem_cons, hrest]
    rcases Nat.lt_or_ge b.toNat 0x80 with hb | hb
    · rw [piece_of_ascii rest hb]
      refine or_congr ⟨fun hshown => ?_, ?_⟩ Iff.rfl
      · rw [← UInt8.toNat_inj, hcode]
        exact (eq_toNat_of_eq_ofNat hpos hshown).symm
      · rintro rfl
        rw [hcode]
        exact (Char.ofNat_toNat c).symm
    · -- Any other piece neither shows the character nor takes its byte away.
      obtain ⟨m, hm, hshown⟩ := shown_piece rest hb
      have hchar : c ≠ (piece b rest).shown := by
        rw [hshown]
        exact fun he => absurd (eq_toNat_of_eq_ofNat hpos he) (by omega)
      have hbyte : UInt8.ofNat c.toNat ≠ b := by
        rintro rfl
        omega
      have htaken : UInt8.ofNat c.toNat ∉ rest.take ((piece b rest).width - 1) := fun hmem => by
        have hle := (toNat_bounds_of_mem_piece hb _ hmem).1
        omega
      have hsplit := List.take_append_drop ((piece b rest).width - 1) rest
      rw [or_iff_right hchar, or_iff_right hbyte, ← hsplit, List.mem_append, or_iff_right htaken,
        hsplit]

end FailurePrompt.Utf8
