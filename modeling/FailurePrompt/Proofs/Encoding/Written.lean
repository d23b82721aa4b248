import FailurePrompt.Encoding.Basic
import FailurePrompt.Proofs.Encoding.Utf16
import FailurePrompt.Proofs.Encoding.Utf8

/-!
# Texts as they are written

An encoding writes the characters that it has one after another, behind a byte-order mark if it has
one. Reading undoes this (`decode_encode`). Other bytes are read all the same in an encoding without
a mark: a character stands where its bytes are, and the replacement character for bytes in which no
character begins (`exists_reads`).
-/

namespace FailurePrompt.Encoding

variable {encoding : Encoding} {bytes rest : List UInt8} {cs : List Char}

/-! ### Writing -/

/-- The encoding has bytes for the character. -/
def Has : Encoding → Char → Prop
  | .utf8, _ | .utf8Marked, _ | .utf16Marked, _ | .utf16 _, _ => True
  | .latin1, c => c.toNat < 0x100
  | .ascii, c => c.toNat < 0x80

instance : (encoding : Encoding) → (c : Char) → Decidable (encoding.Has c)
  | .utf8, _ | .utf8Marked, _ | .utf16Marked, _ | .utf16 _, _ => inferInstanceAs (Decidable True)
  | .latin1, c => inferInstanceAs (Decidable (c.toNat < 0x100))
  | .ascii, c => inferInstanceAs (Decidable (c.toNat < 0x80))

theorem has_of_ascii (encoding : Encoding) {c : Char} (h : c.toNat < 0x80) : encoding.Has c := by
  match encoding with
  | .utf8 | .utf8Marked | .utf16Marked | .utf16 _ => exact trivial
  | .latin1 => exact Nat.lt_trans h (by decide)
  | .ascii => exact h

/-- The bytes of a character that the encoding has. -/
def charBytes : Encoding → Char → List UInt8
  | .utf8, c | .utf8Marked, c => String.utf8EncodeChar c
  | .utf16Marked, c => Utf16.charBytes .little c
  | .utf16 order, c => Utf16.charBytes order c
  | .latin1, c | .ascii, c => [UInt8.ofNat c.toNat]

/-- The mark that a text begins with. -/
def mark : Encoding → List UInt8
  | .utf8Marked => [0xEF, 0xBB, 0xBF]
  | .utf16Marked => [0xFF, 0xFE]
  | .utf8 | .utf16 _ | .latin1 | .ascii => []

/-- The bytes of a text whose characters the encoding has. -/
def encode (encoding : Encoding) (cs : List Char) : List UInt8 :=
  encoding.mark ++ cs.flatMap encoding.charBytes

theorem decode_flatMap_utf16 (order : Utf16.ByteOrder) (cs : List Char) :
    Utf16.decode order (cs.flatMap (Utf16.charBytes order)) = cs := by
  induction cs with
  | nil => rfl
  | cons c cs ih => rw [List.flatMap_cons, Utf16.decode_charBytes_append, ih]

theorem toNat_ofNat_toNat (b : UInt8) : (Char.ofNat b.toNat).toNat = b.toNat := by
  have hb := b.toNat_lt
  rw [Char.ofNat, dif_pos (.inl (by omega))]
  rfl

theorem map_flatMap_byte {f : UInt8 → Char} (h : ∀ c ∈ cs, f (UInt8.ofNat c.toNat) = c) :
    (cs.flatMap fun c => [UInt8.ofNat c.toNat]).map f = cs := by
  induction cs with
  | nil => rfl
  | cons c cs ih =>
    obtain ⟨hc, hcs⟩ := List.forall_mem_cons.1 h
    rw [List.flatMap_cons, List.map_append, ih hcs, List.map_singleton, hc]
    rfl

/-- A text is read back from its bytes. -/
theorem decode_encode (h : ∀ c ∈ cs, encoding.Has c) :
    encoding.decode (encoding.encode cs) = .ok cs := by
  have hbyte : ∀ {c : Char}, c.toNat < 0x100 → Char.ofNat (UInt8.ofNat c.toNat).toNat = c := by
    intro c hc
    rw [UInt8.toNat_ofNat', Nat.mod_eq_of_lt hc, Char.ofNat_toNat]
  -- A mark is taken off by computation, which leaves the plain encoding.
  match encoding with
  | .utf8 => exact congrArg Except.ok (Utf8.decodeLossy_flatMap cs)
  | .utf8Marked => exact congrArg Except.ok (Utf8.decodeLossy_flatMap cs)
  | .utf16Marked => exact congrArg Except.ok (decode_flatMap_utf16 .little cs)
  | .utf16 order => exact congrArg Except.ok (decode_flatMap_utf16 order cs)
  | .latin1 => exact congrArg Except.ok (map_flatMap_byte fun c hc => hbyte (h c hc))
  | .ascii =>
    refine congrArg Except.ok (map_flatMap_byte fun c hc => ?_)
    have hascii : c.toNat < 0x80 := h c hc
    have hlt : UInt8.ofNat c.toNat < 0x80 := by
      rw [UInt8.lt_iff_toNat_lt, UInt8.toNat_ofNat']
      exact Nat.lt_of_le_of_lt (Nat.mod_le ..) hascii
    rw [asciiChar, if_pos hlt, hbyte (by omega)]

/-! ### Reading -/

/-- The distance of the places at which a character may begin. -/
def stride : Encoding → Nat
  | .utf16Marked | .utf16 _ => 2
  | .utf8 | .utf8Marked | .latin1 | .ascii => 1

/-- No character begins in the bytes, with the rest after them. -/
def Garbled (encoding : Encoding) (bad rest : List UInt8) : Prop :=
  bad ≠ [] ∧ ∀ k, encoding.stride * k < bad.length → ∀ c, encoding.Has c →
    ¬encoding.charBytes c <+: (bad ++ rest).drop (encoding.stride * k)

/-- How bytes without a mark are read: a character stands for its bytes, and the replacement
character for garbled ones. -/
inductive Reads (encoding : Encoding) : List UInt8 → List Char → Prop
  | nil : Reads encoding [] []
  | char {c : Char} {rest : List UInt8} {cs : List Char} (hc : encoding.Has c)
      (h : Reads encoding rest cs) : Reads encoding (encoding.charBytes c ++ rest) (c :: cs)
  | garbled {bad rest : List UInt8} {cs : List Char} (hbad : encoding.Garbled bad rest)
      (h : Reads encoding rest cs) : Reads encoding (bad ++ rest) (Utf8.replacement :: cs)

/-- In bytes that are no longer than the stride there is one place for a character to begin. -/
theorem garbled_of_length_le {bad : List UInt8} (hne : bad ≠ [])
    (hlen : bad.length ≤ encoding.stride)
    (h : ∀ c, encoding.Has c → ¬encoding.charBytes c <+: bad ++ rest) :
    encoding.Garbled bad rest := by
  refine ⟨hne, fun k hk c hc => ?_⟩
  rcases k with _ | k
  · exact h c hc
  · have hle : encoding.stride ≤ encoding.stride * (k + 1) := Nat.le_mul_of_pos_right _ (by omega)
    omega

/-- A malformed run is garbled. -/
theorem garbled_of_malformed {b : UInt8} {width : Nat} {fault : Utf8.Fault}
    (h : Utf8.piece b rest = .malformed width fault) :
    Garbled .utf8 (b :: rest.take (width - 1)) (rest.drop (width - 1)) := by
  refine ⟨List.cons_ne_nil _ _, fun k hk c _ => ?_⟩
  rw [stride, Nat.one_mul] at hk ⊢
  rw [List.cons_append, List.take_append_drop]
  exact Utf8.not_prefix_drop_of_malformed h hk c

theorem reads_utf8 (bytes : List UInt8) : Reads .utf8 bytes (Utf8.decodeLossy bytes) := by
  -- A piece takes any number of bytes up to four, so the induction is on how many there are.
  induction h : bytes.length using Nat.strongRecOn generalizing bytes with
  | _ n ih =>
    rcases bytes with _ | ⟨b, rest⟩
    · simpa [Utf8.decodeLossy] using Reads.nil
    have hrest := ih _ (by rw [← h, List.length_drop, List.length_cons]; omega)
      (rest.drop ((Utf8.piece b rest).width - 1)) rfl
    rw [Utf8.decodeLossy_cons]
    rcases hpiece : Utf8.piece b rest with ⟨c, width⟩ | ⟨width, fault⟩ <;> rw [hpiece] at hrest
    · rw [Utf8.eq_append_of_piece hpiece]
      exact .char trivial hrest
    · have hread := Reads.garbled (garbled_of_malformed hpiece) hrest
      rwa [List.cons_append, List.take_append_drop] at hread

theorem Reads.utf16_char {order : Utf16.ByteOrder} {c : Char} (hs : Utf16.Stands order bytes c)
    (h : Reads (.utf16 order) rest cs) : Reads (.utf16 order) (bytes ++ rest) (c :: cs) := by
  obtain rfl := Utf16.stands_iff.1 hs
  exact .char trivial h

/-- A surrogate without the other one is garbled. -/
theorem Reads.utf16_surrogate {order : Utf16.ByteOrder} {a b : UInt8}
    (hno : ∀ {bytes c}, Utf16.Stands order bytes c → ¬bytes <+: a :: b :: rest)
    (h : Reads (.utf16 order) rest cs) :
    Reads (.utf16 order) (a :: b :: rest) (Utf8.replacement :: cs) :=
  @Reads.garbled (.utf16 order) [a, b] rest cs
    (garbled_of_length_le (by simp) (Nat.le_refl 2)
      fun c _ => hno (Utf16.stands_charBytes order c)) h

/-- A high surrogate and half a unit after it are garbled. -/
theorem Reads.utf16_unfinished {order : Utf16.ByteOrder} {a b d : UInt8}
    (h : Utf16.isHigh (order.unit a b) = true) :
    Reads (.utf16 order) [a, b, d] [Utf8.replacement] := by
  have hgarbled : Garbled (.utf16 order) [a, b, d] [] := by
    refine ⟨by simp, fun k hk c _ => ?_⟩
    have hs := Utf16.stands_charBytes order c
    rcases k with _ | _ | k
    · exact hs.not_prefix_of_isHigh h (by simp)
    · exact hs.not_prefix_singleton
    · simp only [stride, List.length_cons, List.length_nil] at hk
      omega
  exact .garbled hgarbled .nil

theorem reads_utf16 (order : Utf16.ByteOrder) (bytes : List UInt8) :
    Reads (.utf16 order) bytes (Utf16.decode order bytes) := by
  -- What a unit stands for depends on the unit after it, so two of them are taken apart.
  induction h : bytes.length using Nat.strongRecOn generalizing bytes with
  | _ n ih =>
    rcases bytes with _ | ⟨a, _ | ⟨b, rest⟩⟩
    · rw [Utf16.decode_nil]
      exact .nil
    · rw [Utf16.decode_singleton]
      exact @Reads.garbled (.utf16 order) [a] [] []
        (garbled_of_length_le (by simp) (by simp [stride])
          fun c _ => (Utf16.stands_charBytes order c).not_prefix_singleton) .nil
    have hrest : Reads (.utf16 order) rest (Utf16.decode order rest) :=
      ih _ (by simp only [← h, List.length_cons]; omega) rest rfl
    rcases hhigh : Utf16.isHigh (order.unit a b) with _ | _
    · rcases hlow : Utf16.isLow (order.unit a b) with _ | _
      · rw [Utf16.decode_cons_cons rest hhigh hlow]
        exact .utf16_char (.unit hhigh hlow) hrest
      · rw [Utf16.decode_cons_cons_of_isLow rest hhigh hlow]
        exact .utf16_surrogate (fun hs => hs.not_prefix_of_isLow hhigh hlow) hrest
    · rcases rest with _ | ⟨a', _ | ⟨b', rest⟩⟩
      · rw [Utf16.decode_unfinished hhigh (by simp)]
        exact .utf16_surrogate (fun hs => hs.not_prefix_of_isHigh hhigh (by simp)) .nil
      · rw [Utf16.decode_unfinished hhigh (by simp)]
        exact .utf16_unfinished hhigh
      rcases hlow : Utf16.isLow (order.unit a' b') with _ | _
      · rw [Utf16.decode_unpaired rest hhigh hlow]
        refine .utf16_surrogate (fun hs => hs.not_prefix_of_isHigh hhigh ?_) hrest
        rintro _ _ _ ⟨⟩
        exact hlow
      · rw [Utf16.decode_pair rest hhigh hlow]
        exact .utf16_char (.pair hhigh hlow)
          (ih _ (by simp only [← h, List.length_cons]; omega) rest rfl)

theorem reads_latin1 (bytes : List UInt8) :
    Reads .latin1 bytes (bytes.map fun b => Char.ofNat b.toNat) := by
  induction bytes with
  | nil => exact .nil
  | cons b bytes ih =>
    have hlt : (Char.ofNat b.toNat).toNat < 0x100 := by
      rw [toNat_ofNat_toNat]
      exact b.toNat_lt
    have hread := @Reads.char .latin1 (Char.ofNat b.toNat) _ _ hlt ih
    rwa [charBytes, toNat_ofNat_toNat, UInt8.ofNat_toNat] at hread

theorem reads_ascii (bytes : List UInt8) : Reads .ascii bytes (bytes.map asciiChar) := by
  induction bytes with
  | nil => exact .nil
  | cons b bytes ih =>
    rw [List.map_cons, asciiChar]
    split
    case isTrue hb =>
      have hlt : (Char.ofNat b.toNat).toNat < 0x80 := by
        rw [toNat_ofNat_toNat]
        exact UInt8.lt_iff_toNat_lt.1 hb
      have hread := @Reads.char .ascii (Char.ofNat b.toNat) _ _ hlt ih
      rwa [charBytes, toNat_ofNat_toNat, UInt8.ofNat_toNat] at hread
    case isFalse hb =>
      refine @Reads.garbled .ascii [b] bytes _
        (garbled_of_length_le (by simp) (by simp [stride]) fun c hc => ?_) ih
      have hascii : c.toNat < 0x80 := hc
      rintro ⟨rest', ⟨⟩⟩
      refine hb (UInt8.lt_iff_toNat_lt.2 ?_)
      rw [UInt8.toNat_ofNat']
      exact Nat.lt_of_le_of_lt (Nat.mod_le ..) hascii

/-- Bytes without a mark are read, whatever they are. -/
theorem exists_reads (h : encoding.mark = []) (bytes : List UInt8) :
    ∃ cs, encoding.decode bytes = .ok cs ∧ encoding.Reads bytes cs := by
  match encoding with
  | .utf8 => exact ⟨_, rfl, reads_utf8 bytes⟩
  | .utf16 order => exact ⟨_, rfl, reads_utf16 order bytes⟩
  | .latin1 => exact ⟨_, rfl, reads_latin1 bytes⟩
  | .ascii => exact ⟨_, rfl, reads_ascii bytes⟩

end FailurePrompt.Encoding
