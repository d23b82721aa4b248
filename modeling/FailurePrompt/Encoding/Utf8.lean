/-!
# UTF-8

Bytes are read as a sequence of pieces: a piece is a scalar value with the bytes that encode it,
or a malformed run, which is the longest start of an encoding that the bytes still agree with.
Strict decoding reports the first malformed run, lossy decoding puts the replacement character
in its place. The main statements say that both readings agree on well-formed bytes and that the
strict one fails exactly when some piece is malformed.
-/

namespace FailurePrompt.Utf8

/-- Why a run of bytes encodes no scalar value. -/
inductive Fault
  | startByte
  | continuationByte
  | endOfData
  deriving Repr, DecidableEq

/-- The wording of a fault. -/
def Fault.message : Fault → String
  | .startByte => "invalid start byte"
  | .continuationByte => "invalid continuation byte"
  | .endOfData => "unexpected end of data"

/-- A scalar value or a malformed run, with the number of bytes it takes. -/
inductive Piece
  | scalar (c : Char) (width : Nat)
  | malformed (width : Nat) (fault : Fault)
  deriving Repr, DecidableEq

/-- The number of bytes of a piece. -/
def Piece.width : Piece → Nat
  | .scalar _ width => width
  | .malformed width _ => width

/-- What a lead byte announces: how many bytes follow, the range of the first of them, and the
bits that the lead byte itself contributes. -/
structure Lead where
  following : Nat
  low : Nat
  high : Nat
  bits : Nat
  deriving Repr, DecidableEq

/-- The announcement of a lead byte. The range of the second byte is narrowed where the whole
range would admit an overlong form, a surrogate or a value beyond the last code point. -/
def lead? (b : Nat) : Option Lead :=
  if b < 0x80 then some ⟨0, 0x80, 0xBF, b⟩
  else if b < 0xC2 then none
  else if b < 0xE0 then some ⟨1, 0x80, 0xBF, b - 0xC0⟩
  else if b < 0xF0 then
    some ⟨2, if b = 0xE0 then 0xA0 else 0x80, if b = 0xED then 0x9F else 0xBF, b - 0xE0⟩
  else if b < 0xF5 then
    some ⟨3, if b = 0xF0 then 0x90 else 0x80, if b = 0xF4 then 0x8F else 0xBF, b - 0xF0⟩
  else none

/-- Reads the announced continuation bytes; `bits` and `taken` describe what was read so far. -/
def continuation : (following low high bits taken : Nat) → List UInt8 → Piece
  | 0, _, _, bits, taken, _ => .scalar (Char.ofNat bits) taken
  | _ + 1, _, _, _, taken, [] => .malformed taken .endOfData
  | following + 1, low, high, bits, taken, b :: rest =>
    if low ≤ b.toNat && b.toNat ≤ high then
      continuation following 0x80 0xBF (64 * bits + (b.toNat - 0x80)) (taken + 1) rest
    else .malformed taken .continuationByte

/-- The piece that a byte begins. -/
def piece (b : UInt8) (rest : List UInt8) : Piece :=
  match lead? b.toNat with
  | none => .malformed 1 .startByte
  | some lead => continuation lead.following lead.low lead.high lead.bits 1 rest

/-- The pieces of a byte sequence, collected in reverse. -/
def piecesFrom (acc : List Piece) : List UInt8 → List Piece
  | [] => acc.reverse
  | b :: rest => piecesFrom (piece b rest :: acc) (rest.drop ((piece b rest).width - 1))
termination_by bytes => bytes.length
decreasing_by simp only [List.length_drop, List.length_cons]; omega

/-- The pieces of a byte sequence. -/
def pieces (bytes : List UInt8) : List Piece :=
  piecesFrom [] bytes

theorem piecesFrom_eq (acc : List Piece) (bytes : List UInt8) :
    piecesFrom acc bytes = acc.reverse ++ pieces bytes := by
  induction h : bytes.length using Nat.strongRecOn generalizing acc bytes with
  | _ n ih =>
    cases bytes with
    | nil => simp [pieces, piecesFrom]
    | cons b rest =>
      have hlt : (rest.drop ((piece b rest).width - 1)).length < n := by
        subst h; simp only [List.length_drop, List.length_cons]; omega
      rw [pieces, piecesFrom, piecesFrom, ih _ hlt _ _ rfl, ih _ hlt [piece b rest] _ rfl]
      simp

@[simp] theorem pieces_nil : pieces [] = [] := by
  simp [pieces, piecesFrom]

theorem pieces_cons (b : UInt8) (rest : List UInt8) :
    pieces (b :: rest) = piece b rest :: pieces (rest.drop ((piece b rest).width - 1)) := by
  rw [pieces, piecesFrom, piecesFrom_eq]
  rfl

/-- No piece is empty, so there are no more pieces than bytes. -/
theorem length_pieces_le (bytes : List UInt8) : (pieces bytes).length ≤ bytes.length := by
  induction h : bytes.length using Nat.strongRecOn generalizing bytes with
  | _ n ih =>
    cases bytes with
    | nil => simp
    | cons b rest =>
      have hdrop : (rest.drop ((piece b rest).width - 1)).length ≤ rest.length := by simp
      have hrest := ih _ (by simp only [← h, List.length_cons]; omega)
        (rest.drop ((piece b rest).width - 1)) rfl
      rw [pieces_cons, List.length_cons, ← h, List.length_cons]
      omega

/-! ### Decoding -/

/-- The replacement character, which stands for what could not be decoded. -/
def replacement : Char := '\uFFFD'

/-- The character shown for a piece. -/
def Piece.shown : Piece → Char
  | .scalar c _ => c
  | .malformed _ _ => replacement

/-- Decodes every byte sequence, each malformed run becoming one replacement character. -/
def decodeLossy (bytes : List UInt8) : List Char :=
  (pieces bytes).map Piece.shown

theorem length_decodeLossy_le (bytes : List UInt8) :
    (decodeLossy bytes).length ≤ bytes.length := by
  rw [decodeLossy, List.length_map]
  exact length_pieces_le bytes

/-- The first malformed run of a byte sequence. -/
structure Error where
  /-- The offset of its first byte. -/
  start : Nat
  /-- Its first byte. -/
  byte : Nat
  /-- The number of its bytes. -/
  width : Nat
  fault : Fault
  deriving Repr, DecidableEq

/-- The wording of a decoding error: one byte is shown, more are given by their range. -/
def Error.message (e : Error) : String :=
  let place :=
    if e.width = 1 then
      s!"byte 0x{String.ofList (byteDigits e.byte)} in position {e.start}"
    else s!"bytes in position {e.start}-{e.start + e.width - 1}"
  s!"'utf-8' codec can't decode {place}: {e.fault.message}"
where
  /-- The two hexadecimal digits of a byte. -/
  byteDigits (n : Nat) : List Char := [Nat.digitChar (n / 16), Nat.digitChar (n % 16)]

/-- The first malformed piece and its offset, counted from `start`. -/
def firstFault? (start : Nat) : List Piece → Option (Nat × Nat × Fault)
  | [] => none
  | .scalar _ width :: rest => firstFault? (start + width) rest
  | .malformed width fault :: _ => some (start, width, fault)

/-- Decodes well-formed bytes and reports the first malformed run of any others. -/
def decode (bytes : List UInt8) : Except Error (List Char) :=
  match firstFault? 0 (pieces bytes) with
  | none => .ok (decodeLossy bytes)
  | some (start, width, fault) =>
    .error ⟨start, (bytes[start]?.map UInt8.toNat).getD 0, width, fault⟩

/-- Well-formed bytes: every piece is a scalar value. -/
def WellFormed (bytes : List UInt8) : Prop :=
  ∀ p ∈ pieces bytes, ∃ c width, p = .scalar c width

private theorem firstFault?_eq_none_iff (start : Nat) (ps : List Piece) :
    firstFault? start ps = none ↔ ∀ p ∈ ps, ∃ c width, p = .scalar c width := by
  induction ps generalizing start with
  | nil => simp [firstFault?]
  | cons p ps ih => cases p <;> simp [firstFault?, ih]

/-- Strict decoding succeeds on well-formed bytes alone, and then reads what the lossy one does. -/
theorem decode_eq_ok_iff {bytes : List UInt8} {cs : List Char} :
    decode bytes = .ok cs ↔ WellFormed bytes ∧ cs = decodeLossy bytes := by
  unfold decode WellFormed
  rw [← firstFault?_eq_none_iff 0]
  split <;> rename_i h <;> simp [h, eq_comm]

end FailurePrompt.Utf8
