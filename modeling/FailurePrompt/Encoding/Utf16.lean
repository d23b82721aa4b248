import FailurePrompt.Encoding.Utf8

/-!
# UTF-16

Bytes are read two at a time, in either order, as 16-bit units; a high surrogate and a low one
after it form one character. The reader is a machine that takes one byte a step: it holds at most
one byte of an unfinished unit and at most one high surrogate that still waits for its partner.
Every byte sequence decodes: a unit that cannot stand where it does becomes the replacement
character, and so does whatever the end leaves unfinished. The main statements say what the units
at the front stand for: a unit outside the surrogate range for itself (`decode_cons_cons`), a
surrogate for its half of a pair (`decode_pair`), or for nothing if its pair is not complete.
-/

namespace FailurePrompt.Utf16

/-- The order of the two bytes of a unit. -/
inductive ByteOrder
  | little
  | big
  deriving Repr, DecidableEq

/-- The unit that two consecutive bytes form. -/
def ByteOrder.unit (order : ByteOrder) (first second : UInt8) : Nat :=
  match order with
  | .little => first.toNat + 256 * second.toNat
  | .big => 256 * first.toNat + second.toNat

/-- The byte order that a byte-order mark at the start announces. -/
def ByteOrder.ofMark? : List UInt8 → Option ByteOrder
  | 0xFF :: 0xFE :: _ => some .little
  | 0xFE :: 0xFF :: _ => some .big
  | _ => none

/-- A unit that opens a surrogate pair. -/
def isHigh (u : Nat) : Bool := 0xD800 ≤ u && u < 0xDC00

/-- A unit that closes a surrogate pair. -/
def isLow (u : Nat) : Bool := 0xDC00 ≤ u && u < 0xE000

/-- The character of a surrogate pair. -/
def combine (high low : Nat) : Char :=
  Char.ofNat (0x10000 + 1024 * (high - 0xD800) + (low - 0xDC00))

/-! ### The reading machine -/

/-- What the machine holds: the first byte of an unfinished unit, a high surrogate without its
partner, and the characters read so far, the last one first. -/
structure State where
  byte : Option UInt8 := none
  high : Option Nat := none
  out : List Char := []

/-- Takes a unit that follows no open pair. -/
def State.enter (s : State) (u : Nat) : State :=
  if isHigh u then { s with high := some u }
  else { s with out := (if isLow u then Utf8.replacement else Char.ofNat u) :: s.out }

/-- Takes a unit; an open pair that it does not close becomes the replacement character. -/
def State.takeUnit (s : State) (u : Nat) : State :=
  match s.high with
  | none => s.enter u
  | some h =>
    if isLow u then { s with high := none, out := combine h u :: s.out }
    else { s with high := none, out := Utf8.replacement :: s.out }.enter u

/-- Takes a byte. -/
def State.take (order : ByteOrder) (s : State) (b : UInt8) : State :=
  match s.byte with
  | none => { s with byte := some b }
  | some a => { s with byte := none }.takeUnit (order.unit a b)

/-- The text read, with one replacement character for an unfinished end. -/
def State.finish (s : State) : List Char :=
  (if s.byte.isSome || s.high.isSome then Utf8.replacement :: s.out else s.out).reverse

/-- Decodes bytes of the given order. -/
def decode (order : ByteOrder) (bytes : List UInt8) : List Char :=
  (bytes.foldl (State.take order) {}).finish

/-! ### What the machine has written stays -/

/-- The state with characters put in front of all that was read. -/
private def State.after (s : State) (old : List Char) : State :=
  { s with out := s.out ++ old }

private theorem take_after (order : ByteOrder) (s : State) (old : List Char) (b : UInt8) :
    (s.after old).take order b = (s.take order b).after old := by
  rcases s with ⟨_ | a, _ | h, out⟩ <;>
    simp only [State.after, State.take, State.takeUnit, State.enter] <;>
    repeat' split <;> simp_all

private theorem foldl_after (order : ByteOrder) (bytes : List UInt8) (s : State)
    (old : List Char) :
    bytes.foldl (State.take order) (s.after old) =
      (bytes.foldl (State.take order) s).after old := by
  induction bytes generalizing s with
  | nil => rfl
  | cons b bytes ih => rw [List.foldl_cons, take_after, ih, List.foldl_cons]

private theorem finish_after (s : State) (old : List Char) :
    (s.after old).finish = old.reverse ++ s.finish := by
  cases h : s.byte.isSome || s.high.isSome <;> simp [State.after, State.finish, h]

/-- Bytes at whose end the machine holds nothing are read apart from the ones after them. -/
private theorem decode_append_of_foldl {order : ByteOrder} {bytes : List UInt8} {cs : List Char}
    (h : bytes.foldl (State.take order) {} = ({} : State).after cs) (rest : List UInt8) :
    decode order (bytes ++ rest) = cs.reverse ++ decode order rest := by
  rw [decode, List.foldl_append, h, foldl_after, finish_after, decode]

/-- Two bytes of a unit outside the surrogate range stand for that character. -/
theorem decode_cons_cons {order : ByteOrder} {a b : UInt8} (rest : List UInt8)
    (h : isHigh (order.unit a b) = false) (l : isLow (order.unit a b) = false) :
    decode order (a :: b :: rest) = Char.ofNat (order.unit a b) :: decode order rest := by
  have key : [a, b].foldl (State.take order) {} =
      ({} : State).after [Char.ofNat (order.unit a b)] := by
    simp [State.take, State.takeUnit, State.enter, State.after, h, l]
  exact decode_append_of_foldl key rest

/-! ### Surrogates and ends -/

@[simp] theorem decode_nil (order : ByteOrder) : decode order [] = [] := rfl

/-- Half a unit is an unfinished end. -/
theorem decode_singleton (order : ByteOrder) (b : UInt8) :
    decode order [b] = [Utf8.replacement] := rfl

/-- A low surrogate that closes no pair stands for no character. -/
theorem decode_cons_cons_of_isLow {order : ByteOrder} {a b : UInt8} (rest : List UInt8)
    (h : isHigh (order.unit a b) = false) (l : isLow (order.unit a b) = true) :
    decode order (a :: b :: rest) = Utf8.replacement :: decode order rest := by
  have key : [a, b].foldl (State.take order) {} = ({} : State).after [Utf8.replacement] := by
    simp [State.take, State.takeUnit, State.enter, State.after, h, l]
  exact decode_append_of_foldl key rest

/-- A high surrogate and a low one after it stand for one character. -/
theorem decode_pair {order : ByteOrder} {a b a' b' : UInt8} (rest : List UInt8)
    (h : isHigh (order.unit a b) = true) (l : isLow (order.unit a' b') = true) :
    decode order (a :: b :: a' :: b' :: rest) =
      combine (order.unit a b) (order.unit a' b') :: decode order rest := by
  have key : [a, b, a', b'].foldl (State.take order) {} =
      ({} : State).after [combine (order.unit a b) (order.unit a' b')] := by
    simp [State.take, State.takeUnit, State.enter, State.after, h, l]
  exact decode_append_of_foldl key rest

/-- A high surrogate before a unit that does not close its pair stands for no character, and the
unit is read for itself. -/
theorem decode_unpaired {order : ByteOrder} {a b a' b' : UInt8} (rest : List UInt8)
    (h : isHigh (order.unit a b) = true) (l : isLow (order.unit a' b') = false) :
    decode order (a :: b :: a' :: b' :: rest) =
      Utf8.replacement :: decode order (a' :: b' :: rest) := by
  have key : [a, b, a', b'].foldl (State.take order) {} =
      ([a', b'].foldl (State.take order) {}).after [Utf8.replacement] := by
    cases h' : isHigh (order.unit a' b') <;>
      simp [State.take, State.takeUnit, State.enter, State.after, h, l, h']
  calc decode order (a :: b :: a' :: b' :: rest)
      = (rest.foldl (State.take order) ([a, b, a', b'].foldl (State.take order) {})).finish := rfl
    _ = Utf8.replacement ::
          (rest.foldl (State.take order) ([a', b'].foldl (State.take order) {})).finish := by
        rw [key, foldl_after, finish_after]
        rfl
    _ = Utf8.replacement :: decode order (a' :: b' :: rest) := rfl

/-- A high surrogate without a whole unit after it is an unfinished end. -/
theorem decode_unfinished {order : ByteOrder} {a b : UInt8} {rest : List UInt8}
    (h : isHigh (order.unit a b) = true) (hrest : rest.length < 2) :
    decode order (a :: b :: rest) = [Utf8.replacement] := by
  rcases rest with _ | ⟨c, _ | ⟨d, rest⟩⟩
  · simp [decode, State.take, State.takeUnit, State.enter, State.finish, h]
  · simp [decode, State.take, State.takeUnit, State.enter, State.finish, h]
  · simp only [List.length_cons] at hrest
    omega

end FailurePrompt.Utf16
