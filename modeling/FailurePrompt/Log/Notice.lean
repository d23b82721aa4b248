import FailurePrompt.Location

/-!
# Notices

While a prompt is put together, things happen that a user may want to know about: a frame was
passed over, a source file could not be read, nothing was attached. Each is a `Notice`, a value
that the pure functions of this library return beside their result in a `Traced`; whether and
how it is shown is decided elsewhere. The small lemmas say that the notices of a step never
change its value.
-/

namespace FailurePrompt

/-- Why nothing was attached to a report. -/
inductive SkipReason
  | passed
  | willBeRetried
  | promptNotBuildable
  deriving Repr, DecidableEq

/-- Something worth reporting that happened on the way to a prompt. -/
inductive Notice
  | frameSkipped (line : String)
  | locationResolved (location : Location)
  | locationNotFound
  | sourceUnreadable (filePath error : String)
  | windowEmpty (filePath : String) (line : Nat)
  | promptNotBuildable (title : String) (hasMessage hasSnippet : Bool)
  | attachmentSkipped (title : String) (reason : SkipReason)
  | promptAttached (title : String) (length : Nat)
  deriving Repr, DecidableEq

/-- A value and the notices given while it was computed, the first one first. -/
structure Traced (α : Type) where
  value : α
  notices : List Notice := []
  deriving Repr

namespace Traced

variable {α β : Type}

/-- A value that was computed in silence. -/
def silent (a : α) : Traced α := ⟨a, []⟩

/-- The same value with a notice given before all others. -/
def preceded (n : Notice) (t : Traced α) : Traced α := ⟨t.value, n :: t.notices⟩

/-- The value changed, the notices kept. -/
def map (f : α → β) (t : Traced α) : Traced β := ⟨f t.value, t.notices⟩

/-- A further step, whose notices follow. -/
def andThen (t : Traced α) (f : α → Traced β) : Traced β :=
  ⟨(f t.value).value, t.notices ++ (f t.value).notices⟩

@[simp] theorem value_silent (a : α) : (silent a).value = a := rfl

@[simp] theorem value_preceded (n : Notice) (t : Traced α) :
    (t.preceded n).value = t.value := rfl

@[simp] theorem value_map (f : α → β) (t : Traced α) : (t.map f).value = f t.value := rfl

@[simp] theorem value_andThen (t : Traced α) (f : α → Traced β) :
    (t.andThen f).value = (f t.value).value := rfl

end Traced

end FailurePrompt
