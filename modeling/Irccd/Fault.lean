import Irccd.CString

/-!
# Undefined behaviour

A C function that follows a NULL pointer, or reads past the end of an array, has no defined result.
Functions that could do so return `Except Fault`, and `Defined` says that they do not.
-/

namespace Irccd

/-- What a C function must not do. -/
inductive Fault
  /-- `msg->args[i]` is read with `i >= msg->argsz`. -/
  | argOutOfBounds (i : ℕ)
  /-- A NULL string is passed to a function that reads it. -/
  | nullString
  /-- A NULL channel is passed to an `irc_channel_*` function. -/
  | nullChannel
  /-- A string is read after its terminating NUL. -/
  | pastEnd
  /-- A function pointer that was never set is called. -/
  | badPointer
  /-- The text of a value of Duktape is read when it is freed, or there is none. -/
  | noText
  /-- An assertion fails. -/
  | assertion
  deriving DecidableEq

/-- The computation has a result. -/
def Defined {α : Type} (x : Except Fault α) : Prop := ∃ a, x = .ok a

section Defined

variable {ε α β : Type}

@[simp] theorem defined_ok (a : α) : Defined (.ok a) := ⟨a, rfl⟩

@[simp] theorem defined_pure (a : α) : Defined (pure a) := ⟨a, rfl⟩

@[simp] theorem not_defined_error (e : Fault) : ¬ Defined (.error e : Except Fault α) := by
  rintro ⟨a, h⟩; cases h

instance (x : Except Fault α) : Decidable (Defined x) :=
  match x with
  | .ok a => isTrue (defined_ok a)
  | .error e => isFalse (not_defined_error e)

@[simp] theorem not_defined_throw (e : Fault) : ¬ Defined (throw e : Except Fault α) :=
  not_defined_error e

@[simp] theorem ok_bind (a : α) (f : α → Except ε β) : (.ok a >>= f) = f a := rfl

@[simp] theorem error_bind (e : ε) (f : α → Except ε β) :
    ((.error e : Except ε α) >>= f) = .error e := rfl

theorem bind_eq_ok_iff {x : Except ε α} {f : α → Except ε β} {b : β} :
    (x >>= f) = .ok b ↔ ∃ a, x = .ok a ∧ f a = .ok b := by
  cases x with
  | error e => simp
  | ok a => simp

theorem defined_bind_iff {x : Except Fault α} {f : α → Except Fault β} :
    Defined (x >>= f) ↔ ∃ a, x = .ok a ∧ Defined (f a) := by
  cases x with
  | error e => simp
  | ok a => simp

/-- What always has a result does not spoil the one before it. -/
theorem defined_bind_iff_left {x : Except Fault α} {f : α → Except Fault β}
    (h : ∀ a, Defined (f a)) : Defined (x >>= f) ↔ Defined x := by
  simp only [defined_bind_iff, h, and_true]
  rfl

theorem defined_map_iff {f : α → β} {x : Except Fault α} : Defined (x.map f) ↔ Defined x := by
  cases x <;> simp [Except.map]

end Defined

/-- `irc_util_strdup (src)`, which reads `src` and never returns NULL. -/
def ircUtilStrdup : Option CStr → Except Fault CStr
  | some s => .ok s
  | none => .error .nullString

@[simp] theorem ircUtilStrdup_some (s : CStr) : ircUtilStrdup (some s) = .ok s := rfl

@[simp] theorem ircUtilStrdup_none : ircUtilStrdup none = .error .nullString := rfl

theorem ircUtilStrdup_eq_ok_iff {o : Option CStr} {s : CStr} :
    ircUtilStrdup o = .ok s ↔ o = some s := by
  cases o <;> simp

end Irccd
