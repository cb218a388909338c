import Irccd.Subst.Basic

/-!
# What the functions of `subst.c` write

Each function that copies text either copies all of it or returns `-ENOMEM`, and then there was no
space for the text and a NUL behind it.

* `Writes`: a function writes this text into the buffer.
-/

namespace Irccd.Subst

open Writers

/-- The function writes the text, or it returns `-ENOMEM` because the text does not fit. -/
abbrev Writes {α : Type} (x : SubstM α) (text : List UInt8) : Prop :=
  Emits SubstState.out SubstStop.nomem x text

section Writes

variable {s : SubstState} {α : Type}

@[simp] theorem outsz_bind (f : ℕ → SubstM α) : (outsz >>= f) s = f s.out.left s := rfl

@[simp] theorem advance_apply (n : ℕ) :
    advance n s = .ok () { s with out := s.out.advance n } := rfl

@[simp] theorem throw_apply (e : SubstStop) : (throw e : SubstM α) s = .error e s := rfl

@[simp] theorem pure_apply (a : α) : (pure a : SubstM α) s = .ok a s := rfl

@[simp] theorem note_bind (lookup : Lookup) (f : Unit → SubstM α) :
    (note lookup >>= f) s = f () { s with lookups := s.lookups ++ [lookup] } := rfl

/-- Bytes that fit are stored. -/
theorem store_bind {bytes : List UInt8} {out : Cursor UInt8} (h : s.out.store bytes = some out)
    (f : Unit → SubstM α) : (store bytes >>= f) s = f () { s with out } := by
  apply bind_of_ok
  rw [store, h]

theorem writes_ccat (c : UInt8) : Writes (ccat c) [c] := by
  intro s hfits
  rw [ccat, outsz_bind]
  by_cases hleft : s.out.left = 0
  · rw [if_pos hleft]
    exact ⟨rfl, by rw [hleft]; exact Nat.zero_le _, rfl⟩
  · have hone : [c].length ≤ s.out.left := Nat.pos_of_ne_zero hleft
    obtain ⟨out, hstore⟩ := Cursor.exists_store hfits hone
    rw [if_neg hleft, store_bind hstore]
    exact Cursor.Wrote.of_store hstore hone

/-- A copy that is cut short stays in the buffer. -/
theorem strlcpyOut_apply (hfits : s.out.Fits) (value : CStr) :
    ∃ out, strlcpyOut value s = .ok value.length { s with out } ∧
      out.buf.length = s.out.buf.length := by
  rw [strlcpyOut, outsz_bind]
  by_cases hleft : 0 < s.out.left
  · have hlen : (value.take (s.out.left - 1) ++ [0]).length ≤ s.out.left := by
      rw [List.length_append, List.length_take, List.length_singleton]
      omega
    obtain ⟨out, hstore⟩ := Cursor.exists_store hfits hlen
    rw [if_pos hleft, store_bind hstore]
    exact ⟨out, rfl, Cursor.length_store hstore⟩
  · rw [if_neg hleft]
    exact ⟨s.out, rfl, rfl⟩

theorem writes_scat (value : CStr) : Writes (scat value) value := by
  intro s hfits
  rw [scat, outsz_bind]
  by_cases hleft : value.length < s.out.left
  · have hlen : (value ++ [0]).length ≤ s.out.left := by
      rw [List.length_append, List.length_singleton]
      omega
    obtain ⟨out, hstore⟩ := Cursor.exists_store hfits hlen
    have hcopy : strlcpyOut value s = .ok value.length { s with out } := by
      have htake : value.take (s.out.left - 1) = value := List.take_of_length_le (by omega)
      rw [strlcpyOut, outsz_bind, if_pos (by omega), htake, store_bind hstore]
      rfl
    rw [bind_of_ok hcopy, if_neg (by omega)]
    exact Cursor.Wrote.of_store_append hstore (by omega)
  · obtain ⟨out, hcopy, hlength⟩ := strlcpyOut_apply hfits value
    rw [bind_of_ok hcopy, if_pos (by omega)]
    exact ⟨rfl, by omega, hlength⟩

theorem writes_substDefault (token : UInt8) (key : CStr) :
    Writes (substDefault token key) (token :: LBRACE :: (key ++ [RBRACE])) := by
  have h := (writes_ccat token).bind fun _ => (writes_ccat LBRACE).bind fun _ =>
    (writes_scat key).bind fun _ => writes_ccat RBRACE
  exact h

/-- A note does not touch the buffer. -/
theorem Writes.note {lookup : Lookup} {x : SubstM α} {text : List UInt8} (h : Writes x text) :
    Writes (do note lookup; x) text := by
  intro s hfits
  rw [note_bind]
  exact h { s with lookups := s.lookups ++ [lookup] } hfits

/-- The value of a keyword, or nothing. -/
def keywordValue (keywords : List IrcSubstKeyword) (key : CStr) : CStr :=
  ((keywords.find? fun keyword => keyword.key == key).bind (·.value)).getD []

theorem writes_substKeyword (subst : IrcSubst) (key : CStr) :
    Writes (substKeyword subst key) (keywordValue subst.keywords key) := by
  apply Writes.note
  rw [keywordValue]
  cases subst.keywords.find? fun keyword => keyword.key == key with
  | none => exact emits_pure ()
  | some keyword =>
    rw [Option.bind_some]
    dsimp only
    cases keyword.value with
    | none => exact emits_pure ()
    | some value => exact writes_scat value

theorem writes_substEnv (env : SubstEnv) (key : CStr) :
    Writes (substEnv env key) ((env.getenv key).getD []) := by
  apply Writes.note
  cases env.getenv key with
  | none => exact emits_pure ()
  | some value => exact writes_scat value

end Writes

end Irccd.Subst
