import Mathlib.Data.List.Basic
import Mathlib.Tactic.Common

/-!
# Programs that write into a bounded buffer

A program with a state and errors writes into a buffer whose size is fixed, and may do other things
that are worth noting.

The module introduces:

* `Cursor`: a buffer, the position in it, and the space that is left behind the position;
* `Cursor.Wrote`: a text has been written at the position;
* `Emits`: a program writes a text, or stops because the text does not fit;
* `Logs`, `LogsUpTo`: a program leaves these entries in a log, or a beginning of them.
-/

namespace Writers

variable {α ε σ κ β γ : Type}

/-! ## The buffer -/

/-- A buffer, the position in it, and the number of symbols that may still be written. -/
structure Cursor (α : Type) where
  buf : List α
  pos : ℕ
  left : ℕ
  deriving DecidableEq

namespace Cursor

variable {c c' c'' : Cursor α} {text text' : List α}

/-- The space that is left is what is behind the position. -/
def Fits (c : Cursor α) : Prop := c.pos + c.left = c.buf.length

/-- Store symbols at the position, which does not move. There is nothing behind the buffer. -/
def store (c : Cursor α) (symbols : List α) : Option (Cursor α) :=
  if c.pos + symbols.length ≤ c.buf.length then
    some { c with buf := c.buf.take c.pos ++ (symbols ++ c.buf.drop (c.pos + symbols.length)) }
  else none

/-- Move the position. -/
def advance (c : Cursor α) (n : ℕ) : Cursor α := { c with pos := c.pos + n, left := c.left - n }

/-- The text has been written at the position. -/
structure Wrote (c : Cursor α) (text : List α) (c' : Cursor α) : Prop where
  pos : c'.pos = c.pos + text.length
  left : c'.left + text.length = c.left
  length : c'.buf.length = c.buf.length
  take : c'.buf.take c'.pos = c.buf.take c.pos ++ text

theorem Wrote.refl (c : Cursor α) : c.Wrote [] c := ⟨rfl, rfl, rfl, (List.append_nil _).symm⟩

theorem Wrote.trans (h : c.Wrote text c') (h' : c'.Wrote text' c'') :
    c.Wrote (text ++ text') c'' where
  pos := by rw [h'.pos, h.pos, List.length_append, Nat.add_assoc]
  left := by rw [List.length_append, ← h.left, ← h'.left]; omega
  length := h'.length.trans h.length
  take := by rw [h'.take, h.take, List.append_assoc]

theorem Wrote.fits (h : c.Wrote text c') (hfits : c.Fits) : c'.Fits := by
  rw [Fits, h.length, ← hfits, h.pos, ← h.left]
  omega

/-- What stands behind the old position. -/
theorem Wrote.drop (h : c.Wrote text c') (hfits : c.Fits) :
    c'.buf.drop c.pos = text ++ c'.buf.drop c'.pos := by
  have hpos : (c.buf.take c.pos).length = c.pos := by
    rw [List.length_take_of_le]
    rw [← hfits]
    omega
  calc c'.buf.drop c.pos
      = (c.buf.take c.pos ++ text ++ c'.buf.drop c'.pos).drop c.pos := by
        rw [← h.take, List.take_append_drop]
    _ = text ++ c'.buf.drop c'.pos := by rw [List.append_assoc, List.drop_left' hpos]

/-- A text that fits can be stored, with more behind it. -/
theorem exists_store (hfits : c.Fits) {symbols : List α} (hlen : symbols.length ≤ c.left) :
    ∃ c', c.store symbols = some c' := by
  have hroom : c.pos + symbols.length ≤ c.buf.length := by
    rw [← hfits]
    omega
  exact ⟨_, if_pos hroom⟩

theorem store_eq_some (h : c.store text = some c') :
    c.pos + text.length ≤ c.buf.length ∧ c'.pos = c.pos ∧ c'.left = c.left ∧
      c'.buf = c.buf.take c.pos ++ (text ++ c.buf.drop (c.pos + text.length)) := by
  rw [store] at h
  split at h
  · rename_i hroom
    obtain rfl := Option.some.inj h
    exact ⟨hroom, rfl, rfl, rfl⟩
  · cases h

theorem length_store (h : c.store text = some c') : c'.buf.length = c.buf.length := by
  obtain ⟨hroom, -, -, hbuf⟩ := store_eq_some h
  rw [hbuf, List.length_append, List.length_append, List.length_drop,
    List.length_take_of_le (by omega)]
  omega

/-- The beginning of what is stored has been written once the position has moved behind it. -/
theorem Wrote.of_store_append {behind : List α} (h : c.store (text ++ behind) = some c')
    (hlen : text.length ≤ c.left) : c.Wrote text (c'.advance text.length) := by
  obtain ⟨hroom, hpos, hleft, hbuf⟩ := store_eq_some h
  refine ⟨by rw [advance, hpos], ?_, (length_store h : c'.buf.length = _), ?_⟩
  · rw [advance, hleft]
    exact Nat.sub_add_cancel hlen
  · have hpre : (c.buf.take c.pos ++ text).length = c.pos + text.length := by
      rw [List.length_append, List.length_take_of_le (by omega)]
    rw [advance]
    dsimp only
    rw [hpos, hbuf, List.append_assoc, ← List.append_assoc, List.take_left' hpre]

theorem Wrote.of_store (h : c.store text = some c') (hlen : text.length ≤ c.left) :
    c.Wrote text (c'.advance text.length) := by
  rw [← List.append_nil text] at h
  exact Wrote.of_store_append h hlen

end Cursor

/-! ## Programs that write -/

/-- Run the second program behind the first one. -/
theorem bind_of_ok {x : EStateM ε σ β} {f : β → EStateM ε σ γ} {s s' : σ} {b : β}
    (h : x s = .ok b s') : (x >>= f) s = f b s' := by
  show EStateM.bind x f s = _
  rw [EStateM.bind, h]

theorem bind_of_error {x : EStateM ε σ β} {f : β → EStateM ε σ γ} {s s' : σ} {e : ε}
    (h : x s = .error e s') : (x >>= f) s = .error e s' := by
  show EStateM.bind x f s = _
  rw [EStateM.bind, h]

section Emits

variable {view : σ → Cursor α} {full : ε} {x : EStateM ε σ β} {f : β → EStateM ε σ γ}
  {text text' : List α}

/-- The program writes the text, or it stops because the text does not fit. -/
def Emits (view : σ → Cursor α) (full : ε) (x : EStateM ε σ β) (text : List α) : Prop :=
  ∀ s, (view s).Fits →
    match x s with
    | .ok _ s' => (view s).Wrote text (view s')
    | .error e s' => e = full ∧ (view s).left ≤ text.length ∧
        (view s').buf.length = (view s).buf.length

theorem emits_pure (b : β) : Emits view full (pure b : EStateM ε σ β) [] :=
  fun s _ => Cursor.Wrote.refl (view s)

/-- One program after another. -/
theorem Emits.bind (hx : Emits view full x text) (hf : ∀ b, Emits view full (f b) text') :
    Emits view full (x >>= f) (text ++ text') := by
  intro s hfits
  have hxs := hx s hfits
  cases h : x s with
  | error e s' =>
    rw [h] at hxs
    rw [bind_of_error h]
    obtain ⟨rfl, hleft, hlength⟩ := hxs
    refine ⟨rfl, ?_, hlength⟩
    rw [List.length_append]
    omega
  | ok b s' =>
    rw [h] at hxs
    rw [bind_of_ok h]
    have hfs := hf b s' (hxs.fits hfits)
    cases h' : f b s' with
    | ok c s'' =>
      rw [h'] at hfs
      exact hxs.trans hfs
    | error e s'' =>
      rw [h'] at hfs
      obtain ⟨rfl, hleft, hlength⟩ := hfs
      refine ⟨rfl, ?_, hlength.trans hxs.length⟩
      rw [List.length_append, ← hxs.left]
      omega

/-- The program writes the text, or it goes on until there is no space left. -/
def Fills (view : σ → Cursor α) (full : ε) (x : EStateM ε σ β) (text : List α) : Prop :=
  ∀ s, (view s).Fits →
    match x s with
    | .ok _ s' => (view s).Wrote text (view s') ∨
        (view s').left = 0 ∧ (view s).left ≤ text.length ∧
          (view s').buf.length = (view s).buf.length
    | .error e s' => e = full ∧ (view s).left ≤ text.length ∧
        (view s').buf.length = (view s).buf.length

theorem Emits.fills (h : Emits view full x text) : Fills view full x text := by
  intro s hfits
  have hs := h s hfits
  cases hx : x s with
  | ok b s' =>
    rw [hx] at hs
    exact .inl hs
  | error e s' =>
    rw [hx] at hs
    exact hs

/-- A program that writes, and one that may fill the buffer. -/
theorem Emits.bind_fills (hx : Emits view full x text) (hf : ∀ b, Fills view full (f b) text') :
    Fills view full (x >>= f) (text ++ text') := by
  intro s hfits
  have hxs := hx s hfits
  cases h : x s with
  | error e s' =>
    rw [h] at hxs
    rw [bind_of_error h]
    obtain ⟨rfl, hleft, hlength⟩ := hxs
    refine ⟨rfl, ?_, hlength⟩
    rw [List.length_append]
    omega
  | ok b s' =>
    rw [h] at hxs
    rw [bind_of_ok h]
    have hfs := hf b s' (hxs.fits hfits)
    have hroom : (view s').left ≤ text'.length → (view s).left ≤ (text ++ text').length := by
      intro hle
      rw [List.length_append, ← hxs.left]
      omega
    cases h' : f b s' with
    | ok c s'' =>
      rw [h'] at hfs
      rcases hfs with hwrote | ⟨hzero, hleft, hlength⟩
      · exact .inl (hxs.trans hwrote)
      · exact .inr ⟨hzero, hroom hleft, hlength.trans hxs.length⟩
    | error e s'' =>
      rw [h'] at hfs
      obtain ⟨rfl, hleft, hlength⟩ := hfs
      exact ⟨rfl, hroom hleft, hlength.trans hxs.length⟩

end Emits

/-! ## Programs that leave a log -/

section Logs

variable {log : σ → List κ} {x : EStateM ε σ β} {f : β → EStateM ε σ γ} {entries entries' : List κ}

/-- The state at the end, whether the program has stopped or not. -/
def after : EStateM.Result ε σ β → σ
  | .ok _ s => s
  | .error _ s => s

/-- The program leaves a beginning of these entries. -/
def LogsUpTo (log : σ → List κ) (x : EStateM ε σ β) (entries : List κ) : Prop :=
  ∀ s, ∃ left, left <+: entries ∧ log (after (x s)) = log s ++ left

/-- The program leaves these entries, or a beginning of them if it stops. -/
def Logs (log : σ → List κ) (x : EStateM ε σ β) (entries : List κ) : Prop :=
  LogsUpTo log x entries ∧ ∀ s b s', x s = .ok b s' → log s' = log s ++ entries

theorem logs_pure (b : β) : Logs log (pure b : EStateM ε σ β) [] :=
  ⟨fun s => ⟨[], List.prefix_rfl, (List.append_nil _).symm⟩, fun s b s' h => by
    cases h
    exact (List.append_nil _).symm⟩

theorem Logs.bind_upTo (hx : Logs log x entries) (hf : ∀ b, LogsUpTo log (f b) entries') :
    LogsUpTo log (x >>= f) (entries ++ entries') := by
  intro s
  cases h : x s with
  | error e s' =>
    obtain ⟨left, hleft, hlog⟩ := hx.1 s
    rw [h] at hlog
    rw [bind_of_error h]
    exact ⟨left, hleft.trans (List.prefix_append _ _), hlog⟩
  | ok b s' =>
    obtain ⟨left, hleft, hlog⟩ := hf b s'
    rw [bind_of_ok h]
    refine ⟨entries ++ left, (List.prefix_append_right_inj entries).2 hleft, ?_⟩
    rw [hlog, hx.2 s b s' h, List.append_assoc]

theorem Logs.bind (hx : Logs log x entries) (hf : ∀ b, Logs log (f b) entries') :
    Logs log (x >>= f) (entries ++ entries') := by
  refine ⟨hx.bind_upTo fun b => (hf b).1, fun s c s'' hs => ?_⟩
  cases h : x s with
  | error e s' =>
    rw [bind_of_error h] at hs
    cases hs
  | ok b s' =>
    rw [bind_of_ok h] at hs
    rw [(hf b).2 s' c s'' hs, hx.2 s b s' h, List.append_assoc]

/-- A program that leaves nothing more. -/
theorem LogsUpTo.bind_nil (hx : LogsUpTo log x entries) (hf : ∀ b, Logs log (f b) []) :
    LogsUpTo log (x >>= f) entries := by
  intro s
  obtain ⟨left, hleft, hlog⟩ := hx s
  cases h : x s with
  | error e s' =>
    rw [h] at hlog
    rw [bind_of_error h]
    exact ⟨left, hleft, hlog⟩
  | ok b s' =>
    rw [h] at hlog
    obtain ⟨left', hleft', hlog'⟩ := (hf b).1 s'
    obtain rfl := List.prefix_nil.1 hleft'
    rw [bind_of_ok h]
    exact ⟨left, hleft, by rw [hlog', List.append_nil]; exact hlog⟩

end Logs

end Writers
