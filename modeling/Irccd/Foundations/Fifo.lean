import Irccd.Foundations.Runs
import Mathlib.Data.List.Basic

/-!
# Queues with a history

A queue of items, where items are put at the end and taken from the front, any number at a time. The
history keeps everything that was ever put and taken.

The module introduces:

* `Queue`, `Queue.Move`: the queue and what may happen to it;
* `Queue.Conserved`: what was taken, followed by what waits, is what was put, in this order;
* `Queue.allStates_conserved`: it holds in every run of a system whose steps are moves of a queue.
-/

namespace Fifo

variable {α σ ι : Type*}

/-- A queue with its history. -/
structure Queue (α : Type*) where
  /-- The items in the queue, the next one first. -/
  waiting : List α
  /-- The items ever put. -/
  put : List α
  /-- The items ever taken. -/
  taken : List α

namespace Queue

/-- What may happen to a queue. -/
inductive Move (q : Queue α) : Queue α → Prop
  | put (xs : List α) : Move q { q with waiting := q.waiting ++ xs, put := q.put ++ xs }
  | take (n : ℕ) :
      Move q { q with waiting := q.waiting.drop n, taken := q.taken ++ q.waiting.take n }

/-- Nothing happens. -/
theorem Move.refl (q : Queue α) : Move q q := by
  simpa using Move.take (q := q) 0

/-- Nothing is lost, duplicated or reordered. -/
def Conserved (q : Queue α) : Prop := q.taken ++ q.waiting = q.put

theorem Move.conserved {q q' : Queue α} (h : Move q q') (hq : q.Conserved) : q'.Conserved := by
  cases h with
  | put xs =>
    calc q.taken ++ (q.waiting ++ xs)
        = (q.taken ++ q.waiting) ++ xs := (List.append_assoc _ _ _).symm
      _ = q.put ++ xs := by rw [hq]
  | take n =>
    calc q.taken ++ q.waiting.take n ++ q.waiting.drop n
        = q.taken ++ (q.waiting.take n ++ q.waiting.drop n) := List.append_assoc _ _ _
      _ = q.taken ++ q.waiting := by rw [List.take_append_drop]
      _ = q.put := hq

/-- A system whose steps are moves of the queue `abs` that it implements conserves it. -/
theorem allStates_conserved {step : σ → ι → Option σ} {abs : σ → Queue α}
    (hmove : ∀ s a s', step s a = some s' → Move (abs s) (abs s')) {s : σ}
    (hs : (abs s).Conserved) (as : List ι) :
    Runs.AllStates step (fun s => (abs s).Conserved) s as := by
  induction as generalizing s with
  | nil => exact hs
  | cons a as ih => exact ⟨hs, fun s' hstep => ih ((hmove s a s' hstep).conserved hs)⟩

end Queue

end Fifo
