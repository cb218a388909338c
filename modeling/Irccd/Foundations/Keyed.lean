import Mathlib.Data.List.Basic
import Mathlib.Logic.Function.Basic

/-!
# Machines under keys

A machine answers each input. Many machines of one kind run side by side when each input goes to
the machine of its key.

* `runs`: the inputs with their answers;
* `keyed`: a cell for each key;
* `runs_keyed`: what happens under a key is what happens to its cell alone;
* `runs_congr`: a machine that behaves like another one.
-/

namespace Keyed

variable {σ τ γ κ α β : Type*}

/-- The inputs, each with its answer. -/
def runs (step : σ → α → σ × β) : σ → List α → List (α × β)
  | _, [] => []
  | s, a :: as => (a, (step s a).2) :: runs step (step s a).1 as

/-- Each input goes to the cell of its key. -/
def keyed [DecidableEq κ] (cell : γ → α → γ × β) (key : α → κ) (cells : κ → γ) (a : α) :
    (κ → γ) × β :=
  let r := cell (cells (key a)) a
  (Function.update cells (key a) r.1, r.2)

variable {step : σ → α → σ × β} {other : τ → α → τ × β} {cell : γ → α → γ × β} {key : α → κ}

@[simp] theorem runs_nil (s : σ) : runs step s [] = [] := rfl

@[simp] theorem length_runs (s : σ) (as : List α) : (runs step s as).length = as.length := by
  induction as generalizing s with
  | nil => rfl
  | cons a as ih => rw [runs, List.length_cons, ih, List.length_cons]

/-- A machine behaves like another one if their states correspond. -/
theorem runs_congr {R : σ → τ → Prop}
    (hstep : ∀ s t a, R s t → (step s a).2 = (other t a).2 ∧ R (step s a).1 (other t a).1)
    {s : σ} {t : τ} (h : R s t) (as : List α) : runs step s as = runs other t as := by
  induction as generalizing s t with
  | nil => rfl
  | cons a as ih =>
    obtain ⟨hanswer, hnext⟩ := hstep s t a h
    rw [runs, runs, hanswer, ih hnext]

/-- The inputs with a key, and their answers, are those of its cell alone. -/
theorem runs_keyed [DecidableEq κ] (cells : κ → γ) (k : κ) (as : List α) :
    (runs (keyed cell key) cells as).filter (key ·.1 = k) =
      runs cell (cells k) (as.filter (key · = k)) := by
  induction as generalizing cells with
  | nil => rfl
  | cons a as ih =>
    rw [runs]
    by_cases hkey : key a = k
    · have hself : (keyed cell key cells a).1 k = (cell (cells k) a).1 := by
        rw [keyed, hkey]
        exact Function.update_self ..
      have hanswer : (keyed cell key cells a).2 = (cell (cells k) a).2 := by rw [keyed, hkey]
      rw [List.filter_cons_of_pos (by simpa using hkey),
        List.filter_cons_of_pos (by simpa using hkey), ih, hself, hanswer, runs]
    · have hother : (keyed cell key cells a).1 k = cells k :=
        Function.update_of_ne (Ne.symm hkey) ..
      rw [List.filter_cons_of_neg (by simpa using hkey),
        List.filter_cons_of_neg (by simpa using hkey), ih, hother]

end Keyed
