import Mathlib.Logic.Basic
import Mathlib.Tactic.Common

/-!
# Runs of a partial transition function

A system is given by `step : σ → α → Option σ`: in state `s` the action `a` is possible when
`step s a` is `some`, and then leads to that state. A run is a list of actions; it goes on for as
long as its actions are possible.

The module introduces:

* `exec`: the state a run ends in, if all of its actions are possible;
* `AllStates P s as`: `P` holds in every state that the run `as` visits from `s`;
* `AllSteps C s as`: `C` holds of every step that the run `as` takes from `s`;
* `AllStates.of_keeps`: an invariant kept by every step holds throughout every run;
* `AllSteps.of_keeps`: so does what every step from the invariant satisfies;
* `AllStates.of_allSteps`: an invariant kept by the steps that satisfy `C` holds throughout every
  run whose steps all satisfy `C`;
* `allStates_iff_allSteps`: if moreover every other step leaves `P`, the two coincide.
-/

namespace Runs

variable {σ α : Type*}

/-- The state reached by performing the actions in order, if all of them are possible. -/
def exec (step : σ → α → Option σ) (s : σ) : List α → Option σ
  | [] => some s
  | a :: as => (step s a).bind fun s' => exec step s' as

/-- `P` holds in every state visited by the run `as` from `s`, both ends included. -/
def AllStates (step : σ → α → Option σ) (P : σ → Prop) : σ → List α → Prop
  | s, [] => P s
  | s, a :: as => P s ∧ ∀ s', step s a = some s' → AllStates step P s' as

/-- `C` holds of every step `s —a→ s'` taken by the run `as`. -/
def AllSteps (step : σ → α → Option σ) (C : σ → α → σ → Prop) : σ → List α → Prop
  | _, [] => True
  | s, a :: as => ∀ s', step s a = some s' → C s a s' ∧ AllSteps step C s' as

variable {step : σ → α → Option σ} {P Q I : σ → Prop} {C D : σ → α → σ → Prop}

@[simp] theorem exec_nil (s : σ) : exec step s [] = some s := rfl

@[simp] theorem exec_cons (s : σ) (a : α) (as : List α) :
    exec step s (a :: as) = (step s a).bind fun s' => exec step s' as := rfl

theorem exec_append (s : σ) (as bs : List α) :
    exec step s (as ++ bs) = (exec step s as).bind fun s' => exec step s' bs := by
  induction as generalizing s with
  | nil => rfl
  | cons a as ih => simp [ih, Option.bind_assoc]

/-- A condition that can be decided of each step can be decided of a run. -/
instance decidableAllSteps [∀ s a s', Decidable (C s a s')] :
    (s : σ) → (as : List α) → Decidable (AllSteps step C s as)
  | _, [] => isTrue trivial
  | s, a :: as =>
    match h : step s a with
    | none => isTrue fun s' hs' => by simp [h] at hs'
    | some s' =>
      have := decidableAllSteps s' as
      decidable_of_iff (C s a s' ∧ AllSteps step C s' as)
        ⟨fun hsteps t ht => Option.some.inj (h.symm.trans ht) ▸ hsteps, fun hsteps => hsteps s' h⟩

/-- A property that can be decided of each state can be decided of a run. -/
instance decidableAllStates [DecidablePred P] :
    (s : σ) → (as : List α) → Decidable (AllStates step P s as)
  | s, [] => inferInstanceAs (Decidable (P s))
  | s, a :: as =>
    match h : step s a with
    | none => decidable_of_iff (P s) ⟨fun hs => ⟨hs, fun s' hs' => by simp [h] at hs'⟩, And.left⟩
    | some s' =>
      have := decidableAllStates s' as
      decidable_of_iff (P s ∧ AllStates step P s' as)
        ⟨fun hs => ⟨hs.1, fun t ht => Option.some.inj (h.symm.trans ht) ▸ hs.2⟩,
          fun hs => ⟨hs.1, hs.2 s' h⟩⟩

/-- The first state of a run is one of its states. -/
theorem AllStates.head {s : σ} {as : List α} (h : AllStates step P s as) : P s := by
  cases as with
  | nil => exact h
  | cons a as => exact h.1

/-- The last state of a run is one of its states. -/
theorem AllStates.last {s t : σ} {as : List α} (h : AllStates step P s as)
    (hexec : exec step s as = some t) : P t := by
  induction as generalizing s with
  | nil =>
    obtain rfl : s = t := by simpa using hexec
    exact h
  | cons a as ih =>
    rw [exec_cons, Option.bind_eq_some_iff] at hexec
    obtain ⟨s', hstep, hrest⟩ := hexec
    exact ih (h.2 s' hstep) hrest

theorem AllStates.mono {s : σ} {as : List α} (h : AllStates step P s as)
    (hPQ : ∀ s, P s → Q s) : AllStates step Q s as := by
  induction as generalizing s with
  | nil => exact hPQ _ h
  | cons a as ih => exact ⟨hPQ _ h.1, fun s' hstep => ih (h.2 s' hstep)⟩

theorem AllSteps.mono {s : σ} {as : List α} (h : AllSteps step C s as)
    (hCD : ∀ s a s', C s a s' → D s a s') : AllSteps step D s as := by
  induction as generalizing s with
  | nil => trivial
  | cons a as ih =>
    intro s' hstep
    exact ⟨hCD _ _ _ (h s' hstep).1, ih (h s' hstep).2⟩

/-- What holds of the actions of a run holds at each step. -/
theorem AllSteps.and_forall_mem {s : σ} {as : List α} {A : α → Prop} (hC : AllSteps step C s as)
    (hA : ∀ a ∈ as, A a) : AllSteps step (fun s a s' => C s a s' ∧ A a) s as := by
  induction as generalizing s with
  | nil => trivial
  | cons a as ih =>
    obtain ⟨ha, has⟩ := List.forall_mem_cons.1 hA
    intro s' hstep
    obtain ⟨hCs, hrest⟩ := hC s' hstep
    exact ⟨⟨hCs, ha⟩, ih hrest has⟩

/-- What holds of the states holds after each step. -/
theorem AllSteps.and_allStates {s : σ} {as : List α} (hC : AllSteps step C s as)
    (hP : AllStates step P s as) : AllSteps step (fun s a s' => C s a s' ∧ P s') s as := by
  induction as generalizing s with
  | nil => trivial
  | cons a as ih =>
    intro s' hstep
    obtain ⟨hCs, hrest⟩ := hC s' hstep
    exact ⟨⟨hCs, (hP.2 s' hstep).head⟩, ih hrest (hP.2 s' hstep)⟩

/-- The invariant rule: what holds at the start and is kept by every step satisfying `C` holds in
every state of a run whose steps satisfy `C`. -/
theorem AllStates.of_allSteps {s : σ} {as : List α}
    (hkeep : ∀ s a s', I s → step s a = some s' → C s a s' → I s')
    (hinit : I s) (hsteps : AllSteps step C s as) : AllStates step I s as := by
  induction as generalizing s with
  | nil => exact hinit
  | cons a as ih =>
    refine ⟨hinit, fun s' hstep => ?_⟩
    obtain ⟨hC, hrest⟩ := hsteps s' hstep
    exact ih (hkeep s a s' hinit hstep hC) hrest

/-- What holds at the start and is kept by every step holds in every state of a run. -/
theorem AllStates.of_keeps {s : σ} {as : List α} (hkeep : ∀ s a s', I s → step s a = some s' → I s')
    (hinit : I s) : AllStates step I s as := by
  induction as generalizing s with
  | nil => exact hinit
  | cons a as ih => exact ⟨hinit, fun s' hstep => ih (hkeep s a s' hinit hstep)⟩

/-- If every step from `I` satisfies `C` and keeps `I`, then `C` holds of every step of a run. -/
theorem AllSteps.of_keeps {s : σ} {as : List α}
    (hkeep : ∀ s a s', I s → step s a = some s' → C s a s' ∧ I s') (hinit : I s) :
    AllSteps step C s as := by
  induction as generalizing s with
  | nil => trivial
  | cons a as ih =>
    intro s' hstep
    obtain ⟨hC, hnext⟩ := hkeep s a s' hinit hstep
    exact ⟨hC, ih hnext⟩

/-- If `I` is kept by the steps satisfying `C`, implies `P`, and every other step from `I` leaves
`P`, then a run stays in `P` exactly when its steps all satisfy `C`. -/
theorem allStates_iff_allSteps {s : σ} {as : List α}
    (hkeep : ∀ s a s', I s → step s a = some s' → C s a s' → I s')
    (hIP : ∀ s, I s → P s)
    (hleave : ∀ s a s', I s → step s a = some s' → ¬ C s a s' → ¬ P s')
    (hinit : I s) : AllStates step P s as ↔ AllSteps step C s as := by
  constructor
  · intro hP
    induction as generalizing s with
    | nil => trivial
    | cons a as ih =>
      intro s' hstep
      have hrest := hP.2 s' hstep
      have hC : C s a s' := by
        by_contra hC
        exact hleave s a s' hinit hstep hC hrest.head
      exact ⟨hC, ih (hkeep s a s' hinit hstep hC) hrest⟩
  · intro hsteps
    exact (AllStates.of_allSteps hkeep hinit hsteps).mono hIP

/-- A step condition may be read off under an invariant of all runs. -/
theorem AllSteps.congr {s : σ} {as : List α}
    (hkeep : ∀ s a s', I s → step s a = some s' → I s')
    (hCD : ∀ s a s', I s → step s a = some s' → (C s a s' ↔ D s a s'))
    (hinit : I s) : AllSteps step C s as ↔ AllSteps step D s as := by
  induction as generalizing s with
  | nil => exact Iff.rfl
  | cons a as ih =>
    refine forall_congr' fun s' => forall_congr' fun hstep => ?_
    exact and_congr (hCD s a s' hinit hstep) (ih (hkeep s a s' hinit hstep))

end Runs
