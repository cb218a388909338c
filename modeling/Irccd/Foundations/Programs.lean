import Mathlib.Tactic.Common

/-!
# Programs that ask

A program returns, gives up, or asks a query and goes on with the answer. A handler answers the
queries: it has a state, and it may stop the program. The same program runs over every handler of
its queries, and over related handlers it does the same.

* `Program`, `Handler`, `run`: a program, and its run over a handler;
* `Related`, `run_related`: a simulation between two handlers is one between the runs.
-/

namespace Programs

variable {Q E S T α β : Type} {A : Q → Type}

/-! ## Programs -/

/-- A program with queries in `Q`, answers to `q` in `A q`, and reasons to give up in `E`. -/
inductive Program (Q : Type) (A : Q → Type) (E α : Type) : Type
  | ret (a : α)
  | fail (e : E)
  | ask (q : Q) (next : A q → Program Q A E α)

namespace Program

/-- Go on with what the program returns. -/
def andThen (f : α → Program Q A E β) : Program Q A E α → Program Q A E β
  | ret a => f a
  | fail e => fail e
  | ask q next => ask q fun answer => (next answer).andThen f

instance : Monad (Program Q A E) where
  pure := ret
  bind p f := p.andThen f

/-- Ask, and return the answer. -/
def query (q : Q) : Program Q A E (A q) := ask q ret

end Program

/-! ## Handlers -/

/-- What happens: a value, or a reason to stop, and the state afterwards. -/
abbrev RunResult (E S α : Type) : Type := Except E α × S

namespace RunResult

/-- Go on with the value, if there is one. -/
def andThen (f : α → S → RunResult E S β) : RunResult E S α → RunResult E S β
  | (.ok a, s) => f a s
  | (.error e, s) => (.error e, s)

/-- Change the state. -/
def mapState (f : S → T) (x : RunResult E S α) : RunResult E T α := (x.1, f x.2)

@[simp] theorem andThen_ok (f : α → S → RunResult E S β) (a : α) (s : S) :
    andThen f (.ok a, s) = f a s := rfl

@[simp] theorem andThen_error (f : α → S → RunResult E S β) (e : E) (s : S) :
    andThen f (.error e, s) = (.error e, s) := rfl

end RunResult

/-- What answers the queries, in a state of type `S`. -/
abbrev Handler (Q : Type) (A : Q → Type) (E S : Type) : Type := (q : Q) → S → RunResult E S (A q)

/-- Run a program over a handler. -/
def run (h : Handler Q A E S) : Program Q A E α → S → RunResult E S α
  | .ret a, s => (.ok a, s)
  | .fail e, s => (.error e, s)
  | .ask q next, s => (h q s).andThen fun answer s => run h (next answer) s

section Run

variable (h : Handler Q A E S) (s : S)

@[simp] theorem run_pure (a : α) : run h (pure a : Program Q A E α) s = (.ok a, s) := rfl

@[simp] theorem run_fail (e : E) : run h (.fail e : Program Q A E α) s = (.error e, s) := rfl

@[simp] theorem run_query (q : Q) : run h (.query q) s = h q s := by
  rw [Program.query, run]
  cases hq : h q s with
  | mk answer s' =>
    cases answer with
    | ok answer => rfl
    | error e => rfl

@[simp] theorem run_bind (p : Program Q A E α) (f : α → Program Q A E β) :
    run h (p >>= f) s = (run h p s).andThen fun a s => run h (f a) s := by
  show run h (p.andThen f) s = _
  induction p generalizing s with
  | ret a => rfl
  | fail e => rfl
  | ask q next ih =>
    rw [Program.andThen, run, run]
    cases hq : h q s with
    | mk answer s' =>
      cases answer with
      | ok answer => exact ih answer s'
      | error e => rfl

end Run

/-! ## Simulation -/

/-- The same value in states related by `R`, or the same reason to stop in states related by
`R'`. -/
def Related (R R' : S → T → Prop) : RunResult E S α → RunResult E T α → Prop
  | (.ok a, s), (.ok b, t) => a = b ∧ R s t
  | (.error e, s), (.error e', t) => e = e' ∧ R' s t
  | _, _ => False

section Related

variable {R R' : S → T → Prop}

/-- Both return the same value, or both stop for the same reason. -/
theorem Related.ok_or_error {x : RunResult E S α} {y : RunResult E T α} (h : Related R R' x y) :
    (∃ a s t, x = (.ok a, s) ∧ y = (.ok a, t) ∧ R s t) ∨
      ∃ e s t, x = (.error e, s) ∧ y = (.error e, t) ∧ R' s t := by
  match x, y, h with
  | (.ok a, s), (.ok _, t), ⟨rfl, hst⟩ => exact .inl ⟨a, s, t, rfl, rfl, hst⟩
  | (.error e, s), (.error _, t), ⟨rfl, hst⟩ => exact .inr ⟨e, s, t, rfl, rfl, hst⟩

theorem Related.andThen {x : RunResult E S α} {y : RunResult E T α} {f : α → S → RunResult E S β}
    {g : α → T → RunResult E T β} (h : Related R R' x y)
    (hnext : ∀ a s t, R s t → Related R R' (f a s) (g a t)) :
    Related R R' (x.andThen f) (y.andThen g) := by
  match x, y, h with
  | (.ok a, s), (.ok _, t), ⟨rfl, hst⟩ => exact hnext a s t hst
  | (.error e, s), (.error _, t), ⟨rfl, hst⟩ => exact ⟨rfl, hst⟩

/-- Handlers that answer alike let a program do the same. -/
theorem run_related {h : Handler Q A E S} {h' : Handler Q A E T}
    (hsim : ∀ q s t, R s t → Related R R' (h q s) (h' q t)) (hstop : ∀ s t, R s t → R' s t)
    (p : Program Q A E α) {s : S} {t : T} (hst : R s t) :
    Related R R' (run h p s) (run h' p t) := by
  induction p generalizing s t with
  | ret a => exact ⟨rfl, hst⟩
  | fail e => exact ⟨rfl, hstop s t hst⟩
  | ask q next ih => exact (hsim q s t hst).andThen fun a s t hst => ih a hst

end Related

end Programs
