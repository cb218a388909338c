import Mathlib.Data.Nat.Notation
import Mathlib.Tactic.Common

/-!
# Bisection

The last index of a window that satisfies a condition, when the condition holds of everything before
an index of which it holds.

* `search`: the window is halved until one index is left;
* `search_spec`: it finds the last such index.
-/

namespace Bisection

/-- Search the last index below something, in the window of `n` indices from `lo`. -/
def search (below : ℕ → Bool) (lo n : ℕ) : Option ℕ :=
  if h : 1 < n then
    if below (lo + n / 2) then search below (lo + n / 2) (n - n / 2) else search below lo (n / 2)
  else if n ≠ 0 ∧ below lo then some lo else none
termination_by n
decreasing_by all_goals omega

variable {below : ℕ → Bool} {lo n : ℕ}

/-- The window has an index below, and the result is the last one, or there is no such index. -/
def Last (below : ℕ → Bool) (lo n : ℕ) : Option ℕ → Prop
  | some k => lo ≤ k ∧ k < lo + n ∧ below k = true ∧ ∀ i, k < i → i < lo + n → below i = false
  | none => ∀ i, lo ≤ i → i < lo + n → below i = false

/-- What is not below stays so behind it. -/
theorem false_of_le (hdown : ∀ i j, i ≤ j → j < lo + n → below j = true → below i = true) {i j : ℕ}
    (hij : i ≤ j) (hj : j < lo + n) (hi : below i = false) : below j = false := by
  by_contra hbelow
  rw [hdown i j hij hj (by simpa using hbelow)] at hi
  cases hi

theorem search_spec (hdown : ∀ i j, i ≤ j → j < lo + n → below j = true → below i = true) :
    Last below lo n (search below lo n) := by
  fun_induction search below lo n with
  | case1 lo n h hbelow ih =>
    -- the answer is in the upper half, which begins below
    have hspec := ih fun i j hij hj => hdown i j hij (by omega)
    generalize search below (lo + n / 2) (n - n / 2) = found at hspec
    cases found with
    | some k =>
      obtain ⟨hle, hlt, hk, hlast⟩ := hspec
      exact ⟨by omega, by omega, hk, fun i hi hin => hlast i hi (by omega)⟩
    | none =>
      rw [hspec (lo + n / 2) (Nat.le_refl _) (by omega)] at hbelow
      cases hbelow
  | case2 lo n h hbelow ih =>
    -- nothing in the upper half is below
    have hspec := ih fun i j hij hj => hdown i j hij (by omega)
    have hupper (i : ℕ) (hi : lo + n / 2 ≤ i) (hin : i < lo + n) : below i = false :=
      false_of_le hdown hi hin (by simpa using hbelow)
    generalize search below lo (n / 2) = found at hspec
    cases found with
    | some k =>
      obtain ⟨hle, hlt, hk, hlast⟩ := hspec
      refine ⟨hle, by omega, hk, fun i hi hin => ?_⟩
      by_cases hhalf : i < lo + n / 2
      · exact hlast i hi hhalf
      · exact hupper i (by omega) hin
    | none =>
      intro i hi hin
      by_cases hhalf : i < lo + n / 2
      · exact hspec i hi hhalf
      · exact hupper i (by omega) hin
  | case3 lo n h hone =>
    exact ⟨(Nat.le_refl _), by omega, hone.2, fun i hi hin => by omega⟩
  | case4 lo n h hone =>
    intro i hi hin
    obtain rfl : i = lo := by omega
    by_contra hbelow
    exact hone ⟨by omega, by simpa using hbelow⟩

end Bisection
