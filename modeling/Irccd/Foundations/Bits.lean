import Mathlib.Algebra.Group.Nat.Defs
import Mathlib.Tactic.Common

/-!
# Pieces of a bit vector

A number is cut into pieces of some bits each, and put together again.

The module introduces:

* `lowBits w k`: the mask of the lowest `k` bits;
* `and_lowBits_eq_self`: what a mask keeps of a small number;
* `shiftLeft_or_lowBits`: two pieces that stand side by side.
-/

namespace Bits

variable {w : ℕ}

/-- The mask of the lowest bits. -/
def lowBits (w k : ℕ) : BitVec w := (BitVec.allOnes k).setWidth w

theorem getElem_lowBits {k i : ℕ} (hi : i < w) : (lowBits w k)[i] = decide (i < k) := by
  rw [← BitVec.getLsbD_eq_getElem hi, lowBits, BitVec.getLsbD_setWidth, BitVec.getLsbD_allOnes]
  simp [hi]

/-- A small number has no high bits. -/
theorem getElem_eq_false_of_lt {p : BitVec w} {k i : ℕ} (h : p.toNat < 2 ^ k) (hi : i < w)
    (hk : k ≤ i) : p[i] = false :=
  Nat.testBit_lt_two_pow (Nat.lt_of_lt_of_le h (Nat.pow_le_pow_right (by decide) hk))

/-- A number without high bits is small. -/
theorem toNat_lt_of_getElem {p : BitVec w} {k : ℕ} (h : ∀ i (hi : i < w), k ≤ i → p[i] = false) :
    p.toNat < 2 ^ k := by
  apply Nat.lt_pow_two_of_testBit
  intro i hk
  by_cases hi : i < w
  · exact h i hi hk
  · exact Nat.testBit_lt_two_pow
      (Nat.lt_of_lt_of_le p.isLt (Nat.pow_le_pow_right (by decide) (Nat.le_of_not_lt hi)))

theorem and_lowBits_eq_self {p : BitVec w} {k : ℕ} (h : p.toNat < 2 ^ k) :
    p &&& lowBits w k = p := by
  ext i hi
  rw [BitVec.getElem_and, getElem_lowBits]
  by_cases hik : i < k
  · simp [hik]
  · simp [getElem_eq_false_of_lt h hi (Nat.le_of_not_lt hik)]

/-- Two pieces that stand side by side. -/
theorem shiftLeft_or_lowBits (p : BitVec w) (k n : ℕ) :
    (p >>> k &&& lowBits w n) <<< k ||| (p &&& lowBits w k) = p &&& lowBits w (k + n) := by
  ext i hi
  simp only [BitVec.getElem_or, BitVec.getElem_shiftLeft, BitVec.getElem_and, getElem_lowBits]
  by_cases hik : i < k
  · have hin : i < k + n := by omega
    simp [hik, hin]
  · have hshift : k + (i - k) = i := by omega
    have hmask : decide (i - k < n) = decide (i < k + n) := by
      rw [decide_eq_decide]
      omega
    simp [hik, hshift, hmask, BitVec.getLsbD_eq_getElem hi]

/-- A piece behind a mark, read back. -/
theorem setWidth_mark_or_and {m v : ℕ} {mark mask : BitVec v} (h : mark &&& mask = 0)
    (p : BitVec m) :
    (mark ||| (p.setWidth v &&& mask)).setWidth m &&& mask.setWidth m = p &&& mask.setWidth m := by
  ext i hi
  have hbit : (mark &&& mask).getLsbD i = false := by
    rw [h]
    exact BitVec.getLsbD_zero
  rw [BitVec.getLsbD_and] at hbit
  cases hmask : mask.getLsbD i with
  | false => simp [hmask]
  | true =>
    have hmark : mark.getLsbD i = false := by simpa [hmask] using hbit
    have hv : i < v := BitVec.lt_of_getLsbD hmask
    rw [BitVec.getLsbD_eq_getElem hv] at hmask hmark
    simp [hmask, hmark, hv, BitVec.getLsbD_eq_getElem hi]

end Bits
