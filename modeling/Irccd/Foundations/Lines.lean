import Irccd.Foundations.Readers

/-!
# Cutting a stream into lines

A stream of symbols is cut by a terminator of one symbol. What follows the last terminator is the
start of a line that is not complete yet.

The module introduces:

* `cut z s`: the complete lines of a stream, and what is left;
* `cut_unlines`: lines are found again, whatever follows them.
-/

namespace Lines

open Readers (unlines)

variable {α : Type*} [DecidableEq α] (z : α)

/-- The complete lines of a stream, and what follows the last terminator. -/
def cut : List α → List (List α) × List α
  | [] => ([], [])
  | a :: s =>
    if a = z then ([] :: (cut s).1, (cut s).2)
    else
      match cut s with
      | ([], rest) => ([], a :: rest)
      | (l :: lines, rest) => ((a :: l) :: lines, rest)

variable {z} {l s t rest : List α} {lines : List (List α)}

/-- A stream without a terminator has no complete line. -/
theorem cut_of_not_mem (h : z ∉ s) : cut z s = ([], s) := by
  induction s with
  | nil => rfl
  | cons a s ih =>
    obtain ⟨ha, hs⟩ := not_or.1 (mt List.mem_cons.2 h)
    rw [cut, if_neg (Ne.symm ha), ih hs]

/-- The first line of a stream. -/
theorem cut_line (h : z ∉ l) (s : List α) :
    cut z (l ++ z :: s) = (l :: (cut z s).1, (cut z s).2) := by
  induction l with
  | nil => rw [List.nil_append, cut, if_pos rfl]
  | cons a l ih =>
    obtain ⟨ha, hl⟩ := not_or.1 (mt List.mem_cons.2 h)
    rw [List.cons_append, cut, if_neg (Ne.symm ha), ih hl]

/-- Lines are found again, whatever follows them. -/
theorem cut_unlines (h : ∀ l ∈ lines, z ∉ l) (s : List α) :
    cut z (unlines z lines ++ s) = (lines ++ (cut z s).1, (cut z s).2) := by
  induction lines with
  | nil => rfl
  | cons l lines ih =>
    obtain ⟨hl, hrest⟩ := List.forall_mem_cons.1 h
    have hcons : unlines z (l :: lines) ++ s = l ++ z :: (unlines z lines ++ s) := by
      simp [unlines]
    rw [hcons, cut_line hl, ih hrest, List.cons_append]

end Lines
