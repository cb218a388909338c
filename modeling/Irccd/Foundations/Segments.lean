import Mathlib.Data.List.Infix
import Mathlib.Tactic.Common

/-!
# Cutting a list into segments

A list is cut into segments that have to fit. When every part of a segment that fits also fits, it
is best to make each segment as long as possible.

The module introduces:

* `Cuts`: the segments that a list has been cut into;
* `greedy`: each segment is extended as long as it fits;
* `Cuts.drop`: the end of a list can be cut into no more segments;
* `length_greedy_le`: nothing has fewer segments than the greedy ones.
-/

namespace Segments

variable {α : Type*} {fits : List α → Prop} {cur l : List α} {a : α}

/-- The segments, each of which fits, that a list has been cut into. -/
structure Cuts (fits : List α → Prop) (l : List α) (segments : List (List α)) : Prop where
  flatten : segments.flatten = l
  fits : ∀ g ∈ segments, fits g

/-- Extend the current segment as long as it fits, then start another one. -/
def greedy (fits : List α → Prop) [DecidablePred fits] : List α → List α → List (List α)
  | cur, [] => [cur]
  | cur, a :: l =>
    if fits (cur ++ [a]) then greedy fits (cur ++ [a]) l else cur :: greedy fits [a] l

section Greedy

variable [DecidablePred fits]

theorem greedy_extend (h : fits (cur ++ [a])) :
    greedy fits cur (a :: l) = greedy fits (cur ++ [a]) l := if_pos h

theorem greedy_start (h : ¬ fits (cur ++ [a])) :
    greedy fits cur (a :: l) = cur :: greedy fits [a] l := if_neg h

/-- The greedy segments fit when the first one does and each element alone does. -/
theorem cuts_greedy (hcur : fits cur) (hl : ∀ a ∈ l, fits [a]) :
    Cuts fits (cur ++ l) (greedy fits cur l) := by
  induction l generalizing cur with
  | nil =>
    refine ⟨by simp [greedy], fun g hg => ?_⟩
    obtain rfl := List.mem_singleton.1 hg
    exact hcur
  | cons a l ih =>
    have hl' : ∀ a ∈ l, fits [a] := fun b hb => hl b (List.mem_cons_of_mem a hb)
    by_cases h : fits (cur ++ [a])
    · rw [greedy_extend h, List.append_cons]
      exact ih h hl'
    · have hrest := ih (hl a (by simp)) hl'
      rw [greedy_start h]
      refine ⟨?_, fun g hg => ?_⟩
      · rw [List.flatten_cons, hrest.flatten, List.singleton_append]
      · rcases List.mem_cons.1 hg with rfl | hg
        · exact hcur
        · exact hrest.fits g hg

theorem ne_nil_of_mem_greedy (hcur : cur ≠ []) : ∀ g ∈ greedy fits cur l, g ≠ [] := by
  induction l generalizing cur with
  | nil =>
    intro g hg
    obtain rfl := List.mem_singleton.1 hg
    exact hcur
  | cons a l ih =>
    by_cases h : fits (cur ++ [a])
    · rw [greedy_extend h]
      exact ih (List.concat_ne_nil a cur)
    · rw [greedy_start h]
      intro g hg
      rcases List.mem_cons.1 hg with rfl | hg
      · exact hcur
      · exact ih (List.cons_ne_nil a []) g hg

theorem greedy_ne_nil : greedy fits cur l ≠ [] := by
  induction l generalizing cur with
  | nil => exact List.cons_ne_nil _ _
  | cons a l ih =>
    by_cases h : fits (cur ++ [a])
    · rw [greedy_extend h]
      exact ih
    · rw [greedy_start h]
      exact List.cons_ne_nil _ _

end Greedy

/-- The end of a list can be cut into no more segments than the list. -/
theorem Cuts.drop (hsuffix : ∀ g h, fits h → g <:+ h → fits g) {p : List α}
    {segments : List (List α)} (h : Cuts fits (p ++ l) segments) :
    ∃ segments', Cuts fits l segments' ∧ segments'.length ≤ segments.length := by
  induction segments generalizing p with
  | nil =>
    obtain ⟨-, rfl⟩ := List.append_eq_nil_iff.1 h.flatten.symm
    exact ⟨[], ⟨rfl, nofun⟩, Nat.le_refl 0⟩
  | cons g segments ih =>
    have hrest : ∀ b ∈ segments, fits b := fun b hb => h.fits b (List.mem_cons_of_mem g hb)
    have hflatten := h.flatten
    rw [List.flatten_cons] at hflatten
    rcases List.append_eq_append_iff.1 hflatten with ⟨p', rfl, hl⟩ | ⟨g', rfl, rfl⟩
    · -- the first segment is dropped
      obtain ⟨segments', hcuts, hlen⟩ := ih ⟨hl, hrest⟩
      exact ⟨segments', hcuts, Nat.le_succ_of_le hlen⟩
    · -- a part of the first segment is left
      refine ⟨g' :: segments, ⟨List.flatten_cons, fun b hb => ?_⟩, Nat.le_refl _⟩
      rcases List.mem_cons.1 hb with rfl | hb
      · exact hsuffix _ _ (h.fits (p ++ b) (by simp)) (List.suffix_append p b)
      · exact hrest b hb

/-- Nothing has fewer segments than the greedy ones. -/
theorem length_greedy_le [DecidablePred fits] ( hbegins : ∀ g h, fits h → g <+: h → fits g)
    (hsuffix : ∀ g h, fits h → g <:+ h → fits g) (hcur : cur ≠ []) {segments : List (List α)}
    (h : Cuts fits (cur ++ l) segments) : (greedy fits cur l).length ≤ segments.length := by
  induction l generalizing cur segments with
  | nil =>
    cases segments with
    | nil => exact absurd h.flatten.symm (by simpa using hcur)
    | cons g segments => exact Nat.succ_le_succ (Nat.zero_le _)
  | cons a l ih =>
    by_cases hfits : fits (cur ++ [a])
    · rw [greedy_extend hfits]
      rw [List.append_cons] at h
      exact ih (List.concat_ne_nil a cur) h
    · rw [greedy_start hfits, List.length_cons]
      cases segments with
      | nil => exact absurd h.flatten.symm (by simp)
      | cons g segments =>
        have hrest : ∀ b ∈ segments, fits b := fun b hb => h.fits b (List.mem_cons_of_mem g hb)
        have hflatten := h.flatten
        rw [List.flatten_cons] at hflatten
        -- the first segment does not reach the element at which the greedy one stops
        rcases List.append_eq_append_iff.1 hflatten with ⟨p, rfl, hl⟩ | ⟨g', rfl, hl⟩
        · obtain ⟨segments', hcuts, hlen⟩ := Cuts.drop hsuffix (l := [a] ++ l) ⟨hl, hrest⟩
          exact Nat.succ_le_succ (Nat.le_trans (ih (List.cons_ne_nil a []) hcuts) hlen)
        · cases g' with
          | nil =>
            obtain ⟨segments', hcuts, hlen⟩ :=
              Cuts.drop hsuffix (l := [a] ++ l) (p := []) ⟨hl.symm, hrest⟩
            exact Nat.succ_le_succ (Nat.le_trans (ih (List.cons_ne_nil a []) hcuts) hlen)
          | cons b g' =>
            obtain ⟨rfl, -⟩ := List.cons.inj hl
            exact absurd ( hbegins (cur ++ [a]) _ (h.fits (cur ++ a :: g') (by simp))
              ⟨g', by simp⟩) hfits

end Segments
