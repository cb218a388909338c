import Mathlib.Data.List.Nodup
import Mathlib.Tactic.Common

/-!
# Traversing a list from which elements are removed

A loop over a linked list that reads the next element before it deals with the current one, so that
the current one may be removed. Other elements may be removed as well, while the loop waits.

The module introduces:

* `pending l next`: the elements from the one that was read on;
* `Cursor l next visited`: the loop has met `visited`, and will go on with `next`, which is still in
  the list;
* `Cursor.start`, `Cursor.visit`, `Cursor.remove`: what keeps this. Only `next` must not be removed;
* `Cursor.complete`: at the end, every element that is left in the list was met.
-/

namespace Traversal

variable {α : Type*} [DecidableEq α] {l visited rest : List α} {next : Option α} {a b : α}

/-- The elements of the list from the given one on. -/
def pending (l : List α) : Option α → List α
  | none => []
  | some a => l.dropWhile (· != a)

@[simp] theorem pending_none : pending l none = [] := rfl

theorem pending_head? : pending l l.head? = l := by
  cases l <;> simp [pending]

theorem pending_subset (h : b ∈ pending l next) : b ∈ l := by
  cases next with
  | none => simp at h
  | some a => exact (List.dropWhile_suffix _).subset h

/-- An element of the list comes first among those from it on. -/
theorem exists_pending (h : a ∈ l) : ∃ rest, pending l (some a) = a :: rest := by
  induction l with
  | nil => simp at h
  | cons b l ih =>
    by_cases hba : b = a
    · exact ⟨l, by simp [pending, hba]⟩
    · obtain ⟨rest, hrest⟩ := ih ((List.mem_cons.1 h).resolve_left (Ne.symm hba))
      exact ⟨rest, by simpa [pending, hba] using hrest⟩

/-- Where the elements are distinct, those after the first one that is left are left next. -/
theorem pending_rest (hl : l.Nodup) (h : pending l next = a :: rest) :
    pending l rest.head? = rest := by
  cases next with
  | none => simp at h
  | some c =>
    cases rest with
    | nil => rfl
    | cons b rest =>
      induction l with
      | nil => simp [pending] at h
      | cons d l ih =>
        obtain ⟨hd, hl⟩ := List.nodup_cons.1 hl
        by_cases hdc : d = c
        · -- the list starts with the first one that is left
          have heq : d :: l = a :: b :: rest := by simpa [pending, hdc] using h
          obtain ⟨rfl, rfl⟩ := List.cons.inj heq
          have hdb : d ≠ b := fun hdb => hd (by simp [hdb])
          simp [pending, hdb]
        · have htail : pending l (some c) = a :: b :: rest := by simpa [pending, hdc] using h
          have hb : b ∈ l := pending_subset (htail.symm ▸ by simp : b ∈ pending l (some c))
          have hdb : d ≠ b := fun hdb => hd (hdb ▸ hb)
          simpa [pending, hdb] using ih hl htail

/-- Removing another element than the next one removes it from those that are left. -/
theorem pending_erase (hl : l.Nodup) (hnext : next ≠ some b) :
    pending (l.erase b) next = (pending l next).erase b := by
  cases next with
  | none => rfl
  | some a =>
    have hab : a ≠ b := fun h => hnext (congrArg some h)
    induction l with
    | nil => rfl
    | cons c l ih =>
      obtain ⟨hc, hl⟩ := List.nodup_cons.1 hl
      by_cases hcb : c = b
      · subst hcb
        -- the element stands before the next one
        have hnot : c ∉ l.dropWhile (· != a) := fun h => hc ((List.dropWhile_suffix _).subset h)
        simp [pending, Ne.symm hab, List.erase_of_not_mem hnot]
      · by_cases hca : c = a
        · simp [pending, hca, hab]
        · simpa [pending, hcb, hca] using ih hl

/-- A loop over `l` that has met `visited` and will go on with `next`. -/
structure Cursor (l : List α) (next : Option α) (visited : List α) : Prop where
  nodup : l.Nodup
  next_mem : ∀ a ∈ next, a ∈ l
  once : visited.Nodup
  ahead : ∀ a ∈ pending l next, a ∉ visited
  covers : ∀ a ∈ l, a ∈ visited ∨ a ∈ pending l next

namespace Cursor

theorem start (hl : l.Nodup) : Cursor l l.head? [] where
  nodup := hl
  next_mem _ ha := List.mem_of_head? ha
  once := List.nodup_nil
  ahead := by simp
  covers a ha := .inr (by rwa [pending_head?])

/-- The loop meets the next element. -/
theorem visit (h : Cursor l next visited) (hrest : pending l next = a :: rest) :
    Cursor l rest.head? (visited ++ [a]) := by
  have hpending : pending l rest.head? = rest := pending_rest h.nodup hrest
  have hdistinct : (a :: rest).Nodup := by
    cases next with
    | none => simp at hrest
    | some c => exact hrest ▸ h.nodup.sublist (List.dropWhile_sublist _)
  refine ⟨h.nodup, fun b hb => ?_, ?_, fun b hb => ?_, fun b hb => ?_⟩
  · exact pending_subset (hrest ▸ List.mem_cons_of_mem a (List.mem_of_head? hb))
  · refine List.Nodup.append h.once (List.nodup_singleton a) ?_
    simpa using h.ahead a (hrest ▸ List.mem_cons_self)
  · rw [hpending] at hb
    have hba : b ≠ a := fun hba => (List.nodup_cons.1 hdistinct).1 (hba ▸ hb)
    simpa [hba] using h.ahead b (hrest ▸ List.mem_cons_of_mem a hb)
  · rw [hpending]
    rcases h.covers b hb with hb | hb
    · exact .inl (List.mem_append_left _ hb)
    · rw [hrest] at hb
      rcases List.mem_cons.1 hb with rfl | hb
      · exact .inl (by simp)
      · exact .inr hb

/-- Another element than the next one is removed. -/
theorem remove (h : Cursor l next visited) (hnext : next ≠ some b) :
    Cursor (l.erase b) next visited := by
  have hpending := pending_erase h.nodup hnext
  refine ⟨h.nodup.erase b, fun a ha => ?_, h.once, fun a ha => ?_, fun a ha => ?_⟩
  · have hab : a ≠ b := fun hab => hnext (hab ▸ ha)
    exact (List.mem_erase_of_ne hab).2 (h.next_mem a ha)
  · exact h.ahead a (List.mem_of_mem_erase (hpending ▸ ha))
  · have hab : a ≠ b := fun hab => h.nodup.not_mem_erase (hab ▸ ha)
    rw [hpending, List.mem_erase_of_ne hab]
    exact h.covers a (List.mem_of_mem_erase ha)

/-- At the end, every element that is left in the list was met. -/
theorem complete (h : Cursor l none visited) (ha : a ∈ l) : a ∈ visited := by
  simpa using h.covers a ha

end Cursor

end Traversal
