import Mathlib.Data.List.Basic
import Mathlib.Data.List.Induction
import Mathlib.Tactic.Common

/-!
# Handles that are acquired and released

A log of events, some of which acquire a handle (a descriptor, an allocation, a lock) and some of
which release one.

The module introduces:

* `held`: the handles acquired and not released;
* `ReleasesHeld`: only handles that are held are released;
* `count_acquired`: every handle is then released once for each time it was acquired, but for those
  still held.
-/

namespace Handles

variable {κ ι : Type*} [DecidableEq κ]

/-- What an event does to the handles that are held. -/
def heldStep (acquires releases : ι → Option κ) (held : List κ) (e : ι) : List κ :=
  (acquires e).toList ++
    match releases e with
    | some k => held.erase k
    | none => held

/-- The handles that are held after the events of the log. -/
def held (acquires releases : ι → Option κ) (log : List ι) : List κ :=
  log.foldl (heldStep acquires releases) []

/-- Every event that releases a handle finds it among those that are held. -/
def ReleasesHeld (acquires releases : ι → Option κ) (log : List ι) : Prop :=
  ∀ before e after k, log = before ++ e :: after → releases e = some k →
    k ∈ held acquires releases before

variable {acquires releases : ι → Option κ} {log log' : List ι} {e : ι}

@[simp] theorem held_snoc :
    held acquires releases (log ++ [e]) =
      heldStep acquires releases (held acquires releases log) e := by
  simp [held]

theorem releasesHeld_nil : ReleasesHeld acquires releases [] := by
  intro before e after k heq
  simp at heq

theorem ReleasesHeld.of_append (h : ReleasesHeld acquires releases (log ++ log')) :
    ReleasesHeld acquires releases log := by
  intro before e after k heq hk
  exact h before e (after ++ log') k (by rw [heq]; simp) hk

theorem releasesHeld_snoc :
    ReleasesHeld acquires releases (log ++ [e]) ↔
      ReleasesHeld acquires releases log ∧
        ∀ k, releases e = some k → k ∈ held acquires releases log := by
  refine ⟨fun h => ⟨h.of_append, fun k hk => h log e [] k rfl hk⟩, fun h => ?_⟩
  intro before e' after k heq hk
  rcases List.eq_nil_or_concat after with rfl | ⟨after', e'', rfl⟩
  · obtain ⟨rfl, hlast⟩ := List.append_inj' heq rfl
    obtain rfl := List.singleton_inj.1 hlast
    exact h.2 k hk
  · -- the release is one of the events before the last one
    have heq' : log ++ [e] = (before ++ e' :: after') ++ [e''] := by simpa using heq
    obtain ⟨rfl, -⟩ := List.append_inj' heq' rfl
    exact h.1 before e' after' k rfl hk

/-- Events that neither acquire nor release anything make no difference. -/
theorem held_append_of_neutral (h : ∀ e ∈ log', acquires e = none ∧ releases e = none) :
    held acquires releases (log ++ log') = held acquires releases log := by
  induction log' using List.reverseRecOn with
  | nil => rw [List.append_nil]
  | append_singleton log' e ih =>
    obtain ⟨hacq, hrel⟩ := h e (by simp)
    rw [← List.append_assoc, held_snoc, heldStep, hacq, hrel, ih fun e he => h e (by simp [he])]
    rfl

theorem releasesHeld_append_of_neutral (h : ∀ e ∈ log', releases e = none) :
    ReleasesHeld acquires releases (log ++ log') ↔ ReleasesHeld acquires releases log := by
  induction log' using List.reverseRecOn with
  | nil => rw [List.append_nil]
  | append_singleton log' e ih =>
    have hrel := h e (by simp)
    rw [← List.append_assoc, releasesHeld_snoc, ih fun e he => h e (by simp [he])]
    exact and_iff_left fun k hk => absurd (hrel.symm.trans hk) (by simp)

/-- A handle was acquired once for each time it was released, and once more if it is held. -/
theorem ReleasesHeld.count_acquired (h : ReleasesHeld acquires releases log) (k : κ) :
    (log.filterMap acquires).count k =
      (log.filterMap releases).count k + (held acquires releases log).count k := by
  induction log using List.reverseRecOn with
  | nil => rfl
  | append_singleton log e ih =>
    obtain ⟨hlog, hlast⟩ := releasesHeld_snoc.1 h
    have hcount := ih hlog
    have hacq : ((log ++ [e]).filterMap acquires).count k =
        (log.filterMap acquires).count k + (acquires e).toList.count k := by
      rw [List.filterMap_append, List.count_append]
      cases he : acquires e <;> simp [he]
    rw [hacq, held_snoc, heldStep, List.count_append, hcount]
    cases hrel : releases e with
    | none =>
      simp only [List.filterMap_append, List.filterMap_cons, hrel, List.filterMap_nil,
        List.append_nil]
      omega
    | some k' =>
      have hmem := hlast k' hrel
      by_cases hk : k = k'
      · -- the release takes one of the times the handle is held
        subst hk
        have hpos : 0 < (held acquires releases log).count k := List.count_pos_iff.2 hmem
        simp only [List.filterMap_append, List.count_append, List.filterMap_cons, hrel,
          List.filterMap_nil, List.count_singleton_self, List.count_erase_self]
        omega
      · simp only [List.filterMap_append, List.count_append, List.filterMap_cons, hrel,
          List.filterMap_nil, List.count_erase_of_ne hk, List.count_singleton]
        have hne : (k' == k) = false := by simpa using fun h => hk h.symm
        rw [hne]
        simp only [Bool.false_eq_true, if_false]
        omega

end Handles
