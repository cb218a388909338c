import Mathlib.Data.List.Nodup
import Mathlib.Data.List.Count
import Mathlib.Tactic.Common

/-!
# Removing what is in the way first

Something can only be removed when nothing is below it. A list of requests removes its members, each
of which may be resolved to something else when its turn comes.

The module introduces:

* `remove`, `removeAll`: the removal of one member, and of those of a list in order;
* `countP_le_removeAll`: a list removes no more than one member for each request;
* `mem_removeAll`: what has something below it in the end is still there;
* `mem_removeAll_of_self`: so is what is in its own way;
* `removeAll_eq_filter`: an order in which nothing comes before what is below it removes all.
-/

namespace Clearing

variable {α : Type*} [BEq α] (below : α → α → Prop) [DecidableRel below]

/-- Remove a member, unless something is below it. -/
def remove (members : List α) (a : α) : List α :=
  if ∃ b ∈ members, below a b then members else members.erase a

/-- Remove in order what the requests are resolved to. -/
def removeAll (resolve : List α → α → α) (members : List α) (requests : List α) : List α :=
  requests.foldl (fun members a => remove below members (resolve members a)) members

variable {below} {resolve : List α → α → α} {members requests : List α} {a : α}

theorem remove_sublist (members : List α) (a : α) : (remove below members a).Sublist members := by
  rw [remove]
  split
  · exact List.Sublist.refl members
  · exact List.erase_sublist

theorem removeAll_sublist (members requests : List α) :
    (removeAll below resolve members requests).Sublist members := by
  induction requests generalizing members with
  | nil => exact List.Sublist.refl members
  | cons a requests ih => exact (ih _).trans (remove_sublist members _)

variable [LawfulBEq α]

variable (below) in
theorem countP_le_remove (p : α → Bool) (members : List α) (a : α) :
    members.countP p ≤ (remove below members a).countP p + 1 := by
  rw [remove]
  split
  · exact Nat.le_succ _
  · have herase := List.countP_erase p members a
    split at herase <;> omega

variable (below) in
/-- A request removes one member at most. -/
theorem countP_le_removeAll (resolve : List α → α → α) (p : α → Bool) (members requests : List α) :
    members.countP p ≤ (removeAll below resolve members requests).countP p + requests.length := by
  induction requests generalizing members with
  | nil => exact Nat.le_refl _
  | cons a requests ih =>
    have hone := countP_le_remove below p members (resolve members a)
    have hrest := ih (remove below members (resolve members a))
    have hcons : removeAll below resolve members (a :: requests) =
        removeAll below resolve (remove below members (resolve members a)) requests := rfl
    rw [hcons, List.length_cons]
    omega

/-- What has something below it cannot have been removed. -/
theorem mem_removeAll {b : α} (ha : a ∈ members) (hbelow : below a b)
    (hb : b ∈ removeAll below resolve members requests) :
    a ∈ removeAll below resolve members requests := by
  induction requests generalizing members with
  | nil => exact ha
  | cons c requests ih =>
    refine ih ?_ hb
    show a ∈ remove below members (resolve members c)
    have hb' : b ∈ remove below members (resolve members c) := (removeAll_sublist _ _).subset hb
    by_cases hc : resolve members c = a
    · have hmem : b ∈ members := (remove_sublist _ _).subset hb'
      rw [remove, if_pos ⟨b, hmem, by rwa [hc]⟩]
      exact ha
    · rw [remove]
      split
      · exact ha
      · exact (List.mem_erase_of_ne (Ne.symm hc)).2 ha

/-- What is in its own way cannot have been removed. -/
theorem mem_removeAll_of_self (ha : a ∈ members) (hself : below a a) :
    a ∈ removeAll below resolve members requests := by
  induction requests generalizing members with
  | nil => exact ha
  | cons c requests ih =>
    refine ih ?_
    show a ∈ remove below members (resolve members c)
    by_cases hc : resolve members c = a
    · rw [remove, if_pos ⟨a, ha, by rwa [hc]⟩]
      exact ha
    · rw [remove]
      split
      · exact ha
      · exact (List.mem_erase_of_ne (Ne.symm hc)).2 ha

/-- A member with nothing below it is removed. -/
theorem remove_eq_filter (hnodup : members.Nodup) (hfree : ∀ b ∈ members, ¬ below a b) :
    remove below members a = members.filter (· != a) := by
  rw [remove, if_neg fun ⟨b, hb, hab⟩ => hfree b hb hab, hnodup.erase_eq_filter]

/-- When nothing is requested before what is below it, all that is requested is removed. -/
theorem removeAll_eq_filter (hnodup : members.Nodup) (hrequests : requests.Nodup)
    (hsubset : ∀ a ∈ requests, a ∈ members)
    (hresolve : ∀ members a, a ∈ members → resolve members a = a)
    (hirrefl : ∀ a ∈ requests, ¬ below a a) (horder : requests.Pairwise fun a b => ¬ below a b)
    (hclosed : ∀ a ∈ requests, ∀ b ∈ members, below a b → b ∈ requests) :
    removeAll below resolve members requests = members.filter (· ∉ requests) := by
  induction requests generalizing members with
  | nil => simp [removeAll]
  | cons a requests ih =>
    obtain ⟨hfirst, horder⟩ := List.pairwise_cons.1 horder
    obtain ⟨hnew, hrequests⟩ := List.nodup_cons.1 hrequests
    have ha : a ∈ members := hsubset a List.mem_cons_self
    -- what was below it has been removed
    have hfree : ∀ b ∈ members, ¬ below a b := by
      intro b hb hab
      rcases List.mem_cons.1 (hclosed a List.mem_cons_self b hb hab) with rfl | hmem
      · exact hirrefl b List.mem_cons_self hab
      · exact hfirst b hmem hab
    have hcons : removeAll below resolve members (a :: requests) =
        removeAll below resolve (members.filter (· != a)) requests := by
      rw [← remove_eq_filter hnodup hfree]
      exact congrArg (fun c => removeAll below resolve (remove below members c) requests)
        (hresolve members a ha)
    rw [hcons, ih (hnodup.filter _) hrequests _ (fun b hb => hirrefl b (List.mem_cons_of_mem a hb))
      horder _, List.filter_filter]
    · refine List.filter_congr fun b _ => ?_
      by_cases hb : b = a <;> simp [hb]
    · intro b hb
      have hne : b ≠ a := by
        rintro rfl
        exact hnew hb
      exact List.mem_filter.2 ⟨hsubset b (List.mem_cons_of_mem a hb), by simpa using hne⟩
    · intro c hc b hb hcb
      obtain ⟨hb, hne⟩ := List.mem_filter.1 hb
      have hmem := hclosed c (List.mem_cons_of_mem a hc) b hb hcb
      exact (List.mem_cons.1 hmem).resolve_left (by simpa using hne)

end Clearing
