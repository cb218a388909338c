import Mathlib.Data.List.Count
import Mathlib.Data.List.Perm.Basic
import Mathlib.Tactic.Common

/-!
# Counted references

Cells that are freed when their last reference is dropped. A cell is known by its place in the list
of the cells that were ever allocated.

* `retain`, `drop`: a reference more, a reference less;
* `access`: a cell that has not been freed;
* `Balanced cells holders`: the count of each cell is the number of its holders, and the cell is
  freed if and only if it has had a holder and has none any more;
* `Used`: a cell that has had a holder.
-/

namespace Counted

variable {α : Type*}

/-- A cell, and whether it was ever referred to. -/
structure Cell (α : Type*) where
  value : α
  count : ℕ
  used : Bool
  freed : Bool

/-- What must not happen. -/
inductive Misuse
  /-- A cell is accessed that was freed. -/
  | freed
  /-- A reference is dropped that there is not. -/
  | unheld
  deriving DecidableEq

/-- A cell that nothing refers to yet. -/
def Cell.fresh (value : α) : Cell α := { value, count := 0, used := false, freed := false }

/-- A cell that has not been freed. -/
def access (cells : List (Cell α)) (i : ℕ) : Except Misuse (Cell α) :=
  match cells[i]? with
  | some c => if c.freed then .error .freed else .ok c
  | none => .error .freed

/-- One reference more. -/
def retain (cells : List (Cell α)) (i : ℕ) : Except Misuse (List (Cell α)) := do
  let c ← access cells i
  return cells.set i { c with count := c.count + 1, used := true }

/-- One reference less. The cell is freed if it was the last one. -/
def drop (cells : List (Cell α)) (i : ℕ) : Except Misuse (List (Cell α)) := do
  let c ← access cells i
  if c.count = 0 then throw .unheld
  else return cells.set i { c with count := c.count - 1, freed := decide (c.count = 1) }

/-- The counts are right, and what has a holder has not been freed. -/
structure Balanced (cells : List (Cell α)) (holders : List ℕ) : Prop where
  count : ∀ i c, cells[i]? = some c → c.count = holders.count i
  freed : ∀ i c, cells[i]? = some c → (c.freed = true ↔ c.used = true ∧ holders.count i = 0)
  used : ∀ i c, cells[i]? = some c → i ∈ holders → c.used = true
  allocated : ∀ i ∈ holders, i < cells.length

/-- The cell has been referred to. -/
def Used (cells : List (Cell α)) (i : ℕ) : Prop := ∃ c, cells[i]? = some c ∧ c.used = true

variable {cells cells' : List (Cell α)} {holders holders' : List ℕ} {i j : ℕ} {c : Cell α}

theorem Balanced.nil : Balanced ([] : List (Cell α)) [] where
  count _ _ h := nomatch h
  freed _ _ h := nomatch h
  used _ _ h := nomatch h
  allocated _ hi := absurd hi List.not_mem_nil

/-- The order of the holders does not matter. -/
theorem Balanced.perm (h : Balanced cells holders) (hperm : holders.Perm holders') :
    Balanced cells holders' where
  count i c hc := by rw [h.count i c hc, hperm.count_eq]
  freed i c hc := by rw [h.freed i c hc, hperm.count_eq]
  used i c hc hi := h.used i c hc (hperm.mem_iff.2 hi)
  allocated i hi := h.allocated i (hperm.mem_iff.2 hi)

/-- A cell with a holder can be accessed. -/
theorem Balanced.access (h : Balanced cells holders) (hi : i ∈ holders) :
    ∃ c, cells[i]? = some c ∧ access cells i = .ok c := by
  obtain ⟨c, hc⟩ : ∃ c, cells[i]? = some c := ⟨_, List.getElem?_eq_getElem (h.allocated i hi)⟩
  refine ⟨c, hc, ?_⟩
  have hlive : ¬ c.freed = true := fun hfreed =>
    List.count_eq_zero.1 ((h.freed i c hc).1 hfreed).2 hi
  rw [Counted.access, hc]
  exact if_neg hlive

theorem Balanced.used_of_mem (h : Balanced cells holders) (hi : i ∈ holders) : Used cells i := by
  obtain ⟨c, hc, -⟩ := h.access hi
  exact ⟨c, hc, h.used i c hc hi⟩

/-- A cell that has lost its last holder cannot be accessed. -/
theorem Balanced.access_eq_error (h : Balanced cells holders) (hused : Used cells i)
    (hi : i ∉ holders) : Counted.access cells i = .error .freed := by
  obtain ⟨c, hc, hused⟩ := hused
  have hfreed : c.freed = true := (h.freed i c hc).2 ⟨hused, List.count_eq_zero.2 hi⟩
  rw [Counted.access, hc]
  exact if_pos hfreed

theorem access_eq_ok (h : Counted.access cells i = .ok c) :
    cells[i]? = some c ∧ c.freed = false := by
  unfold Counted.access at h
  split at h
  · rename_i c' hc
    split at h
    · cases h
    · rename_i hlive
      obtain rfl := Except.ok.inj h
      exact ⟨hc, by simpa using hlive⟩
  · cases h

/-- Looking a cell up after one of them has changed. -/
theorem getElem?_set_cases {cells : List α} {i j : ℕ} {c d : α}
    (h : (cells.set i c)[j]? = some d) : j = i ∧ d = c ∨ j ≠ i ∧ cells[j]? = some d := by
  by_cases hj : j = i
  · rw [hj, List.getElem?_set_self'] at h
    obtain ⟨-, -, rfl⟩ := Option.map_eq_some_iff.1 h
    exact .inl ⟨hj, rfl⟩
  · rw [List.getElem?_set_ne (Ne.symm hj)] at h
    exact .inr ⟨hj, h⟩

/-- A cell that has been referred to stays one, when a cell is set to one that has been too. -/
theorem Used.set (h : Used cells i) (hc : c.used = true) : Used (cells.set j c) i := by
  obtain ⟨d, hd, hused⟩ := h
  have hlt : i < cells.length := (List.getElem?_eq_some_iff.1 hd).1
  by_cases hj : j = i
  · subst hj
    exact ⟨c, List.getElem?_set_self hlt, hc⟩
  · exact ⟨d, by rw [List.getElem?_set_ne hj, hd], hused⟩

theorem Used.append (h : Used cells i) (rest : List (Cell α)) : Used (cells ++ rest) i := by
  obtain ⟨c, hc, hused⟩ := h
  exact ⟨c, List.getElem?_append_left (List.getElem?_eq_some_iff.1 hc).1 ▸ hc, hused⟩

theorem Used.retain (h : Used cells i) (hretain : Counted.retain cells j = .ok cells') :
    Used cells' i := by
  rw [Counted.retain] at hretain
  cases hc : Counted.access cells j with
  | error e => rw [hc] at hretain; cases hretain
  | ok c =>
    rw [hc] at hretain
    obtain rfl := Except.ok.inj hretain
    exact h.set rfl

/-- What dropping a reference does, if there is one. -/
theorem exists_of_drop (h : Counted.drop cells i = .ok cells') :
    ∃ c, cells[i]? = some c ∧ 0 < c.count ∧
      cells' = cells.set i { c with count := c.count - 1, freed := decide (c.count = 1) } := by
  rw [Counted.drop] at h
  cases hc : Counted.access cells i with
  | error e => rw [hc] at h; cases h
  | ok c =>
    rw [hc] at h
    by_cases hzero : c.count = 0
    · cases (if_pos hzero).symm.trans h
    · obtain rfl := Except.ok.inj ((if_neg hzero).symm.trans h)
      exact ⟨c, (access_eq_ok hc).1, Nat.pos_of_ne_zero hzero, rfl⟩

/-- A cell that has been referred to stays one, when a reference that a holder has is dropped. -/
theorem Balanced.used_drop (hb : Balanced cells holders) (h : Used cells i)
    (hdrop : Counted.drop cells j = .ok cells') : Used cells' i := by
  obtain ⟨c, hcell, hpos, rfl⟩ := exists_of_drop hdrop
  -- the count is not zero, so somebody holds the cell
  rw [hb.count j c hcell] at hpos
  exact h.set (hb.used j c hcell (List.count_pos_iff.1 hpos))

/-- Dropping a reference without a holder that goes leaves a count that is wrong. -/
theorem Balanced.not_balanced_drop (h : Balanced cells holders)
    (hdrop : Counted.drop cells i = .ok cells') : ¬ Balanced cells' holders := by
  intro hbalanced
  obtain ⟨c, hcell, hpos, rfl⟩ := exists_of_drop hdrop
  have hlt : i < cells.length := (List.getElem?_eq_some_iff.1 hcell).1
  have hold := h.count i c hcell
  have hnew := hbalanced.count i _ (List.getElem?_set_self hlt)
  -- the holders are as many as before, and the count is one less
  dsimp only at hnew
  omega

/-- A cell that is allocated has no holder yet. -/
theorem Balanced.allocate (h : Balanced cells holders) (value : α) :
    Balanced (cells ++ [.fresh value]) holders ∧
      Counted.access (cells ++ [.fresh value]) cells.length = .ok (.fresh value) := by
  have hnone : holders.count cells.length = 0 :=
    List.count_eq_zero.2 fun hi => Nat.lt_irrefl _ (h.allocated _ hi)
  -- a cell is one of the old ones or the new one
  have hcases {i : ℕ} {c : Cell α} (hc : (cells ++ [.fresh value])[i]? = some c) :
      cells[i]? = some c ∨ i = cells.length ∧ c = .fresh value := by
    rcases Nat.lt_trichotomy i cells.length with hlt | heq | hgt
    · exact .inl (by rwa [List.getElem?_append_left hlt] at hc)
    · rw [heq, List.getElem?_concat_length] at hc
      exact .inr ⟨heq, (Option.some.inj hc).symm⟩
    · rw [List.getElem?_eq_none (by simp; omega)] at hc
      cases hc
  refine ⟨⟨fun i c hc => ?_, fun i c hc => ?_, fun i c hc hi => ?_, fun i hi => ?_⟩, ?_⟩
  · rcases hcases hc with hc | ⟨rfl, rfl⟩
    · exact h.count i c hc
    · exact hnone.symm
  · rcases hcases hc with hc | ⟨rfl, rfl⟩
    · exact h.freed i c hc
    · simp [Cell.fresh]
  · rcases hcases hc with hc | ⟨rfl, rfl⟩
    · exact h.used i c hc hi
    · exact absurd (h.allocated _ hi) (Nat.lt_irrefl _)
  · rw [List.length_append, List.length_singleton]
    exact Nat.lt_succ_of_lt (h.allocated i hi)
  · rw [Counted.access, List.getElem?_concat_length]
    rfl

/-- A reference more is a holder more. -/
theorem Balanced.retain (h : Balanced cells holders) (hc : Counted.access cells i = .ok c) :
    ∃ cells', Counted.retain cells i = .ok cells' ∧ cells'.length = cells.length ∧
      Balanced cells' (i :: holders) := by
  obtain ⟨hcell, -⟩ := access_eq_ok hc
  have hlt : i < cells.length := (List.getElem?_eq_some_iff.1 hcell).1
  refine ⟨_, by rw [Counted.retain, hc]; rfl, List.length_set, ?_⟩
  refine ⟨fun j d hd => ?_, fun j d hd => ?_, fun j d hd hj => ?_, fun j hj => ?_⟩
  · rcases getElem?_set_cases hd with ⟨rfl, rfl⟩ | ⟨hne, hd⟩
    · rw [List.count_cons_self, ← h.count j c hcell]
    · rw [List.count_cons_of_ne (Ne.symm hne), h.count j d hd]
  · rcases getElem?_set_cases hd with ⟨rfl, rfl⟩ | ⟨hne, hd⟩
    · have hlive := (access_eq_ok hc).2
      simp [hlive]
    · rw [List.count_cons_of_ne (Ne.symm hne), h.freed j d hd]
  · rcases getElem?_set_cases hd with ⟨rfl, rfl⟩ | ⟨hne, hd⟩
    · rfl
    · exact h.used j d hd ((List.mem_cons.1 hj).resolve_left hne)
  · rw [List.length_set]
    rcases List.mem_cons.1 hj with rfl | hj
    · exact hlt
    · exact h.allocated j hj

/-- A reference less is a holder less. -/
theorem Balanced.drop (h : Balanced cells holders) (hi : i ∈ holders) :
    ∃ cells', Counted.drop cells i = .ok cells' ∧ cells'.length = cells.length ∧
      Balanced cells' (holders.erase i) := by
  obtain ⟨c, hcell, hc⟩ := h.access hi
  have hlt : i < cells.length := h.allocated i hi
  have hcount := h.count i c hcell
  have hpos : 0 < holders.count i := List.count_pos_iff.2 hi
  have hne : ¬ c.count = 0 := by omega
  refine ⟨cells.set i { c with count := c.count - 1, freed := decide (c.count = 1) }, ?_,
    List.length_set, ?_⟩
  · rw [Counted.drop, hc]
    exact if_neg hne
  refine ⟨fun j d hd => ?_, fun j d hd => ?_, fun j d hd hj => ?_, fun j hj => ?_⟩
  · rcases getElem?_set_cases hd with ⟨rfl, rfl⟩ | ⟨hne, hd⟩
    · rw [List.count_erase_self, hcount]
    · rw [List.count_erase_of_ne hne, h.count j d hd]
  · rcases getElem?_set_cases hd with ⟨rfl, rfl⟩ | ⟨hne, hd⟩
    · -- the last holder goes exactly when the count was one
      have hused := h.used j c hcell hi
      rw [List.count_erase_self, ← hcount]
      simp only [hused, decide_eq_true_eq, true_and]
      omega
    · rw [List.count_erase_of_ne hne, h.freed j d hd]
  · rcases getElem?_set_cases hd with ⟨rfl, rfl⟩ | ⟨hne, hd⟩
    · exact h.used j c hcell hi
    · exact h.used j d hd (List.mem_of_mem_erase hj)
  · rw [List.length_set]
    exact h.allocated j (List.mem_of_mem_erase hj)

end Counted
