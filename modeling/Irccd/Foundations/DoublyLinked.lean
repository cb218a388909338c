import Mathlib.Data.List.Chain
import Mathlib.Data.List.Nodup
import Mathlib.Logic.Function.Basic

/-!
# Doubly linked lists

The cells of a list are linked both ways. The cell before the first one is the last one, and there
is none after the last one. A list is known by its first cell.

The module introduces:

* `Links`: the first cell of a list, and the links of all cells;
* `prepend`, `append`, `appendElem`, `delete`: the macros that change them;
* `foreach`: the cells that a loop over the list visits;
* `LinkedAs s l`: the links are those of the list `l`;
* `LinkedAs.prepend` and the like: what the macros do to the list.
-/

namespace DoublyLinked

/-- The first cell of a list, and the cells before and after each cell. A null pointer is `none`. -/
structure Links (α : Type*) where
  head : Option α
  prev : α → Option α
  next : α → Option α

variable {α : Type*}

/-! ## The macros -/

section Macros

variable [DecidableEq α] (s : Links α)

/-- `(x)->prev = p` -/
def Links.setPrev (x : α) (p : Option α) : Links α :=
  { s with prev := Function.update s.prev x p }

/-- `(x)->next = p` -/
def Links.setNext (x : α) (p : Option α) : Links α :=
  { s with next := Function.update s.next x p }

@[simp] theorem Links.head_setPrev (x : α) (p : Option α) : (s.setPrev x p).head = s.head := rfl

@[simp] theorem Links.next_setPrev (x : α) (p : Option α) : (s.setPrev x p).next = s.next := rfl

@[simp] theorem Links.prev_setPrev (x : α) (p : Option α) (y : α) :
    (s.setPrev x p).prev y = if y = x then p else s.prev y :=
  Function.update_apply ..

@[simp] theorem Links.head_setNext (x : α) (p : Option α) : (s.setNext x p).head = s.head := rfl

@[simp] theorem Links.prev_setNext (x : α) (p : Option α) : (s.setNext x p).prev = s.prev := rfl

@[simp] theorem Links.next_setNext (x : α) (p : Option α) (y : α) :
    (s.setNext x p).next y = if y = x then p else s.next y :=
  Function.update_apply ..

/-- `DL_PREPEND (head, add)` -/
def prepend (add : α) : Links α :=
  let s := s.setNext add s.head
  let s :=
    match s.head with
    | some head => (s.setPrev add (s.prev head)).setPrev head (some add)
    | none => s.setPrev add (some add)
  { s with head := some add }

/-- `DL_APPEND (head, add)`. There is no result when a null pointer is followed, here and below. -/
def append (add : α) : Option (Links α) :=
  match s.head with
  | some head => do
    let s := s.setPrev add (s.prev head)
    let last ← s.prev head
    let s := s.setNext last (some add)
    let s := s.setPrev head (some add)
    return s.setNext add none
  | none =>
    let s := { s with head := some add }
    let s := s.setPrev add (some add)
    some (s.setNext add none)

/-- `DL_APPEND_ELEM (head, el, add)`. There is no result either when an assertion fails. -/
def appendElem (el : Option α) (add : α) : Option (Links α) :=
  match el with
  | some el => do
    let head ← s.head
    let s := s.setNext add (s.next el)
    let s := s.setPrev add (some el)
    let s := s.setNext el (some add)
    match s.next add with
    | some after => return s.setPrev after (some add)
    | none => return s.setPrev head (some add)
  | none => some (prepend s add)

/-- `DL_DELETE (head, del)` -/
def delete (del : α) : Option (Links α) := do
  let head ← s.head
  let before ← s.prev del
  if before = del then return { s with head := none }
  else if del = head then
    let after ← s.next del
    let s := s.setPrev after (s.prev del)
    return { s with head := s.next del }
  else
    let s := s.setNext before (s.next del)
    match s.next del with
    | some after => return s.setPrev after (s.prev del)
    | none => return s.setPrev head (s.prev del)

end Macros

/-- The cells that `DL_FOREACH` visits from `el` on, unless there are more than so many. -/
def foreach (next : α → Option α) : ℕ → Option α → Option (List α)
  | _, none => some []
  | 0, some _ => none
  | n + 1, some el => (foreach next n (next el)).map (el :: ·)

/-! ## The list -/

/-- The links are those of a list. -/
structure LinkedAs (s : Links α) (l : List α) : Prop where
  nodup : l.Nodup
  head : s.head = l.head?
  first : ∀ x ∈ l.head?, s.prev x = l.getLast?
  links : l.IsChain fun x y => s.next x = some y ∧ s.prev y = some x
  last : ∀ x ∈ l.getLast?, s.next x = none

section Chains

variable {R S : α → α → Prop} {l : List α}

/-- Only the elements before the last one come first in a pair, and only those after the first one
come second. -/
theorem isChain_imp (h : l.IsChain R)
    (himp : ∀ x ∈ l.dropLast, ∀ y ∈ l.tail, R x y → S x y) : l.IsChain S := by
  induction l with
  | nil => exact .nil
  | cons a l ih =>
    cases l with
    | nil => exact .singleton a
    | cons b l =>
      obtain ⟨hab, hl⟩ := List.isChain_cons_cons.1 h
      refine .cons_cons (himp a (by simp) b (by simp) hab) (ih hl fun x hx y hy => ?_)
      exact himp x (by simp [hx]) y (List.mem_of_mem_tail hy)

end Chains

section Lists

variable {s s' : Links α} {l l₁ l₂ : List α} {x add el del : α} {i : ℕ}

/-- The next cell. -/
theorem LinkedAs.next_eq (h : LinkedAs s l) (hx : l[i]? = some x) : s.next x = l[i + 1]? := by
  obtain ⟨hi, rfl⟩ := List.getElem?_eq_some_iff.1 hx
  by_cases hlast : i + 1 < l.length
  · rw [(h.links.getElem i hlast).1, List.getElem?_eq_getElem hlast]
  · rw [List.getElem?_eq_none (not_lt.1 hlast)]
    refine h.last _ ?_
    rw [List.getLast?_eq_getElem?, Option.mem_def, ← hx]
    congr 1
    omega

/-- A loop over the list visits its cells. -/
theorem foreach_of_isChain {next : α → Option α} {n : ℕ} (hn : l.length ≤ n)
    (hlinks : l.IsChain fun x y => next x = some y) (hlast : ∀ x ∈ l.getLast?, next x = none) :
    foreach next n l.head? = some l := by
  induction l generalizing n with
  | nil => cases n <;> rfl
  | cons x l ih =>
    obtain ⟨n, rfl⟩ := Nat.exists_eq_add_one_of_ne_zero (Nat.ne_zero_of_lt hn)
    have hnext : next x = l.head? := by
      cases l with
      | nil => exact hlast x rfl
      | cons y l => exact (List.isChain_cons_cons.1 hlinks).1
    have hrest : ∀ y ∈ l.getLast?, next y = none := by
      intro y hy
      refine hlast y ?_
      rw [List.getLast?_cons, Option.mem_def.1 hy]
      rfl
    rw [List.head?_cons, foreach, hnext, ih (Nat.le_of_succ_le_succ hn) hlinks.tail hrest,
      Option.map_some]

theorem LinkedAs.foreach_eq (h : LinkedAs s l) {n : ℕ} (hn : l.length ≤ n) :
    foreach s.next n s.head = some l := by
  rw [h.head]
  exact foreach_of_isChain hn (h.links.imp fun _ _ hxy => hxy.1) h.last

/-! ## What the macros do to the list -/

/-- No other cell is the first one. -/
theorem LinkedAs.ne_of_mem_tail {head : α} (h : LinkedAs s l) (hhead : l.head? = some head)
    (hx : x ∈ l.tail) : x ≠ head := by
  cases l with
  | nil => cases hx
  | cons y l =>
    obtain rfl := Option.some.inj hhead
    rintro rfl
    exact (List.nodup_cons.1 h.nodup).1 hx

/-- The first cell is the same whatever comes after some cell. -/
theorem exists_head (l : List α) (el : α) :
    ∃ head ∈ l ++ [el], ∀ rest, (l ++ el :: rest).head? = some head := by
  cases l with
  | nil => exact ⟨el, by simp, fun _ => rfl⟩
  | cons head l => exact ⟨head, by simp, fun _ => rfl⟩

theorem nodup_insert (h : (l₁ ++ el :: l₂).Nodup) (hadd : add ∉ l₁ ++ el :: l₂) :
    (l₁ ++ el :: add :: l₂).Nodup := by
  have hperm : (l₁ ++ [el] ++ add :: l₂).Perm (add :: (l₁ ++ [el] ++ l₂)) := List.perm_middle
  simp only [List.append_assoc, List.singleton_append] at hperm
  exact hperm.nodup_iff.2 (List.nodup_cons.2 ⟨hadd, h⟩)

theorem getLast?_append_cons_cons (l l' : List α) (x y : α) :
    (l ++ x :: y :: l').getLast? = (y :: l').getLast? := by
  simp [List.getLast?_append, List.getLast?_cons]

/-- When a list is linked anew at a place, both its parts stay as they are. -/
theorem relink (s' : Links α) {a b : α} (hnodup : (l₁ ++ a :: b :: l₂).Nodup)
    (hleft : (l₁ ++ [a]).IsChain fun x y => s.next x = some y ∧ s.prev y = some x)
    (hright : (b :: l₂).IsChain fun x y => s.next x = some y ∧ s.prev y = some x)
    (hnext : ∀ x ∈ l₁ ++ a :: b :: l₂, x ≠ a → s'.next x = s.next x)
    (hprev : ∀ x ∈ l₁ ++ a :: b :: l₂, x ≠ b → s'.prev x = s.prev x) :
    ((l₁ ++ [a]).IsChain fun x y => s'.next x = some y ∧ s'.prev y = some x) ∧
      ((b :: l₂).IsChain fun x y => s'.next x = some y ∧ s'.prev y = some x) ∧
      (∀ x ∈ l₁ ++ [a], s'.prev x = s.prev x) ∧ ∀ x ∈ b :: l₂, s'.next x = s.next x := by
  -- the links that are written belong to `a` and to `b`, which are at the ends of the parts
  have hsplit : (l₁ ++ [a] ++ b :: l₂).Nodup := by simpa using hnodup
  obtain ⟨hnodup₁, hnodup₂, hdisjoint⟩ := List.nodup_append.1 hsplit
  have hnext₁ : ∀ x ∈ l₁, s'.next x = s.next x := fun x hx =>
    hnext x (List.mem_append_left _ hx)
      ((List.nodup_append.1 hnodup₁).2.2 x hx a List.mem_cons_self)
  have hprev₁ : ∀ x ∈ l₁ ++ [a], s'.prev x = s.prev x := fun x hx =>
    hprev x (by simp only [List.mem_append, List.mem_cons] at hx ⊢; tauto)
      (hdisjoint x hx b List.mem_cons_self)
  have hnext₂ : ∀ x ∈ b :: l₂, s'.next x = s.next x := fun x hx =>
    hnext x (List.mem_append_right _ (List.mem_cons_of_mem a hx))
      (hdisjoint a (by simp) x hx).symm
  have hprev₂ : ∀ x ∈ l₂, s'.prev x = s.prev x := fun x hx =>
    hprev x (by simp [hx]) fun heq => (List.nodup_cons.1 hnodup₂).1 (heq ▸ hx)
  refine ⟨isChain_imp hleft fun x hx y hy hxy => ?_, isChain_imp hright fun x hx y hy hxy => ?_,
    hprev₁, hnext₂⟩
  · rw [List.dropLast_concat] at hx
    rwa [hnext₁ x hx, hprev₁ y (List.mem_of_mem_tail hy)]
  · rwa [hnext₂ x (List.dropLast_subset _ hx), hprev₂ y hy]

theorem linkedAs_nil (h : s.head = none) : LinkedAs s [] where
  nodup := List.nodup_nil
  head := h
  first _ hx := by cases hx
  links := .nil
  last _ hx := by cases hx

variable [DecidableEq α]

theorem LinkedAs.prepend (h : LinkedAs s l) (hadd : add ∉ l) :
    LinkedAs (prepend s add) (add :: l) := by
  have hne {x : α} (hx : x ∈ l) : x ≠ add := fun heq => hadd (heq ▸ hx)
  cases l with
  | nil =>
    refine ⟨List.nodup_singleton add, rfl, ?_, .singleton add, ?_⟩
    · simp [DoublyLinked.prepend, h.head]
    · simp [DoublyLinked.prepend, h.head]
  | cons head l =>
    obtain ⟨hhead, -⟩ := List.nodup_cons.1 h.nodup
    have hne' : add ≠ head := (hne List.mem_cons_self).symm
    refine ⟨List.nodup_cons.2 ⟨hadd, h.nodup⟩, rfl, ?_, ?_, fun x hx => ?_⟩
    · simp [DoublyLinked.prepend, h.head, hne', h.first head rfl]
    · refine List.isChain_cons_cons.2 ⟨by simp [DoublyLinked.prepend, h.head], ?_⟩
      refine isChain_imp h.links fun x hx y hy hxy => ?_
      have hy' : y ≠ head := fun heq => hhead (heq ▸ hy)
      simpa [DoublyLinked.prepend, h.head, hne (List.mem_of_mem_tail hy), hy',
        hne (List.dropLast_subset _ hx)] using hxy
    · rw [List.getLast?_cons_cons] at hx
      simpa [DoublyLinked.prepend, h.head, hne (List.mem_of_getLast? hx)] using h.last x hx

/-- A cell is added behind the last one. -/
theorem LinkedAs.appendElem_last (h : LinkedAs s (l ++ [el])) (hadd : add ∉ l ++ [el]) :
    ∃ s', appendElem s (some el) add = some s' ∧ LinkedAs s' (l ++ [el, add]) := by
  have hne {x : α} (hx : x ∈ l ++ [el]) : x ≠ add := fun heq => hadd (heq ▸ hx)
  have hel : add ≠ el := (hne (by simp)).symm
  have hnext : s.next el = none := h.last el (by simp)
  obtain ⟨head, hmem, hhead⟩ := exists_head l el
  have hneHead : add ≠ head := (hne hmem).symm
  have hbefore {x : α} (hx : x ∈ l) : x ≠ el ∧ x ≠ add :=
    ⟨List.nodup_append.1 h.nodup |>.2.2 x hx el List.mem_cons_self, hne (List.mem_append_left _ hx)⟩
  rw [DoublyLinked.appendElem, h.head, hhead]
  refine ⟨(((s.setNext add none).setPrev add (some el)).setNext el (some add)).setPrev head
    (some add), by simp [hnext, hel], nodup_insert h.nodup hadd, ?_, fun x hx => ?_, ?_, ?_⟩
  · simp [h.head, hhead]
  · rw [hhead, Option.mem_some_iff] at hx
    simp [hx]
  · refine List.isChain_append_cons_cons.2 ⟨?_, by simp [hneHead], .singleton add⟩
    refine isChain_imp h.links fun x hx y hy hxy => ?_
    rw [List.dropLast_concat] at hx
    simpa [hbefore hx, h.ne_of_mem_tail (hhead []) hy, hne (List.mem_of_mem_tail hy)] using hxy
  · simp [hel]

/-- A cell is added between two others. -/
theorem LinkedAs.appendElem_middle {after : α} (h : LinkedAs s (l₁ ++ el :: after :: l₂))
    (hadd : add ∉ l₁ ++ el :: after :: l₂) :
    ∃ s', appendElem s (some el) add = some s' ∧
      LinkedAs s' (l₁ ++ el :: add :: after :: l₂) := by
  have hne {x : α} (hx : x ∈ l₁ ++ el :: after :: l₂) : x ≠ add := fun heq => hadd (heq ▸ hx)
  have hel : add ≠ el := (hne (by simp)).symm
  have hafter : add ≠ after := (hne (by simp)).symm
  obtain ⟨hlinks, hlinks'⟩ := List.isChain_split.1 h.links
  obtain ⟨⟨hnext, -⟩, hlinks'⟩ := List.isChain_cons_cons.1 hlinks'
  obtain ⟨head, hmem, hhead⟩ := exists_head l₁ el
  obtain ⟨s', happend, hhead', hnext', hprev'⟩ :
      ∃ s', DoublyLinked.appendElem s (some el) add = some s' ∧ s'.head = some head ∧
        (∀ x, s'.next x = if x = el then some add else if x = add then some after else s.next x) ∧
        ∀ x, s'.prev x = if x = after then some add else if x = add then some el else s.prev x := by
    simp [DoublyLinked.appendElem, h.head, hhead, hnext, hel]
  -- the cells before the place, and those behind it, do not see the new cell
  obtain ⟨hleft, hright, hfirst, hlast⟩ := relink s' h.nodup hlinks hlinks'
    (fun x hx hxel => by simp [hnext', hxel, hne hx])
    (fun x hx hxafter => by simp [hprev', hxafter, hne hx])
  refine ⟨s', happend, nodup_insert h.nodup hadd, by rw [hhead', hhead], fun x hx => ?_, ?_,
    fun x hx => ?_⟩
  · rw [hhead, Option.mem_some_iff] at hx
    subst hx
    rw [hfirst _ hmem, h.first _ (hhead _), getLast?_append_cons_cons, getLast?_append_cons_cons,
      List.getLast?_cons_cons]
  · refine List.isChain_append_cons_cons.2 ⟨hleft, by simp [hnext', hprev', hafter], ?_⟩
    exact List.isChain_cons_cons.2 ⟨by simp [hnext', hprev', hel], hright⟩
  · rw [getLast?_append_cons_cons, List.getLast?_cons_cons] at hx
    rw [hlast x (List.mem_of_getLast? hx)]
    exact h.last x (by rwa [getLast?_append_cons_cons])

/-- A cell is added behind another one: it is linked to the cell that came after it, or to the first
cell when none did. -/
theorem LinkedAs.appendElem (h : LinkedAs s (l₁ ++ el :: l₂)) (hadd : add ∉ l₁ ++ el :: l₂) :
    ∃ s', appendElem s (some el) add = some s' ∧ LinkedAs s' (l₁ ++ el :: add :: l₂) := by
  cases l₂ with
  | nil => exact h.appendElem_last hadd
  | cons after l₂ => exact h.appendElem_middle hadd

/-- `DL_APPEND` does the same as `DL_APPEND_ELEM` behind the last cell. -/
theorem LinkedAs.append_eq (h : LinkedAs s (l ++ [el])) (hadd : add ∉ l ++ [el]) :
    append s add = DoublyLinked.appendElem s (some el) add := by
  obtain ⟨head, hmem, hhead⟩ := exists_head l el
  have hel : el ≠ add := fun heq => hadd (heq ▸ by simp)
  have hneHead : head ≠ add := fun heq => hadd (heq ▸ hmem)
  have hprev : s.prev head = some el := by
    rw [h.first head (hhead []), List.getLast?_concat]
  have hnext : s.next el = none := h.last el (by simp)
  rw [append, DoublyLinked.appendElem, h.head, hhead]
  simp [hprev, hnext, hneHead, Links.setPrev, Links.setNext, Function.update_comm hel.symm]

theorem LinkedAs.append (h : LinkedAs s l) (hadd : add ∉ l) :
    ∃ s', append s add = some s' ∧ LinkedAs s' (l ++ [add]) := by
  rcases List.eq_nil_or_concat l with rfl | ⟨l, el, rfl⟩
  · refine ⟨_, by rw [DoublyLinked.append, h.head]; rfl, List.nodup_singleton add, rfl, ?_,
      .singleton add, ?_⟩
    · simp
    · simp
  · rw [List.concat_eq_append] at h hadd ⊢
    rw [h.append_eq hadd, List.append_assoc]
    exact h.appendElem_last hadd

/-- The first cell is taken off the list. -/
theorem LinkedAs.delete_head (h : LinkedAs s (del :: l)) :
    ∃ s', delete s del = some s' ∧ LinkedAs s' l := by
  have hprev : s.prev del = (del :: l).getLast? := h.first del rfl
  cases l with
  | nil =>
    refine ⟨{ s with head := none }, ?_, linkedAs_nil rfl⟩
    simp [delete, h.head, hprev]
  | cons after l =>
    obtain ⟨hdel, hnodup⟩ := List.nodup_cons.1 h.nodup
    obtain ⟨⟨hnext, -⟩, hlinks⟩ := List.isChain_cons_cons.1 h.links
    obtain ⟨last, hlast⟩ : ∃ last, (after :: l).getLast? = some last :=
      ⟨_, List.getLast?_eq_some_getLast (List.cons_ne_nil _ _)⟩
    have hne : last ≠ del := fun heq => hdel (heq ▸ List.mem_of_getLast? hlast)
    rw [List.getLast?_cons_cons, hlast] at hprev
    refine ⟨{ s.setPrev after (some last) with head := some after }, ?_, hnodup, rfl, ?_, ?_, ?_⟩
    · simp [delete, h.head, hprev, hne, hnext]
    · simp [hlast]
    · refine isChain_imp hlinks fun x _ y hy hxy => ?_
      have hy' : y ≠ after := fun heq => (List.nodup_cons.1 hnodup).1 (heq ▸ hy)
      simpa [hy'] using hxy
    · exact fun x hx => h.last x (by rwa [List.getLast?_cons_cons])

/-- The last cell is taken off the list. -/
theorem LinkedAs.delete_last {before : α} (h : LinkedAs s (l ++ [before, del])) :
    ∃ s', delete s del = some s' ∧ LinkedAs s' (l ++ [before]) := by
  obtain ⟨hlinks, ⟨-, hprev⟩, -⟩ := List.isChain_append_cons_cons.1 h.links
  have hnodup : (l ++ [before] ++ [del]).Nodup := by simpa using h.nodup
  obtain ⟨hnodup, -, hdel⟩ := List.nodup_append.1 hnodup
  have hnext : s.next del = none := h.last del (by simp)
  obtain ⟨head, hmem, hhead⟩ := exists_head l before
  have hneHead : del ≠ head := (hdel head hmem del List.mem_cons_self).symm
  have hne : before ≠ del := hdel before (by simp) del List.mem_cons_self
  refine ⟨(s.setNext before none).setPrev head (some before),
    by simp [delete, h.head, hhead, hprev, hne, hneHead, hnext], hnodup, ?_, fun x hx => ?_, ?_, ?_⟩
  · simp [h.head, hhead]
  · rw [hhead, Option.mem_some_iff] at hx
    simp [hx]
  · refine isChain_imp hlinks fun x hx y hy hxy => ?_
    rw [List.dropLast_concat] at hx
    have hx' : x ≠ before := (List.nodup_append.1 hnodup).2.2 x hx before List.mem_cons_self
    have hy' : y ≠ head := by
      refine h.ne_of_mem_tail (hhead _) ?_
      cases l with
      | nil => cases hy
      | cons z l =>
        have hmem : y ∈ l ++ [before] ++ [del] := List.mem_append_left _ hy
        rwa [List.append_assoc] at hmem
    simpa [hx', hy'] using hxy
  · simp

/-- A cell is taken off between two others. -/
theorem LinkedAs.delete_middle {before after : α}
    (h : LinkedAs s (l₁ ++ before :: del :: after :: l₂)) :
    ∃ s', delete s del = some s' ∧ LinkedAs s' (l₁ ++ before :: after :: l₂) := by
  obtain ⟨hlinks, ⟨-, hprev⟩, hlinks'⟩ := List.isChain_append_cons_cons.1 h.links
  obtain ⟨⟨hnext, -⟩, hlinks'⟩ := List.isChain_cons_cons.1 hlinks'
  have hnodup : (l₁ ++ before :: after :: l₂).Nodup :=
    h.nodup.sublist (List.Sublist.append_left ((List.sublist_cons_self _ _).cons_cons before) l₁)
  obtain ⟨head, hmem, hhead⟩ := exists_head l₁ before
  have hdel : del ∉ l₁ ++ [before] := by
    have hsplit : (l₁ ++ [before] ++ del :: after :: l₂).Nodup := by simpa using h.nodup
    exact fun hmem => (List.nodup_append.1 hsplit).2.2 del hmem del List.mem_cons_self rfl
  have hne : before ≠ del := fun heq => hdel (heq ▸ by simp)
  have hneHead : del ≠ head := fun heq => hdel (heq ▸ hmem)
  obtain ⟨s', hdelete, hhead', hnext', hprev'⟩ :
      ∃ s', DoublyLinked.delete s del = some s' ∧ s'.head = some head ∧
        (∀ x, s'.next x = if x = before then some after else s.next x) ∧
        ∀ x, s'.prev x = if x = after then some before else s.prev x := by
    simp [DoublyLinked.delete, h.head, hhead, hprev, hne, hneHead, hnext]
  obtain ⟨hleft, hright, hfirst, hlast⟩ := relink s' hnodup hlinks hlinks'
    (fun x _ hx => by simp [hnext', hx]) (fun x _ hx => by simp [hprev', hx])
  refine ⟨s', hdelete, hnodup, by rw [hhead', hhead], fun x hx => ?_, ?_, fun x hx => ?_⟩
  · rw [hhead, Option.mem_some_iff] at hx
    subst hx
    rw [hfirst _ hmem, h.first _ (hhead _), getLast?_append_cons_cons, getLast?_append_cons_cons,
      List.getLast?_cons_cons]
  · exact List.isChain_append_cons_cons.2 ⟨hleft, by simp [hnext', hprev'], hright⟩
  · rw [getLast?_append_cons_cons] at hx
    rw [hlast x (List.mem_of_getLast? hx)]
    exact h.last x (by rwa [getLast?_append_cons_cons, List.getLast?_cons_cons])

/-- A cell is taken off the list. -/
theorem LinkedAs.delete (h : LinkedAs s (l₁ ++ del :: l₂)) :
    ∃ s', delete s del = some s' ∧ LinkedAs s' (l₁ ++ l₂) := by
  rcases List.eq_nil_or_concat l₁ with rfl | ⟨l₁, before, rfl⟩
  · exact h.delete_head
  · rw [List.concat_eq_append, List.append_assoc, List.singleton_append] at h ⊢
    cases l₂ with
    | nil => exact h.delete_last
    | cons after l₂ => exact h.delete_middle

end Lists

end DoublyLinked
