import Mathlib.Data.List.Basic
import Mathlib.Data.List.TakeWhile
import Mathlib.Tactic.Common
import Irccd.Foundations.Terminated

/-!
# Fields of a text

A text is cut into fields at the first separators. There is a greatest number of fields, and the
last one has what is left of the text.

The module introduces:

* `fields sep max s`: the fields of a text;
* `Joinable sep max fs`: the fields that a text can have;
* `fields_intercalate`, `intercalate_fields`: to join fields and to cut a text undo each other.
-/

namespace Fields

open Terminated

variable {α : Type*} [DecidableEq α] {sep : α} {max : ℕ} {s f : List α} {fs : List (List α)}

/-- At most so many fields of a text, the last of which has the rest. -/
def fields (sep : α) : ℕ → List α → List (List α)
  | 0, _ => []
  | max + 1, s =>
    if sep ∈ s ∧ max ≠ 0 then
      s.takeWhile (· != sep) :: fields sep max ((s.dropWhile (· != sep)).drop 1)
    else [s]

omit [DecidableEq α] in
/-- There are at most so many fields, and none of them has a separator, unless it is the last that
there is room for. -/
def Joinable (sep : α) (max : ℕ) (fs : List (List α)) : Prop :=
  fs.length ≤ max ∧ ∀ i f, fs[i]? = some f → i + 1 < max → sep ∉ f

omit [DecidableEq α] in
theorem joinable_cons :
    Joinable sep (max + 1) (f :: fs) ↔ (max ≠ 0 → sep ∉ f) ∧ Joinable sep max fs := by
  constructor
  · rintro ⟨hlen, hsep⟩
    refine ⟨fun hmax => hsep 0 f rfl (by omega), by simpa using hlen, fun i g hg hi => ?_⟩
    exact hsep (i + 1) g (by simpa using hg) (by omega)
  · rintro ⟨hf, hlen, hsep⟩
    refine ⟨by simpa using hlen, fun i g hg hi => ?_⟩
    cases i with
    | zero =>
      obtain rfl : f = g := by simpa using hg
      exact hf (by omega)
    | succ i => exact hsep i g (by simpa using hg) (by omega)

omit [DecidableEq α] in
theorem not_joinable_zero : ¬ Joinable sep 0 (f :: fs) :=
  fun h => absurd h.1 (Nat.not_succ_le_zero _)

/-! ## Cutting at a separator -/

/-- A text with a separator is what stands before the first one, and what stands behind it. -/
theorem eq_append_of_mem (h : sep ∈ s) :
    s = s.takeWhile (· != sep) ++ sep :: (s.dropWhile (· != sep)).drop 1 := by
  obtain ⟨pre, post, rfl, hpre⟩ := List.eq_append_cons_of_mem h
  rw [takeWhile_of_not_mem hpre, dropWhile_of_not_mem hpre, List.drop_one, List.tail_cons]

theorem not_mem_takeWhile : sep ∉ s.takeWhile (· != sep) := fun h => by
  simpa using List.mem_takeWhile_imp h

/-- The first field of a text in which a separator follows it. -/
theorem fields_append (hf : sep ∉ f) (hmax : max ≠ 0) (s : List α) :
    fields sep (max + 1) (f ++ sep :: s) = f :: fields sep max s := by
  rw [fields, if_pos ⟨by simp, hmax⟩, takeWhile_of_not_mem hf, dropWhile_of_not_mem hf,
    List.drop_one, List.tail_cons]

/-- The last field. -/
theorem fields_last (hs : max ≠ 0 → sep ∉ s) : fields sep (max + 1) s = [s] := by
  rw [fields, if_neg fun h => hs h.2 h.1]

/-! ## Joining -/

omit [DecidableEq α] in
theorem intercalate_cons_cons (sep : α) (f g : List α) (fs : List (List α)) :
    [sep].intercalate (f :: g :: fs) = f ++ sep :: [sep].intercalate (g :: fs) := by
  simp [List.intercalate]

/-- The fields that are joined are those of the text. -/
theorem fields_intercalate (h : Joinable sep max fs) (hne : fs ≠ []) :
    fields sep max ([sep].intercalate fs) = fs := by
  induction fs generalizing max with
  | nil => exact absurd rfl hne
  | cons f fs ih =>
    cases max with
    | zero => exact absurd h not_joinable_zero
    | succ max =>
      obtain ⟨hf, hfs⟩ := joinable_cons.1 h
      cases fs with
      | nil => simpa [List.intercalate] using fields_last hf
      | cons g fs =>
        -- there is room for another field
        have hmax : max ≠ 0 := by
          rintro rfl
          exact not_joinable_zero hfs
        rw [intercalate_cons_cons, fields_append (hf hmax) hmax, ih hfs (List.cons_ne_nil _ _)]

theorem joinable_fields : Joinable sep max (fields sep max s) := by
  induction max generalizing s with
  | zero => simp [fields, Joinable]
  | succ max ih =>
    rw [fields]
    split
    · exact joinable_cons.2 ⟨fun _ => not_mem_takeWhile, ih⟩
    · next hlast =>
      refine joinable_cons.2 ⟨fun hmax hmem => hlast ⟨hmem, hmax⟩, ?_⟩
      simp [Joinable]

theorem fields_ne_nil (hmax : max ≠ 0) : fields sep max s ≠ [] := by
  obtain ⟨max, rfl⟩ := Nat.exists_eq_succ_of_ne_zero hmax
  rw [fields]
  split <;> exact List.cons_ne_nil _ _

/-- A field is a part of the text. -/
theorem subset_of_mem_fields (h : f ∈ fields sep max s) : f ⊆ s := by
  induction max generalizing s with
  | zero => simp [fields] at h
  | succ max ih =>
    rw [fields] at h
    split at h
    · obtain rfl | hrest := List.mem_cons.1 h
      · exact List.takeWhile_subset _
      · exact fun a ha => (List.dropWhile_sublist _).subset (List.mem_of_mem_drop (ih hrest ha))
    · obtain rfl := List.mem_singleton.1 h
      exact List.Subset.refl _

/-- The fields of a text are joined to the text again. -/
theorem intercalate_fields (hmax : max ≠ 0) : [sep].intercalate (fields sep max s) = s := by
  induction max generalizing s with
  | zero => exact absurd rfl hmax
  | succ max ih =>
    rw [fields]
    split
    · next h =>
      have hne : fields sep max ((s.dropWhile (· != sep)).drop 1) ≠ [] := fields_ne_nil h.2
      obtain ⟨g, fs, hfs⟩ := List.exists_cons_of_ne_nil hne
      have hjoin := ih (s := (s.dropWhile (· != sep)).drop 1) h.2
      rw [hfs] at hjoin ⊢
      rw [intercalate_cons_cons, hjoin]
      exact (eq_append_of_mem h.1).symm
    · simp [List.intercalate]

end Fields
