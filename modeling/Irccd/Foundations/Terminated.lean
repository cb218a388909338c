import Mathlib.Data.List.Basic
import Mathlib.Tactic.Common

/-!
# Terminated strings in a buffer

A buffer of symbols holds strings, each of which ends at the next terminator. A pointer into the
buffer is an offset.

The module introduces:

* `strAt z buf i`: the string that starts at the offset `i`;
* `Stored z buf i s`: the string `s` starts at `i`, and its terminator is in the buffer.
-/

namespace Terminated

variable {α : Type*} [DecidableEq α] {z : α} {buf s : List α} {i k : ℕ}

/-- The string that starts at an offset: the symbols before the next terminator. -/
def strAt (z : α) (buf : List α) (i : ℕ) : List α := (buf.drop i).takeWhile (· != z)

/-- The string `s` starts at the offset `i`, and its terminator is in the buffer. -/
def Stored (z : α) (buf : List α) (i : ℕ) (s : List α) : Prop :=
  z ∉ s ∧ ∃ post, buf.drop i = s ++ z :: post

omit [DecidableEq α] in
theorem stored_length (pre post : List α) (hs : z ∉ s) :
    Stored z (pre ++ (s ++ z :: post)) pre.length s :=
  ⟨hs, post, List.drop_left⟩

omit [DecidableEq α] in
/-- What is before the string, and behind its terminator. -/
theorem Stored.exists_append (h : Stored z buf i s) :
    ∃ pre post, buf = pre ++ (s ++ z :: post) ∧ pre.length = i := by
  obtain ⟨-, post, hpost⟩ := h
  refine ⟨buf.take i, post, by rw [← hpost, List.take_append_drop], ?_⟩
  -- the offset is in the buffer
  have hlen := congrArg List.length hpost
  simp only [List.length_drop, List.length_append, List.length_cons] at hlen
  rw [List.length_take]
  omega

omit [DecidableEq α] in
/-- The end of a string is a string. -/
theorem Stored.drop (h : Stored z buf i s) (hk : k ≤ s.length) :
    Stored z buf (i + k) (s.drop k) := by
  obtain ⟨hs, post, hpost⟩ := h
  refine ⟨fun hz => hs (List.mem_of_mem_drop hz), post, ?_⟩
  rw [← List.drop_drop, hpost, List.drop_append_of_le_length hk]

theorem takeWhile_of_not_mem (hs : z ∉ s) (post : List α) :
    (s ++ z :: post).takeWhile (· != z) = s := by
  have hpos : ∀ a ∈ s, (a != z) = true := fun a ha => by
    rw [bne_iff_ne]
    rintro rfl
    exact hs ha
  rw [List.takeWhile_append_of_pos hpos]
  simp

theorem dropWhile_of_not_mem (hs : z ∉ s) (post : List α) :
    (s ++ z :: post).dropWhile (· != z) = z :: post := by
  have hsplit := List.takeWhile_append_dropWhile (p := (· != z)) (l := s ++ z :: post)
  rw [takeWhile_of_not_mem hs] at hsplit
  exact List.append_cancel_left hsplit

theorem Stored.strAt_eq (h : Stored z buf i s) : strAt z buf i = s := by
  obtain ⟨hs, post, hpost⟩ := h
  rw [strAt, hpost, takeWhile_of_not_mem hs]

omit [DecidableEq α] in
theorem Stored.lt_length (h : Stored z buf i s) : i + s.length < buf.length := by
  obtain ⟨-, post, hpost⟩ := h
  have hlen := congrArg List.length hpost
  simp only [List.length_drop, List.length_append, List.length_cons] at hlen
  omega

end Terminated
