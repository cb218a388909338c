import Mathlib.Data.List.Basic
import Mathlib.Tactic.Common

/-!
# Framing a stream by a two-symbol terminator

A stream of symbols is cut into frames by a terminator made of two symbols, the first satisfying
`p` and the second `q` (carriage return and line feed, say). The leftmost terminator ends the
first frame, and so on.

The module introduces:

* `findPair p q xs`: the position of the first terminator in `xs`;
* `frame p q xs`: the complete frames of `xs`, without their terminators, and what is left after
  the last one;
* `frame_append`: framing can be resumed. Cutting `xs ++ ys` gives the frames of `xs`, then those
  of the rest of `xs` followed by `ys`;
* `frame_of_findPair`: removing the first frame of `xs` and its terminator removes the head of its
  list of frames.
-/

namespace Framing

variable {α β : Type*} (p q : α → Bool)

/-- The position of the first terminator. -/
def findPair : List α → Option ℕ
  | [] => none
  | [_] => none
  | a :: b :: t => if p a && q b then some 0 else (findPair (b :: t)).map (· + 1)

/-- Put a symbol in front of a framed stream. -/
def extend (a : α) : List (List α) × List α → List (List α) × List α
  | ([], rest) => ([], a :: rest)
  | (l :: ls, rest) => ((a :: l) :: ls, rest)

/-- The complete frames, and the symbols after the last terminator. -/
def frame : List α → List (List α) × List α
  | [] => ([], [])
  | [a] => ([], [a])
  | a :: b :: t =>
    if p a && q b then ([] :: (frame t).1, (frame t).2) else extend a (frame (b :: t))

/-- The complete frames of a stream. -/
def frames (xs : List α) : List (List α) := (frame p q xs).1

/-- What follows the last terminator of a stream. -/
def rest (xs : List α) : List α := (frame p q xs).2

variable {p q}

theorem frame_eq (xs : List α) : frame p q xs = (frames p q xs, rest p q xs) := rfl

@[simp] theorem frames_nil : frames p q [] = [] := rfl

@[simp] theorem rest_nil : rest p q [] = [] := rfl

@[simp] theorem frames_singleton (a : α) : frames p q [a] = [] := rfl

@[simp] theorem rest_singleton (a : α) : rest p q [a] = [a] := rfl

theorem frame_pair {a b : α} (h : (p a && q b) = true) (t : List α) :
    frame p q (a :: b :: t) = ([] :: frames p q t, rest p q t) := by
  rw [frame, if_pos h]; rfl

theorem frame_skip {a b : α} (h : ¬ (p a && q b) = true) (t : List α) :
    frame p q (a :: b :: t) = extend a (frame p q (b :: t)) := by
  rw [frame, if_neg h]

theorem frames_pair {a b : α} (h : (p a && q b) = true) (t : List α) :
    frames p q (a :: b :: t) = [] :: frames p q t := by
  rw [frames, frame_pair h]

theorem rest_pair {a b : α} (h : (p a && q b) = true) (t : List α) :
    rest p q (a :: b :: t) = rest p q t := by
  rw [rest, frame_pair h]

theorem extend_fst_eq_nil {a : α} {f : List (List α) × List α} :
    (extend a f).1 = [] ↔ f.1 = [] := by
  rcases f with ⟨_ | ⟨l, ls⟩, r⟩ <;> simp [extend]

theorem frames_skip_eq_nil {a b : α} (h : ¬ (p a && q b) = true) {t : List α} :
    frames p q (a :: b :: t) = [] ↔ frames p q (b :: t) = [] := by
  rw [frames, frame_skip h, extend_fst_eq_nil, frames]

/-- Without a complete frame the symbol in front joins the rest. -/
theorem rest_skip_of_nil {a b : α} (h : ¬ (p a && q b) = true) {t : List α}
    (ht : frames p q (b :: t) = []) :
    rest p q (a :: b :: t) = a :: rest p q (b :: t) := by
  rw [rest, frame_skip h, frame_eq, ht]; rfl

/-- With a complete frame the rest does not change. -/
theorem rest_skip_of_ne_nil {a b : α} (h : ¬ (p a && q b) = true) {t : List α}
    (ht : frames p q (b :: t) ≠ []) :
    rest p q (a :: b :: t) = rest p q (b :: t) := by
  rw [rest, frame_skip h, frame_eq]
  obtain ⟨l, ls, hl⟩ := List.exists_cons_of_ne_nil ht
  rw [hl]; rfl

/-- The symbol in front joins the first frame, whatever follows the first frames. -/
theorem extend_append {a : α} {ls : List (List α)} (h : ls ≠ []) (ms : List (List α))
    (r r' : List α) :
    extend a (ls ++ ms, r) = ((extend a (ls, r')).1 ++ ms, r) := by
  obtain ⟨l, ls, rfl⟩ := List.exists_cons_of_ne_nil h
  rfl

/-- A stream without a complete frame is its own rest. -/
theorem rest_of_frames_nil {xs : List α} (h : frames p q xs = []) : rest p q xs = xs := by
  induction xs using frame.induct p q with
  | case1 => rfl
  | case2 a => rfl
  | case3 a b t hab ih => simp [frames_pair hab] at h
  | case4 a b t hab ih =>
    have ht := (frames_skip_eq_nil hab).1 h
    rw [rest_skip_of_nil hab ht, ih ht]

/-- Framing can be resumed: only the rest of the first part matters for the second. -/
theorem frame_append (xs ys : List α) :
    frame p q (xs ++ ys) =
      (frames p q xs ++ frames p q (rest p q xs ++ ys), rest p q (rest p q xs ++ ys)) := by
  by_cases hnil : frames p q xs = []
  · -- `xs` is its own rest
    rw [hnil, rest_of_frames_nil hnil, List.nil_append, frame_eq]
  · induction xs using frame.induct p q with
    | case1 => simp at hnil
    | case2 a => simp at hnil
    | case3 a b t hab ih =>
      rw [List.cons_append, List.cons_append, frame_pair hab, frames_pair hab, rest_pair hab]
      -- the terminator ends an empty frame, and `t` may have no other
      by_cases ht : frames p q t = []
      · rw [ht, rest_of_frames_nil ht, List.cons_append, List.nil_append]
      · rw [frames, rest, ih ht, List.cons_append]
    | case4 a b t hab ih =>
      have ht : frames p q (b :: t) ≠ [] := fun h => hnil ((frames_skip_eq_nil hab).2 h)
      -- `a` joins the first frame, which is complete before `ys` comes
      calc frame p q (a :: b :: t ++ ys)
          = extend a (frame p q (b :: t ++ ys)) := frame_skip hab _
        _ = ((extend a (frames p q (b :: t), rest p q (b :: t))).1
              ++ frames p q (rest p q (b :: t) ++ ys), rest p q (rest p q (b :: t) ++ ys)) := by
          rw [ih ht, extend_append ht]
        _ = _ := by rw [rest_skip_of_ne_nil hab ht, ← frame_eq, ← frame_skip hab, ← frames]

theorem frames_append (xs ys : List α) :
    frames p q (xs ++ ys) = frames p q xs ++ frames p q (rest p q xs ++ ys) := by
  rw [frames, frame_append]

theorem rest_append (xs ys : List α) :
    rest p q (xs ++ ys) = rest p q (rest p q xs ++ ys) := by
  rw [rest, frame_append]

/-- There is a terminator exactly when there is a complete frame. -/
theorem findPair_eq_none_iff {xs : List α} : findPair p q xs = none ↔ frames p q xs = [] := by
  induction xs using frame.induct p q with
  | case1 => simp [findPair]
  | case2 a => simp [findPair]
  | case3 a b t hab ih => simp [findPair, frames_pair hab, hab]
  | case4 a b t hab ih =>
    rw [findPair, if_neg hab, Option.map_eq_none_iff, ih, frames_skip_eq_nil hab]

/-- The first terminator ends within the stream. -/
theorem findPair_lt {xs : List α} {n : ℕ} (h : findPair p q xs = some n) :
    n + 2 ≤ xs.length := by
  induction xs using frame.induct p q generalizing n with
  | case1 => simp [findPair] at h
  | case2 a => simp [findPair] at h
  | case3 a b t hab ih =>
    obtain rfl : 0 = n := by simpa [findPair, hab] using h
    simp
  | case4 a b t hab ih =>
    rw [findPair, if_neg hab, Option.map_eq_some_iff] at h
    obtain ⟨m, hm, rfl⟩ := h
    have := ih hm
    simp only [List.length_cons] at this ⊢
    omega

/-- Up to the first terminator is the first frame, after it come the others. -/
theorem frame_of_findPair {xs : List α} {n : ℕ} (h : findPair p q xs = some n) :
    frame p q xs =
      (xs.take n :: frames p q (xs.drop (n + 2)), rest p q (xs.drop (n + 2))) := by
  induction xs using frame.induct p q generalizing n with
  | case1 => simp [findPair] at h
  | case2 a => simp [findPair] at h
  | case3 a b t hab ih =>
    obtain rfl : 0 = n := by simpa [findPair, hab] using h
    rw [frame_pair hab]; rfl
  | case4 a b t hab ih =>
    rw [findPair, if_neg hab, Option.map_eq_some_iff] at h
    obtain ⟨m, hm, rfl⟩ := h
    rw [frame_skip hab, ih hm]
    rfl

theorem frames_of_findPair {xs : List α} {n : ℕ} (h : findPair p q xs = some n) :
    frames p q xs = xs.take n :: frames p q (xs.drop (n + 2)) := by
  rw [frames, frame_of_findPair h]

theorem rest_of_findPair {xs : List α} {n : ℕ} (h : findPair p q xs = some n) :
    rest p q xs = rest p q (xs.drop (n + 2)) := by
  rw [rest, frame_of_findPair h]

/-- The rest of a stream has no complete frame. -/
theorem frames_rest (xs : List α) : frames p q (rest p q xs) = [] := by
  have h := frames_append (p := p) (q := q) xs []
  simpa using h

@[simp] theorem rest_rest (xs : List α) : rest p q (rest p q xs) = rest p q xs :=
  rest_of_frames_nil (frames_rest xs)

theorem rest_suffix (xs : List α) : rest p q xs <:+ xs := by
  induction xs using frame.induct p q with
  | case1 => exact List.suffix_rfl
  | case2 a => exact List.suffix_rfl
  | case3 a b t hab ih =>
    rw [rest_pair hab]
    exact ih.trans ((List.suffix_cons b t).trans (List.suffix_cons a (b :: t)))
  | case4 a b t hab ih =>
    by_cases ht : frames p q (b :: t) = []
    · have heq := rest_of_frames_nil ((frames_skip_eq_nil hab).2 ht)
      exact ⟨[], heq⟩
    · rw [rest_skip_of_ne_nil hab ht]
      exact ih.trans (List.suffix_cons a (b :: t))

/-- What follows a terminator does not move it. -/
theorem findPair_append {xs : List α} {n : ℕ} (h : findPair p q xs = some n) (ys : List α) :
    findPair p q (xs ++ ys) = some n := by
  induction xs using frame.induct p q generalizing n with
  | case1 => simp [findPair] at h
  | case2 a => simp [findPair] at h
  | case3 a b t hab ih =>
    rw [findPair, if_pos hab] at h
    rw [List.cons_append, List.cons_append, findPair, if_pos hab, h]
  | case4 a b t hab ih =>
    rw [findPair, if_neg hab, Option.map_eq_some_iff] at h
    obtain ⟨m, hm, rfl⟩ := h
    rw [List.cons_append, List.cons_append, findPair, if_neg hab, ← List.cons_append, ih hm]
    rfl

/-- A terminator is found as soon as it is there. -/
theorem findPair_take {xs : List α} {n : ℕ} (h : findPair p q xs = some n) :
    findPair p q (xs.take (n + 2)) = some n := by
  induction xs using frame.induct p q generalizing n with
  | case1 => simp [findPair] at h
  | case2 a => simp [findPair] at h
  | case3 a b t hab ih =>
    obtain rfl : 0 = n := by simpa [findPair, hab] using h
    simp [findPair, hab]
  | case4 a b t hab ih =>
    rw [findPair, if_neg hab, Option.map_eq_some_iff] at h
    obtain ⟨m, hm, rfl⟩ := h
    have htake : (a :: b :: t).take (m + 1 + 2) = a :: b :: t.take (m + 1) := rfl
    rw [htake, findPair, if_neg hab]
    have hm' : findPair p q (b :: t.take (m + 1)) = some m := ih hm
    rw [hm']
    rfl

/-! ## Complete streams -/

/-- A stream made of complete frames, each of which satisfies `P` with its terminator. -/
inductive Complete (p q : α → Bool) (P : List α → Prop) : List α → Prop
  | nil : Complete p q P []
  | cons {l xs : List α} {n : ℕ} (hfind : findPair p q l = some n) (hlen : l.length = n + 2)
      (hl : P l) (hxs : Complete p q P xs) : Complete p q P (l ++ xs)

variable {P : List α → Prop}

theorem Complete.append {xs ys : List α} (hxs : Complete p q P xs) (hys : Complete p q P ys) :
    Complete p q P (xs ++ ys) := by
  induction hxs with
  | nil => exact hys
  | cons hfind hlen hl _ ih =>
    rw [List.append_assoc]
    exact .cons hfind hlen hl ih

/-- Only what follows a complete stream may be unfinished. -/
theorem Complete.rest_append {xs : List α} (hxs : Complete p q P xs) (ys : List α) :
    rest p q (xs ++ ys) = rest p q ys := by
  induction hxs with
  | nil => rfl
  | @cons l xs n hfind hlen hl _ ih =>
    rw [List.append_assoc, rest_of_findPair (findPair_append hfind _), ← hlen, List.drop_left, ih]

/-- The first frame of a stream that starts with complete frames. -/
theorem Complete.take_drop {xs ys : List α} {n : ℕ} (hxs : Complete p q P xs) (hne : xs ≠ [])
    (hfind : findPair p q (xs ++ ys) = some n) :
    P ((xs ++ ys).take (n + 2)) ∧
      ∃ xs', (xs ++ ys).drop (n + 2) = xs' ++ ys ∧ Complete p q P xs' := by
  cases hxs with
  | nil => exact absurd rfl hne
  | @cons l xs m hfind' hlen hl hxs =>
    rw [List.append_assoc] at hfind ⊢
    -- what follows the first frame does not move its terminator
    obtain rfl : m = n := Option.some.inj ((findPair_append hfind' _).symm.trans hfind)
    rw [← hlen, List.take_left, List.drop_left]
    exact ⟨hl, xs, rfl, hxs⟩

/-- A stream without a rest is complete. -/
theorem Complete.of_rest_nil {xs : List α} (hrest : rest p q xs = [])
    (hP : ∀ l, l <:+: xs → P l) : Complete p q P xs := by
  cases hfind : findPair p q xs with
  | none =>
    rw [← rest_of_frames_nil (findPair_eq_none_iff.1 hfind), hrest]
    exact .nil
  | some n =>
    have hlen := findPair_lt hfind
    have hdrop : Complete p q P (xs.drop (n + 2)) := by
      refine .of_rest_nil ?_ fun l hl => hP l (hl.trans (List.drop_suffix _ _).isInfix)
      rw [← rest_of_findPair hfind, hrest]
    have hline : findPair p q (xs.take (n + 2)) = some n := findPair_take hfind
    have hxs := Complete.cons hline (by rw [List.length_take]; omega)
      (hP _ (List.take_prefix _ _).isInfix) hdrop
    rwa [List.take_append_drop] at hxs
termination_by xs.length
decreasing_by
  rw [List.length_drop]
  omega

/-! ## Framing a decorated stream -/

theorem map_extend (f : α → β) (a : α) (g : List (List α) × List α) :
    Prod.map (List.map (List.map f)) (List.map f) (extend a g) =
      extend (f a) (Prod.map (List.map (List.map f)) (List.map f) g) := by
  rcases g with ⟨_ | ⟨l, ls⟩, r⟩ <;> rfl

/-- Symbols that carry a decoration are framed as the symbols themselves. -/
theorem frame_map (f : α → β) (p q : β → Bool) (xs : List α) :
    frame p q (xs.map f) =
      Prod.map (List.map (List.map f)) (List.map f) (frame (p ∘ f) (q ∘ f) xs) := by
  induction xs using frame.induct (p ∘ f) (q ∘ f) with
  | case1 => rfl
  | case2 a => rfl
  | case3 a b t hab ih =>
    have hab' : (p (f a) && q (f b)) = true := hab
    rw [List.map_cons, List.map_cons, frame_pair hab', frame_pair hab, frames, rest, ih]
    rfl
  | case4 a b t hab ih =>
    have hab' : ¬ (p (f a) && q (f b)) = true := hab
    rw [List.map_cons, List.map_cons, frame_skip hab', frame_skip hab, ← List.map_cons, ih,
      map_extend]

theorem findPair_map (f : α → β) (p q : β → Bool) (xs : List α) :
    findPair p q (xs.map f) = findPair (p ∘ f) (q ∘ f) xs := by
  induction xs using frame.induct (p ∘ f) (q ∘ f) with
  | case1 => rfl
  | case2 a => rfl
  | case3 a b t hab ih =>
    have hab' : (p (f a) && q (f b)) = true := hab
    simp [findPair, hab']
  | case4 a b t hab ih =>
    have hab' : ¬ (p (f a) && q (f b)) = true := hab
    rw [List.map_cons, List.map_cons, findPair, if_neg hab', ← List.map_cons, ih, findPair,
      if_neg hab]

end Framing
