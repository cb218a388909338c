import Irccd.Foundations.Terminated

/-!
# Readers of a stream

A reader takes a value from the front of a stream. It undoes a printer when it takes a value if and
only if the stream starts with the printed form of that value.

The module introduces:

* `Undoes read P print`: the reader takes the values that have the property `P`, as they are
  printed;
* `readMany read n`: a reader of `n` values, and `Undoes.many`;
* `readLine z`: a reader of what stands before the next terminator, and `undoes_readLine`;
* `unlines`, `starts`: lines one behind the other, and where each of them starts in a buffer.
-/

namespace Readers

variable {α β : Type*}

/-- The reader takes the value `b` if and only if `P b` and its printed form is at the front. -/
def Undoes (read : List α → Option (β × List α)) (P : β → Prop) (print : β → List α) : Prop :=
  ∀ s b rest, read s = some (b, rest) ↔ P b ∧ s = print b ++ rest

/-- Read so many values. -/
def readMany (read : List α → Option (β × List α)) : ℕ → List α → Option (List β × List α)
  | 0, s => some ([], s)
  | n + 1, s => do
    let (b, s) ← read s
    let (bs, s) ← readMany read n s
    return (b :: bs, s)

/-- Read up to the next terminator, which is dropped. -/
def readLine [DecidableEq α] (z : α) (s : List α) : Option (List α × List α) :=
  if z ∈ s then some (s.takeWhile (· != z), (s.dropWhile (· != z)).drop 1) else none

/-- Lines, each with its terminator. -/
def unlines (z : α) (lines : List (List α)) : List α := lines.flatMap (· ++ [z])

/-- Where each of the lines starts, the first of which is at an offset. -/
def starts : ℕ → List (List α) → List ℕ
  | _, [] => []
  | i, l :: lines => i :: starts (i + l.length + 1) lines

section Many

variable {read : List α → Option (β × List α)} {P : β → Prop} {print : β → List α}

/-- A printed value is read, whatever follows it. -/
theorem Undoes.read_print (h : Undoes read P print) {b : β} (hb : P b) (rest : List α) :
    read (print b ++ rest) = some (b, rest) :=
  (h _ _ _).2 ⟨hb, rfl⟩

/-- A reader of many values undoes the printer of a list. -/
theorem Undoes.many (h : Undoes read P print) (n : ℕ) :
    Undoes (readMany read n) (fun bs => bs.length = n ∧ ∀ b ∈ bs, P b) (·.flatMap print) := by
  induction n with
  | zero =>
    intro s bs rest
    simp only [readMany, Option.some.injEq, Prod.mk.injEq, List.length_eq_zero_iff]
    constructor
    · rintro ⟨rfl, rfl⟩
      simp
    · rintro ⟨⟨rfl, -⟩, rfl⟩
      simp
  | succ n ih =>
    intro s bs rest
    constructor
    · intro hread
      obtain ⟨⟨b, t⟩, hb, hread⟩ := Option.bind_eq_some_iff.1 hread
      obtain ⟨⟨cs, u⟩, hcs, hread⟩ := Option.bind_eq_some_iff.1 hread
      obtain ⟨rfl, rfl⟩ := Prod.mk.inj (Option.some.inj hread)
      obtain ⟨hP, rfl⟩ := (h _ _ _).1 hb
      obtain ⟨⟨hlen, hall⟩, rfl⟩ := (ih _ _ _).1 hcs
      exact ⟨⟨by simp [hlen], List.forall_mem_cons.2 ⟨hP, hall⟩⟩, by simp⟩
    · rintro ⟨⟨hlen, hall⟩, rfl⟩
      obtain ⟨b, cs, rfl⟩ := List.exists_cons_of_length_eq_add_one hlen
      obtain ⟨hP, hcs⟩ := List.forall_mem_cons.1 hall
      have hfirst : read ((b :: cs).flatMap print ++ rest) =
          some (b, cs.flatMap print ++ rest) := by
        rw [List.flatMap_cons, List.append_assoc]
        exact h.read_print hP _
      have hrest : readMany read n (cs.flatMap print ++ rest) = some (cs, rest) :=
        (ih _ _ _).2 ⟨⟨by simpa using hlen, hcs⟩, rfl⟩
      rw [readMany, hfirst]
      simp [hrest]

end Many

section Lines

variable [DecidableEq α] {z : α}

/-- A line has no terminator, and is printed with one. -/
theorem undoes_readLine : Undoes (readLine z) (z ∉ ·) (· ++ [z]) := by
  intro s l rest
  unfold readLine
  constructor
  · intro hread
    split at hread
    · rename_i hz
      obtain ⟨pre, post, rfl, hpre⟩ := List.eq_append_cons_of_mem hz
      rw [Terminated.takeWhile_of_not_mem hpre, Terminated.dropWhile_of_not_mem hpre] at hread
      obtain ⟨rfl, rfl⟩ := Prod.mk.inj (Option.some.inj hread)
      exact ⟨hpre, by simp⟩
    · cases hread
  · rintro ⟨hl, rfl⟩
    rw [List.append_assoc, List.singleton_append, if_pos (by simp),
      Terminated.takeWhile_of_not_mem hl, Terminated.dropWhile_of_not_mem hl, List.drop_one,
      List.tail_cons]

/-- Lines are read back, whatever follows them. -/
theorem readMany_unlines {lines : List (List α)} (hlines : ∀ l ∈ lines, z ∉ l) (rest : List α) :
    readMany (readLine z) lines.length (unlines z lines ++ rest) = some (lines, rest) :=
  (undoes_readLine.many lines.length).read_print ⟨rfl, hlines⟩ rest

/-- The terminators count the lines. -/
theorem count_unlines {lines : List (List α)} (hlines : ∀ l ∈ lines, z ∉ l) :
    (unlines z lines).count z = lines.length := by
  induction lines with
  | nil => rfl
  | cons l lines ih =>
    obtain ⟨hl, hrest⟩ := List.forall_mem_cons.1 hlines
    have hcons : unlines z (l :: lines) = l ++ [z] ++ unlines z lines := rfl
    rw [hcons, List.count_append, List.count_append, List.count_eq_zero_of_not_mem hl,
      List.count_singleton_self, ih hrest, List.length_cons]
    omega

omit [DecidableEq α] in
/-- Lines in a buffer are strings of the buffer. -/
theorem stored_starts (pre post : List α) {lines : List (List α)} (hlines : ∀ l ∈ lines, z ∉ l) :
    List.Forall₂ (Terminated.Stored z (pre ++ (unlines z lines ++ post)))
      (starts pre.length lines) lines := by
  induction lines generalizing pre with
  | nil => exact .nil
  | cons l lines ih =>
    obtain ⟨hl, hrest⟩ := List.forall_mem_cons.1 hlines
    have hbuf : pre ++ (unlines z (l :: lines) ++ post) =
        pre ++ (l ++ z :: (unlines z lines ++ post)) := by simp [unlines]
    -- the others are behind the terminator of the first one
    have hpre : pre ++ (l ++ z :: (unlines z lines ++ post)) =
        (pre ++ l ++ [z]) ++ (unlines z lines ++ post) := by simp
    have hlen : pre.length + l.length + 1 = (pre ++ l ++ [z]).length := by simp [Nat.add_assoc]
    rw [hbuf]
    refine .cons (Terminated.stored_length pre _ hl) ?_
    rw [hpre, hlen]
    exact ih _ hrest

omit [DecidableEq α] in
/-- The last line has a terminator too. -/
theorem exists_unlines_eq {lines : List (List α)} (hne : lines ≠ []) :
    ∃ body, unlines z lines = body ++ [z] := by
  refine ⟨unlines z lines.dropLast ++ lines.getLast hne, ?_⟩
  calc unlines z lines = unlines z (lines.dropLast ++ [lines.getLast hne]) := by
        rw [List.dropLast_append_getLast]
    _ = unlines z lines.dropLast ++ lines.getLast hne ++ [z] := by simp [unlines]

end Lines

end Readers
