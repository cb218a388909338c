import Mathlib.Data.List.Perm.Basic
import Mathlib.Logic.Function.Basic
import Mathlib.Tactic.Common

/-!
# Drawing without replacement

A bag is filled from a list when it is empty, and an element is drawn from it at the place that a
choice gives for the number of elements left.

The module introduces:

* `draw`: one draw from a bag;
* `draws`: the elements that a sequence of choices draws from one bag;
* `perm_block`: each block of as many draws as the list has elements draws each of them once;
* `Trace`: draws from several bags, each known by a key of the one who draws;
* `Trace.fair`: those who do not share a key draw without repetition and independently.
-/

namespace Draws

variable {α ι κ : Type*}

/-- The place of an element, given the number of elements in the bag. -/
abbrev Choice := ℕ → ℕ

/-- A choice always gives a place in the bag. -/
def Choice.Valid (c : Choice) : Prop := ∀ n, 0 < n → c n < n

/-! ## One bag -/

/-- The bag, filled from `all` if it is empty. -/
def filled (all bag : List α) : List α := if bag.isEmpty then all else bag

/-- Draw an element: the element, and what is left in the bag. -/
def draw (all bag : List α) (c : Choice) : Option (α × List α) :=
  (filled all bag)[c (filled all bag).length]?.map fun a =>
    (a, (filled all bag).eraseIdx (c (filled all bag).length))

/-- The elements drawn by the choices. -/
def draws (all : List α) : List α → List Choice → List α
  | _, [] => []
  | bag, c :: cs =>
    match draw all bag c with
    | some (a, rest) => a :: draws all rest cs
    | none => draws all bag cs

/-- The bag after the choices. -/
def bagAfter (all : List α) : List α → List Choice → List α
  | bag, [] => bag
  | bag, c :: cs =>
    match draw all bag c with
    | some (_, rest) => bagAfter all rest cs
    | none => bagAfter all bag cs

variable {all bag rest : List α} {a : α} {c : Choice} {cs : List Choice}

theorem filled_nil : filled all [] = all := rfl

theorem filled_of_ne_nil (h : bag ≠ []) : filled all bag = bag := by
  simp [filled, h]

theorem filled_ne_nil (hall : all ≠ []) : filled all bag ≠ [] := by
  by_cases hbag : bag = []
  · rwa [hbag, filled_nil]
  · rwa [filled_of_ne_nil hbag]

/-- What is drawn and what is left make up the bag. -/
theorem perm_of_draw (h : draw all bag c = some (a, rest)) : (a :: rest).Perm (filled all bag) := by
  rw [draw, Option.map_eq_some_iff] at h
  obtain ⟨a', hget, hpair⟩ := h
  obtain ⟨hlt, rfl⟩ := List.getElem?_eq_some_iff.1 hget
  obtain ⟨rfl, rfl⟩ := Prod.mk.inj hpair
  exact List.getElem_cons_eraseIdx_perm hlt

/-- A valid choice draws an element. -/
theorem exists_draw (hall : all ≠ []) (hc : c.Valid) (bag : List α) :
    ∃ a rest, draw all bag c = some (a, rest) := by
  have hne : filled all bag ≠ [] := filled_ne_nil hall
  have hlt := hc _ (List.length_pos_of_ne_nil hne)
  exact ⟨_, _, by rw [draw, List.getElem?_eq_getElem hlt, Option.map_some]⟩

theorem draws_cons_of_draw (h : draw all bag c = some (a, rest)) :
    draws all bag (c :: cs) = a :: draws all rest cs := by
  rw [draws, h]

theorem bagAfter_cons_of_draw (h : draw all bag c = some (a, rest)) :
    bagAfter all bag (c :: cs) = bagAfter all rest cs := by
  rw [bagAfter, h]

theorem draws_append (bag : List α) (cs ds : List Choice) :
    draws all bag (cs ++ ds) = draws all bag cs ++ draws all (bagAfter all bag cs) ds := by
  induction cs generalizing bag with
  | nil => rfl
  | cons c cs ih =>
    rw [List.cons_append, draws, draws, bagAfter]
    cases draw all bag c with
    | none => exact ih bag
    | some drawn =>
      dsimp only
      rw [ih, List.cons_append]

theorem length_draws (hall : all ≠ []) (hcs : ∀ c ∈ cs, c.Valid) (bag : List α) :
    (draws all bag cs).length = cs.length := by
  induction cs generalizing bag with
  | nil => rfl
  | cons c cs ih =>
    obtain ⟨hc, hcs⟩ := List.forall_mem_cons.1 hcs
    obtain ⟨a, rest, hdraw⟩ := exists_draw hall hc bag
    rw [draws_cons_of_draw hdraw, List.length_cons, ih hcs, List.length_cons]

/-- As many choices as the bag has elements draw each of them, and leave it empty. -/
theorem draws_of_length_eq (hall : all ≠ []) (hcs : ∀ c ∈ cs, c.Valid) {bag : List α}
    (hlen : cs.length = bag.length) :
    (draws all bag cs).Perm bag ∧ bagAfter all bag cs = [] := by
  induction cs generalizing bag with
  | nil =>
    obtain rfl := List.eq_nil_of_length_eq_zero hlen.symm
    exact ⟨.refl _, rfl⟩
  | cons c cs ih =>
    obtain ⟨hc, hcs⟩ := List.forall_mem_cons.1 hcs
    obtain ⟨a, rest, hdraw⟩ := exists_draw hall hc bag
    -- the bag is not filled again before the last choice
    have hbag : bag ≠ [] := by
      rintro rfl
      cases hlen
    have hperm := perm_of_draw hdraw
    rw [filled_of_ne_nil hbag] at hperm
    have hrest : cs.length = rest.length := by
      have := hperm.length_eq
      simp only [List.length_cons] at hlen this
      omega
    obtain ⟨hdraws, hafter⟩ := ih hcs hrest
    rw [draws_cons_of_draw hdraw, bagAfter_cons_of_draw hdraw]
    exact ⟨(hdraws.cons a).trans hperm, hafter⟩

/-- An empty bag and a full one draw the same. -/
theorem draws_nil_bag (hall : all ≠ []) (cs : List Choice) :
    draws all [] cs = draws all all cs := by
  cases cs with
  | nil => rfl
  | cons c cs =>
    -- only the first draw sees the difference
    have hfull : draw all [] c = draw all all c := by
      rw [draw, draw, filled_nil, filled_of_ne_nil hall]
    rw [draws, draws, hfull]
    cases draw all all c with
    | none => exact draws_nil_bag hall cs
    | some drawn => rfl

/-- Each block of as many draws as there are elements draws each of them once. -/
theorem perm_block (hcs : ∀ c ∈ cs, c.Valid) {k : ℕ}
    (hk : (k + 1) * all.length ≤ cs.length) :
    (((draws all [] cs).drop (k * all.length)).take all.length).Perm all := by
  by_cases hall : all = []
  · subst hall
    exact .refl _
  induction k generalizing cs with
  | zero =>
    rw [Nat.zero_add, Nat.one_mul] at hk
    have htake : (cs.take all.length).length = all.length := List.length_take_of_le hk
    have hvalid : ∀ c ∈ cs.take all.length, c.Valid := fun c hc => hcs c (List.mem_of_mem_take hc)
    have hsplit : draws all [] cs = draws all all (cs.take all.length) ++
        draws all (bagAfter all all (cs.take all.length)) (cs.drop all.length) := by
      rw [draws_nil_bag hall, ← draws_append, List.take_append_drop]
    have hlen : (draws all all (cs.take all.length)).length = all.length :=
      (length_draws hall hvalid all).trans htake
    rw [Nat.zero_mul, List.drop_zero, hsplit, List.take_left' hlen]
    exact (draws_of_length_eq hall hvalid htake).1
  | succ k ih =>
    have hn : all.length ≤ cs.length := Nat.le_trans (Nat.le_mul_of_pos_left _ (Nat.succ_pos _)) hk
    have htake : (cs.take all.length).length = all.length := List.length_take_of_le hn
    have hvalid : ∀ c ∈ cs.take all.length, c.Valid := fun c hc => hcs c (List.mem_of_mem_take hc)
    have hdrop : ∀ c ∈ cs.drop all.length, c.Valid := fun c hc => hcs c (List.mem_of_mem_drop hc)
    -- the first block leaves the bag empty, and the others are drawn as at the start
    have hsplit : draws all [] cs =
        draws all all (cs.take all.length) ++ draws all [] (cs.drop all.length) := by
      calc draws all [] cs
          = draws all all (cs.take all.length ++ cs.drop all.length) := by
            rw [draws_nil_bag hall, List.take_append_drop]
        _ = _ := by rw [draws_append, (draws_of_length_eq hall hvalid htake).2]
    have hlen : (draws all all (cs.take all.length)).length = all.length :=
      (length_draws hall hvalid all).trans htake
    have hrest : (k + 1) * all.length ≤ (cs.drop all.length).length := by
      rw [List.length_drop]
      rw [Nat.succ_mul] at hk
      omega
    rw [hsplit, Nat.succ_mul, Nat.add_comm, ← List.drop_drop, List.drop_left' hlen]
    exact ih hdrop hrest

/-! ## Several bags -/

/-- A draw: who draws, the choice, and the element drawn. -/
structure Drawn (ι α : Type*) where
  owner : ι
  choice : Choice
  element : α

/-- Several draw in turn, each from the bag of their key, which is filled from their own list. -/
inductive Trace [DecidableEq κ] (key : ι → κ) (all : ι → List α) :
    (κ → List α) → List (Drawn ι α) → Prop
  | nil (bags : κ → List α) : Trace key all bags []
  | cons {bags : κ → List α} {d : Drawn ι α} {rest : List α} {ds : List (Drawn ι α)}
      (hdraw : draw (all d.owner) (bags (key d.owner)) d.choice = some (d.element, rest))
      (hrest : Trace key all (Function.update bags (key d.owner) rest) ds) :
      Trace key all bags (d :: ds)

/-- The draws of one of them. -/
def ownDraws [DecidableEq ι] (i : ι) (ds : List (Drawn ι α)) : List (Drawn ι α) :=
  ds.filter (·.owner = i)

/-- Who shares their key with no other draws as from a single bag. -/
theorem Trace.ownDraws_eq [DecidableEq κ] [DecidableEq ι] {key : ι → κ} {all : ι → List α}
    {bags : κ → List α} {ds : List (Drawn ι α)} (h : Trace key all bags ds) {i : ι}
    (halone : ∀ d ∈ ds, key d.owner = key i → d.owner = i) :
    (ownDraws i ds).map (·.element) =
      draws (all i) (bags (key i)) ((ownDraws i ds).map (·.choice)) := by
  induction h with
  | nil => rfl
  | @cons bags d rest ds hdraw _ ih =>
    obtain ⟨hd, hds⟩ := List.forall_mem_cons.1 halone
    have ih := ih hds
    rw [ownDraws] at ih ⊢
    by_cases howner : d.owner = i
    · subst howner
      rw [List.filter_cons_of_pos (by simp), List.map_cons, List.map_cons,
        draws_cons_of_draw hdraw, ih, Function.update_self]
    -- another owner has another key, and so another bag
    · have hkey : key i ≠ key d.owner := fun hkey => howner (hd hkey.symm)
      rw [List.filter_cons_of_neg (by simpa using howner), ih, Function.update_of_ne hkey]

/-- The draws of each are made without repetition, and as if there were no other: each block of as
many draws as their list has elements draws each of these once, and the draws depend only on the
choices made for them. -/
structure Fair [DecidableEq ι] (all : ι → List α) (ds : List (Drawn ι α)) : Prop where
  blocks : ∀ i k, (k + 1) * (all i).length ≤ (ownDraws i ds).length →
    ((((ownDraws i ds).map (·.element)).drop (k * (all i).length)).take (all i).length).Perm (all i)
  alone : ∀ i, (ownDraws i ds).map (·.element) = draws (all i) [] ((ownDraws i ds).map (·.choice))

/-- From empty bags, the draws are fair if no two share a key. -/
theorem Trace.fair [DecidableEq κ] [DecidableEq ι] {key : ι → κ} {all : ι → List α}
    {ds : List (Drawn ι α)} (h : Trace key all (fun _ => []) ds)
    (hvalid : ∀ d ∈ ds, d.choice.Valid)
    (hkeys : ∀ d ∈ ds, ∀ e ∈ ds, key d.owner = key e.owner → d.owner = e.owner) :
    Fair all ds := by
  have halone (i : ι) : (ownDraws i ds).map (·.element) =
      draws (all i) [] ((ownDraws i ds).map (·.choice)) := by
    by_cases hi : ∃ e ∈ ds, e.owner = i
    · obtain ⟨e, he, rfl⟩ := hi
      exact h.ownDraws_eq fun d hd => hkeys d hd e he
    · -- who never draws has no draws
      have hnone : ownDraws i ds = [] :=
        List.filter_eq_nil_iff.2 fun d hd => by simpa using fun howner => hi ⟨d, hd, howner⟩
      rw [hnone]
      rfl
  refine ⟨fun i k hk => ?_, halone⟩
  rw [halone]
  refine perm_block (fun c hc => ?_) (by rwa [List.length_map])
  obtain ⟨d, hd, rfl⟩ := List.mem_map.1 hc
  exact hvalid d (List.mem_of_mem_filter hd)

end Draws
