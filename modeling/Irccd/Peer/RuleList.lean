import Irccd.Foundations.DoublyLinked
import Irccd.Peer.Moves

/-!
# The list of rules (`irccd.c`)

The rules of the bot are a doubly linked list of `utlist.h`. Each function walks to the place that
it changes with a loop of its own.

* `ircBotRuleInsert`, `ircBotRuleGet`, `ircBotRuleMove`, `ircBotRuleRemove`, `ircBotRuleSize`: the
  functions, on the links of the rules;
* `RuleOp`, `exec`: calls of these functions, one after the other;
* `listExec`: the same calls on a list;
* `exec_eq`: the links remain those of the list, and the answers are the same;
* `Holds`: the links are those of the rules of a daemon.
-/

namespace Irccd

open DoublyLinked

namespace RuleList

variable {α : Type}

/-! ## The functions -/

section Loops

variable (s : Links α)

/-- `DL_FOREACH (bot.rules, r) total++;`, unless there are more rules than `fuel`. -/
def ircBotRuleSize (fuel : ℕ) : Option ℕ := (foreach s.next fuel s.head).map List.length

/-- `for (pos = bot.rules; --index; ) pos = pos->next;`. There is no result when a null pointer is
followed. -/
def insertLoop : ℕ → Option α → Option (Option α)
  -- the index wraps around, and the loop goes past the end of the list
  | 0, _ => none
  | 1, pos => some pos
  | index + 2, pos => pos.bind fun pos => insertLoop (index + 1) (s.next pos)

/-- `for (rule = bot.rules; index-- != 0; ) rule = rule->next;`, and
`while (from--) f = f->next;` -/
def getLoop : ℕ → Option α → Option (Option α)
  | 0, rule => some rule
  | index + 1, rule => rule.bind fun rule => getLoop index (s.next rule)

/-- `for (size_t i = 0; i < index; ++i) pos = pos->next;` -/
def removeLoop (index : ℕ) (pos : Option α) : Option (Option α) :=
  (List.range index).foldlM (fun pos _ => pos.map s.next) pos

/-- `while (t && to--) t = t->next;` -/
def moveLoop : ℕ → Option α → Option α
  | _, none => none
  | 0, some t => some t
  | dst + 1, some t => moveLoop dst (s.next t)

end Loops

section Functions

variable [DecidableEq α] (s : Links α) (fuel : ℕ)

/-- `irc_bot_rule_insert` -/
def ircBotRuleInsert (rule : α) (index : ℕ) : Option (Links α) :=
  if index = 0 then some (prepend s rule)
  else do
    let size ← ircBotRuleSize s fuel
    if index ≥ size then append s rule
    else
      let pos ← insertLoop s index s.head
      appendElem s pos rule

/-- `irc_bot_rule_get`. There is no result when the assertion fails, here and below. -/
def ircBotRuleGet (index : ℕ) : Option (Option α) := do
  let size ← ircBotRuleSize s fuel
  if index < size then getLoop s index s.head else none

/-- `irc_bot_rule_move` -/
def ircBotRuleMove (src dst : ℕ) : Option (Links α) := do
  let size ← ircBotRuleSize s fuel
  if src < size then
    if src = dst then return s
    else
      let f ← getLoop s src s.head
      let f ← f
      -- `t` is the first rule before this one is removed
      let t := s.head
      let s ← delete s f
      if dst = 0 then return prepend s f
      else appendElem s (moveLoop s dst t) f
  else none

/-- `irc_bot_rule_remove` -/
def ircBotRuleRemove (index : ℕ) : Option (Links α) := do
  let size ← ircBotRuleSize s fuel
  if index < size then
    let pos ← removeLoop s index s.head
    let pos ← pos
    delete s pos
  else none

end Functions

/-! ## Calls -/

/-- A call of one of the functions. -/
inductive RuleOp (α : Type)
  | insert (rule : α) (index : ℕ)
  | get (index : ℕ)
  | remove (index : ℕ)
  | size

/-- What a call returns. -/
inductive RuleAnswer (α : Type)
  | done
  | rule (rule : Option α)
  | size (size : ℕ)
  deriving DecidableEq

/-- One call. -/
def call [DecidableEq α] (s : Links α) (fuel : ℕ) :
    RuleOp α → Option (Links α × RuleAnswer α)
  | .insert rule index => (ircBotRuleInsert s fuel rule index).map (·, .done)
  | .get index => (ircBotRuleGet s fuel index).map (s, .rule ·)
  | .remove index => (ircBotRuleRemove s fuel index).map (·, .done)
  | .size => (ircBotRuleSize s fuel).map (s, .size ·)

/-- Calls, one after the other. -/
def exec [DecidableEq α] (fuel : ℕ) :
    Links α → List (RuleOp α) → Option (Links α × List (RuleAnswer α))
  | s, [] => some (s, [])
  | s, op :: ops => do
    let (s, answer) ← call s fuel op
    let (s, answers) ← exec fuel s ops
    return (s, answer :: answers)

/-- What a call does to a list. -/
def listCall (l : List α) : RuleOp α → List α × RuleAnswer α
  | .insert rule index => (l.insertIdx (min index l.length) rule, .done)
  | .get index => (l, .rule l[index]?)
  | .remove index => (l.eraseIdx index, .done)
  | .size => (l, .size l.length)

/-- What calls do to a list. -/
def listExec : List α → List (RuleOp α) → List α × List (RuleAnswer α)
  | l, [] => (l, [])
  | l, op :: ops =>
    let (l, answer) := listCall l op
    let (l, answers) := listExec l ops
    (l, answer :: answers)

/-- A call that keeps to the preconditions of its function: an index is that of a rule, and a rule
that is inserted is not in the list. -/
def Permitted (l : List α) : RuleOp α → Prop
  | .insert rule _ => rule ∉ l
  | .get index => index < l.length
  | .remove index => index < l.length
  | .size => True

/-- Each call keeps to the preconditions. -/
def AllPermitted : List α → List (RuleOp α) → Prop
  | _, [] => True
  | l, op :: ops => Permitted l op ∧ AllPermitted (listCall l op).1 ops

/-- A call adds one rule at most. -/
theorem length_listCall_le (l : List α) (op : RuleOp α) :
    (listCall l op).1.length ≤ l.length + 1 := by
  cases op with
  | insert rule index => exact List.length_insertIdx_le_succ
  | get index => exact Nat.le_succ _
  | remove index => exact (List.length_eraseIdx_le l index).trans (Nat.le_succ _)
  | size => exact Nat.le_succ _

/-! ## The loops -/

section Walks

variable {s : Links α} {l : List α} {i k fuel : ℕ}

theorem ircBotRuleSize_eq (h : LinkedAs s l) (hfuel : l.length ≤ fuel) :
    ircBotRuleSize s fuel = some l.length := by
  rw [ircBotRuleSize, h.foreach_eq hfuel, Option.map_some]

/-- From a rule of the list, the loop comes to the one that is so many places behind it. -/
theorem getLoop_eq (h : LinkedAs s l) (hi : k + i ≤ l.length) :
    getLoop s i l[k]? = some l[k + i]? := by
  induction i generalizing k with
  | zero => rfl
  | succ i ih =>
    have hk : k < l.length := by omega
    rw [List.getElem?_eq_getElem hk, getLoop, Option.bind_some,
      h.next_eq (List.getElem?_eq_getElem hk), ih (by omega)]
    congr 2
    omega

theorem getLoop_head (h : LinkedAs s l) (hi : i ≤ l.length) :
    getLoop s i s.head = some l[i]? := by
  rw [h.head, List.head?_eq_getElem?, getLoop_eq h (by omega), Nat.zero_add]

/-- The index is decremented before it is tested, and so the loop stops one rule earlier. -/
theorem insertLoop_succ (s : Links α) (index : ℕ) (pos : Option α) :
    insertLoop s (index + 1) pos = getLoop s index pos := by
  induction index generalizing pos with
  | zero => rfl
  | succ index ih =>
    rw [insertLoop, getLoop]
    cases pos with
    | none => rfl
    | some pos => exact ih _

theorem removeLoop_eq (s : Links α) (index : ℕ) (pos : Option α) :
    removeLoop s index pos = getLoop s index pos := by
  have hloop (is : List ℕ) (pos : Option α) :
      is.foldlM (fun pos _ => pos.map s.next) pos = getLoop s is.length pos := by
    induction is generalizing pos with
    | nil => rfl
    | cons i is ih =>
      rw [List.foldlM_cons, List.length_cons, getLoop]
      cases pos with
      | none => rfl
      | some pos => exact ih _
  rw [removeLoop, hloop, List.length_range]

/-- The loop stops at the end of the list. -/
theorem moveLoop_eq (h : LinkedAs s l) (i k : ℕ) : moveLoop s i l[k]? = l[k + i]? := by
  induction i generalizing k with
  | zero => cases hk : l[k]? <;> simp [moveLoop]
  | succ i ih =>
    cases hk : l[k]? with
    | none =>
      rw [moveLoop, List.getElem?_eq_none]
      have := List.getElem?_eq_none_iff.1 hk
      omega
    | some t =>
      rw [moveLoop, h.next_eq hk, ih]
      congr 1
      omega

theorem ircBotRuleGet_eq (h : LinkedAs s l) (hi : i < l.length) (hfuel : l.length ≤ fuel) :
    ircBotRuleGet s fuel i = some l[i]? := by
  rw [ircBotRuleGet, ircBotRuleSize_eq h hfuel]
  dsimp only [Option.bind_eq_bind, Option.bind_some]
  rw [if_pos hi, getLoop_head h hi.le]

/-- The list around a place. -/
theorem linkedAs_split (h : LinkedAs s l) (hi : i < l.length) :
    LinkedAs s (l.take i ++ l[i] :: l.drop (i + 1)) := by
  rwa [List.getElem_cons_drop, List.take_append_drop]

end Walks

/-! ## The functions on the list -/

section Lists

variable [DecidableEq α] {s : Links α} {l : List α} {rule : α} {i fuel : ℕ}

/-- A rule is put behind the one at a place, or first when there is none. -/
theorem linkedAs_appendElem (h : LinkedAs s l) (hrule : rule ∉ l) (i : ℕ) :
    ∃ s', appendElem s l[i]? rule = some s' ∧
      LinkedAs s' (l.insertIdx (if i < l.length then i + 1 else 0) rule) := by
  by_cases hi : i < l.length
  · have hrule' : rule ∉ l.take i ++ l[i] :: l.drop (i + 1) := by
      rwa [List.getElem_cons_drop, List.take_append_drop]
    have hplace : l.insertIdx (i + 1) rule = l.take i ++ l[i] :: rule :: l.drop (i + 1) := by
      rw [insertIdx_eq_take_append hi, ← List.take_append_getElem hi, List.append_assoc]
      rfl
    rw [if_pos hi, List.getElem?_eq_getElem hi, hplace]
    exact (linkedAs_split h hi).appendElem hrule'
  · rw [if_neg hi, List.getElem?_eq_none (not_lt.1 hi), List.insertIdx_zero]
    exact ⟨_, rfl, h.prepend hrule⟩

theorem linkedAs_insert (h : LinkedAs s l) (hrule : rule ∉ l) (hfuel : l.length ≤ fuel)
    (index : ℕ) :
    ∃ s', ircBotRuleInsert s fuel rule index = some s' ∧
      LinkedAs s' (l.insertIdx (min index l.length) rule) := by
  rw [ircBotRuleInsert]
  by_cases hzero : index = 0
  · subst hzero
    rw [if_pos rfl, Nat.zero_min, List.insertIdx_zero]
    exact ⟨_, rfl, h.prepend hrule⟩
  rw [if_neg hzero, ircBotRuleSize_eq h hfuel]
  dsimp only [Option.bind_eq_bind, Option.bind_some]
  by_cases hend : index ≥ l.length
  · rw [if_pos hend, Nat.min_eq_right hend, List.insertIdx_length_self]
    exact h.append hrule
  · -- the loop stops at the rule before the place
    obtain ⟨index, rfl⟩ := Nat.exists_eq_add_one_of_ne_zero hzero
    have hwalk : insertLoop s (index + 1) s.head = some l[index]? := by
      rw [insertLoop_succ, getLoop_head h (by omega)]
    obtain ⟨s', hs', hrep⟩ := linkedAs_appendElem h hrule index
    rw [if_pos (by omega)] at hrep
    rw [if_neg hend, hwalk, Nat.min_eq_left (by omega)]
    exact ⟨s', hs', hrep⟩

/-- The rule that is found is deleted. -/
theorem linkedAs_delete (h : LinkedAs s l) (hi : i < l.length) :
    ∃ s', delete s l[i] = some s' ∧ LinkedAs s' (l.eraseIdx i) := by
  rw [List.eraseIdx_eq_take_drop_succ]
  exact (linkedAs_split h hi).delete

theorem linkedAs_remove (h : LinkedAs s l) (hi : i < l.length) (hfuel : l.length ≤ fuel) :
    ∃ s', ircBotRuleRemove s fuel i = some s' ∧ LinkedAs s' (l.eraseIdx i) := by
  have hwalk : removeLoop s i s.head = some (some l[i]) := by
    rw [removeLoop_eq, getLoop_head h hi.le, List.getElem?_eq_getElem hi]
  rw [ircBotRuleRemove, ircBotRuleSize_eq h hfuel]
  dsimp only [Option.bind_eq_bind, Option.bind_some]
  rw [if_pos hi, hwalk]
  exact linkedAs_delete h hi

/-- What comes after a rule that was first is still known when it is deleted. -/
theorem next_delete {s' : Links α} {del : α} (h : s.head = some del)
    (hs' : delete s del = some s') :
    s'.next = s.next := by
  rw [delete, h] at hs'
  cases hprev : s.prev del with
  | none => rw [hprev] at hs'; cases hs'
  | some before =>
    rw [hprev] at hs'
    dsimp only [Option.bind_eq_bind, Option.bind_some] at hs'
    split at hs'
    · cases hs'
      rfl
    · -- it is the first cell, whose neighbour gets another one before it
      rw [if_pos rfl] at hs'
      cases hnext : s.next del with
      | none => rw [hnext] at hs'; cases hs'
      | some after =>
        rw [hnext] at hs'
        cases hs'
        rfl

/-- The second loop begins at the rule that was first. When this is the one that is moved, the loop
leaves it for the one that is first now. -/
theorem moveLoop_head {s' : Links α} {src dst : ℕ} (h : LinkedAs s l) (hsrc : src < l.length)
    (hs' : delete s l[src] = some s') (h' : LinkedAs s' (l.eraseIdx src)) (hdst : dst ≠ 0) :
    moveLoop s' dst s.head = (l.eraseIdx src)[if src = 0 then dst - 1 else dst]? := by
  rw [h.head, List.head?_eq_getElem?]
  by_cases hfirst : src = 0
  · -- one step leads from the rule that is gone to the list that is left
    subst hfirst
    obtain ⟨dst, rfl⟩ := Nat.exists_eq_add_one_of_ne_zero hdst
    have hhead : s.head = some l[0] := by
      rw [h.head, List.head?_eq_getElem?, List.getElem?_eq_getElem hsrc]
    have hnext : s'.next l[0] = (l.eraseIdx 0)[0]? := by
      rw [next_delete hhead hs', h.next_eq (List.getElem?_eq_getElem hsrc),
        List.getElem?_eraseIdx_of_ge (Nat.le_refl 0)]
    rw [if_pos rfl, List.getElem?_eq_getElem hsrc, moveLoop, hnext, moveLoop_eq h', Nat.zero_add,
      Nat.add_sub_cancel]
  · have hkept : l[0]? = (l.eraseIdx src)[0]? :=
      (List.getElem?_eraseIdx_of_lt (Nat.pos_of_ne_zero hfirst)).symm
    rw [if_neg hfirst, hkept, moveLoop_eq h', Nat.zero_add]

theorem linkedAs_move {src : ℕ} (h : LinkedAs s l) (hsrc : src < l.length)
    (hfuel : l.length ≤ fuel) (dst : ℕ) :
    ∃ s', ircBotRuleMove s fuel src dst = some s' ∧
      LinkedAs s' ((l.eraseIdx src).insertIdx (Daemon.movedTo l.length src dst) l[src]) := by
  rw [ircBotRuleMove, ircBotRuleSize_eq h hfuel]
  dsimp only [Option.bind_eq_bind, Option.bind_some]
  rw [if_pos hsrc]
  by_cases hsame : src = dst
  · rw [if_pos hsame, Daemon.movedTo, if_pos hsame, List.insertIdx_eraseIdx_getElem hsrc]
    exact ⟨s, rfl, h⟩
  have hwalk : getLoop s src s.head = some (some l[src]) := by
    rw [getLoop_head h hsrc.le, List.getElem?_eq_getElem hsrc]
  obtain ⟨s₁, hs₁, h₁⟩ := linkedAs_delete h hsrc
  -- the rule is not in the list any more, and is inserted like a new one
  have hrule : l[src] ∉ l.eraseIdx src := by
    have hperm := List.getElem_cons_eraseIdx_perm hsrc
    exact (List.nodup_cons.1 (hperm.nodup_iff.2 h.nodup)).1
  rw [if_neg hsame, hwalk]
  dsimp only [Option.bind_some]
  rw [hs₁, Option.bind_some]
  by_cases hzero : dst = 0
  · rw [if_pos hzero, Daemon.movedTo, if_neg hsame, if_pos hzero, List.insertIdx_zero]
    exact ⟨_, rfl, h₁.prepend hrule⟩
  · obtain ⟨s', hs', hrep⟩ :=
      linkedAs_appendElem h₁ hrule (if src = 0 then dst - 1 else dst)
    have hplace : (if (if src = 0 then dst - 1 else dst) < (l.eraseIdx src).length then
        (if src = 0 then dst - 1 else dst) + 1 else 0) = Daemon.movedTo l.length src dst := by
      rw [List.length_eraseIdx_of_lt hsrc, Daemon.movedTo, if_neg hsame, if_neg hzero]
      grind
    rw [if_neg hzero, moveLoop_head h hsrc hs₁ h₁ hzero, ← hplace]
    exact ⟨s', hs', hrep⟩

/-- A call does to the links what it does to the list, and returns the same. -/
theorem call_eq (h : LinkedAs s l) {op : RuleOp α} (hop : Permitted l op)
    (hfuel : l.length ≤ fuel) :
    ∃ s', call s fuel op = some (s', (listCall l op).2) ∧ LinkedAs s' (listCall l op).1 := by
  cases op with
  | insert rule index =>
    obtain ⟨s', hs', hrep⟩ := linkedAs_insert h hop hfuel index
    exact ⟨s', by rw [call, hs']; rfl, hrep⟩
  | get index => exact ⟨s, by rw [call, ircBotRuleGet_eq h hop hfuel]; rfl, h⟩
  | remove index =>
    obtain ⟨s', hs', hrep⟩ := linkedAs_remove h hop hfuel
    exact ⟨s', by rw [call, hs']; rfl, hrep⟩
  | size => exact ⟨s, by rw [call, ircBotRuleSize_eq h hfuel]; rfl, h⟩

end Lists

/-- Calls that keep to the preconditions do to the links what they do to the list, and return the
same. The links are consistent after them. -/
theorem exec_eq [DecidableEq α] {s : Links α} {l : List α} {ops : List (RuleOp α)} {fuel : ℕ}
    (h : LinkedAs s l) (hops : AllPermitted l ops) (hfuel : l.length + ops.length ≤ fuel) :
    ∃ s', exec fuel s ops = some (s', (listExec l ops).2) ∧ LinkedAs s' (listExec l ops).1 := by
  induction ops generalizing s l with
  | nil => exact ⟨s, rfl, h⟩
  | cons op ops ih =>
    rw [List.length_cons] at hfuel
    obtain ⟨s₁, hcall, h₁⟩ := call_eq h hops.1 (by omega : l.length ≤ fuel)
    have hlen := length_listCall_le l op
    obtain ⟨s₂, hexec, h₂⟩ := ih h₁ hops.2 (by omega)
    refine ⟨s₂, ?_, h₂⟩
    rw [exec, hcall]
    dsimp only [Option.bind_eq_bind, Option.bind_some]
    rw [hexec]
    rfl

/-- The bot when it is started. A rule is known by its address. -/
def noRules : Links ℕ := { head := none, prev := fun _ => none, next := fun _ => none }

/-- Two rules are inserted, the first of them is read, and the other one is removed. -/
theorem exec_noRules :
    ∃ s, exec 5 noRules [.insert 1 5, .insert 2 0, .get 1, .remove 0, .size] =
        some (s, [.done, .done, .rule (some 1), .done, .size 1]) ∧
      LinkedAs s [1] :=
  exec_eq (linkedAs_nil rfl)
    ⟨List.not_mem_nil, by simp [Permitted, listCall], Nat.lt_succ_self 1, Nat.zero_lt_two, trivial,
      trivial⟩
    (Nat.le_refl 5)

/-! ## The rules of the daemon -/

/-- The links are those of the rules of a daemon, which are at the places `l` of the memory. -/
structure Holds (contents : α → IrcRule) (s : Links α) (l : List α) (d : Daemon) : Prop where
  linked : LinkedAs s l
  rules : d.rules = l.map contents

section Daemon

variable [DecidableEq α] {contents : α → IrcRule} {s : Links α} {l : List α} {d : Daemon}
  {rule : α} {index src fuel : ℕ}

theorem Holds.insert (h : Holds contents s l d) (hrule : rule ∉ l) (hfuel : l.length ≤ fuel)
    (hindex : index < 2 ^ 64) :
    ∃ s' l', ircBotRuleInsert s fuel rule index = some s' ∧
      Holds contents s' l' (d.ircBotRuleInsert (contents rule) index) := by
  obtain ⟨s', hs', hrep⟩ := linkedAs_insert h.linked hrule hfuel index
  refine ⟨s', _, hs', hrep, ?_⟩
  have hnat : (BitVec.ofInt 64 (index : ℤ)).toNat = index := by
    rw [BitVec.ofInt_natCast, BitVec.toNat_ofNat, Nat.mod_eq_of_lt hindex]
  rw [Daemon.ircBotRuleInsert, hnat, h.rules, List.map_insertIdx,
    insertIdx_eq_take_append (by rw [List.length_map]; exact Nat.min_le_right _ _)]
  -- a place behind the end is the end
  rcases Nat.le_total index l.length with hle | hge
  · rw [Nat.min_eq_left hle]
  · rw [Nat.min_eq_right hge, List.take_of_length_le (by rwa [List.length_map]),
      List.take_of_length_le (by rw [List.length_map]),
      List.drop_of_length_le (by rwa [List.length_map]),
      List.drop_of_length_le (by rw [List.length_map])]

theorem Holds.remove (h : Holds contents s l d) (hindex : index < l.length)
    (hfuel : l.length ≤ fuel) :
    ∃ s' l', ircBotRuleRemove s fuel index = some s' ∧
      Holds contents s' l' (d.ircBotRuleRemove index) := by
  obtain ⟨s', hs', hrep⟩ := linkedAs_remove h.linked hindex hfuel
  refine ⟨s', _, hs', hrep, ?_⟩
  rw [Daemon.ircBotRuleRemove, h.rules, List.eraseIdx_map]

theorem Holds.move (h : Holds contents s l d) (hsrc : src < l.length) (hfuel : l.length ≤ fuel)
    (dst : ℕ) :
    ∃ s' l', ircBotRuleMove s fuel src dst = some s' ∧
      Holds contents s' l' (d.ircBotRuleMove src dst) := by
  obtain ⟨s', hs', hrep⟩ := linkedAs_move h.linked hsrc hfuel dst
  refine ⟨s', _, hs', hrep, ?_⟩
  have hlen : d.rules.length = l.length := by rw [h.rules, List.length_map]
  have hrule : d.rules[src] = contents l[src] := by simp [h.rules]
  rw [Daemon.ircBotRuleMove_rules d dst (hlen ▸ hsrc), hrule, hlen, List.map_insertIdx, h.rules,
    List.eraseIdx_map]

end Daemon

end RuleList

end Irccd
