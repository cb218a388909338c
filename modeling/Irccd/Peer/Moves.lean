import Mathlib.Data.List.InsertIdx
import Mathlib.Data.List.Perm.Basic
import Irccd.Peer.Daemon

/-!
# Moving a rule (`irccd.c`)

`irc_bot_rule_move` looks for the new place with a pointer that it takes before the rule is removed,
and puts the rule behind what it finds.

* `ircBotRuleMove_rules`: the place where the rule ends up;
* `ircBotRuleMove_perm`: no rule is lost;
* `ircBotRuleMove_rules_iff`: exactly when this is the place that was asked for.
-/

namespace Irccd

section Insertions

variable {α : Type*} {l : List α} {a : α} {i : ℕ}

/-- What is put between the first `i` elements and the others. -/
theorem insertIdx_eq_take_append (hi : i ≤ l.length) :
    l.insertIdx i a = l.take i ++ a :: l.drop i := by
  induction i generalizing l with
  | zero => simp
  | succ i ih =>
    obtain ⟨b, l, rfl⟩ := List.exists_cons_of_length_pos (Nat.zero_lt_of_lt hi)
    simpa using ih (by simpa using hi)

/-- Two neighbouring places make no difference for an element that is equal to the one between. -/
theorem insertIdx_eq_insertIdx_succ_iff (hi : i < l.length) :
    l.insertIdx i a = l.insertIdx (i + 1) a ↔ l[i]? = some a := by
  induction i generalizing l with
  | zero =>
    obtain ⟨b, l, rfl⟩ := List.exists_cons_of_length_pos hi
    simp [eq_comm]
  | succ i ih =>
    obtain ⟨b, l, rfl⟩ := List.exists_cons_of_length_pos (Nat.zero_lt_of_lt hi)
    simpa using ih (by simpa using hi)

/-- The first and the last place make no difference when every element is the same. -/
theorem cons_eq_append_singleton_iff : a :: l = l ++ [a] ↔ ∀ b ∈ l, b = a := by
  induction l with
  | nil => simp
  | cons b l ih =>
    rw [List.forall_mem_cons, List.cons_append, List.cons.injEq, eq_comm (a := b)]
    refine and_congr_right ?_
    rintro rfl
    exact ih

end Insertions

namespace Daemon

/-- The place where a rule ends up in a list of `n`: one behind the place `dst`, or the first one
when there is none, unless the rule comes from the head of the list. -/
def movedTo (n src dst : ℕ) : ℕ :=
  if src = dst then src
  else if dst = 0 then 0
  else if src = 0 then if dst < n then dst else 0
  else if dst + 1 < n then dst + 1 else 0

/-- The place that was asked for: `dst`, or the last one when there are not so many rules. -/
def moveGoal (n dst : ℕ) : ℕ := min dst (n - 1)

section Move

variable (d : Daemon) {src : ℕ} (dst : ℕ)

theorem ircBotRuleMove_rules (hsrc : src < d.rules.length) :
    (d.ircBotRuleMove src dst).rules =
      (d.rules.eraseIdx src).insertIdx (movedTo d.rules.length src dst) d.rules[src] := by
  have hlen : (d.rules.eraseIdx src).length = d.rules.length - 1 := List.length_eraseIdx_of_lt hsrc
  rw [ircBotRuleMove, List.getElem?_eq_getElem hsrc]
  dsimp only
  by_cases hsame : src = dst
  · rw [if_pos hsame, movedTo, if_pos hsame, List.insertIdx_eraseIdx_getElem hsrc]
  rw [if_neg hsame, hlen]
  by_cases hfirst : movedTo d.rules.length src dst = 0
  · -- the loop goes past the end, or is not run at all
    have hcond : dst = 0 ∨ d.rules.length - 1 ≤ if src = 0 then dst - 1 else dst := by
      simp only [movedTo] at hfirst
      grind
    rw [if_pos hcond, hfirst, List.insertIdx_zero]
  · have hcond : ¬ (dst = 0 ∨ d.rules.length - 1 ≤ if src = 0 then dst - 1 else dst) := by
      simp only [movedTo] at hfirst
      grind
    have hplace : movedTo d.rules.length src dst = (if src = 0 then dst - 1 else dst) + 1 := by
      simp only [movedTo] at hfirst ⊢
      grind
    rw [if_neg hcond, hplace, insertIdx_eq_take_append]
    omega

/-- No rule is lost or duplicated. -/
theorem ircBotRuleMove_perm (src dst : ℕ) : (d.ircBotRuleMove src dst).rules.Perm d.rules := by
  by_cases hsrc : src < d.rules.length
  · rw [d.ircBotRuleMove_rules dst hsrc]
    refine (List.perm_insertIdx _ _ ?_).trans (List.getElem_cons_eraseIdx_perm hsrc)
    rw [List.length_eraseIdx_of_lt hsrc, movedTo]
    grind
  · rw [ircBotRuleMove, List.getElem?_eq_none (not_lt.1 hsrc)]

/-- When the rule gets to the place that was asked for: it stays where it is, goes to the head, or
comes from the head and goes to a place of the list. Otherwise it does not, but this makes no
difference when it is equal to the rules between the two places. -/
def MoveCond (rules : List IrcRule) (src dst : ℕ) : Prop :=
  src = dst ∨ dst = 0 ∨ (src = 0 ∧ dst < rules.length) ∨
    (dst + 1 < rules.length ∧ (rules.eraseIdx src)[dst]? = rules[src]?) ∨
    (rules.length ≤ dst + 1 ∧ ∀ r ∈ rules.eraseIdx src, some r = rules[src]?)

/-- The two places make no difference if and only if the condition holds. -/
theorem insertIdx_movedTo_iff {rules : List IrcRule} (hsrc : src < rules.length) :
    (rules.eraseIdx src).insertIdx (movedTo rules.length src dst) rules[src] =
        (rules.eraseIdx src).insertIdx (moveGoal rules.length dst) rules[src] ↔
      MoveCond rules src dst := by
  have hlen : (rules.eraseIdx src).length = rules.length - 1 := List.length_eraseIdx_of_lt hsrc
  rw [MoveCond, List.getElem?_eq_getElem hsrc]
  generalize rules.eraseIdx src = rest at hlen ⊢
  generalize rules[src] = rule
  generalize rules.length = n at hsrc hlen ⊢
  by_cases hstay : src = dst ∨ dst = 0 ∨ (src = 0 ∧ dst < n)
  · have hplace : movedTo n src dst = moveGoal n dst := by
      simp only [movedTo, moveGoal]
      grind
    rw [hplace]
    exact iff_of_true rfl (by tauto)
  · obtain ⟨hsame, hfirst, hhead⟩ : src ≠ dst ∧ dst ≠ 0 ∧ ¬ (src = 0 ∧ dst < n) := by tauto
    rw [or_iff_right hsame, or_iff_right hfirst, or_iff_right hhead]
    by_cases hend : dst + 1 < n
    · -- one place too far
      have hplace : movedTo n src dst = dst + 1 := by
        simp only [movedTo]
        grind
      have hgoal : moveGoal n dst = dst := by
        rw [moveGoal]
        omega
      rw [hplace, hgoal, eq_comm, insertIdx_eq_insertIdx_succ_iff (by omega)]
      simp [hend, not_le.2 hend]
    · -- at the head in place of the end
      have hplace : movedTo n src dst = 0 := by
        simp only [movedTo]
        grind
      have hgoal : moveGoal n dst = rest.length := by
        rw [moveGoal]
        omega
      rw [hplace, hgoal, List.insertIdx_zero, List.insertIdx_length_self,
        cons_eq_append_singleton_iff]
      simp [hend, not_lt.1 hend]

/-- `irc_bot_rule_move` takes the rule out of the list and puts it back at the place that was asked
for if and only if the condition holds. -/
theorem ircBotRuleMove_rules_iff (hsrc : src < d.rules.length) :
    (d.ircBotRuleMove src dst).rules =
        (d.rules.eraseIdx src).insertIdx (moveGoal d.rules.length dst) d.rules[src] ↔
      MoveCond d.rules src dst := by
  rw [d.ircBotRuleMove_rules dst hsrc]
  exact insertIdx_movedTo_iff dst hsrc

/-- Three rules that differ. -/
def threeRules : Daemon where
  servers := []
  plugins := []
  rules := [{ action := .accept }, { action := .drop },
    { action := .accept, channels := [cstr "#staff"] }]
  hooks := []
  watching := false

theorem ircBotRuleMove_rules_threeRules :
    (threeRules.ircBotRuleMove 0 2).rules =
      (threeRules.rules.eraseIdx 0).insertIdx (moveGoal 3 2) { action := .accept } :=
  (threeRules.ircBotRuleMove_rules_iff 2 (by decide)).2 (.inr (.inr (.inl ⟨rfl, by decide⟩)))

/-- The last rule stays where it is when it is moved one place up. -/
theorem not_forall_ircBotRuleMove_rules :
    ¬ ∀ (d : Daemon) (src dst : ℕ) (hsrc : src < d.rules.length),
      (d.ircBotRuleMove src dst).rules =
        (d.rules.eraseIdx src).insertIdx (moveGoal d.rules.length dst) d.rules[src] := by
  intro h
  exact absurd (h threeRules 2 1 (by decide)) (by decide)

end Move

end Daemon

end Irccd
