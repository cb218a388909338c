import Irccd.Peer.Safety

/-!
# Editing a rule (`cmd_rule_edit`)

The tokens of a `RULE-EDIT` are edits of the addressed rule, which `cmd_rule_edit` carries out one
after the other until it finds a token that is not one.

* `RuleKey.letter`, `RuleKey.ofLetter`: the criteria of a rule, by their letters;
* `RuleEdit`, `ruleEditOf`: the edits, and the one that a token stands for;
* `ruleEditLoop_eq`: the edits before the first other token are carried out;
* `invoke_ruleEdit_iff`: exactly when a request is carried out as a whole or not at all.
-/

namespace Irccd

/-! ## Criteria -/

namespace RuleKey

/-- The letter of a criterion in a token. -/
def letter : RuleKey → UInt8
  | server => 115
  | channel => 99
  | origin => 111
  | plugin => 112
  | event => 101

/-- The criterion of a letter. -/
def ofLetter (c : UInt8) : Option RuleKey :=
  [server, channel, origin, plugin, event].find? (·.letter == c)

/-- The values of a criterion. -/
def values (rule : IrcRule) : RuleKey → List CStr
  | server => rule.servers
  | channel => rule.channels
  | origin => rule.origins
  | plugin => rule.plugins
  | event => rule.events

/-- Change the values of a criterion. -/
def modify (f : List CStr → List CStr) (rule : IrcRule) : RuleKey → IrcRule
  | server => { rule with servers := f rule.servers }
  | channel => { rule with channels := f rule.channels }
  | origin => { rule with origins := f rule.origins }
  | plugin => { rule with plugins := f rule.plugins }
  | event => { rule with events := f rule.events }

variable (f : List CStr → List CStr) (rule : IrcRule) (key other : RuleKey)

@[simp] theorem ofLetter_letter : ofLetter key.letter = some key := by
  cases key <;> rfl

theorem letter_of_ofLetter {c : UInt8} {key : RuleKey} (h : ofLetter c = some key) :
    key.letter = c := by
  simpa using List.find?_some h

/-- A byte that is the letter of no criterion. -/
theorem ne_of_ofLetter {c : UInt8} (h : ofLetter c = none) :
    c ≠ 99 ∧ c ≠ 101 ∧ c ≠ 111 ∧ c ≠ 112 ∧ c ≠ 115 := by
  have hne : ∀ key : RuleKey, c ≠ key.letter := by
    rintro key rfl
    rw [ofLetter_letter] at h
    cases h
  exact ⟨hne channel, hne event, hne origin, hne plugin, hne server⟩

@[simp] theorem modify_action : (modify f rule key).action = rule.action := by
  cases key <;> rfl

theorem values_modify :
    values (modify f rule key) other =
      if other = key then f (values rule key) else values rule other := by
  cases key <;> cases other <;> rfl

end RuleKey

namespace Daemon

theorem ruleAddFn_eq (c : UInt8) :
    ruleAddFn c = (RuleKey.ofLetter c).map fun key rule value =>
      RuleKey.modify (listAdd · value) rule key := by
  cases h : RuleKey.ofLetter c with
  | some key =>
    obtain rfl := RuleKey.letter_of_ofLetter h
    cases key <;> rfl
  | none =>
    obtain ⟨hchannel, hevent, horigin, hplugin, hserver⟩ := RuleKey.ne_of_ofLetter h
    rw [ruleAddFn, if_neg hchannel, if_neg hevent, if_neg horigin, if_neg hplugin, if_neg hserver]
    rfl

theorem ruleRemoveFn_eq (c : UInt8) :
    ruleRemoveFn c = (RuleKey.ofLetter c).map fun key rule value =>
      RuleKey.modify (listRemove · value) rule key := by
  cases h : RuleKey.ofLetter c with
  | some key =>
    obtain rfl := RuleKey.letter_of_ofLetter h
    cases key <;> rfl
  | none =>
    obtain ⟨hchannel, hevent, horigin, hplugin, hserver⟩ := RuleKey.ne_of_ofLetter h
    rw [ruleRemoveFn, if_neg hchannel, if_neg hevent, if_neg horigin, if_neg hplugin,
      if_neg hserver]
    rfl

/-! ## Edits -/

/-- An edit of a rule. -/
inductive RuleEdit
  | action (action : IrcRuleAction)
  | add (key : RuleKey) (value : CStr)
  | remove (key : RuleKey) (value : CStr)
  deriving DecidableEq

/-- The rule once the edit is carried out. -/
def RuleEdit.apply (rule : IrcRule) : RuleEdit → IrcRule
  | .action act => { rule with action := act }
  | .add key value => key.modify (listAdd · value) rule
  | .remove key value => key.modify (listRemove · value) rule

/-- The edit that a token stands for. -/
def ruleEditOf : CStr → Option RuleEdit
  | key :: attr :: value =>
    if key = 97 then if attr = 61 then (ruleAction value).map .action else none
    else
      (RuleKey.ofLetter key).bind fun criterion =>
        if attr = 43 then some (.add criterion value)
        else if attr = 45 then some (.remove criterion value)
        else none
  | _ => none

/-- The edits before the first token that is not one. -/
def leadingEdits (ts : List CStr) : List RuleEdit :=
  (ts.takeWhile fun token => (ruleEditOf token).isSome).filterMap ruleEditOf

/-- How the loop ends at a token that is not an edit: what is refused of an action has a message. -/
def refusal (token : CStr) : Ending :=
  if (cstr "a=").isPrefixOf token then .error (cstr "invalid action") else .fail .einval

section Loop

variable {rule : IrcRule} {token : CStr} {ts : List CStr}

theorem ruleEditToken_of_some {e : RuleEdit} (h : ruleEditOf token = some e) :
    ruleEditToken rule token = (e.apply rule, .ok) := by
  match token, h with
  | key :: attr :: value, h =>
    rw [ruleEditOf] at h
    rw [ruleEditToken]
    by_cases hkey : key = 97
    · rw [if_pos hkey] at h ⊢
      by_cases hattr : attr = 61
      · rw [if_pos hattr] at h
        obtain ⟨action, haction, rfl⟩ := Option.map_eq_some_iff.1 h
        simp [hattr, haction, RuleEdit.apply]
      · simp [hattr] at h
    · rw [if_neg hkey] at h ⊢
      obtain ⟨criterion, hcriterion, h⟩ := Option.bind_eq_some_iff.1 h
      simp only [ruleAddFn_eq, ruleRemoveFn_eq, hcriterion, Option.map_some]
      by_cases hplus : attr = 43
      · rw [if_pos hplus] at h ⊢
        cases h
        rfl
      · rw [if_neg hplus] at h ⊢
        by_cases hminus : attr = 45
        · rw [if_pos hminus] at h ⊢
          cases h
          rfl
        · simp [hminus] at h

theorem ruleEditToken_of_none (h : ruleEditOf token = none) :
    ruleEditToken rule token = (rule, refusal token) := by
  have hword : cstr "a=" = [97, 61] := by decide
  -- a token has a letter, an operator and a value
  match token, h with
  | [], _ => rfl
  | [_], _ => simp [ruleEditToken, refusal, hword]
  | key :: attr :: value, h =>
    rw [ruleEditOf] at h
    rw [ruleEditToken, refusal, hword]
    by_cases hkey : key = 97
    · rw [if_pos hkey] at h ⊢
      by_cases hattr : attr = 61
      · have haction : ruleAction value = none := by simpa [hattr] using h
        simp [hkey, hattr, haction]
      · simp [hattr, Ne.symm hattr]
    · rw [if_neg hkey] at h ⊢
      simp only [ruleAddFn_eq, ruleRemoveFn_eq]
      have hnot : ¬ List.isPrefixOf [97, 61] (key :: attr :: value) = true := by
        simp [Ne.symm hkey]
      rw [if_neg hnot]
      cases hcriterion : RuleKey.ofLetter key with
      | none => rfl
      | some criterion =>
        rw [hcriterion, Option.bind_some] at h
        by_cases hplus : attr = 43
        · simp [hplus] at h
        · by_cases hminus : attr = 45
          · simp [hminus] at h
          · simp [hplus, hminus]

/-- Where the loop stops, not every token is an edit. -/
theorem not_forall_of_find? (h : ts.find? (fun token => (ruleEditOf token).isNone) = some token) :
    ¬ ∀ token ∈ ts, (ruleEditOf token).isSome := by
  intro hall
  have hnone : (ruleEditOf token).isNone = true := by simpa using List.find?_some h
  have hsome := hall token (List.mem_of_find?_eq_some h)
  simp [Option.isNone_iff_eq_none.1 hnone] at hsome

/-- The loop carries out the edits before the first token that is not one. -/
theorem ruleEditLoop_eq (rule : IrcRule) (ts : List CStr) :
    ((∀ token ∈ ts, (ruleEditOf token).isSome) ∧
        ruleEditLoop rule ts = ((ts.filterMap ruleEditOf).foldl RuleEdit.apply rule, .ok)) ∨
      ∃ token, ts.find? (fun token => (ruleEditOf token).isNone) = some token ∧
        ruleEditLoop rule ts = ((leadingEdits ts).foldl RuleEdit.apply rule, refusal token) := by
  induction ts generalizing rule with
  | nil => exact .inl ⟨by simp, rfl⟩
  | cons token ts ih =>
    cases htoken : ruleEditOf token with
    | none =>
      refine .inr ⟨token, by simp [htoken], ?_⟩
      rw [ruleEditLoop, ruleEditToken_of_none htoken, refusal]
      by_cases haction : (cstr "a=").isPrefixOf token = true
      · simp only [if_pos haction]
        simp [leadingEdits, htoken]
      · simp only [if_neg haction]
        simp [leadingEdits, htoken]
    | some e =>
      rw [ruleEditLoop, ruleEditToken_of_some htoken]
      have hhead : (ruleEditOf token).isSome = true := by rw [htoken]; rfl
      rcases ih (e.apply rule) with ⟨hall, hloop⟩ | ⟨other, hother, hloop⟩
      · refine .inl ⟨List.forall_mem_cons.2 ⟨hhead, hall⟩, ?_⟩
        simpa [htoken] using hloop
      · refine .inr ⟨other, by simpa [htoken] using hother, ?_⟩
        simpa [leadingEdits, htoken] using hloop

end Loop

/-! ## Requests -/

/-- The tokens of a request, behind the command and the index. -/
def editTokens (line : CStr) : List CStr := tokens SP (skipWord (line.drop 10))

/-- The tokens of a line are the words behind its first word, unless the first of them starts with
another blank than a space. -/
theorem tokens_skipWord {word : CStr} {ts : List CStr} (hword : ∀ b ∈ word, isspace b = false)
    (hts : ∀ t ∈ ts, t ≠ [] ∧ SP ∉ t)
    (hhead : ∀ t ∈ ts.head?, ∀ b ∈ t.head?, isspace b = false) :
    tokens SP (skipWord (word ++ spaced ts)) = ts := by
  have hnot : ∀ b ∈ word, (!isspace b) = true := fun b hb => by simp [hword b hb]
  rw [skipWord, List.dropWhile_append_of_pos hnot]
  cases ts with
  | nil => exact tokens_nil
  | cons t ts =>
    obtain ⟨b, t, rfl⟩ := List.exists_cons_of_ne_nil (hts t List.mem_cons_self).1
    have hb : isspace b = false := hhead _ rfl b rfl
    have hspaced : spaced ((b :: t) :: ts) = SP :: (b :: t ++ spaced ts) := by simp [spaced]
    have hskip : ((spaced ((b :: t) :: ts)).dropWhile (!isspace ·)).dropWhile isspace =
        b :: t ++ spaced ts := by
      have hSP : isspace SP = true := by decide
      rw [hspaced]
      simp [hSP, hb]
    rw [hskip, tokens_spaced hts]

/-- Every list of words can be the tokens of a request. -/
theorem editTokens_controlLine {index : ℕ} {ts : List CStr}
    (hts : ∀ t ∈ ts, t ≠ [] ∧ ∀ b ∈ t, isspace b = false) :
    editTokens (controlLine (cstr "RULE-EDIT") (decimal index :: ts)) = ts := by
  have hdrop : (controlLine (cstr "RULE-EDIT") (decimal index :: ts)).drop 10 =
      decimal index ++ spaced ts := rfl
  rw [editTokens, hdrop]
  refine tokens_skipWord (fun b hb => not_isspace_of_isdigit (isdigit_of_mem_decimal hb))
    (fun t ht => ⟨(hts t ht).1, fun hSP => ?_⟩) fun t ht b hb => ?_
  · exact absurd ((hts t ht).2 SP hSP) (by decide)
  · exact (hts t (List.mem_of_mem_head? ht)).2 b (List.mem_of_mem_head? hb)

/-- A request is all or nothing: the reply is `OK` and the addressed rule has all its edits, carried
out in order, or the reply is not and nothing is changed. -/
def AllOrNothing (d : Daemon) (line : CStr) (r : Response) : Prop :=
  (r.out = [cstr "OK"] ∧ ∃ index rule, ruleEditIndex line = some index ∧
      d.rules[index]? = some rule ∧ (∀ token ∈ editTokens line, (ruleEditOf token).isSome) ∧
      r.daemon = { d with
        rules := d.rules.set index
          (((editTokens line).filterMap ruleEditOf).foldl RuleEdit.apply rule) }) ∨
    ((∃ text, r.out = [text] ∧ ¬ cstr "OK" <+: text) ∧ r.daemon = d)

/-- Every token is an edit, or those before the first other one leave the rule as it is. -/
def EditCond (ts : List CStr) (rule : IrcRule) : Prop :=
  (∀ token ∈ ts, (ruleEditOf token).isSome) ∨ (leadingEdits ts).foldl RuleEdit.apply rule = rule

section Requests

variable {env : PeerEnv} {d : Daemon} {line : CStr}

/-- What `invoke` answers when the loop stops at a token. -/
theorem invoke_of_refusal (hline : firstWord line = cstr "RULE-EDIT") {token : CStr} {d' : Daemon}
    (hcall : d.cmdRuleEdit line = .ok (d'.finish (refusal token))) :
    ∃ r text, invoke env d line = .ok r ∧ r.out = [text] ∧ (¬ cstr "OK" <+: text) ∧
      r.daemon = d' := by
  have hentry : (cstr "RULE-EDIT", fun _ => cmdRuleEdit) ∈ cmds := by simp [cmds]
  rw [refusal] at hcall
  split at hcall
  · exact ⟨_, _, invoke_eq_ok hentry hline hcall rfl, rfl, by decide, rfl⟩
  · exact ⟨_, _, invoke_eq_fail hentry hline hcall rfl, rfl, by decide, rfl⟩

theorem set_eq_self_iff {α : Type*} {l : List α} {i : ℕ} {a b : α} (h : l[i]? = some a) :
    l.set i b = l ↔ b = a := by
  obtain ⟨hi, rfl⟩ := List.getElem?_eq_some_iff.1 h
  refine ⟨fun hset => ?_, ?_⟩
  · have hget := congrArg (·[i]?) hset
    simpa [hi] using hget
  · rintro rfl
    exact List.set_getElem_self hi

/-- The handler on a rule that is there. -/
theorem cmdRuleEdit_eq {index : ℕ} {rule : IrcRule} (hindex : ruleEditIndex line = some index)
    (hrule : d.rules[index]? = some rule) :
    d.cmdRuleEdit line =
      .ok (({ d with rules := d.rules.set index (ruleEditLoop rule (editTokens line)).1 } :
        Daemon).finish (ruleEditLoop rule (editTokens line)).2) := by
  simp only [cmdRuleEdit, hindex, hrule, advance_of_le (length_of_ruleEditIndex hindex), ok_bind]
  rfl

/-- Without a rule to edit nothing is changed. -/
theorem allOrNothing_of_fail (hline : firstWord line = cstr "RULE-EDIT") {er : CmdErrno}
    (hcall : d.cmdRuleEdit line = .ok (d.fail er)) :
    ∃ r, invoke env d line = .ok r ∧ d.AllOrNothing line r := by
  have hentry : (cstr "RULE-EDIT", fun _ => cmdRuleEdit) ∈ cmds := by simp [cmds]
  refine ⟨_, invoke_eq_fail hentry hline hcall rfl, .inr ⟨⟨strerror er, rfl, ?_⟩, rfl⟩⟩
  cases er <;> decide

/-- A request on a rule that is there is all or nothing if and only if each of its tokens is an
edit, or those before the first other one leave the rule as it is. -/
theorem allOrNothing_iff (hline : firstWord line = cstr "RULE-EDIT") {index : ℕ} {rule : IrcRule}
    (hindex : ruleEditIndex line = some index) (hrule : d.rules[index]? = some rule) :
    (∃ r, invoke env d line = .ok r ∧ d.AllOrNothing line r) ↔
      EditCond (editTokens line) rule := by
  have hcall := cmdRuleEdit_eq hindex hrule
  rcases ruleEditLoop_eq rule (editTokens line) with ⟨hall, hloop⟩ | ⟨token, htoken, hloop⟩
  · rw [hloop] at hcall
    have hentry : (cstr "RULE-EDIT", fun _ => cmdRuleEdit) ∈ cmds := by simp [cmds]
    refine iff_of_true ⟨_, invoke_eq_ok hentry hline hcall rfl, .inl ⟨rfl, ?_⟩⟩ (.inl hall)
    exact ⟨index, rule, hindex, hrule, hall, rfl⟩
  · rw [hloop] at hcall
    have hall := not_forall_of_find? htoken
    obtain ⟨r, text, hinvoke, hout, hok, hdaemon⟩ :=
      @invoke_of_refusal env d line hline token _ hcall
    -- the reply is not `OK`, so that nothing may have changed
    have hatomic : d.AllOrNothing line r ↔ r.daemon = d := by
      refine ⟨?_, fun h => .inr ⟨⟨text, hout, hok⟩, h⟩⟩
      rintro (⟨hout', -⟩ | ⟨-, h⟩)
      · rw [hout] at hout'
        exact absurd (List.head_eq_of_cons_eq hout' ▸ List.prefix_rfl) hok
      · exact h
    have hsame : r.daemon = d ↔
        (leadingEdits (editTokens line)).foldl RuleEdit.apply rule = rule := by
      rw [hdaemon, ← set_eq_self_iff hrule]
      exact ⟨fun h => congrArg Daemon.rules h, fun h => by rw [h]⟩
    rw [EditCond, or_iff_right hall, ← hsame, ← hatomic, hinvoke]
    simp

/-- A request is all or nothing if and only if the addressed rule, if there is one, and the tokens
meet the condition. -/
theorem invoke_ruleEdit_iff (env : PeerEnv) (d : Daemon) (line : CStr)
    (hline : firstWord line = cstr "RULE-EDIT") :
    (∃ r, invoke env d line = .ok r ∧ d.AllOrNothing line r) ↔
      ∀ index rule, ruleEditIndex line = some index → d.rules[index]? = some rule →
        EditCond (editTokens line) rule := by
  cases hindex : ruleEditIndex line with
  | none => exact iff_of_true (allOrNothing_of_fail hline (by rw [cmdRuleEdit, hindex])) (by simp)
  | some index =>
    cases hrule : d.rules[index]? with
    | none =>
      have hcall : d.cmdRuleEdit line = .ok (d.fail .erange) := by
        simp only [cmdRuleEdit, hindex, hrule]
      refine iff_of_true (allOrNothing_of_fail hline hcall) ?_
      rintro _ rule ⟨⟩ h
      rw [hrule] at h
      cases h
    | some rule =>
      rw [allOrNothing_iff hline hindex hrule]
      refine ⟨?_, fun h => h index rule rfl hrule⟩
      rintro h _ rule' ⟨⟩ hrule'
      rwa [← Option.some.inj (hrule.symm.trans hrule')]

/-- A daemon with a rule that accepts everything. -/
def acceptAll : Daemon where
  servers := []
  plugins := []
  rules := [{ action := .accept }]
  hooks := []
  watching := false

theorem allOrNothing_acceptAll :
    ∃ r, invoke quietEnv acceptAll (cstr "RULE-EDIT 0 c+#games a=drop") = .ok r ∧
      acceptAll.AllOrNothing (cstr "RULE-EDIT 0 c+#games a=drop") r :=
  (invoke_ruleEdit_iff quietEnv acceptAll _ (by decide)).2 fun _ _ _ _ => .inl (by decide)

/-- The channel is added although the action is refused. -/
theorem not_forall_allOrNothing :
    ¬ ∀ (env : PeerEnv) (d : Daemon) (line : CStr), firstWord line = cstr "RULE-EDIT" →
      ∃ r, invoke env d line = .ok r ∧ d.AllOrNothing line r := by
  intro h
  have hindex : ruleEditIndex (cstr "RULE-EDIT 0 c+#games a=none") = some 0 := by decide
  have hcond := (allOrNothing_iff (by decide) hindex rfl).1 (h quietEnv acceptAll _ (by decide))
  revert hcond
  unfold EditCond
  decide

end Requests

end Daemon

end Irccd
