import Irccd.Fault

/-!
# Rules (`rule.c`)

A rule accepts or drops the events that match its five criteria. A criterion is a list of values;
the source keeps NULL for an empty list.
-/

namespace Irccd

/-- `enum irc_rule_action` -/
inductive IrcRuleAction
  | accept
  | drop
  deriving DecidableEq

/-- `struct irc_rule`. An empty list stands for the NULL pointer. -/
structure IrcRule where
  action : IrcRuleAction
  servers : List CStr := []
  channels : List CStr := []
  origins : List CStr := []
  plugins : List CStr := []
  events : List CStr := []
  deriving DecidableEq

/-- The criteria of a rule. -/
inductive RuleKey
  | server
  | channel
  | origin
  | plugin
  | event
  deriving DecidableEq

/-- The loop of `list_match`: `value` is read as soon as there is an element to compare. -/
def listSearch : List CStr → Option CStr → Except Fault Bool
  | [], _ => .ok false
  | _ :: _, none => .error .nullString
  | i :: is, some v => if strcasecmp i v then .ok true else listSearch is (some v)

/-- `list_match` -/
def listMatch (list : List CStr) (value : Option CStr) : Except Fault Bool :=
  if list = [] then .ok true else listSearch list value

/-- `list_contains` -/
def listContains (list : List CStr) (value : CStr) : Bool := list.any (strcasecmp · value)

/-- `list_add` -/
def listAdd (list : List CStr) (value : CStr) : List CStr :=
  if listContains list value then list else list ++ [value]

/-- `list_remove`, which adds what is left to a new list. -/
def listRemove (list : List CStr) (value : CStr) : List CStr :=
  (list.filter (!strcasecmp · value)).foldl listAdd []

/-- `irc_rule_new` -/
def ircRuleNew (action : IrcRuleAction) : IrcRule := { action }

/-- `irc_rule_add_server` -/
def ircRuleAddServer (rule : IrcRule) (value : CStr) : IrcRule :=
  { rule with servers := listAdd rule.servers value }

/-- `irc_rule_remove_server` -/
def ircRuleRemoveServer (rule : IrcRule) (value : CStr) : IrcRule :=
  { rule with servers := listRemove rule.servers value }

/-- `irc_rule_add_channel` -/
def ircRuleAddChannel (rule : IrcRule) (value : CStr) : IrcRule :=
  { rule with channels := listAdd rule.channels value }

/-- `irc_rule_remove_channel` -/
def ircRuleRemoveChannel (rule : IrcRule) (value : CStr) : IrcRule :=
  { rule with channels := listRemove rule.channels value }

/-- `irc_rule_add_origin` -/
def ircRuleAddOrigin (rule : IrcRule) (value : CStr) : IrcRule :=
  { rule with origins := listAdd rule.origins value }

/-- `irc_rule_remove_origin` -/
def ircRuleRemoveOrigin (rule : IrcRule) (value : CStr) : IrcRule :=
  { rule with origins := listRemove rule.origins value }

/-- `irc_rule_add_plugin` -/
def ircRuleAddPlugin (rule : IrcRule) (value : CStr) : IrcRule :=
  { rule with plugins := listAdd rule.plugins value }

/-- `irc_rule_remove_plugin` -/
def ircRuleRemovePlugin (rule : IrcRule) (value : CStr) : IrcRule :=
  { rule with plugins := listRemove rule.plugins value }

/-- `irc_rule_add_event` -/
def ircRuleAddEvent (rule : IrcRule) (value : CStr) : IrcRule :=
  { rule with events := listAdd rule.events value }

/-- `irc_rule_remove_event` -/
def ircRuleRemoveEvent (rule : IrcRule) (value : CStr) : IrcRule :=
  { rule with events := listRemove rule.events value }

/-- `&&`, which evaluates its second operand only when the first one is true. -/
def shortAnd : Except Fault Bool → Except Fault Bool → Except Fault Bool
  | .error e, _ => .error e
  | .ok false, _ => .ok false
  | .ok true, b => b

/-- `irc_rule_match` -/
def ircRuleMatch (rule : IrcRule) (server channel origin plugin event : Option CStr) :
    Except Fault Bool :=
  shortAnd (listMatch rule.servers server) <|
  shortAnd (listMatch rule.channels channel) <|
  shortAnd (listMatch rule.origins origin) <|
  shortAnd (listMatch rule.plugins plugin) <|
  listMatch rule.events event

/-- The `DL_FOREACH` loop of `irc_rule_matchlist`. -/
def matchlistLoop (server channel origin plugin event : Option CStr) :
    List IrcRule → Bool → Except Fault Bool
  | [], result => .ok result
  | r :: rules, result => do
    if ← ircRuleMatch r server channel origin plugin event then
      matchlistLoop server channel origin plugin event rules (r.action == .accept)
    else
      matchlistLoop server channel origin plugin event rules result

/-- `irc_rule_matchlist`: the action of the last rule that matches, accept when none does. -/
def ircRuleMatchlist (rules : List IrcRule)
    (server channel origin plugin event : Option CStr) : Except Fault Bool :=
  matchlistLoop server channel origin plugin event rules true

/-! ## Criteria -/

/-- The criterion is absent or lists the value, ignoring case. A value that is absent is on no
list. -/
def Criterion (list : List CStr) (value : Option CStr) : Prop :=
  list = [] ∨ ∃ i ∈ list, value.map foldCase = some (foldCase i)

instance (list : List CStr) (value : Option CStr) : Decidable (Criterion list value) :=
  inferInstanceAs (Decidable (_ ∨ _))

@[simp] theorem criterion_none_iff {list : List CStr} : Criterion list none ↔ list = [] := by
  simp [Criterion]

theorem listSearch_some (list : List CStr) (v : CStr) :
    listSearch list (some v) = .ok (decide (∃ i ∈ list, foldCase v = foldCase i)) := by
  induction list with
  | nil => simp [listSearch]
  | cons i is ih =>
    rw [listSearch]
    by_cases h : foldCase i = foldCase v
    · simp [h]
    · simp [h, Ne.symm h, ih]

theorem listMatch_some (list : List CStr) (v : CStr) :
    listMatch list (some v) = .ok (decide (Criterion list (some v))) := by
  unfold listMatch Criterion
  by_cases h : list = []
  · simp [h]
  · simp [h, listSearch_some]

@[simp] theorem listMatch_nil (value : Option CStr) : listMatch [] value = .ok true := rfl

/-- A non-empty criterion is compared with the value, NULL or not. -/
theorem listMatch_none {list : List CStr} (h : list ≠ []) :
    listMatch list none = .error .nullString := by
  obtain ⟨i, is, rfl⟩ := List.exists_cons_of_ne_nil h
  rfl

theorem defined_listMatch_iff {list : List CStr} {value : Option CStr} :
    Defined (listMatch list value) ↔ value = none → list = [] := by
  cases value with
  | some v => simp [listMatch_some]
  | none =>
    by_cases h : list = []
    · simp [h]
    · simp [h, listMatch_none h]

/-- When `list_match` has a result, it is whether the criterion holds. -/
theorem listMatch_eq_of_defined {list : List CStr} {value : Option CStr}
    (h : Defined (listMatch list value)) :
    listMatch list value = .ok (decide (Criterion list value)) := by
  cases value with
  | some v => exact listMatch_some list v
  | none =>
    obtain rfl := defined_listMatch_iff.1 h rfl
    simp

theorem defined_shortAnd_iff {a b : Except Fault Bool} :
    Defined (shortAnd a b) ↔ Defined a ∧ (a = .ok true → Defined b) := by
  rcases a with e | _ | _ <;> simp [shortAnd]

/-- A conjunction that has a result has that of its operands. -/
theorem shortAnd_eq_of_defined {a b : Except Fault Bool} {p q : Prop} [Decidable p] [Decidable q]
    (h : Defined (shortAnd a b)) (ha : Defined a → a = .ok (decide p))
    (hb : Defined b → b = .ok (decide q)) : shortAnd a b = .ok (decide (p ∧ q)) := by
  obtain ⟨hdef, hnext⟩ := defined_shortAnd_iff.1 h
  by_cases hp : p
  · have ha' : a = .ok true := by simpa [hp] using ha hdef
    rw [ha', shortAnd, hb (hnext ha')]
    simp [hp]
  · have ha' : a = .ok false := by simpa [hp] using ha hdef
    rw [ha', shortAnd]
    simp [hp]

/-! ## Verdicts -/

/-- The rule matches the values. -/
def IrcRule.Matches (rule : IrcRule) (server channel origin plugin event : Option CStr) : Prop :=
  Criterion rule.servers server ∧ Criterion rule.channels channel ∧
    Criterion rule.origins origin ∧ Criterion rule.plugins plugin ∧ Criterion rule.events event

instance (rule : IrcRule) (server channel origin plugin event : Option CStr) :
    Decidable (rule.Matches server channel origin plugin event) :=
  inferInstanceAs (Decidable (_ ∧ _))

/-- The verdict of a rule list: the last matching rule decides. -/
def verdict (rules : List IrcRule) (server channel origin plugin event : Option CStr) : Bool :=
  rules.foldl (fun result r =>
    if r.Matches server channel origin plugin event then r.action == .accept else result) true

section

variable {server channel origin plugin event : Option CStr}

theorem ircRuleMatch_eq_of_defined {rule : IrcRule}
    (h : Defined (ircRuleMatch rule server channel origin plugin event)) :
    ircRuleMatch rule server channel origin plugin event =
      .ok (decide (rule.Matches server channel origin plugin event)) := by
  unfold ircRuleMatch at h ⊢
  refine shortAnd_eq_of_defined h listMatch_eq_of_defined fun h => ?_
  refine shortAnd_eq_of_defined h listMatch_eq_of_defined fun h => ?_
  refine shortAnd_eq_of_defined h listMatch_eq_of_defined fun h => ?_
  exact shortAnd_eq_of_defined h listMatch_eq_of_defined listMatch_eq_of_defined

/-- Of the values only the channel and the origin are ever NULL. The channel is compared by the
rules for the server, the origin by those for the server and the channel. -/
theorem defined_ircRuleMatch_iff {rule : IrcRule} {server plugin event : CStr} :
    Defined (ircRuleMatch rule (some server) channel origin (some plugin) (some event)) ↔
      (Criterion rule.servers (some server) →
        (channel = none → rule.channels = []) ∧
        (Criterion rule.channels channel → origin = none → rule.origins = [])) := by
  simp only [ircRuleMatch, defined_shortAnd_iff, listMatch_some, defined_ok, Except.ok.injEq,
    decide_eq_true_eq, true_and, implies_true, and_true]
  -- the first criterion holds: the next two are the ones that may be compared with NULL
  refine imp_congr_right fun _ => ?_
  rw [defined_listMatch_iff, defined_listMatch_iff]
  refine and_congr_right fun hchannel => ?_
  rw [listMatch_eq_of_defined (defined_listMatch_iff.2 hchannel)]
  simp

theorem defined_matchlistLoop_iff {rules : List IrcRule} {result : Bool} :
    Defined (matchlistLoop server channel origin plugin event rules result) ↔
      ∀ r ∈ rules, Defined (ircRuleMatch r server channel origin plugin event) := by
  induction rules generalizing result with
  | nil => simp [matchlistLoop]
  | cons r rules ih =>
    rw [matchlistLoop, defined_bind_iff, List.forall_mem_cons]
    constructor
    · rintro ⟨matched, hr, hrest⟩
      refine ⟨⟨matched, hr⟩, ?_⟩
      cases matched
      · exact ih.1 hrest
      · exact ih.1 hrest
    · rintro ⟨⟨matched, hr⟩, hrest⟩
      refine ⟨matched, hr, ?_⟩
      cases matched
      · exact ih.2 hrest
      · exact ih.2 hrest

/-- Every rule of the list is tried, whatever the others say. -/
theorem defined_ircRuleMatchlist_iff {rules : List IrcRule} :
    Defined (ircRuleMatchlist rules server channel origin plugin event) ↔
      ∀ r ∈ rules, Defined (ircRuleMatch r server channel origin plugin event) :=
  defined_matchlistLoop_iff

/-- When `irc_rule_matchlist` has a result, it is the verdict of the rules. -/
theorem ircRuleMatchlist_eq_of_defined {rules : List IrcRule}
    (h : Defined (ircRuleMatchlist rules server channel origin plugin event)) :
    ircRuleMatchlist rules server channel origin plugin event =
      .ok (verdict rules server channel origin plugin event) := by
  have hrules := defined_ircRuleMatchlist_iff.1 h
  -- the rules before those of the induction leave some result
  unfold ircRuleMatchlist verdict
  generalize true = result
  clear h
  induction rules generalizing result with
  | nil => rfl
  | cons r rules ih =>
    obtain ⟨hr, hrest⟩ := List.forall_mem_cons.1 hrules
    rw [matchlistLoop, ircRuleMatch_eq_of_defined hr, ok_bind, List.foldl_cons]
    by_cases hm : r.Matches server channel origin plugin event
    · rw [if_pos hm, ← ih hrest, if_pos (decide_eq_true hm)]
    · rw [if_neg hm, ← ih hrest, if_neg (by simpa using hm)]

/-- On values that are all present `irc_rule_matchlist` gives the verdict of the rules. -/
theorem ircRuleMatchlist_some (rules : List IrcRule) (server channel origin plugin event : CStr) :
    ircRuleMatchlist rules (some server) (some channel) (some origin) (some plugin) (some event) =
      .ok (verdict rules (some server) (some channel) (some origin) (some plugin)
        (some event)) := by
  refine ircRuleMatchlist_eq_of_defined (defined_ircRuleMatchlist_iff.2 fun r _ => ?_)
  simp [defined_ircRuleMatch_iff]

end

end Irccd
