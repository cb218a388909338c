import Irccd.Rule
import Mathlib.Data.Finset.Basic
import Mathlib.Data.Finset.Dedup
import Mathlib.Logic.Function.Basic

/-!
# The arrays of a rule (`rule.c`)

The source keeps the values of a criterion in an allocated array of strings that ends with a NULL,
or has a NULL pointer for no values at all. `Rule.lean` has lists instead.

* `StrArray`, `StrArray.listAdd`, `StrArray.listRemove`: the arrays and their functions;
* `toArray`: the array of a list, `listAdd_toArray`, `listRemove_toArray`: the functions on it;
* `RulePointers`, `RuleCall`: a rule with its arrays, and the calls that change it;
* `ircRule_semantics`: the criteria are sets, and the last matching rule decides.
-/

namespace Irccd

/-! ## Arrays of strings -/

/-- A cell of an allocated array. -/
inductive Cell
  /-- Nothing has been stored yet. -/
  | uninit
  | null
  | str (s : CStr)
  deriving DecidableEq

/-- A `char **`: NULL, or the cells that have been allocated. -/
abbrev StrArray := Option (List Cell)

/-- What a function must not do with an array. -/
inductive ArrayFault
  /-- It reads behind the last cell. -/
  | pastEnd
  /-- It reads a cell in which nothing has been stored. -/
  | uninit
  deriving DecidableEq

namespace StrArray

/-- A loop `for (i = list; *i; ++i)` that ends when `strcasecmp (*i, value) == 0`: whether it has
found the value. -/
def search : List Cell → CStr → Except ArrayFault Bool
  | [], _ => .error .pastEnd
  | .uninit :: _, _ => .error .uninit
  | .null :: _, _ => .ok false
  | .str i :: is, value => if strcasecmp i value then .ok true else search is value

/-- `list_match` -/
def listMatch (list : StrArray) (value : CStr) : Except ArrayFault Bool :=
  match list with
  | none => .ok true
  | some cells => search cells value

/-- `list_contains` -/
def listContains (list : StrArray) (value : CStr) : Except ArrayFault Bool :=
  match list with
  | none => .ok false
  | some cells => search cells value

/-- The loop of `list_count`. -/
def count : List Cell → Except ArrayFault ℕ
  | [] => .error .pastEnd
  | .uninit :: _ => .error .uninit
  | .null :: _ => .ok 0
  | .str _ :: is => do return (← count is) + 1

/-- `list_count` -/
def listCount (list : StrArray) : Except ArrayFault ℕ :=
  match list with
  | none => .ok 0
  | some cells => count cells

/-- `irc_util_reallocarray (list, n, sizeof (char *))` -/
def realloc (list : StrArray) (n : ℕ) : List Cell :=
  let cells := (list.getD []).take n
  cells ++ List.replicate (n - cells.length) .uninit

/-- `list_add` -/
def listAdd (list : StrArray) (value : CStr) : Except ArrayFault StrArray := do
  if ← listContains list value then return list
  let len ← listCount list
  let cells := realloc list (len + 2)
  return some ((cells.set len (.str value)).set (len + 1) .null)

/-- The loop of `list_remove`. -/
def removeLoop (value : CStr) : List Cell → StrArray → Except ArrayFault StrArray
  | [], _ => .error .pastEnd
  | .uninit :: _, _ => .error .uninit
  | .null :: _, rc => .ok rc
  | .str i :: is, rc =>
    if strcasecmp i value then removeLoop value is rc
    else do
      let rc ← listAdd rc i
      removeLoop value is rc

/-- `list_remove` -/
def listRemove (list : StrArray) (value : CStr) : Except ArrayFault StrArray :=
  match list with
  | none => .ok none
  | some cells => removeLoop value cells none

end StrArray

/-- The array of some values: NULL, or the values and a NULL. -/
def toArray (values : List CStr) : StrArray :=
  if values = [] then none else some (values.map .str ++ [.null])

section ToArray

variable (values : List CStr) (value : CStr)

theorem search_values : StrArray.search (values.map .str ++ [.null]) value =
    .ok (listContains values value) := by
  induction values with
  | nil => rfl
  | cons i is ih =>
    rw [List.map_cons, List.cons_append, StrArray.search, ih, listContains, listContains,
      List.any_cons]
    cases strcasecmp i value <;> rfl

theorem listContains_toArray :
    (toArray values).listContains value = .ok (listContains values value) := by
  by_cases h : values = []
  · rw [toArray, if_pos h, h]
    rfl
  · rw [toArray, if_neg h]
    exact search_values values value

/-- A criterion without values matches, another one looks for the value. -/
theorem listMatch_toArray : (toArray values).listMatch value =
    .ok (decide (values = []) || listContains values value) := by
  by_cases h : values = []
  · rw [toArray, if_pos h, decide_eq_true h]
    rfl
  · rw [toArray, if_neg h, decide_eq_false h, Bool.false_or]
    exact search_values values value

theorem count_values : StrArray.count (values.map .str ++ [.null]) = .ok values.length := by
  induction values with
  | nil => rfl
  | cons i is ih =>
    rw [List.map_cons, List.cons_append, StrArray.count, ih]
    rfl

theorem listCount_toArray : (toArray values).listCount = .ok values.length := by
  by_cases h : values = []
  · rw [toArray, if_pos h, h]
    rfl
  · rw [toArray, if_neg h]
    exact count_values values

/-- The array has space for one more value and a NULL. -/
theorem exists_realloc_toArray :
    ∃ c, StrArray.realloc (toArray values) (values.length + 2) =
      values.map .str ++ [c, .uninit] := by
  by_cases h : values = []
  · subst h
    exact ⟨.uninit, rfl⟩
  · refine ⟨.null, ?_⟩
    have hlen : (values.map Cell.str ++ [Cell.null]).length = values.length + 1 := by
      rw [List.length_append, List.length_map, List.length_singleton]
    have htake : (values.map Cell.str ++ [Cell.null]).take (values.length + 2) =
        values.map .str ++ [.null] := List.take_of_length_le (by omega)
    have hmore : values.length + 2 - (values.length + 1) = 1 := by omega
    rw [toArray, if_neg h, StrArray.realloc, Option.getD_some, htake, hlen, hmore,
      List.append_assoc]
    rfl

theorem listAdd_toArray :
    (toArray values).listAdd value = .ok (toArray (listAdd values value)) := by
  rw [StrArray.listAdd, listContains_toArray, ok_bind, listAdd]
  by_cases h : listContains values value = true
  · rw [if_pos h, if_pos h]
    rfl
  · obtain ⟨c, hc⟩ := exists_realloc_toArray values
    have hne : values ++ [value] ≠ [] := List.concat_ne_nil value values
    rw [if_neg h, if_neg h, listCount_toArray, ok_bind, hc, toArray, if_neg hne]
    have hset : ((values.map Cell.str ++ [c, .uninit]).set values.length (.str value)).set
        (values.length + 1) .null = (values ++ [value]).map .str ++ [.null] := by
      rw [List.set_append_right _ _ (by rw [List.length_map]), List.length_map, Nat.sub_self,
        List.set_append_right _ _ (by rw [List.length_map]; omega), List.length_map,
        Nat.add_sub_cancel_left, List.map_append, List.append_assoc]
      rfl
    exact congrArg (fun cells => Except.ok (some cells)) hset

theorem removeLoop_values (rc : List CStr) :
    StrArray.removeLoop value (values.map .str ++ [.null]) (toArray rc) =
      .ok (toArray ((values.filter (!strcasecmp · value)).foldl listAdd rc)) := by
  induction values generalizing rc with
  | nil => rfl
  | cons i is ih =>
    rw [List.map_cons, List.cons_append, StrArray.removeLoop, List.filter_cons]
    by_cases h : strcasecmp i value = true
    · rw [if_pos h, if_neg (by rw [h]; decide)]
      exact ih rc
    · rw [if_neg h, if_pos (by rw [Bool.eq_false_iff.2 h]; rfl), listAdd_toArray, ok_bind,
        List.foldl_cons]
      exact ih (listAdd rc i)

theorem listRemove_toArray :
    (toArray values).listRemove value = .ok (toArray (listRemove values value)) := by
  by_cases h : values = []
  · rw [toArray, if_pos h, h]
    rfl
  · rw [toArray, if_neg h]
    exact removeLoop_values values value []

end ToArray

/-! ## Sets of values -/

/-- The values, ignoring case. -/
def folded (values : List CStr) : Finset CStr := (values.map foldCase).toFinset

/-- No value is there twice, ignoring case. -/
def NoTwice (values : List CStr) : Prop := (values.map foldCase).Nodup

section Sets

variable {values : List CStr} {value : CStr}

theorem mem_folded {w : CStr} : w ∈ folded values ↔ ∃ i ∈ values, foldCase i = w := by
  rw [folded, List.mem_toFinset, List.mem_map]

theorem listContains_iff : listContains values value = true ↔ foldCase value ∈ folded values := by
  rw [listContains, List.any_eq_true, mem_folded]
  exact exists_congr fun i => and_congr_right fun _ => strcasecmp_iff

theorem folded_eq_empty_iff : folded values = ∅ ↔ values = [] := by
  rw [folded, List.toFinset_eq_empty_iff, List.map_eq_nil_iff]

theorem folded_concat : folded (values ++ [value]) = insert (foldCase value) (folded values) := by
  ext w
  simp only [mem_folded, List.mem_append, List.mem_singleton, Finset.mem_insert, or_and_right,
    exists_or, exists_eq_left]
  rw [or_comm, eq_comm]

theorem folded_listAdd :
    folded (listAdd values value) = insert (foldCase value) (folded values) := by
  rw [listAdd]
  by_cases h : listContains values value = true
  · rw [if_pos h, Finset.insert_eq_of_mem (listContains_iff.1 h)]
  · rw [if_neg h, folded_concat]

theorem NoTwice.listAdd (h : NoTwice values) (value : CStr) : NoTwice (listAdd values value) := by
  rw [Irccd.listAdd]
  split
  · exact h
  · rename_i hnot
    rw [NoTwice, List.map_append, List.map_singleton]
    rw [listContains_iff, folded, List.mem_toFinset] at hnot
    rw [← List.concat_eq_append]
    exact List.Nodup.concat hnot h

theorem noTwice_foldl (h : NoTwice values) (vs : List CStr) :
    NoTwice (vs.foldl listAdd values) := by
  induction vs generalizing values with
  | nil => exact h
  | cons v vs ih => exact ih (h.listAdd v)

theorem mem_folded_foldl {vs : List CStr} {w : CStr} :
    w ∈ folded (vs.foldl listAdd values) ↔ w ∈ folded values ∨ w ∈ folded vs := by
  induction vs generalizing values with
  | nil => simp [folded]
  | cons v vs ih =>
    have hcons : w ∈ folded (v :: vs) ↔ w = foldCase v ∨ w ∈ folded vs := by
      simp only [mem_folded, List.mem_cons, exists_eq_or_imp]
      exact or_congr_left eq_comm
    rw [List.foldl_cons, ih, folded_listAdd, Finset.mem_insert, hcons, or_assoc, or_left_comm]

/-- Removing a value removes it from the set. -/
theorem folded_listRemove :
    folded (listRemove values value) = (folded values).erase (foldCase value) := by
  ext w
  rw [listRemove, mem_folded_foldl, Finset.mem_erase]
  simp only [mem_folded, List.mem_filter, Bool.not_eq_true', Bool.eq_false_iff, ne_eq,
    strcasecmp_iff]
  constructor
  · rintro (⟨i, hi, -⟩ | ⟨i, ⟨hi, hne⟩, rfl⟩)
    · cases hi
    · exact ⟨hne, i, hi, rfl⟩
  · rintro ⟨hne, i, hi, rfl⟩
    exact .inr ⟨i, ⟨hi, hne⟩, rfl⟩

theorem noTwice_listRemove : NoTwice (listRemove values value) :=
  @noTwice_foldl [] List.nodup_nil _

end Sets

/-! ## Rules -/

/-- `struct irc_rule` -/
structure RulePointers where
  action : IrcRuleAction
  servers : StrArray := none
  channels : StrArray := none
  origins : StrArray := none
  plugins : StrArray := none
  events : StrArray := none

namespace RulePointers

/-- `irc_rule_new` -/
def ircRuleNew (action : IrcRuleAction) : RulePointers := { action }

/-- The array of a criterion. -/
def get (rule : RulePointers) : RuleKey → StrArray
  | .server => rule.servers
  | .channel => rule.channels
  | .origin => rule.origins
  | .plugin => rule.plugins
  | .event => rule.events

/-- Store the array of a criterion. -/
def put (rule : RulePointers) (list : StrArray) : RuleKey → RulePointers
  | .server => { rule with servers := list }
  | .channel => { rule with channels := list }
  | .origin => { rule with origins := list }
  | .plugin => { rule with plugins := list }
  | .event => { rule with events := list }

/-- Store what a function gives for the array of a criterion. -/
def modify (rule : RulePointers) (f : StrArray → Except ArrayFault StrArray) (key : RuleKey) :
    Except ArrayFault RulePointers := do
  let list ← f (rule.get key)
  return rule.put list key

variable (rule : RulePointers) (value : CStr)

/-- `irc_rule_add_server` -/
def ircRuleAddServer := rule.modify (·.listAdd value) .server

/-- `irc_rule_remove_server` -/
def ircRuleRemoveServer := rule.modify (·.listRemove value) .server

/-- `irc_rule_add_channel` -/
def ircRuleAddChannel := rule.modify (·.listAdd value) .channel

/-- `irc_rule_remove_channel` -/
def ircRuleRemoveChannel := rule.modify (·.listRemove value) .channel

/-- `irc_rule_add_origin` -/
def ircRuleAddOrigin := rule.modify (·.listAdd value) .origin

/-- `irc_rule_remove_origin` -/
def ircRuleRemoveOrigin := rule.modify (·.listRemove value) .origin

/-- `irc_rule_add_plugin` -/
def ircRuleAddPlugin := rule.modify (·.listAdd value) .plugin

/-- `irc_rule_remove_plugin` -/
def ircRuleRemovePlugin := rule.modify (·.listRemove value) .plugin

/-- `irc_rule_add_event` -/
def ircRuleAddEvent := rule.modify (·.listAdd value) .event

/-- `irc_rule_remove_event` -/
def ircRuleRemoveEvent := rule.modify (·.listRemove value) .event

/-- `irc_rule_match` on values none of which is NULL. -/
def ircRuleMatch (server channel origin plugin event : CStr) : Except ArrayFault Bool := do
  if !(← rule.servers.listMatch server) then return false
  if !(← rule.channels.listMatch channel) then return false
  if !(← rule.origins.listMatch origin) then return false
  if !(← rule.plugins.listMatch plugin) then return false
  rule.events.listMatch event

/-- The `DL_FOREACH` loop of `irc_rule_matchlist`. -/
def matchlistLoop (server channel origin plugin event : CStr) :
    List RulePointers → Bool → Except ArrayFault Bool
  | [], result => .ok result
  | r :: rules, result => do
    if ← r.ircRuleMatch server channel origin plugin event then
      matchlistLoop server channel origin plugin event rules (r.action == .accept)
    else matchlistLoop server channel origin plugin event rules result

/-- `irc_rule_matchlist` -/
def ircRuleMatchlist (rules : List RulePointers) (server channel origin plugin event : CStr) :
    Except ArrayFault Bool :=
  matchlistLoop server channel origin plugin event rules true

end RulePointers

/-- A call of one of the `irc_rule_add_*` and `irc_rule_remove_*` functions. -/
inductive RuleCall
  | add (key : RuleKey) (value : CStr)
  | remove (key : RuleKey) (value : CStr)

namespace RuleCall

/-- What the call does to the rule. -/
def run (rule : RulePointers) : RuleCall → Except ArrayFault RulePointers
  | add .server value => rule.ircRuleAddServer value
  | add .channel value => rule.ircRuleAddChannel value
  | add .origin value => rule.ircRuleAddOrigin value
  | add .plugin value => rule.ircRuleAddPlugin value
  | add .event value => rule.ircRuleAddEvent value
  | remove .server value => rule.ircRuleRemoveServer value
  | remove .channel value => rule.ircRuleRemoveChannel value
  | remove .origin value => rule.ircRuleRemoveOrigin value
  | remove .plugin value => rule.ircRuleRemovePlugin value
  | remove .event value => rule.ircRuleRemoveEvent value

/-- What the call does to sets. -/
def onSets (sets : RuleKey → Finset CStr) : RuleCall → RuleKey → Finset CStr
  | add key value => Function.update sets key (insert (foldCase value) (sets key))
  | remove key value => Function.update sets key ((sets key).erase (foldCase value))

/-- The sets after some calls, which start with a new rule. -/
def setsAfter (calls : List RuleCall) : RuleKey → Finset CStr := calls.foldl onSets fun _ => ∅

end RuleCall

/-- The array holds the set: it is NULL, or its values end with a NULL and none is there twice. -/
def IsSet (list : StrArray) (set : Finset CStr) : Prop :=
  ∃ values, list = toArray values ∧ NoTwice values ∧ folded values = set

/-- The arrays of a rule hold the sets. -/
def RulePointers.Holds (rule : RulePointers) (sets : RuleKey → Finset CStr) : Prop :=
  ∀ key, IsSet (rule.get key) (sets key)

/-- Each set is empty, or the value is in it, ignoring case. -/
def MatchesSets (sets : RuleKey → Finset CStr) (server channel origin plugin event : CStr) : Prop :=
  (sets .server = ∅ ∨ foldCase server ∈ sets .server) ∧
    (sets .channel = ∅ ∨ foldCase channel ∈ sets .channel) ∧
    (sets .origin = ∅ ∨ foldCase origin ∈ sets .origin) ∧
    (sets .plugin = ∅ ∨ foldCase plugin ∈ sets .plugin) ∧
    (sets .event = ∅ ∨ foldCase event ∈ sets .event)

instance (sets : RuleKey → Finset CStr) (server channel origin plugin event : CStr) :
    Decidable (MatchesSets sets server channel origin plugin event) :=
  inferInstanceAs (Decidable (_ ∧ _))

section Rules

variable {list : StrArray} {set : Finset CStr} {rule : RulePointers}
  {sets : RuleKey → Finset CStr} {value : CStr}

theorem isSet_empty : IsSet none ∅ := ⟨[], rfl, List.nodup_nil, rfl⟩

theorem IsSet.listAdd (h : IsSet list set) (value : CStr) :
    ∃ list', list.listAdd value = .ok list' ∧ IsSet list' (insert (foldCase value) set) := by
  obtain ⟨values, rfl, htwice, rfl⟩ := h
  exact ⟨_, listAdd_toArray values value, _, rfl, htwice.listAdd value, folded_listAdd⟩

theorem IsSet.listRemove (h : IsSet list set) (value : CStr) :
    ∃ list', list.listRemove value = .ok list' ∧ IsSet list' (set.erase (foldCase value)) := by
  obtain ⟨values, rfl, -, rfl⟩ := h
  exact ⟨_, listRemove_toArray values value, _, rfl, noTwice_listRemove, folded_listRemove⟩

theorem IsSet.listMatch (h : IsSet list set) (value : CStr) :
    list.listMatch value = .ok (decide (set = ∅ ∨ foldCase value ∈ set)) := by
  obtain ⟨values, rfl, -, rfl⟩ := h
  rw [listMatch_toArray]
  congr 1
  rw [Bool.eq_iff_iff, Bool.or_eq_true, decide_eq_true_iff, decide_eq_true_iff,
    listContains_iff, folded_eq_empty_iff]

/-- One array changes, the others do not. -/
theorem RulePointers.get_put (list : StrArray) (key other : RuleKey) :
    (rule.put list key).get other = Function.update rule.get key list other := by
  cases key <;> cases other <;> rfl

theorem RulePointers.action_put (list : StrArray) (key : RuleKey) :
    (rule.put list key).action = rule.action := by
  cases key <;> rfl

theorem RulePointers.Holds.modify (h : rule.Holds sets) {f : StrArray → Except ArrayFault StrArray}
    {key : RuleKey} (hf : ∃ list, f (rule.get key) = .ok list ∧ IsSet list set) :
    ∃ rule', rule.modify f key = .ok rule' ∧ rule'.action = rule.action ∧
      rule'.Holds (Function.update sets key set) := by
  obtain ⟨list, hlist, hset⟩ := hf
  refine ⟨rule.put list key, by rw [RulePointers.modify, hlist]; rfl, action_put list key, ?_⟩
  intro other
  rw [get_put]
  by_cases hkey : other = key
  · subst hkey
    rw [Function.update_self, Function.update_self]
    exact hset
  · rw [Function.update_of_ne hkey, Function.update_of_ne hkey]
    exact h other

/-- A call changes the sets as it should. -/
theorem RulePointers.Holds.run (h : rule.Holds sets) (c : RuleCall) :
    ∃ rule', c.run rule = .ok rule' ∧ rule'.action = rule.action ∧ rule'.Holds (c.onSets sets) := by
  cases c with
  | add key value =>
    have hrun : (RuleCall.add key value).run rule = rule.modify (·.listAdd value) key := by
      cases key <;> rfl
    rw [hrun]
    exact h.modify ((h key).listAdd value)
  | remove key value =>
    have hrun : (RuleCall.remove key value).run rule = rule.modify (·.listRemove value) key := by
      cases key <;> rfl
    rw [hrun]
    exact h.modify ((h key).listRemove value)

/-- So do any calls. -/
theorem RulePointers.Holds.foldlM (h : rule.Holds sets) (calls : List RuleCall) :
    ∃ rule', calls.foldlM RuleCall.run rule = .ok rule' ∧ rule'.action = rule.action ∧
      rule'.Holds (calls.foldl RuleCall.onSets sets) := by
  induction calls generalizing rule sets with
  | nil => exact ⟨rule, rfl, rfl, h⟩
  | cons c calls ih =>
    obtain ⟨rule', hrun, haction, hholds⟩ := h.run c
    obtain ⟨rule'', hcalls, haction', hholds'⟩ := ih hholds
    refine ⟨rule'', ?_, haction'.trans haction, hholds'⟩
    rw [List.foldlM_cons, hrun, ok_bind, hcalls]

theorem holds_ircRuleNew (action : IrcRuleAction) :
    (RulePointers.ircRuleNew action).Holds fun _ => ∅ := by
  intro key
  cases key <;> exact isSet_empty

/-- `if (!p) return 0`, and another condition after it. -/
theorem ite_not_decide {P Q : Prop} [Decidable P] [Decidable Q] :
    (if (!decide P) = true then pure false else (.ok (decide Q) : Except ArrayFault Bool)) =
      .ok (decide (P ∧ Q)) := by
  by_cases hP : P
  · simp [hP]
  · have hand : ¬ (P ∧ Q) := fun h => hP h.1
    rw [decide_eq_false hP, decide_eq_false hand]
    rfl

/-- `irc_rule_match` on the sets. -/
theorem RulePointers.Holds.ircRuleMatch (h : rule.Holds sets)
    (server channel origin plugin event : CStr) :
    rule.ircRuleMatch server channel origin plugin event =
      .ok (decide (MatchesSets sets server channel origin plugin event)) := by
  have hserver := (h .server).listMatch server
  have hchannel := (h .channel).listMatch channel
  have horigin := (h .origin).listMatch origin
  have hplugin := (h .plugin).listMatch plugin
  have hevent := (h .event).listMatch event
  simp only [RulePointers.get] at hserver hchannel horigin hplugin hevent
  rw [RulePointers.ircRuleMatch, hserver, hchannel, horigin, hplugin, hevent]
  simp only [ok_bind, ite_not_decide]
  exact congrArg Except.ok (decide_eq_decide.2 Iff.rfl)

end Rules

/-- The arrays of a rule of lists. -/
def IrcRule.pointers (rule : IrcRule) : RulePointers where
  action := rule.action
  servers := toArray rule.servers
  channels := toArray rule.channels
  origins := toArray rule.origins
  plugins := toArray rule.plugins
  events := toArray rule.events

/-- What the call does to a rule of lists. -/
def RuleCall.onRule (rule : IrcRule) : RuleCall → IrcRule
  | add .server value => ircRuleAddServer rule value
  | add .channel value => ircRuleAddChannel rule value
  | add .origin value => ircRuleAddOrigin rule value
  | add .plugin value => ircRuleAddPlugin rule value
  | add .event value => ircRuleAddEvent rule value
  | remove .server value => ircRuleRemoveServer rule value
  | remove .channel value => ircRuleRemoveChannel rule value
  | remove .origin value => ircRuleRemoveOrigin rule value
  | remove .plugin value => ircRuleRemovePlugin rule value
  | remove .event value => ircRuleRemoveEvent rule value

/-- The calls on the arrays are those on the lists. -/
theorem run_pointers (rule : IrcRule) (c : RuleCall) :
    c.run rule.pointers = .ok (c.onRule rule).pointers := by
  cases c with
  | add key value =>
    cases key <;>
      exact congrArg (· >>= fun list => pure (rule.pointers.put list _)) (listAdd_toArray _ value)
  | remove key value =>
    cases key <;>
      exact congrArg (· >>= fun list => pure (rule.pointers.put list _))
        (listRemove_toArray _ value)

theorem listMatch_eq_toArray (values : List CStr) (value : CStr) :
    (toArray values).listMatch value = .ok (decide (Criterion values (some value))) := by
  rw [listMatch_toArray]
  congr 1
  rw [Bool.eq_iff_iff, Bool.or_eq_true, decide_eq_true_iff, decide_eq_true_iff, listContains_iff,
    mem_folded, Criterion]
  simp [eq_comm]

/-- `irc_rule_match` on the arrays is the one on the lists. -/
theorem ircRuleMatch_pointers (rule : IrcRule) (server channel origin plugin event : CStr) :
    rule.pointers.ircRuleMatch server channel origin plugin event =
      .ok (decide (rule.Matches (some server) (some channel) (some origin) (some plugin)
        (some event))) := by
  rw [RulePointers.ircRuleMatch]
  simp only [IrcRule.pointers, listMatch_eq_toArray, ok_bind, ite_not_decide]
  exact congrArg Except.ok (decide_eq_decide.2 Iff.rfl)

/-! ## Lists of rules -/

section Lists

variable {rule : RulePointers}

/-- The rule has been built by these calls. -/
def RulePointers.BuiltBy (rule : RulePointers) (calls : List RuleCall) : Prop :=
  ∃ action, calls.foldlM RuleCall.run (.ircRuleNew action) = .ok rule

theorem RulePointers.BuiltBy.holds {calls : List RuleCall} (h : rule.BuiltBy calls) :
    rule.Holds (RuleCall.setsAfter calls) := by
  obtain ⟨action, hrule⟩ := h
  obtain ⟨rule', hrule', -, hholds⟩ := (holds_ircRuleNew action).foldlM calls
  cases hrule'.symm.trans hrule
  exact hholds

variable {rules : List RulePointers} {server channel origin plugin event : CStr}

theorem matchlistLoop_of_not_match
    (h : ∀ r ∈ rules, r.ircRuleMatch server channel origin plugin event = .ok false)
    (result : Bool) :
    RulePointers.matchlistLoop server channel origin plugin event rules result = .ok result := by
  induction rules generalizing result with
  | nil => rfl
  | cons r rules ih =>
    obtain ⟨hr, hrest⟩ := List.forall_mem_cons.1 h
    rw [RulePointers.matchlistLoop, hr, ok_bind]
    exact ih hrest result

/-- The rules before one that matches do not matter. -/
theorem matchlistLoop_append {r : RulePointers} (hrules : ∀ q ∈ rules, ∃ calls, q.BuiltBy calls)
    (hr : r.ircRuleMatch server channel origin plugin event = .ok true)
    (behind : List RulePointers) (result : Bool) :
    RulePointers.matchlistLoop server channel origin plugin event (rules ++ r :: behind) result =
      RulePointers.matchlistLoop server channel origin plugin event behind
        (r.action == .accept) := by
  induction rules generalizing result with
  | nil =>
    rw [List.nil_append, RulePointers.matchlistLoop, hr, ok_bind]
    rfl
  | cons q rules ih =>
    obtain ⟨⟨calls, hq⟩, hrest⟩ := List.forall_mem_cons.1 hrules
    rw [List.cons_append, RulePointers.matchlistLoop, hq.holds.ircRuleMatch, ok_bind]
    split
    · exact ih hrest _
    · exact ih hrest _

end Lists

/-- After any calls the arrays of a rule hold the sets that the calls make, the rule matches values
by these sets, and of a list of rules the last one that matches decides. -/
theorem ircRule_semantics :
    (∀ action (calls : List RuleCall), ∃ rule,
      calls.foldlM RuleCall.run (.ircRuleNew action) = .ok rule ∧ rule.action = action ∧
        rule.Holds (RuleCall.setsAfter calls)) ∧
    (∀ (rule : RulePointers) calls, rule.BuiltBy calls →
      ∀ server channel origin plugin event,
        rule.ircRuleMatch server channel origin plugin event =
          .ok (decide (MatchesSets (RuleCall.setsAfter calls) server channel origin plugin
            event))) ∧
    (∀ rules : List RulePointers, (∀ r ∈ rules, ∃ calls, r.BuiltBy calls) →
      ∀ server channel origin plugin event,
        (∀ before r behind, rules = before ++ r :: behind →
          r.ircRuleMatch server channel origin plugin event = .ok true →
          (∀ q ∈ behind, q.ircRuleMatch server channel origin plugin event = .ok false) →
          RulePointers.ircRuleMatchlist rules server channel origin plugin event =
            .ok (r.action == .accept)) ∧
        ((∀ r ∈ rules, r.ircRuleMatch server channel origin plugin event = .ok false) →
          RulePointers.ircRuleMatchlist rules server channel origin plugin event = .ok true)) := by
  refine ⟨fun action calls => (holds_ircRuleNew action).foldlM calls,
    fun rule calls h => h.holds.ircRuleMatch, fun rules hrules server channel origin plugin event =>
      ⟨?_, fun hnone => matchlistLoop_of_not_match hnone true⟩⟩
  rintro before r behind rfl hr hbehind
  rw [RulePointers.ircRuleMatchlist,
    matchlistLoop_append (fun q hq => hrules q (List.mem_append_left _ hq)) hr]
  exact matchlistLoop_of_not_match hbehind _

/-- A rule for one server, the channel of which has been removed again, drops what it matches. -/
theorem ircRule_semantics_freenode :
    ∃ rule : RulePointers,
      rule.BuiltBy [.add .server (cstr "freenode"), .add .channel (cstr "#staff"),
        .remove .channel (cstr "#STAFF")] ∧
      rule.channels = none ∧
      RulePointers.ircRuleMatchlist [rule] (cstr "FreeNode") (cstr "#test") (cstr "a") [] [] =
        .ok false := by
  let rule : RulePointers := { action := .drop, servers := toArray [cstr "freenode"] }
  have hbuilt : rule.BuiltBy [.add .server (cstr "freenode"), .add .channel (cstr "#staff"),
      .remove .channel (cstr "#STAFF")] := ⟨.drop, rfl⟩
  have hmatch : rule.ircRuleMatch (cstr "FreeNode") (cstr "#test") (cstr "a") [] [] = .ok true := by
    decide
  refine ⟨rule, hbuilt, rfl, ?_⟩
  have hlists := ircRule_semantics.2.2 [rule] (List.forall_mem_singleton.2 ⟨_, hbuilt⟩)
  exact (hlists _ _ _ _ _).1 [] rule [] rfl hmatch nofun

end Irccd
