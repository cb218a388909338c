import Irccd.Peer.Edits
import Irccd.Peer.Moves

/-!
# Adding a rule (`cmd_rule_add`)

The loop of `cmd_rule_add` calls the function pointer `add` on every token. The index token does not
set it, and so adds the text of the index to the criterion of the token before, if there is one.

* `AddRequest`: an action and tokens, in any order;
* `ruleAddLoop_values`, `ruleAddLoop_index`: what the loop makes of the tokens;
* `invoke_ruleAdd_iff`: exactly when the rule that was asked for is added.
-/

namespace Irccd

namespace Daemon

/-! ## Requests -/

/-- A token of a request. The index comes with its text. -/
inductive AddToken
  | value (key : RuleKey) (value : CStr)
  | index (text : CStr) (n : ℕ)
  deriving DecidableEq

namespace AddToken

def text : AddToken → CStr
  | value key v => key.letter :: 61 :: v
  | index text _ => 105 :: 61 :: text

def isIndex : AddToken → Bool
  | value _ _ => false
  | index _ _ => true

/-- What a request may contain: values and numbers without spaces. A number may have a sign and
zeros before it, and may be of any size. -/
def Valid : AddToken → Prop
  | value _ v => v ≠ [] ∧ SP ∉ v
  | index text n => scanNumber text = some ((n : ℤ), []) ∧ SP ∉ text

/-- The value that the token gives to a criterion. -/
def valueFor (key : RuleKey) : AddToken → Option CStr
  | value k v => if k = key then some v else none
  | index _ _ => none

/-- The index that the token gives. -/
def place : AddToken → Option ℕ
  | value _ _ => none
  | index _ n => some n

end AddToken

/-- The word for an action. -/
def actionWord : IrcRuleAction → CStr
  | .accept => cstr "accept"
  | .drop => cstr "drop"

/-- `RULE-ADD` with an action and tokens in any order, of which at most one is an index. -/
structure AddRequest where
  action : IrcRuleAction
  tokens : List AddToken
  valid : ∀ t ∈ tokens, t.Valid
  index_once : tokens.countP AddToken.isIndex ≤ 1

/-- The values given for a criterion. -/
def given (ts : List AddToken) (key : RuleKey) : List CStr := ts.filterMap (·.valueFor key)

namespace AddRequest

/-- The line of the request. -/
def line (q : AddRequest) : CStr :=
  controlLine (cstr "RULE-ADD") (actionWord q.action :: q.tokens.map AddToken.text)

/-- The place that is asked for in a list of `n` rules. -/
def place (q : AddRequest) (n : ℕ) : ℕ :=
  match q.tokens.findSome? AddToken.place with
  | some i => min i n
  | none => n

end AddRequest

/-- The list has the values, where a value may stand for others that differ in case only. -/
def SameValues (list values : List CStr) : Prop :=
  (∀ v ∈ list, v ∈ values) ∧ ∀ v ∈ values, ∃ w ∈ list, strcasecmp w v

/-- The line asks for the rule: the words behind the action are the tokens of the request. -/
structure AddRequest.ReadFrom (q : AddRequest) (line : CStr) : Prop where
  firstWord : firstWord line = cstr "RULE-ADD"
  goesOn : scanEnds (cstr "RULE-ADD") line = false
  action : ruleAction (line.drop 9) = some q.action
  tokens : Irccd.tokens SP (skipWord (line.drop 9)) = q.tokens.map AddToken.text

/-- The reply is `OK`, and the rule that was asked for is at its place. -/
def AddsRule (d : Daemon) (q : AddRequest) (r : Response) : Prop :=
  r.out = [cstr "OK"] ∧ ∃ rule : IrcRule, rule.action = q.action ∧
    (∀ key : RuleKey, SameValues (key.values rule) (given q.tokens key)) ∧
    r.daemon = { d with rules := d.rules.insertIdx (q.place d.rules.length) rule }

/-- There is no index, or it is a number that is read, comes right behind a value, and its text is
among the values given for the same criterion. -/
def AddCond (q : AddRequest) : Prop :=
  ∀ before text (n : ℕ) after, q.tokens = before ++ .index text n :: after →
    LongLong n ∧ ∃ before' key v, before = before' ++ [.value key v] ∧ text ∈ given q.tokens key

/-! ## Criteria -/

section Criteria

variable {l xs values : List CStr} {v x : CStr}

theorem mem_of_mem_listAdd (h : v ∈ listAdd l x) : v ∈ l ∨ v = x := by
  unfold listAdd at h
  split at h
  · exact .inl h
  · simpa using h

theorem exists_mem_listAdd (h : v ∈ l ∨ v = x) : ∃ w ∈ listAdd l x, strcasecmp w v := by
  unfold listAdd
  by_cases hx : listContains l x = true
  · rw [if_pos hx]
    rcases h with h | rfl
    · exact ⟨v, h, by simp [strcasecmp]⟩
    · simpa [listContains] using hx
  · rw [if_neg hx]
    exact ⟨v, by simpa using h, by simp [strcasecmp]⟩

theorem mem_of_mem_foldl_listAdd (h : v ∈ xs.foldl listAdd l) : v ∈ l ∨ v ∈ xs := by
  induction xs generalizing l with
  | nil => exact .inl h
  | cons x xs ih =>
    rcases ih h with h | h
    · rcases mem_of_mem_listAdd h with h | rfl
      · exact .inl h
      · exact .inr List.mem_cons_self
    · exact .inr (List.mem_cons_of_mem x h)

theorem mem_foldl_listAdd (h : v ∈ l) : v ∈ xs.foldl listAdd l := by
  induction xs generalizing l with
  | nil => exact h
  | cons x xs ih =>
    refine ih ?_
    unfold listAdd
    split
    · exact h
    · exact List.mem_append_left [x] h

theorem exists_mem_foldl_listAdd (h : v ∈ xs) : ∃ w ∈ xs.foldl listAdd l, strcasecmp w v := by
  induction xs generalizing l with
  | nil => cases h
  | cons x xs ih =>
    rcases List.mem_cons.1 h with hv | h
    · obtain ⟨w, hw, hcase⟩ : ∃ w ∈ listAdd l x, strcasecmp w v := exists_mem_listAdd (.inr hv)
      have hmem : w ∈ xs.foldl listAdd (listAdd l x) := mem_foldl_listAdd hw
      exact ⟨w, hmem, hcase⟩
    · exact ih h

/-- Adding values one after the other gives a list of those values. -/
theorem sameValues_foldl (h : ∀ v, v ∈ xs ↔ v ∈ values) :
    SameValues (xs.foldl listAdd []) values := by
  refine ⟨fun v hv => ?_, fun v hv => exists_mem_foldl_listAdd ((h v).2 hv)⟩
  exact (h v).1 ((mem_of_mem_foldl_listAdd hv).resolve_left List.not_mem_nil)

theorem le_of_isdigit {b : UInt8} (h : isdigit b = true) : b ≤ 57 := by
  simp only [isdigit, Bool.and_eq_true, decide_eq_true_eq] at h
  exact h.2

theorem le_of_isspace {b : UInt8} (h : isspace b = true) : b ≤ 57 := by
  simp only [isspace, SP, Bool.or_eq_true, Bool.and_eq_true, beq_iff_eq, decide_eq_true_eq] at h
  rcases h with rfl | ⟨-, h⟩
  · decide
  · exact UInt8.le_trans h (by decide)

/-- When nothing is left behind the digits, there is nothing else. -/
theorem le_of_mem_digits {t : CStr} (h : t.drop (t.takeWhile isdigit).length = []) :
    ∀ b ∈ t, b ≤ 57 := by
  have hall : t.takeWhile isdigit = t :=
    (List.takeWhile_prefix isdigit).eq_of_length_le (List.drop_eq_nil_iff.1 h)
  intro b hb
  rw [← hall] at hb
  exact le_of_isdigit (List.mem_takeWhile_imp hb)

/-- The text of a number has no letter. -/
theorem le_of_mem_number {text : CStr} {n : ℤ} (h : scanNumber text = some (n, [])) :
    ∀ b ∈ text, b ≤ 57 := by
  have hrest : ∀ b ∈ text.dropWhile isspace, b ≤ 57 := by
    unfold scanNumber at h
    generalize text.dropWhile isspace = s at h ⊢
    have hend : ∀ {sign : ℤ} {t : CStr}, (if t.takeWhile isdigit = [] then none
        else some (sign * digitsValue (t.takeWhile isdigit), t.drop (t.takeWhile isdigit).length)) =
          some (n, []) → ∀ b ∈ t, b ≤ 57 := fun {sign t} h => by
      split at h
      · cases h
      · exact le_of_mem_digits (Prod.mk.inj (Option.some.inj h)).2
    -- the sign comes first
    split at h
    rename_i sign t hsign
    split at hsign
    · cases hsign
      exact List.forall_mem_cons.2 ⟨by decide, hend h⟩
    · cases hsign
      exact List.forall_mem_cons.2 ⟨by decide, hend h⟩
    · cases hsign
      exact hend h
  intro b hb
  rw [← @List.takeWhile_append_dropWhile _ isspace text] at hb
  rcases List.mem_append.1 hb with hb | hb
  · exact le_of_isspace (List.mem_takeWhile_imp hb)
  · exact hrest b hb

theorem eq_of_tolower_eq {b c : UInt8} (hb : b ≤ 57) (h : tolower c = tolower b) : c = b := by
  have hupper : ¬ (65 ≤ b ∧ b ≤ 90) := fun h => absurd (UInt8.le_trans h.1 hb) (by decide)
  rw [tolower, tolower, if_neg hupper] at h
  split at h
  · rename_i hc
    -- a letter in lower case is not a sign or a digit
    have hnat := congrArg UInt8.toNat h
    simp only [UInt8.le_iff_toNat_le, UInt8.toNat_add, UInt8.reduceToNat] at hc hb hnat
    omega
  · exact h

/-- Only letters have a case. -/
theorem eq_of_strcasecmp {text : CStr} (htext : ∀ b ∈ text, b ≤ 57) (h : strcasecmp v text) :
    v = text := by
  have hfold : foldCase v = foldCase text := by simpa [strcasecmp] using h
  clear h
  induction text generalizing v with
  | nil => simpa [foldCase] using hfold
  | cons b text ih =>
    obtain ⟨hb, htext⟩ := List.forall_mem_cons.1 htext
    cases v with
    | nil => simp [foldCase] at hfold
    | cons c v =>
      obtain ⟨hhead, htail⟩ := List.cons.inj hfold
      rw [ih htext htail, eq_of_tolower_eq hb hhead]

end Criteria

/-! ## The loop -/

/-- What a token leaves in `add`: the function of its criterion. -/
def setFn (add : AddFn) : AddToken → AddFn
  | .value key _ => .fn fun rule value => key.modify (listAdd · value) rule
  | .index _ _ => add

/-- The rule with the values of the tokens. -/
def withValues (ts : List AddToken) (rule : IrcRule) : IrcRule :=
  ts.foldl (fun rule t =>
    match t with
    | .value key v => key.modify (listAdd · v) rule
    | .index _ _ => rule) rule

section Loop

variable {add : AddFn} {rule : IrcRule} {index : ℤ} {ts : List AddToken} {rest : List CStr}

theorem withValues_append (ts ts' : List AddToken) (rule : IrcRule) :
    withValues (ts ++ ts') rule = withValues ts' (withValues ts rule) := List.foldl_append

theorem values_withValues (ts : List AddToken) (rule : IrcRule) (key : RuleKey) :
    key.values (withValues ts rule) = (given ts key).foldl listAdd (key.values rule) := by
  induction ts generalizing rule with
  | nil => rfl
  | cons t ts ih =>
    cases t with
    | index text n => exact ih rule
    | value k v =>
      have hvalues := RuleKey.values_modify (listAdd · v) rule k key
      rw [withValues, List.foldl_cons, ← withValues, ih, hvalues]
      by_cases hk : k = key
      · simp [given, AddToken.valueFor, hk]
      · simp [given, AddToken.valueFor, hk, Ne.symm hk]

@[simp] theorem withValues_action (ts : List AddToken) (rule : IrcRule) :
    (withValues ts rule).action = rule.action := by
  induction ts generalizing rule with
  | nil => rfl
  | cons t ts ih =>
    cases t with
    | index text n => exact ih rule
    | value k v => exact (ih _).trans (RuleKey.modify_action _ rule k)

/-- A value is added to its criterion. -/
theorem ruleAddLoop_value (key : RuleKey) (v : CStr) :
    ruleAddLoop add rule index ((AddToken.value key v).text :: rest) =
      ruleAddLoop (setFn add (.value key v)) (key.modify (listAdd · v) rule) index rest := by
  have hletter : key.letter ≠ 105 := by cases key <;> decide
  have hfn := ruleAddFn_eq key.letter
  rw [RuleKey.ofLetter_letter, Option.map_some] at hfn
  rw [AddToken.text, ruleAddLoop, ruleAddToken, if_neg hletter, hfn]
  rfl

/-- The text of an index is added to the criterion of the token before. -/
theorem ruleAddLoop_index {text : CStr} {n : ℕ} (hnumber : scanNumber text = some ((n : ℤ), [])) :
    ruleAddLoop add rule index ((AddToken.index text n).text :: rest) =
      if LongLong n then
        add.call rule (AddToken.index text n).text >>= fun rule => ruleAddLoop add rule n rest
      else .ok (.error .erange) := by
  have hadvance : advance (105 :: 61 :: text) 2 = .ok text := by simp [advance]
  rw [AddToken.text, ruleAddLoop, ruleAddToken, if_pos rfl, hadvance, ok_bind, ircUtilStoi, hnumber]
  dsimp only
  split <;> rfl

/-- The loop on values. -/
theorem ruleAddLoop_values (h : ∀ t ∈ ts, t.isIndex = false) :
    ruleAddLoop add rule index (ts.map AddToken.text ++ rest) =
      ruleAddLoop (ts.foldl setFn add) (withValues ts rule) index rest := by
  induction ts generalizing add rule with
  | nil => rfl
  | cons t ts ih =>
    obtain ⟨ht, hts⟩ := List.forall_mem_cons.1 h
    cases t with
    | index text n => cases ht
    | value key v =>
      rw [List.map_cons, List.cons_append, ruleAddLoop_value, ih hts]
      rfl

/-- The loop on values only. -/
theorem ruleAddLoop_only (h : ∀ t ∈ ts, t.isIndex = false) :
    ruleAddLoop add rule index (ts.map AddToken.text) = .ok (.ok (withValues ts rule, index)) := by
  rw [← List.append_nil (ts.map AddToken.text), ruleAddLoop_values h]
  rfl

/-- The loop on values with an index between them. -/
theorem ruleAddLoop_between {before after : List AddToken} {text : CStr} {n : ℕ}
    (hbefore : ∀ t ∈ before, t.isIndex = false) (hafter : ∀ t ∈ after, t.isIndex = false)
    (hnumber : scanNumber text = some ((n : ℤ), [])) :
    ruleAddLoop add rule index ((before ++ .index text n :: after).map AddToken.text) =
      if LongLong n then
        (before.foldl setFn add).call (withValues before rule) (AddToken.index text n).text >>=
          fun rule => .ok (.ok (withValues after rule, n))
      else .ok (.error .erange) := by
  rw [List.map_append, List.map_cons, ruleAddLoop_values hbefore, ruleAddLoop_index hnumber]
  simp only [ruleAddLoop_only hafter]

end Loop

/-! ## The handler -/

section Handler

variable {d : Daemon} {q : AddRequest} {line : CStr}

/-- A request has no index, or one. -/
theorem AddRequest.cases (q : AddRequest) :
    (∀ t ∈ q.tokens, t.isIndex = false) ∨
      ∃ before text n after, q.tokens = before ++ .index text n :: after ∧
        (∀ t ∈ before, t.isIndex = false) ∧ ∀ t ∈ after, t.isIndex = false := by
  by_cases hall : ∀ t ∈ q.tokens, t.isIndex = false
  · exact .inl hall
  · obtain ⟨t, ht, hindex⟩ : ∃ t ∈ q.tokens, t.isIndex = true := by simpa using hall
    obtain ⟨before, after, htokens⟩ := List.append_of_mem ht
    have honce := q.index_once
    rw [htokens, List.countP_append, List.countP_cons_of_pos hindex] at honce
    -- nothing is left for the tokens around it
    have hbefore : before.countP AddToken.isIndex = 0 := by omega
    have hafter : after.countP AddToken.isIndex = 0 := by omega
    rw [List.countP_eq_zero] at hbefore hafter
    cases t with
    | value key v => cases hindex
    | index text n =>
      exact .inr ⟨before, text, n, after, htokens, by simpa using hbefore, by simpa using hafter⟩

theorem AddToken.Valid.text_ne {t : AddToken} (h : t.Valid) : t.text ≠ [] ∧ SP ∉ t.text := by
  cases t with
  | value key v =>
    have hletter : SP ≠ key.letter := by cases key <;> decide
    refine ⟨by simp [AddToken.text], ?_⟩
    simpa [AddToken.text, hletter] using ⟨by decide, h.2⟩
  | index text n =>
    refine ⟨by simp [AddToken.text], ?_⟩
    simpa [AddToken.text] using ⟨by decide, by decide, h.2⟩

theorem AddRequest.drop_line (q : AddRequest) :
    q.line.drop 9 = actionWord q.action ++ spaced (q.tokens.map AddToken.text) := rfl

/-- The tokens of the line are those of the request. -/
theorem tokens_line (q : AddRequest) :
    tokens SP (skipWord (q.line.drop 9)) = q.tokens.map AddToken.text := by
  rw [q.drop_line]
  have haction : (actionWord q.action).all (!isspace ·) = true := by cases q.action <;> decide
  refine tokens_skipWord (not_isspace_of_all haction) (fun w hw => ?_) fun w hw b hb => ?_
  · obtain ⟨t, ht, rfl⟩ := List.mem_map.1 hw
    exact (q.valid t ht).text_ne
  · obtain ⟨t, -, rfl⟩ := List.mem_map.1 (List.mem_of_mem_head? hw)
    cases t with
    | value key v =>
      obtain rfl : key.letter = b := Option.some.inj hb
      cases key <;> decide
    | index text n =>
      obtain rfl : 105 = b := Option.some.inj hb
      decide

theorem AddRequest.firstWord_line (q : AddRequest) : firstWord q.line = cstr "RULE-ADD" :=
  firstWord_controlLine (not_isspace_of_all (by decide)) (by decide) (by decide)

theorem readFrom_line (q : AddRequest) : q.ReadFrom q.line := by
  refine ⟨q.firstWord_line, ?_, ?_, tokens_line q⟩
  · rw [AddRequest.line]
    cases q.action <;> rfl
  · rw [q.drop_line]
    cases q.action <;> rfl

/-- The handler on a line with an action. -/
theorem cmdRuleAdd_of_action {act : IrcRuleAction} (d : Daemon)
    (hfirst : firstWord line = cstr "RULE-ADD") (hends : scanEnds (cstr "RULE-ADD") line = false)
    (haction : ruleAction (line.drop 9) = some act) :
    d.cmdRuleAdd line =
      ruleAddLoop .uninit (ircRuleNew act) (-1) (Irccd.tokens SP (skipWord (line.drop 9))) >>=
        fun result =>
          match result with
          | .ok (rule, index) => .ok (d.ircBotRuleInsert rule index).ok
          | .error er => .ok (d.error (strerror er)) := by
  rw [cmdRuleAdd, hends, if_neg (by decide), advance_of_le (length_of_ruleAdd hfirst hends),
    ok_bind, haction]
  rfl

/-- The handler on the line of a request. -/
theorem cmdRuleAdd_eq (d : Daemon) (hq : q.ReadFrom line) :
    d.cmdRuleAdd line =
      ruleAddLoop .uninit (ircRuleNew q.action) (-1) (q.tokens.map AddToken.text) >>= fun result =>
        match result with
        | .ok (rule, index) => .ok (d.ircBotRuleInsert rule index).ok
        | .error er => .ok (d.error (strerror er)) := by
  rw [cmdRuleAdd_of_action d hq.firstWord hq.goesOn hq.action, hq.tokens]

theorem ircBotRuleInsert_of_longLong {rule : IrcRule} {n : ℕ} (hn : LongLong n) :
    d.ircBotRuleInsert rule n =
      { d with rules := d.rules.insertIdx (min n d.rules.length) rule } := by
  have hindex : (BitVec.ofInt 64 n).toNat = n := by
    have hmax := hn.2
    rw [BitVec.toNat_ofInt]
    omega
  rw [ircBotRuleInsert, hindex, insertIdx_eq_take_append (Nat.min_le_right _ _)]
  -- what is behind the end of the list makes no difference
  rcases Nat.le_total n d.rules.length with hle | hle
  · rw [Nat.min_eq_left hle]
  · rw [Nat.min_eq_right hle, List.take_of_length_le hle, List.drop_of_length_le hle]
    simp

/-- Without an index the rule goes to the end of the list, whose length is a `size_t`. -/
theorem ircBotRuleInsert_neg_one {rule : IrcRule} (hsize : d.rules.length < 2 ^ 64) :
    d.ircBotRuleInsert rule (-1) =
      { d with rules := d.rules.insertIdx d.rules.length rule } := by
  have hindex : (BitVec.ofInt 64 (-1)).toNat = 2 ^ 64 - 1 := by decide
  have hle : d.rules.length ≤ 2 ^ 64 - 1 := by omega
  rw [ircBotRuleInsert, hindex, List.insertIdx_length_self, List.take_of_length_le hle,
    List.drop_of_length_le hle]

theorem AddRequest.place_le (q : AddRequest) (n : ℕ) : q.place n ≤ n := by
  unfold AddRequest.place
  split
  · exact Nat.min_le_right _ _
  · exact le_rfl

/-- The reply when the loop ends well. -/
theorem exists_addsRule_iff {rule : IrcRule} {index : ℤ} (hq : q.ReadFrom line)
    (hloop : ruleAddLoop .uninit (ircRuleNew q.action) (-1) (q.tokens.map AddToken.text) =
      .ok (.ok (rule, index)))
    (hinsert : d.ircBotRuleInsert rule index =
      { d with rules := d.rules.insertIdx (q.place d.rules.length) rule }) :
    (∃ r, d.cmdRuleAdd line = .ok r ∧ d.AddsRule q r) ↔
      rule.action = q.action ∧
        ∀ key : RuleKey, SameValues (key.values rule) (given q.tokens key) := by
  rw [cmdRuleAdd_eq d hq, hloop, ok_bind]
  refine ⟨?_, fun ⟨haction, hvalues⟩ => ⟨_, rfl, rfl, rule, haction, hvalues, hinsert⟩⟩
  rintro ⟨_, ⟨⟩, -, rule', haction, hvalues, hdaemon⟩
  -- the rule at the place is the one that was inserted
  have hrules : d.rules.insertIdx (q.place d.rules.length) rule =
      d.rules.insertIdx (q.place d.rules.length) rule' := by
    rw [hinsert] at hdaemon
    exact congrArg Daemon.rules hdaemon
  have hget := congrArg (·[q.place d.rules.length]?) hrules
  simp only [List.getElem?_insertIdx_self, if_pos (q.place_le d.rules.length)] at hget
  rw [Option.some.inj hget]
  exact ⟨haction, hvalues⟩

/-- The text of a code is not cut. -/
theorem error_strerror (d : Daemon) (er : CmdErrno) :
    d.error (strerror er) = d.push (cstr "ERROR " ++ strerror er) := by
  cases er <;> rfl

/-- The reply when it does not. -/
theorem not_addsRule_of_error {er : CmdErrno} (hq : q.ReadFrom line)
    (hloop : ruleAddLoop .uninit (ircRuleNew q.action) (-1) (q.tokens.map AddToken.text) =
      .ok (.error er)) : ¬ ∃ r, d.cmdRuleAdd line = .ok r ∧ d.AddsRule q r := by
  rw [cmdRuleAdd_eq d hq, hloop, ok_bind]
  dsimp only
  rw [error_strerror]
  rintro ⟨_, ⟨⟩, hout, -⟩
  exact absurd (List.cons.inj hout).1 (by cases er <;> decide)

theorem not_addsRule_of_fault {e : Fault} (hq : q.ReadFrom line)
    (hloop : ruleAddLoop .uninit (ircRuleNew q.action) (-1) (q.tokens.map AddToken.text) =
      .error e) : ¬ ∃ r, d.cmdRuleAdd line = .ok r ∧ d.AddsRule q r := by
  rw [cmdRuleAdd_eq d hq, hloop, error_bind]
  simp

/-- Without an index the rule is the one that was asked for. -/
theorem addsRule_of_no_index (hq : q.ReadFrom line) (hno : ∀ t ∈ q.tokens, t.isIndex = false)
    (hsize : d.rules.length < 2 ^ 64) : ∃ r, d.cmdRuleAdd line = .ok r ∧ d.AddsRule q r := by
  have hplace : q.place d.rules.length = d.rules.length := by
    have hnone : q.tokens.findSome? AddToken.place = none := by
      refine List.findSome?_eq_none_iff.2 fun t ht => ?_
      cases t with
      | value key v => rfl
      | index text n => cases hno _ ht
    rw [AddRequest.place, hnone]
  refine (exists_addsRule_iff hq (ruleAddLoop_only hno) ?_).2
    ⟨by simp [ircRuleNew], fun key => ?_⟩
  · rw [hplace, ircBotRuleInsert_neg_one hsize]
  · have hempty : key.values (ircRuleNew q.action) = [] := by cases key <;> rfl
    rw [values_withValues, hempty]
    exact sameValues_foldl fun v => Iff.rfl

section Index

variable {before after : List AddToken} {text : CStr} {n : ℕ}

theorem place_of_index (htokens : q.tokens = before ++ .index text n :: after)
    (hbefore : ∀ t ∈ before, t.isIndex = false) (k : ℕ) : q.place k = min n k := by
  have hnone : before.findSome? AddToken.place = none := by
    refine List.findSome?_eq_none_iff.2 fun t ht => ?_
    cases t with
    | value key v => rfl
    | index text n => cases hbefore _ ht
  rw [AddRequest.place, htokens, List.findSome?_append, hnone]
  rfl

/-- A list is cut in one way only at its index. -/
theorem eq_of_index {before' after' : List AddToken} {text' : CStr} {m : ℕ}
    (hbefore : ∀ t ∈ before, t.isIndex = false) (hafter : ∀ t ∈ after, t.isIndex = false)
    (h : before ++ .index text n :: after = before' ++ .index text' m :: after') :
    before = before' ∧ text = text' ∧ n = m := by
  rcases List.append_eq_append_iff.1 h with ⟨c, rfl, hc⟩ | ⟨c, rfl, hc⟩
  · cases c with
    | nil =>
      obtain ⟨htext, -⟩ := List.cons.inj hc
      cases htext
      exact ⟨by simp, rfl, rfl⟩
    | cons t c =>
      -- the other index would come after this one
      have hmem : AddToken.index text' m ∈ after := by
        rw [(List.cons.inj hc).2]
        simp
      cases hafter _ hmem
  · cases c with
    | nil =>
      obtain ⟨htext, -⟩ := List.cons.inj hc
      cases htext
      exact ⟨by simp, rfl, rfl⟩
    | cons t c =>
      obtain ⟨rfl, -⟩ := List.cons.inj hc
      cases hbefore (.index text' m) (by simp)

theorem addCond_iff_of_index (htokens : q.tokens = before ++ .index text n :: after)
    (hbefore : ∀ t ∈ before, t.isIndex = false) (hafter : ∀ t ∈ after, t.isIndex = false) :
    AddCond q ↔ LongLong n ∧ ∃ before' key v, before = before' ++ [.value key v] ∧
      text ∈ given q.tokens key := by
  refine ⟨fun h => h before text n after htokens, fun h => ?_⟩
  intro before' text' m after' htokens'
  obtain ⟨rfl, rfl, rfl⟩ := eq_of_index hbefore hafter (htokens.symm.trans htokens')
  exact h

theorem given_index (key : RuleKey) :
    given (before ++ .index text n :: after) key = given before key ++ given after key := by
  simp [given, AddToken.valueFor]

theorem given_value (key k : RuleKey) :
    given (before ++ .value k text :: after) key =
      given before key ++ (if k = key then [text] else []) ++ given after key := by
  by_cases hk : k = key
  · simp [given, AddToken.valueFor, hk]
  · simp [given, AddToken.valueFor, hk]

/-- Behind a value the index gives the rule its text as another value. -/
theorem addsRule_iff_of_value {key : RuleKey} {v : CStr} (hq : q.ReadFrom line)
    (htokens : q.tokens = before ++ [.value key v] ++ .index text n :: after)
    (hbefore : ∀ t ∈ before ++ [.value key v], t.isIndex = false)
    (hafter : ∀ t ∈ after, t.isIndex = false) (hlong : LongLong n) :
    (∃ r, d.cmdRuleAdd line = .ok r ∧ d.AddsRule q r) ↔ text ∈ given q.tokens key := by
  have hvalid : (AddToken.index text n).Valid := q.valid _ (htokens ▸ by simp)
  have hloop : ruleAddLoop .uninit (ircRuleNew q.action) (-1) (q.tokens.map AddToken.text) =
      .ok (.ok (withValues (before ++ [.value key v] ++ .value key text :: after)
        (ircRuleNew q.action), n)) := by
    have hadvance : advance (AddToken.index text n).text 2 = .ok text := by
      simp [AddToken.text, advance]
    rw [htokens, ruleAddLoop_between hbefore hafter hvalid.1, if_pos hlong, List.foldl_append]
    simp only [List.foldl_cons, List.foldl_nil, setFn, AddFn.call, hadvance]
    rw [withValues_append _ (.value key text :: after)]
    rfl
  have hempty : ∀ k : RuleKey, k.values (ircRuleNew q.action) = [] := fun k => by cases k <;> rfl
  rw [exists_addsRule_iff hq hloop (by
    rw [place_of_index htokens hbefore, ircBotRuleInsert_of_longLong hlong]),
    and_iff_right (by simp [ircRuleNew])]
  simp only [values_withValues, hempty, htokens]
  generalize before ++ [AddToken.value key v] = values
  simp only [given_index, given_value]
  refine ⟨fun h => ?_, fun h k => sameValues_foldl fun w => ?_⟩
  · -- the text is on the list, and so among the values
    obtain ⟨hlist, -⟩ := h key
    have htext : text ∈ given values key ++ (if key = key then [text] else []) ++
        given after key := by simp
    obtain ⟨w, hw, hcase⟩ := @exists_mem_foldl_listAdd [] _ _ htext
    obtain rfl := eq_of_strcasecmp (le_of_mem_number hvalid.1) hcase
    exact hlist w hw
  · by_cases hk : key = k
    · subst hk
      simp only [List.mem_append, if_pos] at h ⊢
      grind
    · simp [hk]

end Index

/-- The handler adds the rule that was asked for if and only if the condition holds. -/
theorem cmdRuleAdd_addsRule_iff (hq : q.ReadFrom line) (hsize : d.rules.length < 2 ^ 64) :
    (∃ r, d.cmdRuleAdd line = .ok r ∧ d.AddsRule q r) ↔ AddCond q := by
  rcases q.cases with hno | ⟨before, text, n, after, htokens, hbefore, hafter⟩
  · refine iff_of_true (addsRule_of_no_index hq hno hsize) fun before text n after htokens => ?_
    cases hno (.index text n) (htokens ▸ by simp)
  · rw [addCond_iff_of_index htokens hbefore hafter]
    have hvalid : (AddToken.index text n).Valid := q.valid _ (htokens ▸ by simp)
    have hloop := @ruleAddLoop_between .uninit (ircRuleNew q.action) (-1) before after text n
      hbefore hafter hvalid.1
    by_cases hlong : LongLong n
    · rcases List.eq_nil_or_concat' before with rfl | ⟨before, t, rfl⟩
      · -- the pointer is not set
        rw [if_pos hlong, ← htokens] at hloop
        refine iff_of_false (not_addsRule_of_fault hq hloop) ?_
        rintro ⟨-, before', key, v, hnil, -⟩
        simp at hnil
      · cases t with
        | index text' m => cases hbefore (.index text' m) (by simp)
        | value key v =>
          rw [addsRule_iff_of_value hq htokens hbefore hafter hlong]
          refine ⟨fun h => ⟨hlong, before, key, v, rfl, h⟩, ?_⟩
          rintro ⟨-, before', key', v', hlast, h⟩
          cases (List.append_inj' hlast rfl).2
          exact h
    · rw [if_neg hlong, ← htokens] at hloop
      exact iff_of_false (not_addsRule_of_error hq hloop) fun h => hlong h.1

/-- The handler answers by itself, and so does `invoke`. -/
theorem invoke_ruleAdd_eq (env : PeerEnv) (d : Daemon) (q : AddRequest) :
    invoke env d q.line = d.cmdRuleAdd q.line := by
  have hentry : (cstr "RULE-ADD", fun _ => cmdRuleAdd) ∈ cmds := by simp [cmds]
  rw [invoke, find_eq_some hentry q.firstWord_line]
  dsimp only
  rw [cmdRuleAdd_eq d (readFrom_line q)]
  rcases ruleAddLoop .uninit (ircRuleNew q.action) (-1) (q.tokens.map AddToken.text) with
    e | (er | result)
  · rfl
  · cases er <;> rfl
  · rfl

/-- The rule that was asked for is added if and only if the condition holds. The length of the list
is a `size_t`. -/
theorem invoke_ruleAdd_iff (env : PeerEnv) (d : Daemon) (q : AddRequest)
    (hsize : d.rules.length < 2 ^ 64) :
    (∃ r, invoke env d q.line = .ok r ∧ d.AddsRule q r) ↔ AddCond q := by
  rw [invoke_ruleAdd_eq]
  exact cmdRuleAdd_addsRule_iff (readFrom_line q) hsize

/-- `RULE-ADD drop p=hangman c=#games` -/
def dropRequest : AddRequest where
  action := .drop
  tokens := [.value .plugin (cstr "hangman"), .value .channel (cstr "#games")]
  valid := by
    refine List.forall_mem_cons.2 ⟨?_, List.forall_mem_cons.2 ⟨?_, by simp⟩⟩
    · exact ⟨by decide, by decide⟩
    · exact ⟨by decide, by decide⟩
  index_once := by decide

theorem addsRule_dropRequest :
    ∃ r, invoke quietEnv acceptAll dropRequest.line = .ok r ∧
      acceptAll.AddsRule dropRequest r := by
  refine (invoke_ruleAdd_iff quietEnv acceptAll dropRequest (by decide)).2 ?_
  intro before text n after htokens
  have hmem : AddToken.index text n ∈ dropRequest.tokens := htokens ▸ by simp
  simp [dropRequest] at hmem

/-- `RULE-ADD drop c=#games i=0` -/
def dropFirstRequest : AddRequest where
  action := .drop
  tokens := [.value .channel (cstr "#games"), .index (cstr "0") 0]
  valid := by
    refine List.forall_mem_cons.2 ⟨?_, List.forall_mem_cons.2 ⟨?_, by simp⟩⟩
    · exact ⟨by decide, by decide⟩
    · exact ⟨by decide, by decide⟩
  index_once := by decide

/-- The rule is for the channels `#games` and `0`. -/
theorem not_forall_addsRule :
    ¬ ∀ (env : PeerEnv) (d : Daemon) (q : AddRequest), d.rules.length < 2 ^ 64 →
      ∃ r, invoke env d q.line = .ok r ∧ d.AddsRule q r := by
  intro h
  have hadds := h quietEnv acceptAll dropFirstRequest (by decide)
  rw [invoke_ruleAdd_eq] at hadds
  have hmem := (@addsRule_iff_of_value acceptAll dropFirstRequest _ [] [] (cstr "0") 0 .channel
    (cstr "#games") (readFrom_line _) rfl (by decide) (by decide) (by decide)).1 hadds
  exact absurd hmem (by decide)

end Handler

end Daemon

end Irccd
