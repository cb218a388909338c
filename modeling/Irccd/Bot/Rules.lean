import Irccd.Bot.Basic

/-!
# Rules and events

What the rules have to say about the delivery of an event.

* `ircBotDispatch_message`: the calls made for a message;
* `rulesGovern_iff`: the rules for `onCommand` and `onMessage` decide as they should exactly when
  the plugin a message addresses is judged alike by both. `irc_bot_dispatch` asks `invokable`
  before it converts the event, so a command is judged by the rules for `onMessage`;
* `invokable_iff`: the rules have a verdict for an event without channel or origin exactly when
  no rule gets to compare them.
-/

namespace Irccd

/-! ## Messages and commands -/

section Messages

variable (rules : List IrcRule) (server : IrcServer) (m : IrcEventMessage)

/-- `irc_rule_matchlist` on a message sent to the plugin, under the name of an event. -/
def judge (p : IrcPlugin) (event : CStr) : Except Fault Bool :=
  ircRuleMatchlist rules (some server.name) (some m.channel) (some m.origin) (some p.name)
    (some event)

/-- The verdict of the rules on a message sent to the plugin, under the name of an event. -/
def judgement (p : IrcPlugin) (event : CStr) : Bool :=
  verdict rules (some server.name) (some m.channel) (some m.origin) (some p.name) (some event)

/-- The plugin that the message is a command for: the last one that it addresses. -/
def routedPlugin (plugins : List IrcPlugin) : Option IrcPlugin :=
  (plugins.filter (isCommand server · (.message m))).getLast?

variable {rules server m}

theorem judge_eq (p : IrcPlugin) (event : CStr) :
    judge rules server m p event = .ok (judgement rules server m p event) :=
  ircRuleMatchlist_some _ _ _ _ _ _

theorem invokable_message (p : IrcPlugin) :
    invokable rules server p (.message m) = .ok (judgement rules server m p (cstr "onMessage")) :=
  judge_eq p (cstr "onMessage")

theorem routedPlugin_cons (p : IrcPlugin) (ps : List IrcPlugin) (plgcmd : Option IrcPlugin) :
    (routedPlugin server m (p :: ps)).or plgcmd =
      (routedPlugin server m ps).or
        (if isCommand server p (.message m) then some p else plgcmd) := by
  unfold routedPlugin
  by_cases hcmd : isCommand server p (.message m)
  · rw [List.filter_cons, if_pos hcmd, if_pos hcmd, List.getLast?_cons]
    cases (ps.filter (isCommand server · (.message m))).getLast? <;> rfl
  · rw [List.filter_cons, if_neg hcmd, if_neg hcmd]

/-- A message goes to the plugins it does not address, if the rules for `onMessage` accept. -/
theorem dispatchLoop_message (plugins : List IrcPlugin) (plgcmd : Option IrcPlugin) :
    dispatchLoop rules server (.message m) plugins plgcmd =
      .ok ((plugins.filter fun p => !isCommand server p (.message m) &&
          judgement rules server m p (cstr "onMessage")).map (.plugin · (.message m)),
        (routedPlugin server m plugins).or plgcmd) := by
  induction plugins generalizing plgcmd with
  | nil => rfl
  | cons p ps ih =>
    rw [dispatchLoop]
    by_cases hcmd : isCommand server p (.message m)
    · rw [if_pos hcmd, ih, routedPlugin_cons, if_pos hcmd]
      simp [hcmd]
    · rw [if_neg hcmd, invokable_message, ih, routedPlugin_cons, if_neg hcmd]
      cases hj : judgement rules server m p (cstr "onMessage") <;>
        simp [hcmd, hj, pure, Except.pure]

/-- The calls that `irc_bot_dispatch` makes for a message. -/
theorem ircBotDispatch_message (bot : IrcBot) :
    ircBotDispatch bot server (.message m) =
      .ok (bot.hooks.map (.hook · (.message m)) ++
        (bot.plugins.filter fun p => !isCommand server p (.message m) &&
          judgement bot.rules server m p (cstr "onMessage")).map (.plugin · (.message m)) ++
        ((routedPlugin server m bot.plugins).toList.filter fun p =>
          judgement bot.rules server m p (cstr "onMessage")).map
            (fun p => .plugin p (toCommand server p (.message m))) ++
        (if bot.observer then [.observer (.message m)] else [])) := by
  -- the rules have a verdict on every message, so no call is undefined
  rw [ircBotDispatch, dispatchLoop_message, Option.or_none, ok_bind]
  cases routedPlugin server m bot.plugins with
  | none => rfl
  | some p =>
    simp only [dispatchCommand, invokable_message, ok_bind]
    cases hj : judgement bot.rules server m p (cstr "onMessage") <;>
      simp [hj, pure, Except.pure]

/-- The command reaches the plugin that the message addresses if the rules accept it under
`onMessage`. -/
theorem command_mem_iff {bot : IrcBot} {calls : List Delivery} {p : IrcPlugin}
    (hcalls : ircBotDispatch bot server (.message m) = .ok calls)
    (hp : routedPlugin server m bot.plugins = some p) :
    .plugin p (toCommand server p (.message m)) ∈ calls ↔
      judge bot.rules server m p (cstr "onMessage") = .ok true := by
  rw [ircBotDispatch_message, hp, Except.ok.injEq] at hcalls
  subst hcalls
  cases hj : judgement bot.rules server m p (cstr "onMessage") <;>
    simp [judge_eq, toCommand, hj]

/-- The message reaches another plugin if the rules accept it under `onMessage`. -/
theorem message_mem_iff {bot : IrcBot} {calls : List Delivery} {p : IrcPlugin}
    (hcalls : ircBotDispatch bot server (.message m) = .ok calls)
    (hp : p ∈ bot.plugins) (hcmd : isCommand server p (.message m) = false) :
    .plugin p (.message m) ∈ calls ↔ judge bot.rules server m p (cstr "onMessage") = .ok true := by
  rw [ircBotDispatch_message, Except.ok.injEq] at hcalls
  subst hcalls
  simp [judge_eq, toCommand, hp, hcmd]

end Messages

/-- The rules govern the delivery of a message: the plugin it addresses receives the command when
they accept it under `onCommand`, and each other plugin receives the message when they accept it
under `onMessage`. -/
def RulesGovern (bot : IrcBot) (server : IrcServer) (m : IrcEventMessage) : Prop :=
  ∃ calls, ircBotDispatch bot server (.message m) = .ok calls ∧
    (∀ p, routedPlugin server m bot.plugins = some p →
      (.plugin p (toCommand server p (.message m)) ∈ calls ↔
        judge bot.rules server m p (cstr "onCommand") = .ok true)) ∧
    (∀ p ∈ bot.plugins, isCommand server p (.message m) = false →
      (.plugin p (.message m) ∈ calls ↔
        judge bot.rules server m p (cstr "onMessage") = .ok true))

theorem RulesGovern.judge_eq {bot : IrcBot} {server : IrcServer} {m : IrcEventMessage}
    {p : IrcPlugin} (h : RulesGovern bot server m)
    (hp : routedPlugin server m bot.plugins = some p) :
    judge bot.rules server m p (cstr "onMessage") =
      judge bot.rules server m p (cstr "onCommand") := by
  obtain ⟨calls, hcalls, hcommand, -⟩ := h
  have h := (command_mem_iff hcalls hp).symm.trans (hcommand p hp)
  rw [Irccd.judge_eq, Irccd.judge_eq] at h ⊢
  rw [Except.ok.injEq, Except.ok.injEq] at h
  rw [Bool.eq_iff_iff.2 h]

/-- The rules govern the delivery of a message exactly when they judge the plugin it addresses
alike under both names. Two rule lists that do so and agree on `onCommand` send the command to the
same plugin. -/
theorem rulesGovern_iff (bot : IrcBot) (server : IrcServer) (m : IrcEventMessage) :
    (RulesGovern bot server m ↔
      ∀ p, routedPlugin server m bot.plugins = some p →
        judge bot.rules server m p (cstr "onMessage") =
          judge bot.rules server m p (cstr "onCommand")) ∧
    ∀ rules calls calls', RulesGovern bot server m → RulesGovern { bot with rules } server m →
      (∀ p, judge rules server m p (cstr "onCommand") =
        judge bot.rules server m p (cstr "onCommand")) →
      ircBotDispatch bot server (.message m) = .ok calls →
      ircBotDispatch { bot with rules } server (.message m) = .ok calls' →
      ∀ p, routedPlugin server m bot.plugins = some p →
        (.plugin p (toCommand server p (.message m)) ∈ calls ↔
          .plugin p (toCommand server p (.message m)) ∈ calls') := by
  constructor
  · constructor
    · intro h p hp
      exact h.judge_eq hp
    · intro h
      refine ⟨_, ircBotDispatch_message bot, fun p hp => ?_, fun p hp hcmd => ?_⟩
      · rw [command_mem_iff (ircBotDispatch_message bot) hp, h p hp]
      · exact message_mem_iff (ircBotDispatch_message bot) hp hcmd
  · rintro rules calls calls' ⟨_, hd, hcommand, -⟩ ⟨_, hd', hcommand', -⟩ hagree hcalls hcalls' p hp
    obtain rfl := Except.ok.inj (hd.symm.trans hcalls)
    obtain rfl := Except.ok.inj (hd'.symm.trans hcalls')
    rw [hcommand p hp, hcommand' p hp, hagree p]

/-- A rule that drops every command does not prevent one. -/
theorem not_rulesGovern_drop_onCommand :
    ¬ RulesGovern
      { plugins := [⟨cstr "ask"⟩], hooks := [], observer := false
        rules := [ircRuleAddEvent (ircRuleNew .drop) (cstr "onCommand")] }
      localServer
      ⟨cstr "jean!j@localhost", cstr "#staff", cstr "!ask why"⟩ := by
  intro h
  have hjudge := h.judge_eq (p := ⟨cstr "ask"⟩) (by decide +kernel)
  revert hjudge
  decide +kernel

/-! ## Events without channel or origin -/

/-- The rules have a verdict: no criterion is compared with NULL, each rule matches or not as its
criteria say, and the last one that matches decides. -/
def RulesDefined (rules : List IrcRule) (server : CStr) (channel origin : Option CStr)
    (plugin event : CStr) : Prop :=
  (∀ r ∈ rules,
    ircRuleMatch r (some server) channel origin (some plugin) (some event) =
      .ok (decide (r.Matches (some server) channel origin (some plugin) (some event)))) ∧
  ircRuleMatchlist rules (some server) channel origin (some plugin) (some event) =
    .ok (verdict rules (some server) channel origin (some plugin) (some event))

/-- A rule that gets to compare its channels, then its origins, has something to compare them
with. -/
def IrcRule.Comparable (rule : IrcRule) (server : CStr) (channel origin : Option CStr) : Prop :=
  Criterion rule.servers (some server) →
    (channel = none → rule.channels = []) ∧
    (Criterion rule.channels channel → origin = none → rule.origins = [])

theorem rulesDefined_iff {rules : List IrcRule} {server plugin event : CStr}
    {channel origin : Option CStr} :
    RulesDefined rules server channel origin plugin event ↔
      ∀ r ∈ rules, r.Comparable server channel origin := by
  have hmatch : ∀ r : IrcRule, r.Comparable server channel origin ↔
      Defined (ircRuleMatch r (some server) channel origin (some plugin) (some event)) :=
    fun _ => defined_ircRuleMatch_iff.symm
  simp only [hmatch]
  constructor
  · rintro ⟨hrules, -⟩ r hr
    exact ⟨_, hrules r hr⟩
  · intro h
    exact ⟨fun r hr => ircRuleMatch_eq_of_defined (h r hr),
      ircRuleMatchlist_eq_of_defined (defined_ircRuleMatchlist_iff.2 h)⟩

/-- An event is judged by the rules as they say. -/
def Judged (rules : List IrcRule) (server : IrcServer) (p : IrcPlugin) (ev : IrcEvent) : Prop :=
  ∀ channel origin event, ruleCriteria ev = some (channel, origin, event) →
    RulesDefined rules server.name channel origin p.name event ∧
    invokable rules server p ev =
      .ok (verdict rules (some server.name) channel origin (some p.name) (some event))

/-- An event is judged by the rules as they say exactly when no rule compares its channels or its
origins with a value that the event does not have. -/
theorem judged_iff (rules : List IrcRule) (server : IrcServer) (p : IrcPlugin) (ev : IrcEvent) :
    Judged rules server p ev ↔
      ∀ channel origin event, ruleCriteria ev = some (channel, origin, event) →
        ∀ r ∈ rules, r.Comparable server.name channel origin := by
  refine forall₃_congr fun channel origin event => imp_congr_right fun hev => ?_
  -- `invokable` gives the verdict as soon as the rules have one
  have hdef : RulesDefined rules server.name channel origin p.name event ↔ _ := rulesDefined_iff
  rw [← hdef, and_iff_left_iff_imp]
  rintro ⟨-, h⟩
  rw [invokable, hev]
  exact h

/-- A rule about a channel is compared with NULL on a connection. -/
theorem not_judged_connect :
    ¬ Judged [ircRuleAddChannel (ircRuleNew .drop) (cstr "#staff")]
      localServer ⟨cstr "ask"⟩
      .connect := by
  intro h
  have hmatch := (h none none (cstr "onConnect") rfl).1.2
  revert hmatch
  decide +kernel

end Irccd
