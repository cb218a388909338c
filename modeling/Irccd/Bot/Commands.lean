import Mathlib.Data.List.Nodup
import Irccd.Bot.Rules

/-!
# Messages that address a plugin

`!name arguments` is a command for the plugin of that name. `is_command` compares the name with the
beginning of what follows the prefix, so `!asking` addresses the plugin `ask`.

* `commandWord`, `due`: the name that a message gives, and what each plugin should receive;
* `eventsFor_of_dispatch`: what each plugin receives when the rules accept the message;
* `delivered_iff`: every plugin receives what it should exactly when `is_command` only holds of the
  plugin that the message names.
-/

namespace Irccd

/-- The word that follows the command prefix, up to a blank, if the text starts with the prefix. -/
def commandWord (server : IrcServer) (text : CStr) : Option CStr :=
  if server.pfx.isPrefixOf text then
    some ((text.drop server.pfx.length).takeWhile (!isspace ·))
  else none

/-- What follows that word, without its leading blanks. -/
def commandArguments (server : IrcServer) (text : CStr) : CStr :=
  ((text.drop server.pfx.length).dropWhile (!isspace ·)).dropWhile isspace

/-- The event that the plugin should receive for a message. -/
def due (server : IrcServer) (m : IrcEventMessage) (p : IrcPlugin) : IrcEvent :=
  if commandWord server m.message = some p.name then
    .command { m with message := commandArguments server m.message }
  else .message m

/-- The events that the plugin receives, in order. -/
def eventsFor (p : IrcPlugin) (calls : List Delivery) : List IrcEvent :=
  calls.filterMap fun
    | .plugin q ev => if q = p then some ev else none
    | _ => none

/-- Each plugin receives what it should, once. -/
def Delivered (bot : IrcBot) (server : IrcServer) (m : IrcEventMessage) : Prop :=
  ∃ calls, ircBotDispatch bot server (.message m) = .ok calls ∧
    ∀ p ∈ bot.plugins, eventsFor p calls = [due server m p]

section Commands

variable {server : IrcServer} {m : IrcEventMessage} {p : IrcPlugin}

theorem isCommand_iff :
    isCommand server p (.message m) = true ↔
      server.pfx <+: m.message ∧ p.name <+: m.message.drop server.pfx.length := by
  simp [isCommand]

/-- The plugin that the message names is one that `is_command` recognises. -/
theorem isCommand_of_commandWord (h : commandWord server m.message = some p.name) :
    isCommand server p (.message m) = true := by
  unfold commandWord at h
  split at h
  · rename_i hpfx
    obtain hname := Option.some.inj h
    exact isCommand_iff.2 ⟨List.isPrefixOf_iff_prefix.1 hpfx, hname ▸ List.takeWhile_prefix _⟩
  · cases h

/-- `to_command` keeps the arguments of the plugin that the message names. -/
theorem toCommand_of_commandWord (h : commandWord server m.message = some p.name) :
    toCommand server p (.message m) = due server m p := by
  rw [due, if_pos h, toCommand, commandArguments]
  unfold commandWord at h
  split at h
  · obtain hname := Option.some.inj h
    -- the word and what follows it make the text after the prefix
    have htext : p.name ++ (m.message.drop server.pfx.length).dropWhile (!isspace ·) =
        m.message.drop server.pfx.length := by
      rw [← hname]
      exact List.takeWhile_append_dropWhile
    have harguments : m.message.drop (server.pfx.length + p.name.length) =
        (m.message.drop server.pfx.length).dropWhile (!isspace ·) := by
      rw [← List.drop_drop]
      conv_lhs => rw [← htext]
      exact List.drop_left
    rw [harguments]
  · cases h

/-! ## What a plugin receives -/

theorem eventsFor_append {calls calls' : List Delivery} :
    eventsFor p (calls ++ calls') = eventsFor p calls ++ eventsFor p calls' :=
  List.filterMap_append

theorem eventsFor_hooks (hooks : List IrcHook) (ev : IrcEvent) :
    eventsFor p (hooks.map (.hook · ev)) = [] := by
  simp [eventsFor]

theorem eventsFor_observer (b : Bool) (ev : IrcEvent) :
    eventsFor p (if b then [.observer ev] else []) = [] := by
  cases b <;> rfl

/-- An event that is given to distinct plugins is received once by each of them. -/
theorem eventsFor_plugins {ps : List IrcPlugin} (hps : ps.Nodup) (event : IrcPlugin → IrcEvent) :
    eventsFor p (ps.map fun q => .plugin q (event q)) = if p ∈ ps then [event p] else [] := by
  induction ps with
  | nil => rfl
  | cons q ps ih =>
    obtain ⟨hq, hps⟩ := List.nodup_cons.1 hps
    have hcons : eventsFor p ((q :: ps).map fun q => .plugin q (event q)) =
        (if q = p then [event q] else []) ++
          eventsFor p (ps.map fun q => .plugin q (event q)) := by
      by_cases hqp : q = p <;> simp [eventsFor, hqp]
    rw [hcons, ih hps]
    by_cases hqp : q = p
    · subst hqp
      simp [hq]
    · have hpq : p ≠ q := fun h => hqp h.symm
      simp [hqp, hpq]

/-- A plugin that the message does not address receives it. Of those that it addresses the last one
receives the command, and the others receive nothing. -/
theorem eventsFor_of_dispatch {bot : IrcBot} {calls : List Delivery} (hps : bot.plugins.Nodup)
    (hrules : ∀ p ∈ bot.plugins, invokable bot.rules server p (.message m) = .ok true)
    (hcalls : ircBotDispatch bot server (.message m) = .ok calls) (hp : p ∈ bot.plugins) :
    eventsFor p calls =
      if isCommand server p (.message m) then
        if routedPlugin server m bot.plugins = some p then [toCommand server p (.message m)] else []
      else [.message m] := by
  -- the rules accept every plugin
  have hjudge : ∀ q ∈ bot.plugins, judgement bot.rules server m q (cstr "onMessage") = true :=
    fun q hq => Except.ok.inj ((invokable_message q).symm.trans (hrules q hq))
  have hothers : (bot.plugins.filter fun q => !isCommand server q (.message m) &&
      judgement bot.rules server m q (cstr "onMessage")) =
      bot.plugins.filter fun q => !isCommand server q (.message m) :=
    List.filter_congr fun q hq => by rw [hjudge q hq, Bool.and_true]
  have hrouted : ∀ q, routedPlugin server m bot.plugins = some q →
      isCommand server q (.message m) = true ∧ q ∈ bot.plugins := fun q hq =>
    (List.mem_filter.1 (List.mem_of_getLast? hq)).symm
  -- the command goes to the last plugin that is addressed
  have hcommand : eventsFor p (((routedPlugin server m bot.plugins).toList.filter fun q =>
      judgement bot.rules server m q (cstr "onMessage")).map
        fun q => .plugin q (toCommand server q (.message m))) =
      if routedPlugin server m bot.plugins = some p then [toCommand server p (.message m)]
      else [] := by
    cases hlast : routedPlugin server m bot.plugins with
    | none => rfl
    | some q =>
      have hq := hjudge q (hrouted q hlast).2
      by_cases hqp : q = p
      · subst hqp
        simp [eventsFor, hq]
      · simp [eventsFor, hq, hqp]
  rw [ircBotDispatch_message, Except.ok.injEq] at hcalls
  rw [← hcalls, eventsFor_append, eventsFor_append, eventsFor_append, eventsFor_hooks,
    eventsFor_observer, hothers, eventsFor_plugins (hps.filter _) fun _ => .message m, hcommand]
  cases hcmd : isCommand server p (.message m) with
  | true => simp [hcmd]
  | false =>
    have hnot : routedPlugin server m bot.plugins ≠ some p := fun h => by
      simpa [hcmd] using (hrouted p h).1
    simp [hcmd, hp, hnot]

/-- A plugin that the message addresses stands in the list, so one of them is the last. -/
theorem exists_routedPlugin {plugins : List IrcPlugin} (hp : p ∈ plugins)
    (hcmd : isCommand server p (.message m) = true) :
    ∃ q ∈ plugins, isCommand server q (.message m) = true ∧
      routedPlugin server m plugins = some q := by
  have hmem : p ∈ plugins.filter (isCommand server · (.message m)) := List.mem_filter.2 ⟨hp, hcmd⟩
  obtain ⟨q, hq⟩ := Option.ne_none_iff_exists'.1
    (mt List.getLast?_eq_none_iff.1 (List.ne_nil_of_mem hmem))
  obtain ⟨hqmem, hqcmd⟩ := List.mem_filter.1 (List.mem_of_getLast? hq)
  exact ⟨q, hqmem, hqcmd, hq⟩

end Commands

/-- Every plugin receives what it should exactly when the only plugin that `is_command` recognises
is the one that the message names. -/
theorem delivered_iff (bot : IrcBot) (server : IrcServer) (m : IrcEventMessage)
    (hnames : (bot.plugins.map IrcPlugin.name).Nodup)
    (hrules : ∀ p ∈ bot.plugins, invokable bot.rules server p (.message m) = .ok true) :
    Delivered bot server m ↔
      ∀ p ∈ bot.plugins, isCommand server p (.message m) = true →
        commandWord server m.message = some p.name := by
  have hps : bot.plugins.Nodup := List.Nodup.of_map _ hnames
  constructor
  · rintro ⟨calls, hcalls, hdue⟩ p hp hcmd
    by_contra hword
    have h := hdue p hp
    rw [eventsFor_of_dispatch hps hrules hcalls hp, if_pos hcmd, due, if_neg hword] at h
    -- a plugin that is addressed does not receive the message
    split at h
    · simp [toCommand] at h
    · simp at h
  · intro hcond
    refine ⟨_, ircBotDispatch_message bot, fun p hp => ?_⟩
    rw [eventsFor_of_dispatch hps hrules (ircBotDispatch_message bot) hp]
    cases hcmd : isCommand server p (.message m) with
    | true =>
      obtain ⟨q, hq, hqcmd, hrouted⟩ := exists_routedPlugin hp hcmd
      have hword := hcond p hp hcmd
      obtain rfl : q = p := List.inj_on_of_nodup_map hnames hq hp
        (Option.some.inj ((hcond q hq hqcmd).symm.trans hword))
      rw [if_pos rfl, if_pos hrouted, toCommand_of_commandWord hword]
    | false =>
      have hword : commandWord server m.message ≠ some p.name := fun h => by
        simp [isCommand_of_commandWord h] at hcmd
      rw [due, if_neg hword]
      rfl

/-- The plugins of the example in the source. -/
def askBot : IrcBot where
  plugins := [⟨cstr "ask"⟩, ⟨cstr "hangman"⟩, ⟨cstr "logger"⟩]
  hooks := []
  rules := []
  observer := false

/-- `!ask will I be reach?` is a command for the plugin `ask`, and a message for the others. -/
theorem delivered_ask :
    Delivered askBot localServer
        ⟨cstr "jean!j@localhost", cstr "#staff", cstr "!ask will I be reach?"⟩ ↔
      ∀ p ∈ askBot.plugins,
        isCommand localServer p
            (.message
              ⟨cstr "jean!j@localhost", cstr "#staff", cstr "!ask will I be reach?"⟩) = true →
          commandWord localServer (cstr "!ask will I be reach?") = some p.name :=
  delivered_iff askBot localServer _ (by decide +kernel) (by decide +kernel)

/-- `!asking` is a command for the plugin `ask`. -/
theorem not_delivered_asking :
    (askBot.plugins.map IrcPlugin.name).Nodup ∧ askBot.rules = [] ∧
      ¬ Delivered askBot localServer
        ⟨cstr "jean!j@localhost", cstr "#staff", cstr "!asking for a friend"⟩ := by
  refine ⟨by decide +kernel, rfl, ?_⟩
  rintro ⟨calls, hcalls, hdue⟩
  have hask := hdue ⟨cstr "ask"⟩ (by decide +kernel)
  rw [ircBotDispatch_message, Except.ok.injEq] at hcalls
  subst hcalls
  revert hask
  decide +kernel

end Irccd
