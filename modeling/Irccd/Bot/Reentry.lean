import Irccd.Bot.Basic
import Irccd.Foundations.Runs
import Irccd.Foundations.Traversal

/-!
# Handlers that call the bot (`irccd.c`, `jsapi-plugin.c`, `jsapi-server.c`)

While `irc_bot_dispatch` calls a plugin, the plugin may call the API of the bot, which may unload
plugins, remove servers and so dispatch other events. `Irccd.Bot.Basic` gives the calls of a
dispatch during which nothing of that kind happens.

* `Frame`: a call of a plugin that has not returned, with the local variables of the function that
  made it;
* `Machine`: the bot, its servers and the stack of these calls;
* `botStep`: the plugin on top of the stack calls the bot, or returns to the function that called
  it.
-/

namespace Irccd

/-- What stops a dispatch. -/
inductive Stop
  /-- The rules compare something with NULL. -/
  | undefined (f : Fault)
  /-- A plugin that was unloaded is accessed. -/
  | removedPlugin (p : IrcPlugin)
  /-- A server that was removed is accessed. -/
  | removedServer (name : CStr)
  /-- The consumer coroutine that is running is destroyed. -/
  | runningCoroutine (name : CStr)
  /-- A plugin whose code is running is destroyed. -/
  | runningPlugin (p : IrcPlugin)
  /-- `Plugin_unload` or `Plugin_reload` goes on with the NULL that `find` returns. -/
  | missingPlugin (name : CStr)
  deriving DecidableEq

/-- A call of `irc_bot_dispatch`: its arguments, its local variables, and what it has done. -/
structure Dispatch where
  /-- `ev->server`. Only its name and its prefix matter, which nothing changes. -/
  server : IrcServer
  ev : IrcEvent
  /-- The caller is `irc_bot_server_remove`, and not the consumer coroutine of the server. -/
  removing : Bool
  plgcmd : Option IrcPlugin
  /-- The plugins that the loop has met. -/
  visited : List IrcPlugin
  /-- The plugins that have received the event. -/
  handed : List IrcPlugin
  /-- The plugins that may not receive it according to the rules. -/
  refused : List IrcPlugin

namespace Dispatch

variable (d : Dispatch) (p : IrcPlugin)

/-- The loop meets the plugin. -/
def visit : Dispatch := { d with visited := d.visited ++ [p] }

/-- The plugin receives the event. -/
def hand : Dispatch := { d with handed := d.handed ++ [p] }

/-- The rules refuse the plugin. -/
def refuse : Dispatch := { d with refused := d.refused ++ [p] }

/-- The event is a command for the plugin. -/
def address : Dispatch := { d with plgcmd := some p }

end Dispatch

/-- A call of a plugin that has not returned. -/
inductive Frame
  /-- The loop of `irc_bot_dispatch` has called the plugin, and has `next` in `ptmp`. -/
  | loop (d : Dispatch) (p : IrcPlugin) (next : Option IrcPlugin)
  /-- `irc_bot_dispatch` has called `plgcmd`. -/
  | command (d : Dispatch) (p : IrcPlugin)
  /-- `irc_plugin_reload` has called the plugin. -/
  | reload (p : IrcPlugin)
  /-- `irc_plugin_unload`, in `irc_bot_plugin_remove`, has called the plugin. -/
  | unload (p : IrcPlugin)
  /-- The event loop has called a plugin, or executes a command of the control socket. -/
  | outside (p : Option IrcPlugin)

/-- The plugin whose code is running. -/
def Frame.plugin : Frame → Option IrcPlugin
  | .loop _ p _ => some p
  | .command _ p => some p
  | .reload p => some p
  | .unload p => some p
  | .outside p => p

/-- The call of `irc_bot_dispatch`, if it is one. -/
def Frame.dispatch : Frame → Option Dispatch
  | .loop d _ _ => some d
  | .command d _ => some d
  | _ => none

/-- The plugins that the function will access when the one it has called returns. -/
def Frame.awaits : Frame → List IrcPlugin
  | .loop d _ next => next.toList ++ d.plgcmd.toList
  | _ => []

/-- A call of `irc_bot_dispatch` that has returned, and the plugins that were loaded then. -/
structure Finished where
  dispatch : Dispatch
  loaded : List IrcPlugin

/-- The bot while plugins are called. -/
structure Machine where
  bot : IrcBot
  servers : List IrcServer
  /-- The calls that have not returned, the last one first. -/
  stack : List Frame
  /-- What the calls of `irc_bot_dispatch` have called, in order. -/
  calls : List Delivery
  finished : List Finished

namespace Machine

variable (m : Machine)

def push (f : Frame) (calls : List Delivery) : Machine :=
  { m with stack := f :: m.stack, calls := m.calls ++ calls }

/-- A plugin is accessed. -/
def touchPlugin (p : IrcPlugin) : Except Stop Unit :=
  if p ∈ m.bot.plugins then .ok () else .error (.removedPlugin p)

/-- A server is accessed. -/
def touchServer (server : IrcServer) : Except Stop Unit :=
  if server.name ∈ m.servers.map IrcServer.name then .ok () else .error (.removedServer server.name)

/-- `is_command` reads the prefix of the server, and `invokable` its name for every event but
`IRC_EVENT_UNKNOWN`. -/
def touchEvent (d : Dispatch) : Except Stop Unit :=
  if (ruleCriteria d.ev).isSome then m.touchServer d.server else .ok ()

/-- The observer reads the name of the server. -/
def touchObserved (d : Dispatch) : Except Stop Unit :=
  if m.bot.observer then m.touchServer d.server else .ok ()

def invokable (d : Dispatch) (p : IrcPlugin) : Except Stop Bool :=
  (Irccd.invokable m.bot.rules d.server p d.ev).mapError .undefined

/-- `irc_bot_dispatch` calls the observer, if there is one, and returns. -/
def finish (d : Dispatch) : Except Stop Machine := do
  m.touchObserved d
  return { m with
    calls := m.calls ++ (if m.bot.observer then [.observer d.ev] else [])
    finished := m.finished ++ [⟨d, m.bot.plugins⟩] }

/-- What follows `irc_bot_dispatch` in `irc_bot_server_remove`: `LL_DELETE` and
`irc_server_decref`. -/
def serverDelete (server : IrcServer) : Except Stop Machine := do
  m.touchServer server
  return { m with servers := m.servers.filter (·.name != server.name) }

/-- The end of `irc_bot_dispatch`, and of its caller if that is `irc_bot_server_remove`. -/
def dispatchReturn (d : Dispatch) : Except Stop Machine := do
  let m ← m.finish d
  if d.removing then m.serverDelete d.server else .ok m

/-- `irc_bot_dispatch` after the loop. -/
def dispatchEnd (d : Dispatch) : Except Stop Machine :=
  match d.plgcmd with
  | none => m.dispatchReturn d
  | some p => do
    m.touchPlugin p
    m.touchEvent d
    if ← m.invokable d p then
      return m.push (.command (d.hand p) p) [.plugin p (toCommand d.server p d.ev)]
    else m.dispatchReturn (d.refuse p)

/-- The loop of `irc_bot_dispatch`, on the plugins that are left, up to the next call. -/
def dispatchLoop (d : Dispatch) : List IrcPlugin → Except Stop Machine
  | [] => m.dispatchEnd d
  | p :: rest => do
    m.touchEvent d
    if isCommand d.server p d.ev then dispatchLoop ((d.visit p).address p) rest
    else if ← m.invokable d p then
      return m.push (.loop ((d.visit p).hand p) p rest.head?) [.plugin p d.ev]
    else dispatchLoop ((d.visit p).refuse p) rest

/-- `irc_bot_dispatch`. A hook is another process, so nothing can happen while the hooks are called,
and the server was looked up just before. -/
def dispatch (server : IrcServer) (ev : IrcEvent) (removing : Bool) : Except Stop Machine :=
  { m with calls := m.calls ++ m.bot.hooks.map (Delivery.hook · ev) }.dispatchLoop
    ⟨server, ev, removing, none, [], [], []⟩ m.bot.plugins

/-- The consumer coroutine of the server has called `irc_bot_dispatch`. -/
def Consumes (name : CStr) : Prop :=
  ∃ f ∈ m.stack, ∃ d ∈ f.dispatch, d.removing = false ∧ d.server.name = name

instance (name : CStr) : Decidable (m.Consumes name) :=
  inferInstanceAs (Decidable (∃ f ∈ m.stack, ∃ d ∈ f.dispatch, _))

end Machine

/-- A call of the bot by a plugin, or by a command of the control socket. -/
inductive BotCall
  | serverRemove (name : CStr)
  | pluginUnload (name : CStr)
  | pluginReload (name : CStr)
  | hookRemove (name : CStr)
  /-- `irc_bot_rule_insert`, `irc_bot_rule_move` or `irc_bot_rule_remove`: the rules are then
  these. -/
  | rules (rules : List IrcRule)
  deriving DecidableEq

namespace Machine

variable (m : Machine)

/-- `irc_bot_server_remove` -/
def serverRemove (name : CStr) : Except Stop Machine :=
  match m.servers.find? (·.name == name) with
  | none => .ok m
  | some s =>
    -- `irc_server_disconnect` destroys the consumer coroutine of the server
    if m.Consumes s.name then .error (.runningCoroutine s.name) else m.dispatch s .disconnect true

/-- The code of a plugin makes the call, and not a command of the control socket. -/
def scripted : Bool := m.stack.head?.any (·.plugin.isSome)

/-- The plugin of this name: `irc_bot_plugin_get`. The functions of the JavaScript API do not check
its result, and the commands of the control socket do. -/
def withPlugin (name : CStr) (f : IrcPlugin → Machine) : Except Stop Machine :=
  match m.bot.plugins.find? (·.name == name) with
  | none => if m.scripted then .error (.missingPlugin name) else .ok m
  | some p => .ok (f p)

/-- `Plugin_unload` and `cmd_plugin_unload`: `irc_bot_plugin_remove`, up to the call of
`irc_plugin_unload`. `find (ctx)->name` is read before. -/
def pluginRemove (name : CStr) : Except Stop Machine :=
  m.withPlugin name fun p =>
    { m with bot := { m.bot with plugins := m.bot.plugins.erase p } }.push (.unload p) []

/-- `Plugin_reload` and `cmd_plugin_reload`: `irc_plugin_reload` asserts that there is a plugin. -/
def pluginReload (name : CStr) : Except Stop Machine :=
  m.withPlugin name fun p => m.push (.reload p) []

def perform : BotCall → Except Stop Machine
  | .serverRemove name => m.serverRemove name
  | .pluginUnload name => m.pluginRemove name
  | .pluginReload name => m.pluginReload name
  | .hookRemove name =>
    .ok { m with bot := { m.bot with hooks := m.bot.hooks.filter (·.name != name) } }
  | .rules rules => .ok { m with bot := { m.bot with rules } }

/-- The function that made the call goes on, once it has returned. -/
def resume : Frame → Except Stop Machine
  | .loop d _ next =>
    match next with
    | none => m.dispatchEnd d
    | some q => do
      m.touchPlugin q
      m.dispatchLoop d (Traversal.pending m.bot.plugins (some q))
  | .command d _ => m.dispatchReturn d
  | .unload p =>
    -- `irc_plugin_finish`
    if ∃ f ∈ m.stack, f.plugin = some p then .error (.runningPlugin p) else .ok m
  | .reload _ | .outside _ => .ok m

end Machine

/-- A step of the bot. -/
inductive BotAct
  /-- The consumer coroutine of the server dispatches an event. -/
  | event (server : CStr) (ev : IrcEvent)
  /-- The event loop calls a plugin. -/
  | callback (p : IrcPlugin)
  /-- The event loop executes a command of the control socket. -/
  | peer
  /-- What runs on top of the stack calls the bot. -/
  | call (c : BotCall)
  /-- What runs on top of the stack returns. -/
  | ret
  deriving DecidableEq

/-- A step of the bot, if it is possible. The event loop only starts something when the stack is
empty. -/
def botStep : Except Stop Machine → BotAct → Option (Except Stop Machine)
  | .error _, _ => none
  | .ok m, a =>
    match m.stack, a with
    | [], .event name ev =>
      (m.servers.find? (·.name == name)).map fun s => m.dispatch s ev false
    | [], .callback p =>
      if p ∈ m.bot.plugins then some (.ok (m.push (.outside (some p)) [])) else none
    | [], .peer => some (.ok (m.push (.outside none) []))
    | _ :: _, .call c => some (m.perform c)
    | f :: stack, .ret => some ({ m with stack }.resume f)
    | _, _ => none

/-- The event loop starts something, or what runs on top of the stack calls the bot or returns. -/
theorem botStep_cases {m : Machine} {a : BotAct} {s' : Except Stop Machine}
    (h : botStep (.ok m) a = some s') :
    (∃ name ev s, a = .event name ev ∧ m.stack = [] ∧
      m.servers.find? (·.name == name) = some s ∧ s' = m.dispatch s ev false) ∨
    (∃ p, (∀ c, a ≠ .call c) ∧ m.stack = [] ∧ s' = .ok (m.push (.outside p) [])) ∨
    (∃ c, a = .call c ∧ m.stack ≠ [] ∧ s' = m.perform c) ∨
    (∃ f below, a = .ret ∧ m.stack = f :: below ∧ s' = { m with stack := below }.resume f) := by
  unfold botStep at h
  cases hstack : m.stack with
  | nil =>
    -- nothing runs, and something from outside starts
    cases a with
    | event name ev =>
      simp only [hstack] at h
      obtain ⟨s, hfind, rfl⟩ := Option.map_eq_some_iff.1 h
      exact .inl ⟨name, ev, s, rfl, rfl, hfind, rfl⟩
    | callback p =>
      simp only [hstack, Option.ite_none_right_eq_some, Option.some.injEq] at h
      exact .inr (.inl ⟨some p, by simp, rfl, h.2.symm⟩)
    | peer =>
      simp only [hstack, Option.some.injEq] at h
      exact .inr (.inl ⟨none, by simp, rfl, h.symm⟩)
    | call c => simp [hstack] at h
    | ret => simp [hstack] at h
  | cons f below =>
    -- what is on top of the stack calls the bot, or returns
    cases a with
    | call c =>
      simp only [hstack, Option.some.injEq] at h
      exact .inr (.inr (.inl ⟨c, rfl, by simp, h.symm⟩))
    | ret =>
      simp only [hstack, Option.some.injEq] at h
      exact .inr (.inr (.inr ⟨f, below, rfl, rfl, h.symm⟩))
    | event name ev => simp [hstack] at h
    | callback p => simp [hstack] at h
    | peer => simp [hstack] at h

end Irccd
