import Irccd.Rule
import Irccd.Server.Basic

/-!
# The bot (`irccd.c`)

How `irc_bot_dispatch` hands an event to the hooks, the plugins and the observer.

* `invokable` asks the rules whether a plugin may receive an event;
* `isCommand` and `toCommand` recognise and convert the message that addresses a plugin;
* `ircBotDispatch` is the list of the calls it makes, in order.
-/

namespace Irccd

/-- `struct irc_plugin`, as far as dispatching goes. -/
structure IrcPlugin where
  name : CStr
  deriving DecidableEq

/-- `struct irc_hook`, as far as dispatching goes. -/
structure IrcHook where
  name : CStr
  deriving DecidableEq

/-- `struct irccd`, as far as dispatching goes. `observer` tells whether there is one. -/
structure IrcBot where
  plugins : List IrcPlugin
  hooks : List IrcHook
  rules : List IrcRule
  observer : Bool
  deriving DecidableEq

/-- A call made by `irc_bot_dispatch`. -/
inductive Delivery
  /-- `irc_hook_invoke` -/
  | hook (h : IrcHook) (ev : IrcEvent)
  /-- `irc_plugin_handle` -/
  | plugin (p : IrcPlugin) (ev : IrcEvent)
  /-- `irccd->observer` -/
  | observer (ev : IrcEvent)
  deriving DecidableEq

/-- `is_command` -/
def isCommand (server : IrcServer) (p : IrcPlugin) : IrcEvent → Bool
  | .message m => server.pfx.isPrefixOf m.message &&
      p.name.isPrefixOf (m.message.drop server.pfx.length)
  | _ => false

/-- `to_command`, which is only called on a message. -/
def toCommand (server : IrcServer) (p : IrcPlugin) : IrcEvent → IrcEvent
  | .message m =>
    .command { m with
      message := (m.message.drop (server.pfx.length + p.name.length)).dropWhile isspace }
  | ev => ev

/-- The channel, the origin and the name of an event that `invokable` gives to
`irc_rule_matchlist`. Other events are not subject to the rules. -/
def ruleCriteria : IrcEvent → Option (Option CStr × Option CStr × CStr)
  | .unknown => none
  | .command m => some (some m.channel, some m.origin, cstr "onCommand")
  | .connect => some (none, none, cstr "onConnect")
  | .disconnect => some (none, none, cstr "onDisconnect")
  | .invite origin channel => some (some channel, some origin, cstr "onInvite")
  | .join origin channel => some (some channel, some origin, cstr "onJoin")
  | .kick origin channel _ _ => some (some channel, some origin, cstr "onKick")
  | .me m => some (some m.channel, some m.origin, cstr "onMe")
  | .message m => some (some m.channel, some m.origin, cstr "onMessage")
  | .mode origin channel _ _ => some (some channel, some origin, cstr "onMode")
  | .names channel _ => some (some channel, none, cstr "onNames")
  | .nick origin _ => some (none, some origin, cstr "onNick")
  | .notice origin channel _ => some (some channel, some origin, cstr "onNotice")
  | .part origin channel _ => some (some channel, some origin, cstr "onPart")
  | .topic origin channel _ => some (some channel, some origin, cstr "onTopic")
  | .whois _ => some (none, none, cstr "onWhois")

/-- `invokable` -/
def invokable (rules : List IrcRule) (server : IrcServer) (p : IrcPlugin) (ev : IrcEvent) :
    Except Fault Bool :=
  match ruleCriteria ev with
  | none => .ok true
  | some (channel, origin, event) =>
    ircRuleMatchlist rules (some server.name) channel origin (some p.name) (some event)

/-- The loop of `irc_bot_dispatch` on the plugins: its calls, and the last plugin that the event
is a command for (`plgcmd`). -/
def dispatchLoop (rules : List IrcRule) (server : IrcServer) (ev : IrcEvent) :
    List IrcPlugin → Option IrcPlugin → Except Fault (List Delivery × Option IrcPlugin)
  | [], plgcmd => .ok ([], plgcmd)
  | p :: ps, plgcmd =>
    -- the last plugin that the message addresses replaces those before
    if isCommand server p ev then dispatchLoop rules server ev ps (some p)
    else do
      let call ← invokable rules server p ev
      let (calls, plgcmd) ← dispatchLoop rules server ev ps plgcmd
      return ((if call then [.plugin p ev] else []) ++ calls, plgcmd)

/-- The end of `irc_bot_dispatch`, on the plugin that the event is a command for. -/
def dispatchCommand (rules : List IrcRule) (server : IrcServer) (ev : IrcEvent) :
    Option IrcPlugin → Except Fault (List Delivery)
  | none => .ok []
  | some p => do
    -- `invokable` still sees the MESSAGE event, `to_command` comes after
    if ← invokable rules server p ev then return [.plugin p (toCommand server p ev)] else return []

/-- `irc_bot_dispatch`: the calls it makes, in order. -/
def ircBotDispatch (bot : IrcBot) (server : IrcServer) (ev : IrcEvent) :
    Except Fault (List Delivery) := do
  let (calls, plgcmd) ← dispatchLoop bot.rules server ev bot.plugins none
  let command ← dispatchCommand bot.rules server ev plgcmd
  return bot.hooks.map (.hook · ev) ++ calls ++ command ++
    (if bot.observer then [.observer ev] else [])

end Irccd
