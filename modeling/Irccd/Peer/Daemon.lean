import Irccd.Bot.Basic
import Irccd.Js.Objects
import Irccd.Peer.Commands

/-!
# The daemon behind the control socket

What the commands of the control socket read and change, and the functions of the bot
(`irccd.c`) that they call.

* `Daemon`: the servers, plugins, rules and hooks of the bot;
* `PeerEnv`: what the rest of the world answers;
* `ircBotHookAdd` and the like: the functions of the bot.
-/

namespace Irccd

/-! ## State -/

/-- The tables of variables of a plugin. -/
inductive VarKind
  | config
  | path
  | template
  deriving DecidableEq

/-- `struct irc_plugin`. A table is `none` when the plugin has no functions for it. It is an object
of Duktape when the plugin is a script, and of a native plugin only the texts are used. -/
structure Plugin extends IrcPlugin where
  description : CStr
  version : CStr
  license : CStr
  author : CStr
  script : Bool
  vars : VarKind → Option (VarTable JsValue)

/-- `struct irc_hook` -/
structure Hook extends IrcHook where
  path : CStr
  deriving DecidableEq

/-- A server of the bot, with the fields that only the control socket reads.
`irc_server_connect` has asserted that its port is not zero. -/
structure BotServer where
  sys : Sys
  hostname : CStr
  port : BitVec 32
  port_ne : port ≠ 0

/-- The bot, and `is_watching` of the peer. The functions of plugins and hooks change nothing
here. -/
structure Daemon where
  servers : List BotServer
  plugins : List Plugin
  rules : List IrcRule
  hooks : List Hook
  watching : Bool

/-- What is not under the control of the daemon. -/
structure PeerEnv where
  /-- `getaddrinfo`, for a host. -/
  addresses : CStr → Option (List AddrInfo)
  uninit : ConnMsg
  /-- `irc_bot_plugin_search`: the plugin, or the text of `errno`. -/
  search : CStr → Except CStr Plugin
  /-- `irc_plugin_load (p) == 0` -/
  load : Plugin → Bool
  /-- `irc_plugin_reload` -/
  reload : Plugin → Plugin
  /-- The size of the buffer of a `FILE`. -/
  bufsiz : ℕ
  /-- The descriptors in whose lists of `libev` there are watchers of other servers, or of past
  ones, when the server of this name is connected. -/
  left : CStr → List ℤ

/-- The server, where the lists of these descriptors have watchers of others. -/
def Sys.beside (s : Sys) (fds : List ℤ) : Sys :=
  { s with
    stale := fds ++ s.stale
    server := { s.server with
      coroutine := s.server.coroutine.map fun co =>
        { co with conn := { co.conn with
          io := { co.conn.io with stale := fds ++ co.conn.io.stale } } } } }

namespace BotServer

def name (s : BotServer) : CStr := s.sys.server.name

/-- Change the server, but for its host and port. -/
def withSys (s : BotServer) (sys : Sys) : BotServer := { s with sys }

/-- `irc_server_disconnect` -/
def disconnect (s : BotServer) : BotServer := s.withSys (ircServerDisconnect s.sys)

/-- `irc_server_reconnect` -/
def reconnect (env : PeerEnv) (s : BotServer) : BotServer :=
  s.withSys (ircServerReconnect (s.sys.beside (env.left s.name)) (env.addresses s.hostname)
    env.uninit)

/-- The server that `irc_bot_server_add` has connected. -/
def added (env : PeerEnv) (s : BotServer) : BotServer :=
  s.withSys (Irccd.ircBotServerAdd s.sys (env.addresses s.hostname) env.uninit)

@[simp] theorem withSys_sys (s : BotServer) (sys : Sys) : (s.withSys sys).sys = sys := rfl

end BotServer

/-! ## Plugin variables -/

namespace Plugin

variable (plg : Plugin) (kind : VarKind)

/-- The variables that the functions of the plugin show, with their texts. -/
def entries : List (CStr × CStr) := ((plg.vars kind).map VarTable.texts).getD []

/-- The value of a variable, if it is set. -/
def value (key : CStr) : Option CStr := (plg.entries kind).lookup key

/-- `irc_plugin_set_option`, `irc_plugin_set_path` and `irc_plugin_set_template` -/
def set (key value : CStr) : Plugin :=
  let change (table : VarTable JsValue) :=
    if plg.script then setKeyValue table key value else table.set key (.held value)
  { plg with vars := fun k => if k = kind then (plg.vars k).map change else plg.vars k }

/-- `irc_plugin_get_option`, `irc_plugin_get_path` and `irc_plugin_get_template` -/
def get (key : CStr) : Except Fault (Option CStr) :=
  match plg.vars kind with
  | none => .ok none
  | some table =>
    if plg.script then
      match getValue table key with
      | some value => .ok (some value)
      | none => .error .noText
    else .ok ((table.get? key).map JsValue.text)

/-- `irc_plugin_get_options`, `irc_plugin_get_paths` and `irc_plugin_get_templates` -/
def keys : List CStr :=
  match plg.vars kind with
  | none => []
  | some table => if plg.script then getTable table else table.entries.map Prod.fst

/-- The text of the variable is there: Duktape holds that of its value, which is no symbol, and a
key that is not set is none of those that all objects have. -/
def HasText (key : CStr) : Prop :=
  plg.script = true → ∀ table ∈ plg.vars kind,
    match table.get? key with
    | some value => value.HasText
    | none => key ∉ objectPrototype

section Lemmas

variable {plg : Plugin} {kind : VarKind}

theorem entries_of_vars {table : VarTable JsValue} (h : plg.vars kind = some table) :
    plg.entries kind = table.texts := by
  rw [entries, h, Option.map_some, Option.getD_some]

theorem value_of_vars {table : VarTable JsValue} (h : plg.vars kind = some table) (key : CStr) :
    plg.value kind key = (table.get? key).map JsValue.text := by
  rw [value, entries_of_vars h, VarTable.lookup_texts]

theorem value_of_none (h : plg.vars kind = none) (key : CStr) : plg.value kind key = none := by
  rw [value, entries, h]
  rfl

/-- A variable that is set has its value, unless an object ignores it. -/
theorem value_set {key : CStr} (value k : CStr) (h : plg.script = true →
    key = cstr "__proto__" → (plg.value kind key).isSome = true) :
    (plg.set kind key value).value kind k =
      if (plg.vars kind).isSome ∧ k = key then some value else plg.value kind k := by
  cases hvars : plg.vars kind with
  | none =>
    have hset : (plg.set kind key value).vars kind = none := by simp [set, hvars]
    rw [value_of_none hset, value_of_none hvars]
    simp
  | some table =>
    rw [value_of_vars hvars, Option.isSome_map] at h
    have hset : (plg.set kind key value).vars kind =
        some (if plg.script then setKeyValue table key value
          else table.set key (.held value)) := by
      simp [set, hvars]
    rw [value_of_vars hset, value_of_vars hvars]
    simp only [Option.isSome_some, true_and]
    have hget : (if plg.script then setKeyValue table key value
          else table.set key (JsValue.held value)).get? k =
        if k = key then some (JsValue.held value) else table.get? k := by
      cases hscript : plg.script with
      | false => exact VarTable.get?_set key (JsValue.held value) k
      | true => exact VarTable.get?_put k (h hscript)
    rw [hget]
    by_cases hk : k = key <;> simp [hk, JsValue.text]

theorem get_of_native (h : plg.script = false) (key : CStr) :
    plg.get kind key = .ok (plg.value kind key) := by
  rw [get]
  cases hvars : plg.vars kind with
  | none => rw [value_of_none hvars]
  | some table =>
    rw [value_of_vars hvars]
    simp [h]

theorem get_of_script {table : VarTable JsValue} (h : plg.script = true)
    (hvars : plg.vars kind = some table) (key : CStr) :
    plg.get kind key = (getValue table key).elim (.error .noText) (.ok ∘ some) := by
  rw [get, hvars]
  dsimp only
  rw [if_pos h]
  cases getValue table key <;> rfl

theorem hasText_of_native (h : plg.script = false) (key : CStr) : plg.HasText kind key :=
  fun hscript => absurd (h.symm.trans hscript) Bool.false_ne_true

theorem hasText_iff_of_script {table : VarTable JsValue} {key : CStr} {value : JsValue}
    (h : plg.script = true) (hvars : plg.vars kind = some table)
    (hget : table.get? key = some value) : plg.HasText kind key ↔ value.HasText := by
  simp [HasText, h, hvars, hget]

theorem defined_get_iff {key : CStr} : Defined (plg.get kind key) ↔ plg.HasText kind key := by
  rw [HasText]
  cases hscript : plg.script with
  | false => simp [get_of_native hscript]
  | true =>
    cases hvars : plg.vars kind with
    | none => simp [get, hvars]
    | some table =>
      rw [get_of_script hscript hvars, getValue]
      simp only [forall_const, Option.mem_some_iff, forall_eq']
      cases table.get? key with
      | none => by_cases hkey : key ∈ objectPrototype <;> simp [inherited, hkey]
      | some value =>
        dsimp only
        rw [← JsValue.isSome_read_iff]
        cases value.read <;> simp

end Lemmas

end Plugin

/-! ## The functions of the bot -/

/-- Change the first element that has a property. -/
def modifyFirst {α : Type} (p : α → Bool) (f : α → α) : List α → List α
  | [] => []
  | a :: as => if p a then f a :: as else a :: modifyFirst p f as

namespace Daemon

variable (d : Daemon)

/-- `irc_bot_hook_get` -/
def ircBotHookGet (name : CStr) : Option Hook := d.hooks.find? (·.name == name)

/-- `irc_bot_hook_add` -/
def ircBotHookAdd (h : Hook) : Daemon :=
  if (d.ircBotHookGet h.name).isSome then d else { d with hooks := h :: d.hooks }

/-- `irc_bot_hook_remove` -/
def ircBotHookRemove (name : CStr) : Daemon :=
  { d with hooks := d.hooks.eraseP (·.name == name) }

/-- `irc_bot_plugin_get` -/
def ircBotPluginGet (name : CStr) : Option Plugin := d.plugins.find? (·.name == name)

/-- `irc_bot_plugin_add`: a plugin that does not load is not added. -/
def ircBotPluginAdd (env : PeerEnv) (p : Plugin) : Daemon :=
  if (d.ircBotPluginGet p.name).isSome then d
  else if env.load p then { d with plugins := p :: d.plugins } else d

/-- `irc_bot_plugin_remove` -/
def ircBotPluginRemove (name : CStr) : Daemon :=
  { d with plugins := d.plugins.eraseP (·.name == name) }

/-- `irc_bot_plugin_clear` -/
def ircBotPluginClear : Daemon := { d with plugins := [] }

/-- `irc_bot_rule_insert`. The index is converted to `size_t`. -/
def ircBotRuleInsert (rule : IrcRule) (index : ℤ) : Daemon :=
  let i := (BitVec.ofInt 64 index).toNat
  -- an index that is too large, as that of a negative number is, appends
  { d with rules := d.rules.take i ++ rule :: d.rules.drop i }

/-- `irc_bot_rule_move`. The loop starts at the head of the list, even when that is the rule that
has just been taken off it, and the rule is put behind the one that the loop finds. It becomes the
first one when the loop goes past the end. -/
def ircBotRuleMove (src dst : ℕ) : Daemon :=
  match d.rules[src]? with
  | none => d
  | some rule =>
    if src = dst then d
    else
      let rest := d.rules.eraseIdx src
      let t := if src = 0 then dst - 1 else dst
      if dst = 0 ∨ rest.length ≤ t then { d with rules := rule :: rest }
      else { d with rules := rest.take (t + 1) ++ rule :: rest.drop (t + 1) }

/-- `irc_bot_rule_remove` -/
def ircBotRuleRemove (index : ℕ) : Daemon := { d with rules := d.rules.eraseIdx index }

/-- `irc_bot_server_get` -/
def ircBotServerGet (name : CStr) : Option BotServer := d.servers.find? (·.name == name)

/-- Change the server that `irc_bot_server_get` returns. -/
def modifyServer (name : CStr) (f : BotServer → BotServer) : Daemon :=
  { d with servers := modifyFirst (·.name == name) f d.servers }

/-- `irc_bot_server_clear` -/
def ircBotServerClear : Daemon := { d with servers := [] }

/-- `irc_bot_server_add` -/
def ircBotServerAdd (env : PeerEnv) (s : BotServer) : Daemon :=
  if (d.ircBotServerGet s.name).isSome then d
  else { d with servers := d.servers ++ [s.added env] }

end Daemon

end Irccd
