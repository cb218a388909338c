import Irccd.Server.Sending
import Irccd.Peer.Additions

/-!
# What the commands of the control socket ask for

A request that changes something has been carried out when the change is made, and one that asks
for something when the response has all of it.

* `Command`: the commands, each with its handler;
* `Queued`, `Joining`: what has been done for a server, and exactly when it is done;
* `CarriedOut`: a request has been carried out, by the response and the daemon afterwards.
-/

namespace Irccd

namespace Daemon

/-! ## Commands -/

/-- The commands of the control socket. -/
inductive Command
  | hookAdd
  | hookList
  | hookRemove
  | pluginVars (kind : VarKind)
  | pluginInfo
  | pluginList
  | pluginLoad
  | pluginReload
  | pluginUnload
  | ruleAdd
  | ruleEdit
  | ruleList
  | ruleMove
  | ruleRemove
  | serverConnect
  | serverDisconnect
  | serverInfo
  | serverJoin
  | serverList
  | serverReconnect
  | send (kind : SendKind)
  | watch
  deriving DecidableEq

namespace Command

/-- The word for a command. -/
def name : Command → CStr
  | hookAdd => cstr "HOOK-ADD"
  | hookList => cstr "HOOK-LIST"
  | hookRemove => cstr "HOOK-REMOVE"
  | pluginVars kind => varCommand kind
  | pluginInfo => cstr "PLUGIN-INFO"
  | pluginList => cstr "PLUGIN-LIST"
  | pluginLoad => cstr "PLUGIN-LOAD"
  | pluginReload => cstr "PLUGIN-RELOAD"
  | pluginUnload => cstr "PLUGIN-UNLOAD"
  | ruleAdd => cstr "RULE-ADD"
  | ruleEdit => cstr "RULE-EDIT"
  | ruleList => cstr "RULE-LIST"
  | ruleMove => cstr "RULE-MOVE"
  | ruleRemove => cstr "RULE-REMOVE"
  | serverConnect => cstr "SERVER-CONNECT"
  | serverDisconnect => cstr "SERVER-DISCONNECT"
  | serverInfo => cstr "SERVER-INFO"
  | serverJoin => cstr "SERVER-JOIN"
  | serverList => cstr "SERVER-LIST"
  | serverReconnect => cstr "SERVER-RECONNECT"
  | send kind => kind.name
  | watch => cstr "WATCH"

def handler : Command → Handler
  | hookAdd => fun _ => cmdHookAdd
  | hookList => fun _ d _ => cmdHookList d
  | hookRemove => fun _ => cmdHookRemove
  | pluginVars .config => fun _ => cmdPluginConfig
  | pluginVars .path => fun _ => cmdPluginPath
  | pluginVars .template => fun _ => cmdPluginTemplate
  | pluginInfo => fun _ => cmdPluginInfo
  | pluginList => fun _ d _ => cmdPluginList d
  | pluginLoad => cmdPluginLoad
  | pluginReload => cmdPluginReload
  | pluginUnload => fun _ => cmdPluginUnload
  | ruleAdd => fun _ => cmdRuleAdd
  | ruleEdit => fun _ => cmdRuleEdit
  | ruleList => fun env d _ => cmdRuleList env d
  | ruleMove => fun _ => cmdRuleMove
  | ruleRemove => fun _ => cmdRuleRemove
  | serverConnect => cmdServerConnect
  | serverDisconnect => fun _ => cmdServerDisconnect
  | serverInfo => fun _ => cmdServerInfo
  | serverJoin => fun _ => cmdServerJoin
  | serverList => fun _ d _ => cmdServerList d
  | serverReconnect => cmdServerReconnect
  | send kind => kind.handler
  | watch => fun _ d _ => cmdWatch d

/-- The commands, in the order of the table. -/
def all : List Command :=
  [hookAdd, hookList, hookRemove, pluginVars .config, pluginInfo, pluginList, pluginLoad,
    pluginVars .path, pluginReload, pluginVars .template, pluginUnload, ruleAdd, ruleEdit, ruleList,
    ruleMove, ruleRemove, serverConnect, serverDisconnect, serverInfo, send .invite, serverJoin,
    send .kick, serverList, send .me, send .message, send .mode, send .notice, send .part,
    serverReconnect, send .topic, watch]

/-- The command of a line. -/
def ofLine (line : CStr) : Option Command := all.find? (·.name == firstWord line)

/-- The commands are those of the table. -/
theorem cmds_eq : cmds = all.map fun c => (c.name, c.handler) := rfl

theorem find_eq (line : CStr) : find line = (ofLine line).map fun c => (c.name, c.handler) := by
  rw [find, cmds_eq, List.find?_map]
  rfl

theorem firstWord_of_ofLine {line : CStr} {c : Command} (h : ofLine line = some c) :
    firstWord line = c.name := by
  have hname : c.name = firstWord line := by simpa using List.find?_some h
  exact hname.symm

end Command

/-! ## What a request asks for -/

/-- The one word of a line, which may be missing. -/
def soleWord (line : CStr) : Option CStr := (parse line 1).head?

/-- The line is in the output buffer of the server, behind what was there before. -/
def Queued (s s' : Sys) (text : CStr) : Prop :=
  ∃ co co' : IrcServerCoro, s.server.coroutine = some co ∧ s'.server.coroutine = some co' ∧
    co'.conn.outb.contents = co.conn.outb.contents ++ text ++ crlf

/-- The bot is on the channel already, asks to join it, or will do so with the password once the
server is ready. -/
def Joining (s s' : Sys) (name : CStr) (pass : Option CStr) : Prop :=
  ∃ ch, ircServerChannelsFind s'.server.channels name = some ch ∧ (ch.joined = false →
    if ircServerReady s.server then Queued s s' (joinText name pass) else ch.password = pass)

/-- The bot is on the channel already, or its server is ready and accepts the line, or the server is
not ready and the channel has the password when it is on the list. -/
def JoinCond (server : IrcServer) (name : CStr) (pass : Option CStr) : Prop :=
  match ircServerChannelsFind server.channels name with
  | some ch =>
    ch.joined = true ∨
      if ircServerReady server then
        Accepts server (joinText name pass) ∧ (joinText name pass).length < messageLen
      else ch.password = pass
  | none =>
    ircServerReady server = true →
      Accepts server (joinText name pass) ∧ (joinText name pass).length < messageLen

section Sending

variable {s : Sys} {text name : CStr} {pass : Option CStr}

/-- A line that is accepted and not cut is queued. -/
theorem queued_ircServerSend_iff :
    Queued s (ircServerSend s text).2 text ↔ Accepts s.server text ∧ text.length < messageLen := by
  rcases ircServerSend_cases s text with
    ⟨haccepts, co, co', hco, hcontents, hsend⟩ | ⟨hnot, rc, -, hsend⟩
  · have hcut : sentLine text = text ↔ text.length < messageLen := by
      rw [sentLine, List.take_eq_self_iff, messageLen]
      omega
    rw [hsend, and_iff_right haccepts, ← hcut]
    constructor
    · rintro ⟨_, _, hco₁, ⟨⟩, hqueued⟩
      obtain rfl := Option.some.inj (hco.symm.trans hco₁)
      rw [hcontents, List.append_left_inj, List.append_right_inj] at hqueued
      exact hqueued
    · intro hline
      rw [hline] at hcontents
      exact ⟨co, co', hco, rfl, hcontents⟩
  · rw [hsend]
    refine iff_of_false ?_ fun h => hnot h.1
    rintro ⟨co, co', hco, hco', hqueued⟩
    -- nothing has been added
    obtain rfl := Option.some.inj (hco.symm.trans hco')
    have hlen := congrArg List.length hqueued
    have hcrlf : crlf.length = 2 := by decide
    simp only [List.length_append, hcrlf] at hlen
    omega

/-- A channel that is not on the list is added to it. -/
theorem find_ircChannelNew (channels : List IrcChannel) (name : CStr) (password : Option CStr)
    (joined : Bool) :
    ircServerChannelsFind (ircChannelNew name password joined :: channels) name =
      some (ircChannelNew name password joined) := by
  rw [ircServerChannelsFind, List.find?_cons_of_pos]
  simp [ircChannelNew]

theorem joining_iff_of_find {s' : Sys} {ch : IrcChannel}
    (hfind : ircServerChannelsFind s'.server.channels name = some ch) :
    Joining s s' name pass ↔ (ch.joined = false →
      if ircServerReady s.server then Queued s s' (joinText name pass)
      else ch.password = pass) := by
  simp [Joining, hfind]

theorem joining_ircServerJoin_iff :
    Joining s (ircServerJoin s name pass).2 name pass ↔ JoinCond s.server name pass := by
  rw [JoinCond, ircServerJoin, joinChannel]
  cases hfind : ircServerChannelsFind s.server.channels name with
  | some ch =>
    simp only [Option.isSome_some, if_true, hfind]
    cases hjoined : ch.joined with
    | true =>
      rw [if_neg (by simp), joining_iff_of_find hfind]
      simp [hjoined]
    | false =>
      cases hready : ircServerReady s.server with
      | true =>
        rw [if_pos (by simp), joining_iff_of_find (by rw [ircServerSend_channels, hfind])]
        simp [hjoined, hready, queued_ircServerSend_iff]
      | false =>
        rw [if_neg (by simp), joining_iff_of_find hfind]
        simp [hjoined, hready]
  | none =>
    have hadd : ircServerChannelsAdd s.server.channels name pass false =
        ircChannelNew name pass false :: s.server.channels := by
      simp [ircServerChannelsAdd, hfind]
    simp only [Option.isSome_none, Bool.false_eq_true, if_false, hadd]
    -- the channel is on the list now, and the connection is the same
    generalize hs₁ : s.setChannels (ircChannelNew name pass false :: s.server.channels) = s₁
    have hnew : ircServerChannelsFind s₁.server.channels name =
        some (ircChannelNew name pass false) := hs₁ ▸ find_ircChannelNew _ _ _ _
    have hsame : ircServerReady s₁.server = ircServerReady s.server := hs₁ ▸ rfl
    have hqueued : ∀ s', Queued s s' (joinText name pass) ↔ Queued s₁ s' (joinText name pass) :=
      fun s' => hs₁ ▸ Iff.rfl
    have haccepts : Accepts s.server (joinText name pass) ↔
        Accepts s₁.server (joinText name pass) := hs₁ ▸ Iff.rfl
    rw [hnew]
    dsimp only
    rw [hsame, haccepts]
    cases hready : ircServerReady s.server with
    | true =>
      rw [if_pos (by simp [ircChannelNew]),
        joining_iff_of_find (by rw [ircServerSend_channels, hnew])]
      simp [ircChannelNew, hready, hqueued, queued_ircServerSend_iff]
    | false =>
      rw [if_neg (by simp [ircChannelNew]), joining_iff_of_find hnew]
      simp [ircChannelNew, hready]

end Sending

/-- The server that is made of six words, with a connection. -/
structure ConnectedFor (words : List CStr) (s : BotServer) : Prop where
  name : s.name = words.getD 0 []
  hostname : s.hostname = words.getD 1 []
  port : (s.port.toNat : ℤ) = atoi (words.getD 2 [])
  ssl : s.sys.server.flags.ssl = ((words.getD 2 []).head? == some 43)
  nickname : s.sys.server.nickname = words.getD 3 []
  username : s.sys.server.username = words.getD 4 []
  realname : s.sys.server.realname = words.getD 5 []
  connected : s.sys.server.coroutine.isSome

/-- The names behind `OK`. -/
def listing (names : List CStr) : CStr := cstr "OK " ++ nameList names

/-- The response to `PLUGIN-INFO`. -/
def pluginInfo (plg : Plugin) : CStr :=
  cstr "OK " ++ plg.name ++ [LF] ++ plg.description ++ [LF] ++ plg.version ++ [LF] ++ plg.license ++
    [LF] ++ plg.author

section Requests

variable (env : PeerEnv) (d : Daemon) (line : CStr)

/-- The request has been carried out: what is asked for is in the text of the response, or the
change is made in the daemon `d'`. -/
def CarriedOut (text : CStr) (d' : Daemon) : Command → Prop
  | .hookAdd =>
    ∃ name path, parse line 2 = [name, path] ∧ d' = { d with hooks := ⟨⟨name⟩, path⟩ :: d.hooks }
  | .hookList => text = listing (d.hooks.map (·.name))
  | .hookRemove =>
    ∃ name ∈ soleWord line, (d.ircBotHookGet name).isSome ∧
      d' = { d with hooks := d.hooks.eraseP (·.name == name) }
  | .pluginVars kind =>
    ∃ plg, d.ircBotPluginGet ((parse line 3).getD 0 []) = some plg ∧
      match parse line 3 with
      | [name, key, value] =>
        d' = d.modifyPlugin name (·.set kind key value) ∧
          (plg.set kind key value).value kind key = some value
      | [_, key] => ∃ value, plg.value kind key = some value ∧ text = cstr "OK 1\n" ++ value
      | _ => ∃ vars, vars.Perm (plg.entries kind) ∧ text = varList vars
  | .pluginInfo =>
    ∃ name ∈ soleWord line, ∃ plg, d.ircBotPluginGet name = some plg ∧ text = pluginInfo plg
  | .pluginList => text = listing (d.plugins.map (·.name))
  | .pluginLoad =>
    ∃ name ∈ soleWord line, ∃ plg, env.search name = .ok plg ∧
      d' = { d with plugins := plg :: d.plugins }
  | .pluginReload =>
    match soleWord line with
    | none => d' = { d with plugins := d.plugins.map env.reload }
    | some name => (d.ircBotPluginGet name).isSome ∧ d' = d.modifyPlugin name env.reload
  | .pluginUnload =>
    match soleWord line with
    | none => d' = { d with plugins := [] }
    | some name =>
      (d.ircBotPluginGet name).isSome ∧ d' = { d with plugins := d.plugins.eraseP (·.name == name) }
  | .ruleAdd => ∃ q : AddRequest, q.ReadFrom line ∧ d.AddsRule q ⟨none, [text], d'⟩
  | .ruleEdit =>
    ∃ index rule, ruleEditIndex line = some index ∧ d.rules[index]? = some rule ∧
      (∀ token ∈ editTokens line, (ruleEditOf token).isSome) ∧
      d' = { d with
        rules := d.rules.set index
          (((editTokens line).filterMap ruleEditOf).foldl RuleEdit.apply rule) }
  | .ruleList => text = ruleList d.rules
  | .ruleMove =>
    ∃ src dst rule, (parse line 2).map scanIndex = [some src, some dst] ∧
      d.rules[src]? = some rule ∧
      d' = { d with rules := (d.rules.eraseIdx src).insertIdx (moveGoal d.rules.length dst) rule }
  | .ruleRemove =>
    ∃ word ∈ soleWord line, ∃ index ∈ scanIndex word, index < d.rules.length ∧
      d' = { d with rules := d.rules.eraseIdx index }
  | .serverConnect =>
    (parse line 6).length = 6 ∧ ∃ s, ConnectedFor (parse line 6) s ∧
      d' = { d with servers := d.servers ++ [s] }
  | .serverDisconnect =>
    match soleWord line with
    | none => d' = { d with servers := [] }
    -- the manual says that the server is removed as well
    | some name =>
      (d.ircBotServerGet name).isSome ∧
        d'.servers.map BotServer.name = (d.servers.map BotServer.name).erase name
  | .serverInfo =>
    ∃ name ∈ soleWord line, ∃ s, d.ircBotServerGet name = some s ∧ text = serverInfo s
  | .serverJoin =>
    let words := parse line 3
    2 ≤ words.length ∧ ∃ s s', d.ircBotServerGet (words.getD 0 []) = some s ∧
      Joining s.sys s' (words.getD 1 []) words[2]? ∧
      d' = d.modifyServer (words.getD 0 []) (·.withSys s')
  | .serverList => text = listing (d.servers.map BotServer.name)
  | .serverReconnect =>
    match soleWord line with
    | none =>
      d' = { d with servers := d.servers.map (BotServer.reconnect env) } ∧
        ∀ s ∈ d'.servers, s.sys.server.coroutine.isSome
    | some name =>
      ∃ s, d.ircBotServerGet name = some s ∧ d' = d.modifyServer name (BotServer.reconnect env) ∧
        (s.reconnect env).sys.server.coroutine.isSome
  | .send kind =>
    let words := parse line kind.maxWords
    kind.minWords ≤ words.length ∧ ∃ s s', d.ircBotServerGet (words.getD 0 []) = some s ∧
      Queued s.sys s' (kind.text words) ∧ d' = d.modifyServer (words.getD 0 []) (·.withSys s')
  | .watch => d' = { d with watching := true }

end Requests

end Daemon

end Irccd
