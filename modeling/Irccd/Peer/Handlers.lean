import Irccd.Peer.Daemon

/-!
# The handlers of the control socket (`peer.c`)

Each command has a handler, which answers with lines of text and changes the daemon.

* `Response`: what a handler leaves, its return value included;
* `cmdHookAdd` and the like: the handlers;
* `cmds`, `find` and `invoke`: the table, the handler of a line, and the answer to a line.
-/

namespace Irccd

namespace Daemon

/-- The return value of a handler, the texts that it has given to `peer_push`, and the daemon
afterwards. -/
structure Response where
  er : Option CmdErrno
  out : List CStr
  daemon : Daemon

abbrev Handler := PeerEnv → Daemon → CStr → Except Fault Response

/-! ## Answers -/

section Answers

variable (d : Daemon)

/-- `return er` -/
def fail (er : CmdErrno) : Response := ⟨some er, [], d⟩

/-- `peer_push (p, "%s", text)` -/
def push (text : CStr) : Response := ⟨none, [text], d⟩

/-- `ok` -/
def ok : Response := d.push (cstr "OK")

/-- `error`, on a text that a buffer of `IRC_BUF_LEN` bytes cuts. -/
def error (text : CStr) : Response :=
  let buf := text.take 511
  if buf = [] then ⟨none, [], d⟩ else d.push (cstr "ERROR " ++ buf)

/-- The string in a buffer of so many bytes that `fmemopen` has opened: its last byte is a NUL. -/
def memText (size : ℕ) (text : CStr) : CStr := text.take (size - 1)

/-- `args[i]`, which is NULL when `parse` has not set it. -/
def argument (args : List CStr) (i : ℕ) : Except Fault CStr := ircUtilStrdup args[i]?

/-- `s + n` -/
def advance (s : CStr) (n : ℕ) : Except Fault CStr :=
  if n ≤ s.length then .ok (s.drop n) else .error .pastEnd

/-- A handler that takes between `min` and `max` words. -/
def withArgs (min max : ℕ) (line : CStr) (call : List CStr → Except Fault Response) :
    Except Fault Response :=
  let args := parse line max
  if args.length < min then .ok (d.fail .einval) else call args

/-- `require_server` -/
def requireServer (id : CStr) (call : BotServer → Except Fault Response) : Except Fault Response :=
  match d.ircBotServerGet id with
  | some s => call s
  | none => .ok (d.push (cstr "server " ++ id ++ cstr " not found"))

/-- `require_plugin` -/
def requirePlugin (id : CStr) (call : Plugin → Except Fault Response) : Except Fault Response :=
  match d.ircBotPluginGet id with
  | some plg => call plg
  | none => .ok (d.push (cstr "plugin " ++ id ++ cstr " not found"))

/-- Names with a space between them. -/
def nameList (names : List CStr) : CStr := List.intercalate [SP] names

end Answers

/-! ## Hooks -/

section Handlers

variable (env : PeerEnv) (d : Daemon) (line : CStr)

/-- `cmd_hook_add` -/
def cmdHookAdd : Except Fault Response :=
  d.withArgs 2 2 line fun args => do
    let name ← argument args 0
    let path ← argument args 1
    if (d.ircBotHookGet name).isSome then return d.fail .eexist
    return (d.ircBotHookAdd ⟨⟨name⟩, path⟩).ok

/-- `cmd_hook_list` -/
def cmdHookList : Except Fault Response :=
  .ok (d.push (memText 511 (cstr "OK " ++ nameList (d.hooks.map (·.name)))))

/-- `cmd_hook_remove` -/
def cmdHookRemove : Except Fault Response :=
  d.withArgs 1 1 line fun args => do return (d.ircBotHookRemove (← argument args 0)).ok

/-! ## Plugins -/

/-- The variables that `plugin_list_set` prints, with the texts that it gets for their keys. -/
def listed (plg : Plugin) (kind : VarKind) : Except Fault (List (CStr × CStr)) :=
  (plg.keys kind).mapM fun key => do return (key, (← plg.get kind key).getD [])

/-- The lines of variables, each with its newline. -/
def varLines (vars : List (CStr × CStr)) : CStr :=
  vars.flatMap fun v => v.1 ++ cstr "=" ++ v.2 ++ [LF]

/-- What `plugin_list_set` prints when it has the name of a plugin only. -/
def varList (vars : List (CStr × CStr)) : CStr :=
  cstr "OK " ++ decimal vars.length ++ [LF] ++ varLines vars

/-- Change the plugin that `irc_bot_plugin_get` returns. -/
def modifyPlugin (name : CStr) (f : Plugin → Plugin) : Daemon :=
  { d with plugins := modifyFirst (·.name == name) f d.plugins }

/-- `plugin_list_set` -/
def pluginListSet (kind : VarKind) : Except Fault Response :=
  d.withArgs 1 3 line fun args => do
    d.requirePlugin (← argument args 0) fun plg =>
      match args with
      | [name, key, value] => .ok ((d.modifyPlugin name (·.set kind key value)).ok)
      | [_, key] => do
        match ← plg.get kind key with
        | some value => return d.push (memText 511 (cstr "OK 1\n" ++ value))
        | none => return d.push (cstr "ERROR key not found")
      | _ => do return d.push (memText 511 (varList (← listed plg kind)))

/-- `cmd_plugin_config` -/
def cmdPluginConfig : Except Fault Response := d.pluginListSet line .config

/-- `cmd_plugin_path` -/
def cmdPluginPath : Except Fault Response := d.pluginListSet line .path

/-- `cmd_plugin_template` -/
def cmdPluginTemplate : Except Fault Response := d.pluginListSet line .template

/-- `cmd_plugin_info` -/
def cmdPluginInfo : Except Fault Response :=
  d.withArgs 1 1 line fun args => do
    d.requirePlugin (← argument args 0) fun plg =>
      .ok (d.push (cstr "OK " ++ plg.name ++ [LF] ++ plg.description ++ [LF] ++ plg.version ++
        [LF] ++ plg.license ++ [LF] ++ plg.author))

/-- `cmd_plugin_list` -/
def cmdPluginList : Except Fault Response :=
  .ok (d.push (memText 511 (cstr "OK " ++ nameList (d.plugins.map (·.name)))))

/-- `cmd_plugin_load`: a plugin that is not found has an answer of its own before that of `ok`. -/
def cmdPluginLoad : Except Fault Response :=
  d.withArgs 1 1 line fun args => do
    match env.search (← argument args 0) with
    | .ok plg => return (d.ircBotPluginAdd env plg).ok
    | .error er =>
      return ⟨none, [cstr "could not load plugin: " ++ er, cstr "OK"], d⟩

/-- `cmd_plugin_reload` -/
def cmdPluginReload : Except Fault Response :=
  match parse line 1 with
  | [name] =>
    match d.ircBotPluginGet name with
    | some _ => .ok (d.modifyPlugin name env.reload).ok
    | none => .ok (d.push (cstr "could not reload plugin: " ++ strerror .enoent))
  | _ => .ok ({ d with plugins := d.plugins.map env.reload } : Daemon).ok

/-- `cmd_plugin_unload` -/
def cmdPluginUnload : Except Fault Response :=
  match parse line 1 with
  | [] => .ok d.ircBotPluginClear.ok
  | name :: _ => .ok (d.ircBotPluginRemove name).ok

/-! ## Rules -/

/-- The action at the start of a string. -/
def ruleAction (s : CStr) : Option IrcRuleAction :=
  if strncmp s (cstr "accept") 6 then some .accept
  else if strncmp s (cstr "drop") 4 then some .drop
  else none

/-- The two loops that skip a word and the blanks after it. -/
def skipWord (s : CStr) : CStr := (s.dropWhile (!isspace ·)).dropWhile isspace

/-- `sscanf (line, "word %*s") == EOF`: the line ends before there is a second word. -/
def scanEnds (word line : CStr) : Bool :=
  line.isPrefixOf word || (word.isPrefixOf line && (line.drop word.length).all isspace)

/-- The variable `add` of `cmd_rule_add`, which is not initialised. -/
inductive AddFn
  | uninit
  | null
  | fn (f : IrcRule → CStr → IrcRule)

/-- The functions that add a value to a criterion, by the letter of the criterion. -/
def ruleAddFn (key : UInt8) : Option (IrcRule → CStr → IrcRule) :=
  if key = 99 then some ircRuleAddChannel
  else if key = 101 then some ircRuleAddEvent
  else if key = 111 then some ircRuleAddOrigin
  else if key = 112 then some ircRuleAddPlugin
  else if key = 115 then some ircRuleAddServer
  else none

/-- The functions that remove a value from a criterion. -/
def ruleRemoveFn (key : UInt8) : Option (IrcRule → CStr → IrcRule) :=
  if key = 99 then some ircRuleRemoveChannel
  else if key = 101 then some ircRuleRemoveEvent
  else if key = 111 then some ircRuleRemoveOrigin
  else if key = 112 then some ircRuleRemovePlugin
  else if key = 115 then some ircRuleRemoveServer
  else none

/-- The `switch` of `cmd_rule_add`. The letter `i` gives the index and leaves `add` alone. -/
def ruleAddToken (add : AddFn) (index : ℤ) : CStr → Except Fault (Except CmdErrno (AddFn × ℤ))
  | [] => .ok (.error .einval)
  | key :: token =>
    if key = 105 then do
      let value ← advance (key :: token) 2
      return (ircUtilStoi value).map fun index => (add, index)
    else .ok (.ok ((ruleAddFn key).elim .null .fn, index))

/-- `if (add) add (rule, token + 2)` -/
def AddFn.call (add : AddFn) (rule : IrcRule) (token : CStr) : Except Fault IrcRule :=
  match add with
  | uninit => .error .badPointer
  | null => .ok rule
  | fn f => (advance token 2).map (f rule)

/-- The loop of `cmd_rule_add`: the rule and its index, or the code of an error. -/
def ruleAddLoop : AddFn → IrcRule → ℤ → List CStr → Except Fault (Except CmdErrno (IrcRule × ℤ))
  | _, rule, index, [] => .ok (.ok (rule, index))
  | add, rule, index, token :: ts => do
    match ← ruleAddToken add index token with
    | .error er => return .error er
    | .ok (add, index) => ruleAddLoop add (← add.call rule token) index ts

/-- `cmd_rule_add` -/
def cmdRuleAdd : Except Fault Response :=
  if scanEnds (cstr "RULE-ADD") line then .ok (d.fail .einval)
  else do
    let line ← advance line 9
    match ruleAction line with
    | none => return d.error (cstr "invalid action")
    | some act =>
      match ← ruleAddLoop .uninit (ircRuleNew act) (-1) (tokens SP (skipWord line)) with
      | .ok (rule, index) => return (d.ircBotRuleInsert rule index).ok
      | .error er => return d.error (strerror er)

/-- How `cmd_rule_edit` ends. -/
inductive Ending
  | ok
  | fail (er : CmdErrno)
  | error (text : CStr)
  deriving DecidableEq

/-- The answer of a handler that ends so. -/
def finish : Ending → Response
  | .ok => d.ok
  | .fail er => d.fail er
  | .error text => d.error text

/-- The body of the loop of `cmd_rule_edit`, which goes on when it ends well. -/
def ruleEditToken (rule : IrcRule) : CStr → IrcRule × Ending
  | key :: attr :: value =>
    if key = 97 then
      if attr ≠ 61 then (rule, .fail .einval)
      else
        match ruleAction value with
        | some action => ({ rule with action }, .ok)
        | none => (rule, .error (cstr "invalid action"))
    else
      match ruleAddFn key, ruleRemoveFn key with
      | some add, some remove =>
        -- a plus or a minus sign
        if attr = 43 then (add rule value, .ok)
        else if attr = 45 then (remove rule value, .ok)
        else (rule, .fail .einval)
      | _, _ => (rule, .fail .einval)
  | _ => (rule, .fail .einval)

/-- The loop of `cmd_rule_edit`: what has been done before an error stays. -/
def ruleEditLoop (rule : IrcRule) : List CStr → IrcRule × Ending
  | [] => (rule, .ok)
  | token :: ts =>
    match ruleEditToken rule token with
    | (rule, .ok) => ruleEditLoop rule ts
    | result => result

/-- `sscanf (line, "RULE-EDIT %zu", &index)`, when it gives 1. -/
def ruleEditIndex (line : CStr) : Option ℕ :=
  if (cstr "RULE-EDIT").isPrefixOf line then scanSize (line.drop 9) else none

/-- `cmd_rule_edit` -/
def cmdRuleEdit : Except Fault Response :=
  match ruleEditIndex line with
  | none => .ok (d.fail .einval)
  | some index =>
    match d.rules[index]? with
    | none => .ok (d.fail .erange)
    | some rule => do
      let line ← advance line 10
      let (rule, ending) := ruleEditLoop rule (tokens SP (skipWord line))
      return ({ d with rules := d.rules.set index rule } : Daemon).finish ending

/-- The lines of a rule, each with its newline. -/
def ruleLines (rule : IrcRule) : CStr :=
  (if rule.action = .accept then cstr "accept" else cstr "drop") ++ [LF] ++
    nameList rule.servers ++ [LF] ++ nameList rule.channels ++ [LF] ++
    nameList rule.origins ++ [LF] ++ nameList rule.plugins ++ [LF] ++ nameList rule.events ++ [LF]

/-- What `cmd_rule_list` prints. -/
def ruleList (rules : List IrcRule) : CStr :=
  cstr "OK " ++ decimal rules.length ++ [LF] ++ rules.flatMap ruleLines

/-- `cmd_rule_list`. The stream has no error before its own buffer is full. -/
def cmdRuleList : Except Fault Response :=
  let text := ruleList d.rules
  if 512 < text.length ∧ env.bufsiz < text.length then .ok (d.fail .emsgsize)
  else .ok (d.push (memText 512 text))

/-- `irc_util_stoi (s, &n) < 0 || n < 0`, when it is false. -/
def scanIndex (s : CStr) : Option ℕ :=
  match ircUtilStoi s with
  | .ok n => if n < 0 then none else some n.toNat
  | .error _ => none

/-- `cmd_rule_move` -/
def cmdRuleMove : Except Fault Response :=
  d.withArgs 2 2 line fun args => do
    match scanIndex (← argument args 0), scanIndex (← argument args 1) with
    | some src, some dst =>
      if d.rules.length ≤ src then return d.fail .erange
      return (d.ircBotRuleMove src dst).ok
    | _, _ => return d.fail .erange

/-- `cmd_rule_remove` -/
def cmdRuleRemove : Except Fault Response :=
  d.withArgs 1 1 line fun args => do
    match scanIndex (← argument args 0) with
    | some index =>
      if d.rules.length ≤ index then return d.fail .erange
      return (d.ircBotRuleRemove index).ok
    | none => return d.fail .erange

/-! ## Servers -/

/-- The process ends when an assertion of `libev` has failed. -/
def settle (sys : Sys) : Except Fault Unit := if sys.aborted then .error .assertion else .ok ()

/-- A command on a server, which is the first of its words. -/
def withServer (min max : ℕ) (call : BotServer → List CStr → Except Fault Sys) :
    Except Fault Response :=
  d.withArgs min max line fun args => do
    let id ← argument args 0
    d.requireServer id fun s => do
      let sys ← call s args
      settle sys
      return (d.modifyServer id (·.withSys sys)).ok

/-- The server that `cmd_server_connect` makes of its words. `irc_server_connect`, which is called
in the end, asserts that the port is not zero. -/
def newServer (env : PeerEnv) (args : List CStr) : Except Fault BotServer := do
  let name ← argument args 0
  let hostname ← argument args 1
  let port ← argument args 2
  let nickname ← argument args 3
  let username ← argument args 4
  let realname ← argument args 5
  let server := ircServerNew name nickname username realname
  -- a plus sign before the port
  let ssl := port.head? == some 43
  let sys := (Sys.start { server with flags := { server.flags with ssl } }).beside (env.left name)
  let port := atoiUnsigned port
  if h : port ≠ 0 then return ⟨sys, hostname, port, h⟩ else throw .assertion

/-- `cmd_server_connect` -/
def cmdServerConnect : Except Fault Response :=
  d.withArgs 6 6 line fun args => do
    if (d.ircBotServerGet (← argument args 0)).isSome then return d.fail .eexist
    let s ← newServer env args
    settle (s.added env).sys
    return (d.ircBotServerAdd env s).ok

/-- `cmd_server_disconnect` -/
def cmdServerDisconnect : Except Fault Response :=
  match parse line 1 with
  | [id] => d.requireServer id fun _ => .ok (d.modifyServer id BotServer.disconnect).ok
  | _ => .ok d.ircBotServerClear.ok

/-- `cmd_server_reconnect` -/
def cmdServerReconnect : Except Fault Response :=
  match parse line 1 with
  | [id] =>
    d.requireServer id fun s => do
      settle (s.reconnect env).sys
      return (d.modifyServer id (BotServer.reconnect env)).ok
  | _ => do
    d.servers.forM fun s => settle (s.reconnect env).sys
    return ({ d with servers := d.servers.map (BotServer.reconnect env) } : Daemon).ok

/-- `cmd_server_message` -/
def cmdServerMessage : Except Fault Response :=
  d.withServer line 3 3 fun s args => do
    return (ircServerMessage s.sys (← argument args 1) (← argument args 2)).2

/-- `cmd_server_me` -/
def cmdServerMe : Except Fault Response :=
  d.withServer line 3 3 fun s args => do
    return (ircServerMe s.sys (← argument args 1) (← argument args 2)).2

/-- `cmd_server_mode` -/
def cmdServerMode : Except Fault Response :=
  d.withServer line 3 4 fun s args => do
    return (ircServerMode s.sys (← argument args 1) (← argument args 2) args[3]?).2

/-- `cmd_server_notice` -/
def cmdServerNotice : Except Fault Response :=
  d.withServer line 3 3 fun s args => do
    return (ircServerNotice s.sys (← argument args 1) (← argument args 2)).2

/-- `cmd_server_invite` -/
def cmdServerInvite : Except Fault Response :=
  d.withServer line 3 3 fun s args => do
    return (ircServerInvite s.sys (← argument args 1) (← argument args 2)).2

/-- `cmd_server_join` -/
def cmdServerJoin : Except Fault Response :=
  d.withServer line 2 3 fun s args => do
    return (ircServerJoin s.sys (← argument args 1) args[2]?).2

/-- `cmd_server_kick` reads `args[3][0]` although there may be three words. -/
def cmdServerKick : Except Fault Response :=
  d.withServer line 3 4 fun s args => do
    let reason ← unlessEmpty args[3]?
    return (ircServerKick s.sys (← argument args 1) (← argument args 2) reason).2

/-- `cmd_server_part` reads `args[2][0]` although there may be two words. -/
def cmdServerPart : Except Fault Response :=
  d.withServer line 2 3 fun s args => do
    let reason ← unlessEmpty args[2]?
    return (ircServerPart s.sys (← argument args 1) reason).2

/-- `cmd_server_topic` -/
def cmdServerTopic : Except Fault Response :=
  d.withServer line 3 3 fun s args => do
    return (ircServerTopic s.sys (← argument args 1) (← argument args 2)).2

/-- The symbols of the modes that a nickname has on a channel. -/
def modeSymbols (server : IrcServer) (c : IrcChannel) : CStr :=
  match ircChannelGet c server.nickname with
  | some user =>
    (server.prefixes.zipIdx.filter fun u => user.modes.getLsbD u.2).map (·.1.symbol)
  | none => []

/-- How `cmd_server_info` shows a channel. -/
def channelInfo (server : IrcServer) (c : IrcChannel) : CStr :=
  modeSymbols server c ++ if c.joined then c.name else cstr "(" ++ c.name ++ cstr ")"

/-- What `cmd_server_info` prints. -/
def serverInfo (s : BotServer) : CStr :=
  let server := s.sys.server
  cstr "OK " ++ server.name ++ [LF] ++
    s.hostname ++ [SP] ++ decimal s.port.toNat ++
      (if server.flags.ssl then cstr " ssl" else []) ++ [LF] ++
    server.nickname ++ [SP] ++ server.username ++ [SP] ++ server.realname ++ [LF] ++
    nameList (server.channels.map (channelInfo server))

/-- `cmd_server_info` -/
def cmdServerInfo : Except Fault Response :=
  d.withArgs 1 1 line fun args => do
    d.requireServer (← argument args 0) fun s => .ok (d.push (memText 511 (serverInfo s)))

/-- `cmd_server_list` -/
def cmdServerList : Except Fault Response :=
  .ok (d.push (memText 512 (cstr "OK " ++ nameList (d.servers.map BotServer.name))))

/-- `cmd_watch` -/
def cmdWatch : Except Fault Response := .ok ({ d with watching := true } : Daemon).ok

end Handlers

/-! ## The table -/

/-- `cmds` -/
def cmds : List (CStr × Handler) :=
  [(cstr "HOOK-ADD", fun _ => cmdHookAdd),
    (cstr "HOOK-LIST", fun _ d _ => cmdHookList d),
    (cstr "HOOK-REMOVE", fun _ => cmdHookRemove),
    (cstr "PLUGIN-CONFIG", fun _ => cmdPluginConfig),
    (cstr "PLUGIN-INFO", fun _ => cmdPluginInfo),
    (cstr "PLUGIN-LIST", fun _ d _ => cmdPluginList d),
    (cstr "PLUGIN-LOAD", cmdPluginLoad),
    (cstr "PLUGIN-PATH", fun _ => cmdPluginPath),
    (cstr "PLUGIN-RELOAD", cmdPluginReload),
    (cstr "PLUGIN-TEMPLATE", fun _ => cmdPluginTemplate),
    (cstr "PLUGIN-UNLOAD", fun _ => cmdPluginUnload),
    (cstr "RULE-ADD", fun _ => cmdRuleAdd),
    (cstr "RULE-EDIT", fun _ => cmdRuleEdit),
    (cstr "RULE-LIST", fun env d _ => cmdRuleList env d),
    (cstr "RULE-MOVE", fun _ => cmdRuleMove),
    (cstr "RULE-REMOVE", fun _ => cmdRuleRemove),
    (cstr "SERVER-CONNECT", cmdServerConnect),
    (cstr "SERVER-DISCONNECT", fun _ => cmdServerDisconnect),
    (cstr "SERVER-INFO", fun _ => cmdServerInfo),
    (cstr "SERVER-INVITE", fun _ => cmdServerInvite),
    (cstr "SERVER-JOIN", fun _ => cmdServerJoin),
    (cstr "SERVER-KICK", fun _ => cmdServerKick),
    (cstr "SERVER-LIST", fun _ d _ => cmdServerList d),
    (cstr "SERVER-ME", fun _ => cmdServerMe),
    (cstr "SERVER-MESSAGE", fun _ => cmdServerMessage),
    (cstr "SERVER-MODE", fun _ => cmdServerMode),
    (cstr "SERVER-NOTICE", fun _ => cmdServerNotice),
    (cstr "SERVER-PART", fun _ => cmdServerPart),
    (cstr "SERVER-RECONNECT", cmdServerReconnect),
    (cstr "SERVER-TOPIC", fun _ => cmdServerTopic),
    (cstr "WATCH", fun _ d _ => cmdWatch d)]

/-- `find` -/
def find (line : CStr) : Option (CStr × Handler) := cmds.find? (·.1 == firstWord line)

/-- In a list without duplicate keys the element with a key is found by it. -/
theorem find?_key_eq_some {α β : Type} [BEq β] [LawfulBEq β] {key : α → β} {l : List α} {a : α}
    (hnodup : (l.map key).Nodup) (ha : a ∈ l) : l.find? (key · == key a) = some a := by
  obtain ⟨before, after, rfl⟩ := List.append_of_mem ha
  rw [List.map_append, List.map_cons] at hnodup
  refine List.find?_eq_some_iff_append.2 ⟨by simp, before, after, rfl, fun e he => ?_⟩
  have hne : key e ≠ key a := fun hsame =>
    List.disjoint_of_nodup_append hnodup (List.mem_map_of_mem he) (by simp [hsame])
  simpa using hne

/-- No two commands have the same name. -/
theorem cmds_nodup : (cmds.map Prod.fst).Nodup := by decide +kernel

/-- A command of the table is found. -/
theorem find_eq_some {entry : CStr × Handler} {line : CStr} (hentry : entry ∈ cmds)
    (hline : firstWord line = entry.1) : find line = some entry := by
  unfold find
  rw [hline]
  exact find?_key_eq_some cmds_nodup hentry

/-- `invoke` -/
def invoke (env : PeerEnv) (d : Daemon) (line : CStr) : Except Fault Response :=
  match find line with
  | none => .ok (d.push (cstr "command not found"))
  | some (_, call) => do
    let r ← call env d line
    match r.er with
    | some er => return { r with out := r.out ++ [strerror er] }
    | none => return r

/-- A command whose handler returns zero. -/
theorem invoke_eq_ok {env : PeerEnv} {d : Daemon} {line : CStr} {entry : CStr × Handler}
    {r : Response} (hentry : entry ∈ cmds) (hline : firstWord line = entry.1)
    (hcall : entry.2 env d line = .ok r) (her : r.er = none) : invoke env d line = .ok r := by
  rw [invoke, find_eq_some hentry hline]
  dsimp only
  rw [hcall, ok_bind, her]
  rfl

/-- A command whose handler returns a code. -/
theorem invoke_eq_fail {env : PeerEnv} {d : Daemon} {line : CStr} {entry : CStr × Handler}
    {r : Response} {er : CmdErrno} (hentry : entry ∈ cmds) (hline : firstWord line = entry.1)
    (hcall : entry.2 env d line = .ok r) (her : r.er = some er) :
    invoke env d line = .ok { r with out := r.out ++ [strerror er] } := by
  rw [invoke, find_eq_some hentry hline]
  dsimp only
  rw [hcall, ok_bind, her]
  rfl

end Daemon

end Irccd
