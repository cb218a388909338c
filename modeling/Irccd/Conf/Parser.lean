import Irccd.Conf.Queue
import Irccd.Peer.Daemon

/-!
# The parser of the configuration file (`conf.c`)

The parser is the other coroutine. It fills `struct conf`, section by section, and stops for good
when it takes the token behind the last one.

* `Conf`: what the parser has read;
* `Parser`: what the parser does, as a program that asks for tokens and for the `Conf`;
* `confParseLog` and the like: one function for each section;
* `confParserEntry`, `confOpen`: the whole file.

The loops of the parser have as many rounds as the model gives them.
-/

namespace Irccd

open Programs

/-! ## The configuration -/

/-- `enum log_type` -/
inductive LogType
  | console
  | file
  | syslog
  deriving DecidableEq

/-- `struct irc_server`, as far as the configuration sets it. -/
structure ConfServer where
  name : CStr
  hostname : Option CStr := none
  port : BitVec 32 := 6667
  /-- The command prefix. -/
  pfx : CStr := cstr "!"
  nickname : Option CStr := none
  username : Option CStr := none
  realname : Option CStr := none
  password : Option CStr := none
  ctcpVersion : CStr := cstr "IRC Client Daemon"
  ctcpSource : CStr := cstr "http://hg.malikania.fr/irccd"
  flags : IrcServerFlags := {}
  channels : List IrcChannel := []
  deriving DecidableEq

/-- The fields of `struct conf` that belong to the parser. -/
structure Conf where
  servers : List ConfServer := []
  hooks : List Hook := []
  plugins : List Plugin := []
  rules : List IrcRule := []
  tptUid : ℤ := 0
  tptGid : ℤ := 0
  tpt : Option CStr := none
  logType : LogType := .console
  logLevel : ℤ := 0
  logTemplate : Option CStr := none
  logFile : Option CStr := none

/-- What the system and the bot answer. -/
structure ConfEnv where
  /-- `getpwnam`, the user id. -/
  getpwnam : CStr → Option ℤ
  /-- `getgrnam`, the group id. -/
  getgrnam : CStr → Option ℤ
  /-- `irc_bot_plugin_get (name) != NULL` -/
  loaded : CStr → Bool
  /-- `irc_bot_plugin_search` -/
  search : CStr → Option CStr → Option Plugin

namespace ConfServer

/-- `irc_server_join`, without a connection. -/
def join (server : ConfServer) (name : CStr) (pass : Option CStr) : ConfServer :=
  if (ircServerChannelsFind server.channels name).isSome then server
  else { server with channels := ircServerChannelsAdd server.channels name pass false }

/-- `irc_server_set_ctcp` -/
def setCtcp (server : ConfServer) (key value : CStr) : ConfServer :=
  if strcasecmp key (cstr "version") then { server with ctcpVersion := value }
  else if strcasecmp key (cstr "source") then { server with ctcpSource := value }
  else server

end ConfServer

/-! ## The parser as a program -/

/-- What the parser asks for: an operation on the tokens, or `struct conf`. -/
inductive Request
  | op (op : Op)
  | get
  | set (conf : Conf)

/-- The answers. -/
def Reply : Request → Type
  | .op _ => Bool × Token CStr
  | .get => Conf
  | .set _ => Unit

/-- What the parser does, and what it returns. -/
abbrev Parser (α : Type) : Type := Program Request Reply Halt α

/-- The string of a token. -/
def Token.string (token : Token CStr) : CStr := token.data.getD []

/-- An operation on the tokens. -/
def operate (op : Op) : Parser (Bool × Token CStr) := Program.query (Request.op op)

/-- `struct conf` -/
def getConf : Parser Conf := Program.query Request.get

/-- Change `struct conf`. -/
def modifyConf (f : Conf → Conf) : Parser Unit := do
  let conf ← getConf
  Program.query (Request.set (f conf))

/-- `conf_fatal` -/
def confFatal {α : Type} (message : CStr) : Parser α := .fail (.fatal message)

/-- `conf_next` -/
def confNext : Parser (Token CStr) := do
  let (_, token) ← operate .next
  return token

/-- `conf_next_is` -/
def confNextIs (type : TokenType) : Parser (Bool × Token CStr) := operate (.nextIs type)

/-- `conf_string_is` -/
def confStringIs (what : CStr) : Parser Bool := do
  let (rc, _) ← operate (.stringIs what)
  return rc

/-- `conf_string` and `conf_string_new` -/
def confString : Parser CStr := do
  let (_, token) ← operate .string
  return token.string

/-- `conf_begin_is` -/
def confBeginIs : Parser Bool := do
  let (rc, _) ← operate .beginIs
  return rc

/-- `conf_int` -/
def confInt : Parser ℤ := do
  let token ← confString
  match ircUtilStoi token with
  | .ok n => return n
  | .error _ => confFatal (cstr "number expected")

/-- `conf_keyword` -/
def confKeyword (keyword : CStr) : Parser Unit := do
  let rc ← confStringIs keyword
  if rc then return () else confFatal (cstr "keyword '" ++ keyword ++ cstr "' expected")

/-- `conf_begin` -/
def confBegin : Parser Unit := do
  let token ← confNext
  if token.type = .blkBegin then return ()
  else confFatal (cstr "expected '" ++ [TokenType.blkBegin.char] ++ cstr "' block start")

/-- `conf_end` -/
def confEnd : Parser Unit := do
  let token ← confNext
  if token.type = .blkEnd then return ()
  else confFatal (cstr "expected '" ++ [TokenType.blkEnd.char] ++ cstr "' block end")

/-- A loop over keys and values: `while (conf_next_is (conf, &token, TOKEN_STRING))`, with
`conf_string` for the value. -/
def confPairs {σ : Type} (set : σ → CStr → CStr → σ) : ℕ → σ → Parser σ
  | 0, _ => .fail .fuel
  | n + 1, s => do
    let (rc, token) ← confNextIs .string
    if rc then
      let value ← confString
      confPairs set n (set s token.string value)
    else return s

/-! ## Logs -/

/-- `[verbose|quiet]` -/
def confLogLevel : Parser Unit := do
  let verbose ← confStringIs (cstr "verbose")
  if verbose then modifyConf fun conf => { conf with logLevel := 1 }
  else
    let quiet ← confStringIs (cstr "quiet")
    if quiet then modifyConf fun conf => { conf with logLevel := 0 } else return ()

/-- `[template fmt]` -/
def confLogTemplate : Parser Unit := do
  let template ← confStringIs (cstr "template")
  if template then
    let fmt ← confString
    modifyConf fun conf => { conf with logTemplate := some fmt }
  else return ()

/-- `console|syslog|file path` -/
def confLogSink : Parser Unit := do
  let console ← confStringIs (cstr "console")
  if console then modifyConf fun conf => { conf with logType := .console }
  else
    let syslog ← confStringIs (cstr "syslog")
    if syslog then modifyConf fun conf => { conf with logType := .syslog }
    else
      let file ← confStringIs (cstr "file")
      if file then
        modifyConf fun conf => { conf with logType := .file }
        let path ← confString
        modifyConf fun conf => { conf with logFile := some path }
      else confFatal (cstr "invalid log sink")

/-- `conf_parse_log` -/
def confParseLog : Parser Unit := do
  confLogLevel
  confLogTemplate
  confKeyword (cstr "to")
  confLogSink

/-! ## Transport -/

/-- `conf_resolve_uid` and `conf_resolve_gid` -/
def confResolve (lookup : CStr → Option ℤ) (what value : CStr) : Parser ℤ :=
  match ircUtilStoi value with
  | .ok n => return n
  | .error _ =>
    match lookup value with
    | some n => return n
    | none => confFatal (cstr "invalid " ++ what ++ cstr ": " ++ value)

/-- `conf_resolve_uid` -/
def confResolveUid (env : ConfEnv) (value : CStr) : Parser ℤ :=
  confResolve env.getpwnam (cstr "uid") value

/-- `conf_resolve_gid` -/
def confResolveGid (env : ConfEnv) (value : CStr) : Parser ℤ :=
  confResolve env.getgrnam (cstr "gid") value

/-- `[with uid value gid value]` -/
def confTransportOwner (env : ConfEnv) : Parser Unit := do
  let owner ← confStringIs (cstr "with")
  if owner then
    confKeyword (cstr "uid")
    let value ← confString
    let uid ← confResolveUid env value
    modifyConf fun conf => { conf with tptUid := uid }
    confKeyword (cstr "gid")
    let value ← confString
    let gid ← confResolveGid env value
    modifyConf fun conf => { conf with tptGid := gid }
  else modifyConf fun conf => { conf with tptUid := -1, tptGid := -1 }

/-- `conf_parse_transport` -/
def confParseTransport (env : ConfEnv) : Parser Unit := do
  let conf ← getConf
  if conf.tpt.isSome then confFatal (cstr "transport already defined")
  else
    confTransportOwner env
    confKeyword (cstr "to")
    let path ← confString
    modifyConf fun conf => { conf with tpt := some path }

/-! ## Hooks -/

/-- `conf_parse_hook` -/
def confParseHook : Parser Unit := do
  let name ← confString
  let conf ← getConf
  if conf.hooks.any (·.name == name) then
    confFatal (cstr "hook '" ++ name ++ cstr "' already exists")
  else
    confKeyword (cstr "to")
    let path ← confString
    modifyConf fun conf => { conf with hooks := conf.hooks ++ [{ name, path }] }

/-! ## Servers -/

section Server

variable (server : ConfServer)

def confParseServerHostname : Parser ConfServer := do
  let hostname ← confString
  return { server with hostname := some hostname }

/-- A number, as `%lld` prints it. -/
def decimalInt (n : ℤ) : CStr :=
  if n < 0 then cstr "-" ++ decimal n.natAbs else decimal n.natAbs

/-- The ports that `conf_parse_server_port` accepts: `UINT16_MAX` is not one of them. -/
def PortAccepted (port : ℤ) : Prop := ¬ (port ≤ 0 ∨ 65535 ≤ port)

instance (port : ℤ) : Decidable (PortAccepted port) := inferInstanceAs (Decidable (¬ _))

def confParseServerPort : Parser ConfServer := do
  let port ← confInt
  if PortAccepted port then return { server with port := BitVec.ofInt 32 port }
  else confFatal (cstr "invalid port range '" ++ decimalInt port ++ cstr "'")

def confParseServerPrefix : Parser ConfServer := do
  let pfx ← confString
  return { server with pfx }

def confParseServerIdent : Parser ConfServer := do
  let nickname ← confString
  let username ← confString
  let realname ← confString
  return { server with
    nickname := some nickname, username := some username, realname := some realname }

def confParseServerPassword : Parser ConfServer := do
  let password ← confString
  return { server with password := some password }

def confParseServerJoin : Parser ConfServer := do
  let protect ← confStringIs (cstr "with")
  if protect then
    confKeyword (cstr "password")
    let channel ← confString
    let password ← confString
    return server.join channel (some password)
  else
    let channel ← confString
    return server.join channel none

def confParseServerCtcp (n : ℕ) : Parser ConfServer := do
  confBegin
  let server ← confPairs ConfServer.setCtcp n server
  confEnd
  return server

def confParseServerSsl : Parser ConfServer :=
  return { server with flags := { server.flags with ssl := true } }

/-- The flag of an option of `conf_parse_server_options`. -/
def serverOption (flags : IrcServerFlags) (name : CStr) : Option IrcServerFlags :=
  if name = cstr "AUTO-REJOIN" then some { flags with autoRejoin := true }
  else if name = cstr "JOIN-INVITE" then some { flags with joinInvite := true }
  else none

/-- The options go on up to the end of a block, and the block has no beginning. -/
def confParseServerOptions : ℕ → ConfServer → Parser ConfServer
  | 0, _ => .fail .fuel
  | n + 1, server => do
    let token ← confNext
    if token.type = .string then
      match serverOption server.flags token.string with
      | some flags => confParseServerOptions n { server with flags }
      | none => confFatal (cstr "invalid server option '" ++ token.string ++ cstr "'")
    else if token.type = .blkEnd then return server
    else confFatal (cstr "unterminated server options list")

/-- A directive of `conf_parse_server`, whose name has been read. -/
def confServerDirective (n : ℕ) (name : CStr) : Parser ConfServer :=
  if name = cstr "hostname" then confParseServerHostname server
  else if name = cstr "port" then confParseServerPort server
  else if name = cstr "prefix" then confParseServerPrefix server
  else if name = cstr "ident" then confParseServerIdent server
  else if name = cstr "password" then confParseServerPassword server
  else if name = cstr "join" then confParseServerJoin server
  else if name = cstr "ctcp" then confParseServerCtcp server n
  else if name = cstr "ssl" then confParseServerSsl server
  else if name = cstr "options" then confParseServerOptions n server
  -- another name is passed over
  else return server

/-- The checks at the end of `conf_parse_server`. -/
def ConfServer.check : Except CStr Unit :=
  if server.hostname.isNone then .error (cstr "no hostname set")
  else if server.port = 0 then .error (cstr "no port set")
  else if server.nickname.isNone ∨ server.username.isNone ∨ server.realname.isNone then
    .error (cstr "no ident set")
  else .ok ()

end Server

/-- The loop of `conf_parse_server`. -/
def confServerDirectives (rounds : ℕ) : ℕ → ConfServer → Parser ConfServer
  | 0, _ => .fail .fuel
  | n + 1, server => do
    let (rc, token) ← confNextIs .string
    if rc then
      let server ← confServerDirective server rounds token.string
      confServerDirectives rounds n server
    else return server

/-- `conf_parse_server` -/
def confParseServer (n : ℕ) : Parser Unit := do
  let name ← confString
  let conf ← getConf
  if conf.servers.any (·.name == name) then
    confFatal (cstr "server '" ++ name ++ cstr "' already exists")
  else
    confBegin
    let server ← confServerDirectives n n { name }
    confEnd
    match server.check with
    | .error message => confFatal message
    | .ok () => modifyConf fun conf => { conf with servers := conf.servers ++ [server] }

/-! ## Rules -/

/-- The function that adds a value to a criterion. -/
def ruleAdder (criteria : CStr) : Option (IrcRule → CStr → IrcRule) :=
  if criteria = cstr "servers" then some ircRuleAddServer
  else if criteria = cstr "channels" then some ircRuleAddChannel
  else if criteria = cstr "origins" then some ircRuleAddOrigin
  else if criteria = cstr "plugins" then some ircRuleAddPlugin
  else if criteria = cstr "events" then some ircRuleAddEvent
  else none

/-- The loop of `conf_parse_rule_criteria`: a value without a comma behind it is the last one. -/
def confRuleValues (adder : IrcRule → CStr → IrcRule) : ℕ → IrcRule → Parser IrcRule
  | 0, _ => .fail .fuel
  | n + 1, rule => do
    let (rc, token) ← confNextIs .string
    if rc then
      let (comma, _) ← confNextIs .comma
      if comma then confRuleValues adder n (adder rule token.string)
      else return adder rule token.string
    else return rule

/-- `conf_parse_rule_criteria` -/
def confParseRuleCriteria (n : ℕ) (rule : IrcRule) (criteria : CStr) : Parser IrcRule :=
  match ruleAdder criteria with
  | none => confFatal (cstr "invalid rule criteria '" ++ criteria ++ cstr "'")
  | some adder => do
    confBegin
    let rule ← confRuleValues adder n rule
    confEnd
    return rule

/-- The loop of `conf_parse_rule`, up to the end of the block. -/
def confRuleBlock (rounds : ℕ) : ℕ → IrcRule → Parser IrcRule
  | 0, _ => .fail .fuel
  | n + 1, rule => do
    let token ← confNext
    if token.type = .string then
      let rule ← confParseRuleCriteria rounds rule token.string
      confRuleBlock rounds n rule
    else if token.type = .blkEnd then return rule
    else confFatal (cstr "unterminated rule block")

/-- `accept|drop` -/
def confRuleAction : Parser IrcRuleAction := do
  let accept ← confStringIs (cstr "accept")
  if accept then return .accept
  else
    let drop ← confStringIs (cstr "drop")
    if drop then return .drop else confFatal (cstr "invalid action")

/-- `[{ criteria }]` -/
def confRuleBody (n : ℕ) (rule : IrcRule) : Parser IrcRule := do
  let (block, _) ← confNextIs .blkBegin
  if block then confRuleBlock n n rule else return rule

/-- `conf_parse_rule` -/
def confParseRule (n : ℕ) : Parser Unit := do
  let action ← confRuleAction
  let rule ← confRuleBody n (ircRuleNew action)
  modifyConf fun conf => { conf with rules := conf.rules ++ [rule] }

/-! ## Plugins -/

/-- The variables that a directive of a plugin block sets. -/
def pluginSetter (what : CStr) : Option VarKind :=
  if what = cstr "config" then some .config
  else if what = cstr "path" ∨ what = cstr "paths" then some .path
  else if what = cstr "template" then some .template
  else none

/-- `conf_parse_plugin_options` -/
def confParsePluginOptions (n : ℕ) (plg : Plugin) (what : CStr) : Parser Plugin :=
  match pluginSetter what with
  | none =>
    confFatal (cstr "invalid directive '" ++ what ++ cstr "' in plugin block")
  | some kind => do
    confBegin
    let plg ← confPairs (fun plg => plg.set kind) n plg
    confEnd
    return plg

/-- The loop of `conf_parse_plugin`. -/
def confPluginBlock (rounds : ℕ) : ℕ → Plugin → Parser Plugin
  | 0, _ => .fail .fuel
  | n + 1, plg => do
    let (rc, token) ← confNextIs .string
    if rc then
      let plg ← confParsePluginOptions rounds plg token.string
      confPluginBlock rounds n plg
    else return plg

/-- `[to path]` -/
def confPluginLocation : Parser (Option CStr) := do
  let given ← confStringIs (cstr "to")
  if given then
    let location ← confString
    return some location
  else return none

/-- `[{ options }]` -/
def confPluginBody (n : ℕ) (plg : Plugin) : Parser Plugin := do
  let block ← confBeginIs
  if block then
    let plg ← confPluginBlock n n plg
    confEnd
    return plg
  else return plg

/-- `conf_parse_plugin` -/
def confParsePlugin (env : ConfEnv) (n : ℕ) : Parser Unit := do
  let name ← confString
  let conf ← getConf
  if conf.plugins.any (·.name == name) then
    confFatal (cstr "plugin '" ++ name ++ cstr "' already exists")
  else
    let location ← confPluginLocation
    if env.loaded name then confFatal (cstr "plugin '" ++ name ++ cstr "' already loaded")
    else
      match env.search name location with
      | none => confFatal (cstr "plugin '" ++ name ++ cstr "' not found")
      | some plg =>
        let plg ← confPluginBody n plg
        modifyConf fun conf => { conf with plugins := conf.plugins ++ [plg] }

/-! ## The file -/

/-- A section of `conf_parser_entry`, whose topic has been read. -/
def confSection (env : ConfEnv) (n : ℕ) (topic : CStr) : Parser Unit :=
  if topic = cstr "logs" then confParseLog
  else if topic = cstr "log" then confParseLog
  else if topic = cstr "transport" then confParseTransport env
  else if topic = cstr "hook" then confParseHook
  else if topic = cstr "server" then confParseServer n
  else if topic = cstr "rule" then confParseRule n
  else if topic = cstr "plugin" then confParsePlugin env n
  -- another topic is passed over
  else return ()

/-- `conf_parser_entry`, which only ends when it is stopped. -/
def confParserEntry (env : ConfEnv) (rounds : ℕ) : ℕ → Parser Unit
  | 0 => .fail .fuel
  | n + 1 => do
    let topic ← confString
    confSection env rounds topic
    confParserEntry env rounds n

/-- Answer the requests of the parser with these operations on the tokens. -/
def withConf {S : Type} (tokens : Op → S → RunResult Halt S (Bool × Token CStr)) :
    Handler Request Reply Halt (S × Conf)
  | .op op, (s, conf) => (tokens op s).mapState fun s => (s, conf)
  | .get, (s, conf) => (.ok conf, (s, conf))
  | .set conf, (s, _) => (.ok (), (s, conf))

/-- How `conf_open` goes on once the coroutines are done. -/
inductive Opened
  /-- The `conf_apply_*` functions. -/
  | apply (conf : Conf)
  /-- `conf_fatal` prints the message and exits. -/
  | fatal (line column : ℕ) (message : CStr)
  | aborted
  | looping

/-- What a stop of the coroutines means to `conf_open`. -/
def opened (src : ConfText) (conf : Conf) : Except Halt Unit → Opened
  | .ok () => .apply conf
  | .error .off => .apply conf
  | .error .ended => .apply conf
  | .error (.fatal message) => .fatal src.line src.column message
  | .error .assertion => .aborted
  | .error .fuel => .looping

/-- `conf_open`, on the contents of the file. -/
def confOpen (env : ConfEnv) (file : List UInt8) : Opened :=
  let n := file.length + 3
  let (result, m, conf) := run (withConf Op.answer) (confParserEntry env n n) (spawn file, {})
  opened m.src conf result

/-! ## The parser over a list of tokens -/

/-- The coroutines have the tokens of the list to come, and the configurations are the same. -/
def OffersConf (s : Coroutines × Conf) (t : Tokens × Conf) : Prop := s.1.Offers t.1 ∧ s.2 = t.2

/-- The configurations are the same. -/
def SameConf (s : Coroutines × Conf) (t : Tokens × Conf) : Prop := s.2 = t.2

theorem withConf_related (q : Request) (s : Coroutines × Conf) (t : Tokens × Conf)
    (h : OffersConf s t) :
    Related OffersConf SameConf (withConf Op.answer q s) (withConf Op.onTokens q t) := by
  obtain ⟨m, conf⟩ := s
  obtain ⟨ts, conf'⟩ := t
  obtain ⟨hoffers, rfl⟩ := h
  cases q with
  | get => exact ⟨rfl, hoffers, rfl⟩
  | set conf => exact ⟨rfl, hoffers, rfl⟩
  | op op =>
    have hrel := answer_related op m ts hoffers
    rw [withConf, withConf]
    match op.answer m, op.onTokens ts, hrel with
    | (.ok a, m), (.ok _, ts), ⟨rfl, hoffers⟩ => exact ⟨rfl, hoffers, rfl⟩
    | (.error why, m), (.error _, ts), ⟨rfl, _⟩ => exact ⟨rfl, rfl⟩

/-- What the parser does with the coroutines is what it does with the list of tokens. -/
theorem run_coroutines_related {α : Type} (p : Parser α) {m : Coroutines} {ts : Tokens}
    (h : m.Offers ts) (conf : Conf) :
    Related OffersConf SameConf (run (withConf Op.answer) p (m, conf))
      (run (withConf Op.onTokens) p (ts, conf)) :=
  run_related withConf_related (fun _ _ hst => hst.2) p ⟨h, rfl⟩

/-- `conf_parser_entry` on a list of tokens. -/
def parseTokens (env : ConfEnv) (n : ℕ) (ts : Tokens) : RunResult Halt (Tokens × Conf) Unit :=
  run (withConf Op.onTokens) (confParserEntry env n n) (ts, {})

theorem confOpen_eq (env : ConfEnv) (file : List UInt8) :
    ∃ src, confOpen env file =
      opened src (parseTokens env (file.length + 3) (fileTokens file)).2.2
        (parseTokens env (file.length + 3) (fileTokens file)).1 := by
  have hrel := run_coroutines_related
    (confParserEntry env (file.length + 3) (file.length + 3)) (offers_spawn file) {}
  rw [confOpen, parseTokens]
  obtain ⟨a, s, t, hx, hy, -, hconf⟩ | ⟨why, s, t, hx, hy, hconf⟩ := hrel.ok_or_error
  · rw [hx, hy, ← hconf]
    exact ⟨s.1.src, rfl⟩
  · rw [hx, hy, ← show s.2 = t.2 from hconf]
    exact ⟨s.1.src, rfl⟩

end Irccd
