import Irccd.Channel
import Irccd.Conn.Io

/-!
# IRC servers (`server.c`)

The server object, its channel list, and the functions of the public API.

* `IrcServer` is `struct irc_server`. Its `coroutine` holds the connection and the consumer
  coroutine; it is `none` when the server is disconnected.
* `Sys` is a server with the calls made so far.
* `ircServerSend` puts a line in the output buffer of the connection, if it is ready.
-/

namespace Irccd

/-- `enum irc_server_flags`, less the two flags that only restrict `getaddrinfo`. -/
structure IrcServerFlags where
  ssl : Bool := false
  autoRejoin : Bool := false
  joinInvite : Bool := false
  deriving DecidableEq

/-- `struct irc_server_umode` -/
structure IrcServerUmode where
  mode : UInt8
  symbol : UInt8
  deriving DecidableEq

/-- `struct irc_server_coro`. The consumer is suspended in `irc__conn_pull`: either in
`irc_server_consumer_entry`, or in `irc_server_handle_whoisuser` with the event it is filling. -/
structure IrcServerCoro where
  conn : Conn
  consumer : Option IrcEventWhois

/-- `struct irc_server` -/
structure IrcServer where
  name : CStr
  /-- The command prefix. -/
  pfx : CStr
  nickname : CStr
  username : CStr
  realname : CStr
  password : Option CStr
  ctcpVersion : Option CStr
  ctcpSource : Option CStr
  flags : IrcServerFlags
  channels : List IrcChannel
  chantypes : Option CStr
  charset : Option CStr
  casemapping : Option CStr
  channelMax : ℕ
  nicknameMax : ℕ
  topicMax : ℕ
  awayMax : ℕ
  kickMax : ℕ
  prefixes : List IrcServerUmode
  coroutine : Option IrcServerCoro

/-- `irc_server_new`, then the setters without which `irc_server_connect` does not start. -/
def ircServerNew (name nickname username realname : CStr) : IrcServer where
  name
  pfx := cstr "!"
  nickname
  username
  realname
  password := none
  ctcpVersion := some (cstr "IRC Client Daemon")
  ctcpSource := some (cstr "http://hg.malikania.fr/irccd")
  flags := {}
  channels := []
  chantypes := none
  charset := none
  casemapping := none
  channelMax := 0
  nicknameMax := 0
  topicMax := 0
  awayMax := 0
  kickMax := 0
  prefixes := []
  coroutine := none

/-- The server of the concrete runs. -/
def localServer : IrcServer :=
  ircServerNew (cstr "local") (cstr "bot") (cstr "bot") (cstr "bot")

/-- A server and the calls made so far. `listed` tells whether it is in `bot.servers`, `clock` is
the text that `ctime (3)` gives, and `stale` are the descriptors whose lists in `libev` hold
watchers of connections that were freed. -/
structure Sys where
  server : IrcServer
  trace : List Call
  listed : Bool
  clock : CStr
  stale : List ℤ

namespace Sys

/-- Before the first call. -/
def start (server : IrcServer) : Sys where
  server
  trace := []
  listed := false
  clock := []
  stale := []

/-- Record a call. -/
def emit (s : Sys) (c : Call) : Sys := { s with trace := s.trace ++ [c] }

/-- The connection, if there is one, with the calls made so far. -/
def net (s : Sys) : Option Net := s.server.coroutine.map fun co => ⟨co.conn, s.trace⟩

/-- An assertion of `libev` has failed on the watcher of the connection. -/
def aborted (s : Sys) : Bool := s.server.coroutine.any fun co => co.conn.io.aborted

/-- Replace the connection of the coroutines `co`. -/
def setNet (s : Sys) (co : IrcServerCoro) (n : Net) : Sys :=
  { s with
    server := { s.server with coroutine := some { co with conn := n.conn } }
    trace := n.trace }

/-- Suspend the consumer coroutine in another place. -/
def setConsumer (s : Sys) (consumer : Option IrcEventWhois) : Sys :=
  { s with server := { s.server with
    coroutine := s.server.coroutine.map fun co => { co with consumer } } }

/-- Change the channel list. -/
def setChannels (s : Sys) (channels : List IrcChannel) : Sys :=
  { s with server := { s.server with channels } }

end Sys

/-- `irc_bot_dispatch (&ev)`, as the server code sees it. -/
def dispatch (s : Sys) (ev : IrcEvent) : Sys := s.emit (.dispatch ev)

/-- `irc_server_is_self` -/
def ircServerIsSelf (server : IrcServer) (nickname : CStr) : Bool :=
  strncasecmp server.nickname nickname server.nickname.length

/-- `irc_server_is_self` compares as many bytes as the nickname of the bot has: it also accepts the
nicknames that begin with it. -/
theorem ircServerIsSelf_iff {server : IrcServer} {nickname : CStr} :
    ircServerIsSelf server nickname = true ↔ foldCase server.nickname <+: foldCase nickname :=
  strncasecmp_length_iff

/-! ## User modes -/

/-- The two strings of `sscanf (value, "(%15[^)])%15s", modes, syms) == 2`. -/
def scanModes (value : CStr) : Option (CStr × CStr) :=
  match value with
  -- the modes stand between parentheses
  | 40 :: t =>
    let modes := (t.take 15).takeWhile (· != 41)
    match t.drop modes.length with
    | 41 :: u =>
      let syms := ((u.dropWhile isspace).take 15).takeWhile (!isspace ·)
      if modes = [] ∨ syms = [] then none else some (modes, syms)
    | _ => none
  | _ => none

/-- `irc_server_modes_parse` -/
def ircServerModesParse (value : CStr) : List IrcServerUmode :=
  match scanModes value with
  | some (modes, syms) =>
    -- the old table is freed first, so nothing is left of it otherwise
    if modes.length = syms.length then List.zipWith IrcServerUmode.mk modes syms else []
  | none => []

/-- `irc_server_modes_find`: 0 when the mode is not there. -/
def ircServerModesFind (prefixes : List IrcServerUmode) (mode : UInt8) : ℕ :=
  if prefixes.any (·.mode == mode) then prefixes.findIdx (·.mode == mode) else 0

/-- The loop of `irc_server_strip`, from the index `i` on. -/
def ircServerStripLoop : ℕ → List IrcServerUmode → CStr → BitVec 32 → BitVec 32 × CStr
  | _, [], what, modes => (modes, what)
  | i, u :: us, what, modes =>
    if what.head? = some u.symbol then
      ircServerStripLoop (i + 1) us (what.drop 1) (modes ||| 1#32 <<< i)
    else
      ircServerStripLoop (i + 1) us what modes

/-- `irc_server_strip`: the modes and what follows their symbols. -/
def ircServerStrip (prefixes : List IrcServerUmode) (what : CStr) : BitVec 32 × CStr :=
  ircServerStripLoop 0 prefixes what 0

/-! ## The channel list -/

/-- `irc_server_channels_find` -/
def ircServerChannelsFind (channels : List IrcChannel) (name : CStr) : Option IrcChannel :=
  channels.find? fun ch => strcasecmp ch.name name

/-- Change the channel that `irc_server_channels_find` returns. -/
def modifyChannel (name : CStr) (f : IrcChannel → IrcChannel) : List IrcChannel → List IrcChannel
  | [] => []
  | ch :: chs => if strcasecmp ch.name name then f ch :: chs else ch :: modifyChannel name f chs

/-- `irc_server_channels_add`: the channel list afterwards. The channel it returns is the one that
`irc_server_channels_find` finds there. -/
def ircServerChannelsAdd (channels : List IrcChannel) (name : CStr) (password : Option CStr)
    (joined : Bool) : List IrcChannel :=
  if (ircServerChannelsFind channels name).isSome then
    modifyChannel name (fun ch => { ch with joined := ch.joined || joined }) channels
  else
    ircChannelNew name password joined :: channels

/-- `irc_server_channels_remove` on the channel that `irc_server_channels_find` returns. -/
def ircServerChannelsRemove (channels : List IrcChannel) (name : CStr) : List IrcChannel :=
  channels.eraseP fun ch => strcasecmp ch.name name

/-- `irc_server_channels_clear` -/
def ircServerChannelsClear (channels : List IrcChannel) : List IrcChannel :=
  channels.map ircChannelClear

/-- `irc_server_clear` -/
def ircServerClear (server : IrcServer) : IrcServer :=
  { server with
    chantypes := none
    charset := none
    casemapping := none
    channelMax := 0
    nicknameMax := 0
    topicMax := 0
    awayMax := 0
    kickMax := 0
    prefixes := [] }

/-! ## Sending -/

/-- `irc__conn_ready (&server->coroutine->conn)`, which answers 0 without a connection. -/
def ircServerReady (server : IrcServer) : Bool :=
  match server.coroutine with
  | some co => ircConnReady co.conn
  | none => false

theorem ircServerReady_of_some {server : IrcServer} {co : IrcServerCoro}
    (hco : server.coroutine = some co) : ircServerReady server = ircConnReady co.conn := by
  simp only [ircServerReady, hco]

/-- `irc_server_send` and `irc_server_send_va` on the text that the format gives. -/
def ircServerSend (s : Sys) (text : CStr) : ℤ × Sys :=
  match s.server.coroutine with
  | none => (-ENOTCONN, s)
  | some co =>
    let (rc, n) := connSendLine true ⟨co.conn, s.trace⟩ text
    (rc, s.setNet co n)

/-- The text of a JOIN line. -/
def joinText (name : CStr) (pass : Option CStr) : CStr :=
  match pass with
  | some pass => cstr "JOIN " ++ name ++ cstr " " ++ pass
  | none => cstr "JOIN " ++ name

/-- The start of `irc_server_join`: the channel is on the list afterwards. -/
def joinChannel (s : Sys) (name : CStr) (pass : Option CStr) : Sys :=
  if (ircServerChannelsFind s.server.channels name).isSome then s
  else s.setChannels (ircServerChannelsAdd s.server.channels name pass false)

/-- `irc_server_join`: a channel that is not joined is joined now if the server is ready, and later
otherwise. -/
def ircServerJoin (s : Sys) (name : CStr) (pass : Option CStr) : ℤ × Sys :=
  let s := joinChannel s name pass
  match ircServerChannelsFind s.server.channels name with
  | some ch =>
    if !ch.joined && ircServerReady s.server then ircServerSend s (joinText name pass) else (1, s)
  | none => (1, s)

/-- `irc_server_notice` -/
def ircServerNotice (s : Sys) (channel message : CStr) : ℤ × Sys :=
  ircServerSend s (cstr "NOTICE " ++ channel ++ cstr " :" ++ message)

/-- `irc_server_set_nickname` -/
def ircServerSetNickname (s : Sys) (nickname : CStr) : Sys :=
  if ircServerReady s.server then (ircServerSend s (cstr "NICK " ++ nickname)).2
  else { s with server := { s.server with nickname } }

/-- The setters of a server that only store a value. -/
inductive Setter
  | flags (flags : IrcServerFlags)
  | pfx (pfx : CStr)
  | ctcp (key value : CStr)
  | username (username : CStr)
  | realname (realname : CStr)
  | password (password : Option CStr)
  deriving DecidableEq

/-- `irc_server_set_flags`, `_prefix`, `_ctcp`, `_username`, `_realname` and `_password`. The last
three assert that the server has no coroutine. -/
def ircServerSet (server : IrcServer) : Setter → Option IrcServer
  | .flags flags => some { server with flags }
  | .pfx pfx => some { server with pfx }
  | .ctcp key value =>
    if strcasecmp key (cstr "version") then some { server with ctcpVersion := some value }
    else if strcasecmp key (cstr "source") then some { server with ctcpSource := some value }
    else some server
  | .username username => if server.coroutine.isSome then none else some { server with username }
  | .realname realname => if server.coroutine.isSome then none else some { server with realname }
  | .password password => if server.coroutine.isSome then none else some { server with password }

/-! ## Connecting -/

/-- The lines of `conn_ident`. -/
def identLines (server : IrcServer) : List CStr :=
  [cstr "CAP REQ :multi-prefix"] ++
  (match server.password with
    | some password => [cstr "PASS " ++ password]
    | none => []) ++
  [cstr "NICK " ++ server.nickname,
    cstr "USER " ++ server.username ++ cstr " " ++ server.username ++ cstr " " ++
      server.username ++ cstr " :" ++ server.realname,
    cstr "CAP END"]

/-- `irc_server_connect` of a build with `IRCCD_WITH_SSL`. The coroutines run before
`server->coroutine` is set. -/
def ircServerConnect (s : Sys) (ais : Option (List AddrInfo)) (uninit : ConnMsg) : Sys :=
  if s.server.coroutine.isSome ∨ s.server.flags.ssl then s
  else
    let n := ircConnSpawn (identLines s.server) ais uninit s.stale s.trace
    s.setNet ⟨n.conn, none⟩ n

/-- `irc_server_disconnect` -/
def ircServerDisconnect (s : Sys) : Sys :=
  let trace :=
    match s.server.coroutine with
    | some co => ircConnDestroy ⟨co.conn, s.trace⟩
    | none => s.trace
  { s with
    server := ircServerClear { s.server with
      coroutine := none
      channels := ircServerChannelsClear s.server.channels }
    trace
    stale := s.server.coroutine.elim s.stale fun co => (nceIoInit co.conn.io).stale }

/-- `irc_server_reconnect` -/
def ircServerReconnect (s : Sys) (ais : Option (List AddrInfo)) (uninit : ConnMsg) : Sys :=
  ircServerConnect (ircServerDisconnect s) ais uninit

/-- `irc_bot_server_add` -/
def ircBotServerAdd (s : Sys) (ais : Option (List AddrInfo)) (uninit : ConnMsg) : Sys :=
  if s.listed then s else { ircServerConnect s ais uninit with listed := true }

/-- `irc_bot_server_remove` -/
def ircBotServerRemove (s : Sys) : Sys :=
  if s.listed then { dispatch (ircServerDisconnect s) .disconnect with listed := false } else s

end Irccd
