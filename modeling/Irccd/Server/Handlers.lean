import Irccd.Fault
import Irccd.Server.Basic
import Irccd.Util

/-!
# Handlers of incoming messages (`server.c`)

One function for each handler of the source, and `ircServerHandle` which selects it. A handler
reads the arguments and the prefix of the message with `ConnMsg.arg` and `ircUtilStrdup`, which
fail where the source would read what is not there.

Every handler returns before the next message, except `irc_server_handle_whoisuser`: it pulls the
messages up to 318 itself. It is cut at `irc__conn_pull`. `ircServerHandleWhoisuser` returns the
event it is filling, and `whoisPull` is a round of its loop.
-/

namespace Irccd

/-- Read `msg->args[i]`. The pointers below `argsz` are not NULL. -/
def ConnMsg.arg (msg : ConnMsg) (i : ℕ) : Except Fault CStr :=
  match msg.args[i]? with
  | some a => .ok a
  | none => .error (.argOutOfBounds i)

/-- The loop of `irc_server_handle_connect` on the channels. -/
def rejoin (s : Sys) : Sys :=
  s.server.channels.foldl (fun s ch => (ircServerJoin s ch.name ch.password).2) s

/-- `irc_server_handle_connect` -/
def ircServerHandleConnect (s : Sys) (_ : ConnMsg) : Except Fault Sys :=
  .ok (dispatch (rejoin s) .connect)

/-- `irc_server_handle_disconnect` -/
def ircServerHandleDisconnect (s : Sys) (_ : ConnMsg) : Except Fault Sys :=
  .ok (dispatch s .disconnect)

/-- The two strings of `sscanf (arg, "%63[^=]=%63s", key, value) == 2`. -/
def scanSupport (arg : CStr) : Option (CStr × CStr) :=
  let key := (arg.take 63).takeWhile (· != 61)
  -- an equals sign has to follow, and `%s` skips the white space after it
  match arg.drop key.length with
  | 61 :: t =>
    let value := ((t.dropWhile isspace).take 63).takeWhile (!isspace ·)
    if key = [] ∨ value = [] then none else some (key, value)
  | _ => none

/-- A round of the loop of `irc_server_handle_support`. -/
def supportArg (server : IrcServer) (arg : CStr) : IrcServer :=
  match scanSupport arg with
  | none => server
  | some (key, value) =>
    if key = cstr "PREFIX" then { server with prefixes := ircServerModesParse value }
    else if key = cstr "CHANTYPES" then { server with chantypes := some value }
    else if key = cstr "CHANNELLEN" then { server with channelMax := (atoiUnsigned value).toNat }
    else if key = cstr "NICKLEN" then { server with nicknameMax := (atoiUnsigned value).toNat }
    else if key = cstr "TOPICLEN" then { server with topicMax := (atoiUnsigned value).toNat }
    else if key = cstr "AWAYLEN" then { server with awayMax := (atoiUnsigned value).toNat }
    else if key = cstr "KICKLEN" then { server with kickMax := (atoiUnsigned value).toNat }
    else if key = cstr "CHARSET" then { server with charset := some value }
    else if key = cstr "CASEMAPPING" then { server with casemapping := some value }
    else server

/-- An argument changes neither the coroutine nor the channels. -/
theorem supportArg_frame (server : IrcServer) (arg : CStr) :
    (supportArg server arg).coroutine = server.coroutine ∧
      (supportArg server arg).channels = server.channels := by
  rw [supportArg]
  cases scanSupport arg with
  | none => exact ⟨rfl, rfl⟩
  | some entry =>
    simp only [apply_ite IrcServer.coroutine, apply_ite IrcServer.channels, ite_self, and_self]

/-- `irc_server_handle_support` -/
def ircServerHandleSupport (s : Sys) (msg : ConnMsg) : Except Fault Sys :=
  .ok { s with server := msg.args.foldl supportArg s.server }

/-- `irc_server_handle_invite` -/
def ircServerHandleInvite (s : Sys) (msg : ConnMsg) : Except Fault Sys := do
  let origin ← ircUtilStrdup msg.pfx
  let channel ← msg.arg 1
  let s := if s.server.flags.joinInvite then (ircServerJoin s channel none).2 else s
  return dispatch s (.invite origin channel)

/-- `irc_server_handle_join` -/
def ircServerHandleJoin (s : Sys) (msg : ConnMsg) : Except Fault Sys := do
  let origin ← ircUtilStrdup msg.pfx
  let channel ← msg.arg 0
  let s := s.setChannels (ircServerChannelsAdd s.server.channels channel none true)
  return dispatch s (.join origin channel)

/-- What `irc_server_handle_kick` does once the channel is known to exist. -/
def kicked (s : Sys) (channel target : CStr) : Sys :=
  if ircServerIsSelf s.server target then
    -- `flags &= IRC_CHANNEL_FLAGS_JOINED` keeps the flag, `irc_channel_clear` resets it
    let s := s.setChannels (modifyChannel channel ircChannelClear s.server.channels)
    match s.server.flags.autoRejoin, ircServerChannelsFind s.server.channels channel with
    | true, some ch => (ircServerJoin s ch.name ch.password).2
    | _, _ => s
  else
    s.setChannels (modifyChannel channel (ircChannelRemove · target) s.server.channels)

/-- `irc_server_handle_kick`: the reason is read whether there is one or not. -/
def ircServerHandleKick (s : Sys) (msg : ConnMsg) : Except Fault Sys := do
  let origin ← ircUtilStrdup msg.pfx
  let channel ← msg.arg 0
  let target ← msg.arg 1
  let reason ← msg.arg 2
  let s := s.setChannels (ircServerChannelsAdd s.server.channels channel none true)
  return dispatch (kicked s channel target) (.kick origin channel target (some reason))

/-- The modes that take an argument which `irc_server_handle_mode` skips. -/
def modeSkipped : List UInt8 := cstr "bkleI"

/-- The loop of `irc_server_handle_mode` on the mode letters. -/
def modeLoop (prefixes : List IrcServerUmode) (msg : ConnMsg) :
    CStr → UInt8 → ℕ → IrcChannel → Except Fault IrcChannel
  | [], _, _, ch => .ok ch
  | p :: ps, action, argindex, ch =>
    -- a plus or minus sign is for the letters after it
    if p = 43 ∨ p = 45 then modeLoop prefixes msg ps p argindex ch
    else if p ∈ modeSkipped then modeLoop prefixes msg ps action (argindex + 1) ch
    else
      let mode := ircServerModesFind prefixes p
      -- 0 is also the index of the first mode of the table, which is skipped
      if mode = 0 then modeLoop prefixes msg ps action (argindex + 1) ch
      else do
        let nickname ← msg.arg argindex
        match ircChannelGet ch nickname with
        -- a user that is not on the channel is skipped, as an unknown mode is
        | none => modeLoop prefixes msg ps action (argindex + 1) ch
        | some u =>
          let modes := if action = 43 then u.modes ||| 1#32 <<< mode
            else u.modes &&& ~~~(1#32 <<< mode)
          modeLoop prefixes msg ps action (argindex + 1) (ircChannelSet ch u.nickname modes)

/-- `irc_server_handle_mode` -/
def ircServerHandleMode (s : Sys) (msg : ConnMsg) : Except Fault Sys := do
  let origin ← ircUtilStrdup msg.pfx
  let channel ← msg.arg 0
  let mode ← msg.arg 1
  let ev := IrcEvent.mode origin channel mode (msg.args.drop 2)
  match ircServerChannelsFind s.server.channels channel with
  | none => return dispatch s ev
  | some ch =>
    let ch ← modeLoop s.server.prefixes msg mode 0 2 ch
    return dispatch (s.setChannels (modifyChannel channel (fun _ => ch) s.server.channels)) ev

/-- `irc_server_handle_part`: the reason is read whether there is one or not. -/
def ircServerHandlePart (s : Sys) (msg : ConnMsg) : Except Fault Sys := do
  let origin ← ircUtilStrdup msg.pfx
  let channel ← msg.arg 0
  let reason ← msg.arg 1
  let ev := IrcEvent.part origin channel (some reason)
  -- `irc_server_channels_remove` accepts a NULL channel, `irc_channel_remove` does not
  if ircServerIsSelf s.server origin then
    return dispatch (s.setChannels (ircServerChannelsRemove s.server.channels channel)) ev
  else if (ircServerChannelsFind s.server.channels channel).isSome then
    return dispatch (s.setChannels
      (modifyChannel channel (ircChannelRemove · origin) s.server.channels)) ev
  else
    .error .nullChannel

/-- The answer to a CTCP request of `nickname`. -/
def ctcpReply (s : Sys) (nickname text : CStr) : Sys :=
  if text = cstr "\x01CLIENTINFO\x01" then
    (ircServerNotice s nickname
      (cstr "\x01CLIENTINFO ACTION CLIENTINFO SOURCE TIME VERSION\x01")).2
  else if text = cstr "\x01SOURCE\x01" then
    match s.server.ctcpSource with
    | some source => (ircServerSend s
        (cstr "NOTICE " ++ nickname ++ cstr " :\x01SOURCE " ++ source ++ cstr "\x01")).2
    | none => s
  else if text = cstr "\x01TIME\x01" then
    (ircServerSend s
      (cstr "NOTICE " ++ nickname ++ cstr " :\x01TIME " ++ s.clock ++ cstr "\x01")).2
  else if text = cstr "\x01VERSION\x01" then
    match s.server.ctcpVersion with
    | some version => (ircServerSend s
        (cstr "NOTICE " ++ nickname ++ cstr " :\x01VERSION " ++ version ++ cstr "\x01")).2
    | none => s
  else s

/-- `irc_server_handle_msg`. The event of a CTCP request other than ACTION has no type. -/
def ircServerHandleMsg (s : Sys) (msg : ConnMsg) : Except Fault Sys := do
  -- the text is read first, whatever the prefix
  let text ← msg.arg 1
  if ircConnMsgIsCtcp text then
    let origin ← ircUtilStrdup msg.pfx
    if text.take 7 = cstr "\x01ACTION" then
      let channel ← msg.arg 0
      return dispatch s (.me ⟨origin, channel, ircConnMsgCtcp text⟩)
    else
      return dispatch (ctcpReply s (ircUtilUserSplit origin).nickname text) .unknown
  else
    let origin ← ircUtilStrdup msg.pfx
    let channel ← msg.arg 0
    return dispatch s (.message ⟨origin, channel, text⟩)

/-- `irc_server_handle_nick` -/
def ircServerHandleNick (s : Sys) (msg : ConnMsg) : Except Fault Sys := do
  let origin ← ircUtilStrdup msg.pfx
  let nickname ← msg.arg 0
  let s := if ircServerIsSelf s.server origin then
    { s with server := { s.server with nickname } } else s
  return dispatch s (.nick origin nickname)

/-- `irc_server_handle_notice` -/
def ircServerHandleNotice (s : Sys) (msg : ConnMsg) : Except Fault Sys := do
  let origin ← ircUtilStrdup msg.pfx
  let channel ← msg.arg 0
  let notice ← msg.arg 1
  return dispatch s (.notice origin channel notice)

/-- `irc_server_handle_topic` -/
def ircServerHandleTopic (s : Sys) (msg : ConnMsg) : Except Fault Sys := do
  let origin ← ircUtilStrdup msg.pfx
  let channel ← msg.arg 0
  let topic ← msg.arg 1
  return dispatch s (.topic origin channel topic)

/-- `irc_server_handle_ping` -/
def ircServerHandlePing (s : Sys) (msg : ConnMsg) : Except Fault Sys := do
  if 1 ≤ msg.argsz then
    let arg ← msg.arg 0
    return (ircServerSend s (cstr "PONG :" ++ arg)).2
  else
    return s

/-- Add the nicknames of a 353 message to a channel. -/
def addNames (prefixes : List IrcServerUmode) (names : List CStr) (ch : IrcChannel) :
    IrcChannel :=
  names.foldl (fun ch token =>
    let (modes, nickname) := ircServerStrip prefixes token
    ircChannelAdd ch nickname modes) ch

/-- `irc_server_handle_names` -/
def ircServerHandleNames (s : Sys) (msg : ConnMsg) : Except Fault Sys := do
  let channel ← msg.arg 2
  let names ← msg.arg 3
  let channels := ircServerChannelsAdd s.server.channels channel none true
  return s.setChannels
    (modifyChannel channel (addNames s.server.prefixes (tokens SP names)) channels)

/-- The loop of `irc_server_handle_endofnames` on the users of the channel. `i` stays 0. -/
def namesUsers (users : List IrcChannelUser) : List (Option CStr × BitVec 32) :=
  let i := 0
  users.foldl (fun array u => array.set i (some u.nickname, u.modes))
    (List.replicate users.length (none, 0))

/-- `irc_server_handle_endofnames` -/
def ircServerHandleEndofnames (s : Sys) (msg : ConnMsg) : Except Fault Sys := do
  let channel ← msg.arg 1
  match ircServerChannelsFind s.server.channels channel with
  | none => return s
  | some ch => return dispatch s (.names channel (namesUsers ch.users))

/-- `irc_server_handle_nicknameinuse`, which only logs. -/
def ircServerHandleNicknameinuse (s : Sys) (_ : ConnMsg) : Except Fault Sys := .ok s

/-- `irc_server_handle_error`, which only logs its first argument. -/
def ircServerHandleError (s : Sys) (msg : ConnMsg) : Except Fault Sys := do
  let _ ← msg.arg 0
  return s

/-- `irc_server_handle_whoischannels` -/
def ircServerHandleWhoischannels (prefixes : List IrcServerUmode) (ev : IrcEventWhois)
    (msg : ConnMsg) : Except Fault IrcEventWhois := do
  let list ← msg.arg 2
  let channels := (tokens SP list).map fun token =>
    ((ircServerStrip prefixes token).2, (ircServerStrip prefixes token).1)
  return { ev with channels := ev.channels ++ channels }

/-- `irc_server_handle_whoisuser` up to its first `irc__conn_pull`: the event it is filling. -/
def ircServerHandleWhoisuser (msg : ConnMsg) : Except Fault IrcEventWhois := do
  let nickname ← msg.arg 1
  let username ← msg.arg 2
  let hostname ← msg.arg 3
  let realname ← msg.arg 5
  return { nickname, username, hostname, realname, channels := [] }

/-- A round of the loop of `irc_server_handle_whoisuser`, with the message it pulls. The loop ends
with a 318, which dispatches the event. -/
def whoisPull (s : Sys) (ev : IrcEventWhois) (msg : ConnMsg) :
    Except Fault (Sys × Option IrcEventWhois) :=
  (if msg.cmd = cstr "319" then ircServerHandleWhoischannels s.server.prefixes ev msg
    else .ok ev).map fun ev =>
      if msg.cmd = cstr "318" then (dispatch s (.whois ev), none) else (s, some ev)

/-- A handler that returns before the next message. -/
def returns (h : Sys → ConnMsg → Except Fault Sys) (s : Sys) (msg : ConnMsg) :
    Except Fault (Sys × Option IrcEventWhois) := (h s msg).map (·, none)

/-- The `handlers` table. A handler returns the event it is filling when it pulls messages. -/
def handlers : List (CStr × (Sys → ConnMsg → Except Fault (Sys × Option IrcEventWhois))) := [
  (cstr "000", returns ircServerHandleDisconnect),
  (cstr "001", returns ircServerHandleConnect),
  (cstr "005", returns ircServerHandleSupport),
  (cstr "311", fun s msg => (ircServerHandleWhoisuser msg).map (s, some ·)),
  (cstr "353", returns ircServerHandleNames),
  (cstr "366", returns ircServerHandleEndofnames),
  (cstr "433", returns ircServerHandleNicknameinuse),
  (cstr "ERROR", returns ircServerHandleError),
  (cstr "INVITE", returns ircServerHandleInvite),
  (cstr "JOIN", returns ircServerHandleJoin),
  (cstr "KICK", returns ircServerHandleKick),
  (cstr "MODE", returns ircServerHandleMode),
  (cstr "NICK", returns ircServerHandleNick),
  (cstr "NOTICE", returns ircServerHandleNotice),
  (cstr "PART", returns ircServerHandlePart),
  (cstr "PING", returns ircServerHandlePing),
  (cstr "PRIVMSG", returns ircServerHandleMsg),
  (cstr "TOPIC", returns ircServerHandleTopic)]

/-- The table is ordered, so `bsearch` finds an entry exactly when there is one. -/
theorem handlers_ordered : (handlers.map Prod.fst).Pairwise (· < ·) := by decide +kernel

/-- `irc_server_handle` -/
def ircServerHandle (s : Sys) (msg : ConnMsg) : Except Fault (Sys × Option IrcEventWhois) :=
  match handlers.find? (·.1 == msg.cmd) with
  | some h => h.2 s msg
  | none => .ok (s, none)

/-- What the consumer coroutine does with the message it pulls. -/
def consume (s : Sys) (k : Option IrcEventWhois) (msg : ConnMsg) :
    Except Fault (Sys × Option IrcEventWhois) :=
  match k with
  | none => ircServerHandle s msg
  | some ev => whoisPull s ev msg

end Irccd
