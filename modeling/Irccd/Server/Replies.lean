import Irccd.Server.Channels
import Irccd.Server.Handlers

/-!
# The texts of the handlers (`server.c`)

The handlers send a text with `irc_server_send` in five cases: an answer to a PING, an answer to a
CTCP request, and a JOIN after a connection, an invitation or a kick.

* `joinTexts`: the text that `irc_server_join` sends, if it sends one;
* `answers`: the texts sent while a message is handled, in order.
-/

namespace Irccd

/-- What `irc_server_join` sends: nothing for a channel that is joined, nor before the connection is
ready. -/
def joinTexts (server : IrcServer) (name : CStr) (pass : Option CStr) : List CStr :=
  if !(ircServerChannelsFind server.channels name).any (·.joined) && ircServerReady server then
    [joinText name pass]
  else []

/-- What `irc_server_handle_connect` sends. -/
def rejoinTexts (server : IrcServer) : List CStr :=
  server.channels.flatMap fun ch => joinTexts server ch.name ch.password

/-- What `irc_server_handle_kick` sends when the channel is on the list. -/
def kickTexts (server : IrcServer) (channel target : CStr) : List CStr :=
  if ircServerIsSelf server target && server.flags.autoRejoin && ircServerReady server then
    match ircServerChannelsFind server.channels channel with
    | some ch => [joinText ch.name ch.password]
    | none => []
  else []

/-- The answer to a CTCP request, sent with `irc_server_notice` or with the same format. -/
def ctcpAnswer (nickname answer : CStr) : CStr :=
  cstr "NOTICE " ++ nickname ++ cstr " :\x01" ++ answer ++ cstr "\x01"

/-- What `irc_server_handle_msg` sends for a CTCP request of `nickname`. -/
def ctcpTexts (s : Sys) (nickname text : CStr) : List CStr :=
  if text = cstr "\x01CLIENTINFO\x01" then
    [ctcpAnswer nickname (cstr "CLIENTINFO ACTION CLIENTINFO SOURCE TIME VERSION")]
  else if text = cstr "\x01SOURCE\x01" then
    (s.server.ctcpSource.map fun source => ctcpAnswer nickname (cstr "SOURCE " ++ source)).toList
  else if text = cstr "\x01TIME\x01" then [ctcpAnswer nickname (cstr "TIME " ++ s.clock)]
  else if text = cstr "\x01VERSION\x01" then
    (s.server.ctcpVersion.map fun version =>
      ctcpAnswer nickname (cstr "VERSION " ++ version)).toList
  else []

/-- What `irc_server_handle_invite` sends. -/
def inviteTexts (s : Sys) (msg : ConnMsg) : List CStr :=
  if s.server.flags.joinInvite then joinTexts s.server (msg.args.getD 1 []) none else []

/-- What `irc_server_handle_kick` sends, after it has added the channel. -/
def handleKickTexts (s : Sys) (msg : ConnMsg) : List CStr :=
  let channel := msg.args.getD 0 []
  kickTexts (s.setChannels (ircServerChannelsAdd s.server.channels channel none true)).server
    channel (msg.args.getD 1 [])

/-- What `irc_server_handle_ping` sends. -/
def pingTexts (_ : Sys) (msg : ConnMsg) : List CStr :=
  if 1 ≤ msg.argsz then [cstr "PONG :" ++ msg.args.getD 0 []] else []

/-- What `irc_server_handle_msg` sends: nothing for a message, nor for an ACTION. -/
def msgTexts (s : Sys) (msg : ConnMsg) : List CStr :=
  let text := msg.args.getD 1 []
  if ircConnMsgIsCtcp text && text.take 7 != cstr "\x01ACTION" then
    ctcpTexts s (ircUtilUserSplit (msg.pfx.getD [])).nickname text
  else []

/-- The handlers that send something, with what they send. -/
def replying : List (CStr × (Sys → ConnMsg → List CStr)) := [
  (cstr "001", fun s _ => rejoinTexts s.server),
  (cstr "INVITE", inviteTexts),
  (cstr "KICK", handleKickTexts),
  (cstr "PING", pingTexts),
  (cstr "PRIVMSG", msgTexts)]

/-- The texts that `irc_server_handle` sends, in order. -/
def replies (s : Sys) (msg : ConnMsg) : List CStr :=
  match replying.find? (·.1 == msg.cmd) with
  | some r => r.2 s msg
  | none => []

/-- The texts that the consumer sends for the message it pulls: none while it fills the event of a
whois. -/
def answers (s : Sys) (msg : ConnMsg) : Option IrcEventWhois → List CStr
  | none => replies s msg
  | some _ => []

theorem replies_of_find {s : Sys} {msg : ConnMsg} {r : CStr × (Sys → ConnMsg → List CStr)}
    (hfind : replying.find? (·.1 == msg.cmd) = some r) : replies s msg = r.2 s msg := by
  rw [replies, hfind]

theorem replies_of_find_eq_none {s : Sys} {msg : ConnMsg}
    (hfind : replying.find? (·.1 == msg.cmd) = none) : replies s msg = [] := by
  rw [replies, hfind]

/-- The argument that a handler reads. -/
theorem getD_of_arg {msg : ConnMsg} {i : ℕ} {a : CStr} (h : msg.arg i = .ok a) :
    msg.args.getD i [] = a := by
  unfold ConnMsg.arg at h
  cases harg : msg.args[i]? with
  | none => simp [harg] at h
  | some b =>
    obtain rfl : b = a := by simpa [harg] using h
    rw [List.getD_eq_getElem?_getD, harg, Option.getD_some]

end Irccd
