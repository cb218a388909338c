import Irccd.Server.Replies

/-!
# The functions of the API that send a line (`server.c`)

Each function has the parameters of the source, in its order. `irc_server_join`,
`irc_server_notice` and `irc_server_set_nickname` are in `Irccd.Server.Basic`.

* `ApiCall`: a call of one of them, with its arguments;
* `ApiCall.perform`: what it does.
-/

namespace Irccd

/-- `irc_server_invite` -/
def ircServerInvite (s : Sys) (channel target : CStr) : ℤ × Sys :=
  ircServerSend s (cstr "INVITE " ++ target ++ cstr " " ++ channel)

/-- `irc_server_kick` -/
def ircServerKick (s : Sys) (channel target : CStr) (reason : Option CStr) : ℤ × Sys :=
  match reason with
  | some reason =>
    ircServerSend s (cstr "KICK " ++ channel ++ cstr " " ++ target ++ cstr " :" ++ reason)
  | none => ircServerSend s (cstr "KICK " ++ channel ++ cstr " " ++ target)

/-- `irc_server_part`: an empty reason counts as none. -/
def ircServerPart (s : Sys) (channel : CStr) (reason : Option CStr) : ℤ × Sys :=
  match reason with
  | some reason =>
    if 0 < reason.length then ircServerSend s (cstr "PART " ++ channel ++ cstr " :" ++ reason)
    else ircServerSend s (cstr "PART " ++ channel)
  | none => ircServerSend s (cstr "PART " ++ channel)

/-- `irc_server_topic` -/
def ircServerTopic (s : Sys) (channel topic : CStr) : ℤ × Sys :=
  ircServerSend s (cstr "TOPIC " ++ channel ++ cstr " :" ++ topic)

/-- `irc_server_message` -/
def ircServerMessage (s : Sys) (chan msg : CStr) : ℤ × Sys :=
  ircServerSend s (cstr "PRIVMSG " ++ chan ++ cstr " :" ++ msg)

/-- `irc_server_me` -/
def ircServerMe (s : Sys) (chan message : CStr) : ℤ × Sys :=
  ircServerSend s (cstr "PRIVMSG " ++ chan ++ cstr " :\x01ACTION " ++ message ++ cstr "\x01")

/-- `irc_server_mode` -/
def ircServerMode (s : Sys) (channel mode : CStr) (args : Option CStr) : ℤ × Sys :=
  let args := args.getD []
  ircServerSend s (cstr "MODE " ++ channel ++ cstr " " ++ mode ++ cstr " " ++ args)

/-- `irc_server_names` -/
def ircServerNames (s : Sys) (channel : CStr) : ℤ × Sys :=
  ircServerSend s (cstr "NAMES " ++ channel)

/-- `irc_server_whois` -/
def ircServerWhois (s : Sys) (target : CStr) : ℤ × Sys :=
  ircServerSend s (cstr "WHOIS " ++ target)

/-- A call of a function of the API that sends a line. -/
inductive ApiCall
  | invite (channel target : CStr)
  | join (name : CStr) (pass : Option CStr)
  | kick (channel target : CStr) (reason : Option CStr)
  | part (channel : CStr) (reason : Option CStr)
  | topic (channel topic : CStr)
  | message (chan msg : CStr)
  | me (chan message : CStr)
  | mode (channel mode : CStr) (args : Option CStr)
  | names (channel : CStr)
  | notice (channel message : CStr)
  | whois (target : CStr)
  | setNickname (nickname : CStr)
  /-- `irc_server_send`, with the text that its format gives. -/
  | send (text : CStr)
  deriving DecidableEq

namespace ApiCall

/-- The state after the call. -/
def perform (s : Sys) : ApiCall → Sys
  | invite channel target => (ircServerInvite s channel target).2
  | join name pass => (ircServerJoin s name pass).2
  | kick channel target reason => (ircServerKick s channel target reason).2
  | part channel reason => (ircServerPart s channel reason).2
  | topic channel text => (ircServerTopic s channel text).2
  | message chan msg => (ircServerMessage s chan msg).2
  | me chan text => (ircServerMe s chan text).2
  | mode channel letters args => (ircServerMode s channel letters args).2
  | names channel => (ircServerNames s channel).2
  | notice channel text => (ircServerNotice s channel text).2
  | whois target => (ircServerWhois s target).2
  | setNickname nickname => ircServerSetNickname s nickname
  | send text => (ircServerSend s text).2

end ApiCall

end Irccd
