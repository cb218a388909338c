import Irccd.CString

/-!
# Events (`event.h`)

What `irc_bot_dispatch` gives to the plugins. The server of an event is passed beside it.
-/

namespace Irccd

/-- `struct irc_event_message` -/
structure IrcEventMessage where
  origin : CStr
  channel : CStr
  message : CStr
  deriving DecidableEq

/-- `struct irc_event_whois` -/
structure IrcEventWhois where
  nickname : CStr
  username : CStr
  hostname : CStr
  realname : CStr
  channels : List (CStr × BitVec 32)
  deriving DecidableEq

/-- `struct irc_event`: its type and the member of the union that goes with it. The strings are
those the server code always fills in; an optional string is `none` where the source has NULL. -/
inductive IrcEvent
  | unknown
  | command (message : IrcEventMessage)
  | connect
  | disconnect
  | invite (origin channel : CStr)
  | join (origin channel : CStr)
  | kick (origin channel target : CStr) (reason : Option CStr)
  | me (message : IrcEventMessage)
  | message (message : IrcEventMessage)
  | mode (origin channel mode : CStr) (args : List CStr)
  | names (channel : CStr) (users : List (Option CStr × BitVec 32))
  | nick (origin nickname : CStr)
  | notice (origin channel notice : CStr)
  | part (origin channel : CStr) (reason : Option CStr)
  | topic (origin channel topic : CStr)
  | whois (whois : IrcEventWhois)
  deriving DecidableEq

end Irccd
