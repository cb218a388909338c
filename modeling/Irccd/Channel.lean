import Irccd.CString

/-!
# IRC channels (`channel.c`)

A channel keeps the list of its users, newest first. Nicknames are compared ignoring case.
-/

namespace Irccd

/-- `struct irc_channel_user` -/
structure IrcChannelUser where
  nickname : CStr
  modes : BitVec 32
  deriving DecidableEq

/-- `struct irc_channel`. Of `enum irc_channel_flags` the only flag is `IRC_CHANNEL_FLAGS_JOINED`,
kept as `joined`. -/
structure IrcChannel where
  name : CStr
  password : Option CStr
  joined : Bool
  users : List IrcChannelUser
  deriving DecidableEq

/-- `irc_channel_new`: the name is stored in lower case. -/
def ircChannelNew (name : CStr) (password : Option CStr) (joined : Bool) : IrcChannel :=
  { name := foldCase name, password, joined, users := [] }

/-- `irc_channel_get` -/
def ircChannelGet (ch : IrcChannel) (nickname : CStr) : Option IrcChannelUser :=
  ch.users.find? fun u => strcasecmp u.nickname nickname

/-- `irc_channel_add`: a nickname already there is left as it is. -/
def ircChannelAdd (ch : IrcChannel) (nickname : CStr) (modes : BitVec 32) : IrcChannel :=
  if (ircChannelGet ch nickname).isSome then ch
  else { ch with users := ⟨nickname, modes⟩ :: ch.users }

/-- Replace the modes of the first user with this nickname. -/
def setModes (nickname : CStr) (modes : BitVec 32) : List IrcChannelUser → List IrcChannelUser
  | [] => []
  | u :: us =>
    if strcasecmp u.nickname nickname then { u with modes } :: us
    else u :: setModes nickname modes us

/-- `irc_channel_set` -/
def ircChannelSet (ch : IrcChannel) (nickname : CStr) (modes : BitVec 32) : IrcChannel :=
  { ch with users := setModes nickname modes ch.users }

/-- `irc_channel_clear`: no user and no flag is left. -/
def ircChannelClear (ch : IrcChannel) : IrcChannel := { ch with users := [], joined := false }

/-- `irc_channel_count` -/
def ircChannelCount (ch : IrcChannel) : ℕ := ch.users.length

/-- `irc_channel_remove` -/
def ircChannelRemove (ch : IrcChannel) (nickname : CStr) : IrcChannel :=
  { ch with users := ch.users.eraseP fun u => strcasecmp u.nickname nickname }

/-! ## What the operations leave alone -/

@[simp] theorem ircChannelNew_name (name : CStr) (password : Option CStr) (joined : Bool) :
    (ircChannelNew name password joined).name = foldCase name := rfl

@[simp] theorem ircChannelAdd_name (ch : IrcChannel) (nickname : CStr) (modes : BitVec 32) :
    (ircChannelAdd ch nickname modes).name = ch.name := by
  unfold ircChannelAdd; split <;> rfl

@[simp] theorem ircChannelSet_name (ch : IrcChannel) (nickname : CStr) (modes : BitVec 32) :
    (ircChannelSet ch nickname modes).name = ch.name := rfl

@[simp] theorem ircChannelClear_name (ch : IrcChannel) : (ircChannelClear ch).name = ch.name := rfl

@[simp] theorem ircChannelRemove_name (ch : IrcChannel) (nickname : CStr) :
    (ircChannelRemove ch nickname).name = ch.name := rfl

end Irccd
