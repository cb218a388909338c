import Irccd.Js.Server
import Irccd.Server.Channels
import Irccd.Server.Safety
import Irccd.Server.Sending

/-!
# Who acts

A PART, KICK or NICK message may be about the bot itself or about another user. Do the handlers
tell one from the other?

* `SelfAct`: such a message, as the protocol has it;
* `ActedRight`: a message about another user leaves the nickname, the channels and their flags
  alone, and one about the bot does what it says;
* `ToldApart`: what the message needs for that;
* `actedRight_iff`: the handlers act right exactly when the message meets it, and similarly for the
  function `isSelf` of the JavaScript API.
-/

namespace Irccd

/-- `nick!user@host` -/
def fullOrigin (nick user host : CStr) : CStr := nick ++ 33 :: (user ++ 64 :: host)

/-- A message about a user, with the nickname, the user name and the host of its origin. -/
inductive SelfAct
  | part (who user host channel : CStr)
  | kick (who user host channel target : CStr)
  | nick (who user host nickname : CStr)

namespace SelfAct

/-- The message says it. Other arguments, such as a reason, may follow. -/
def Says (msg : ConnMsg) : SelfAct → Prop
  | part who user host channel =>
    msg.cmd = cstr "PART" ∧ msg.pfx = some (fullOrigin who user host) ∧
      msg.args[0]? = some channel
  | kick who user host channel target =>
    msg.cmd = cstr "KICK" ∧ msg.pfx = some (fullOrigin who user host) ∧
      msg.args[0]? = some channel ∧ msg.args[1]? = some target
  | nick who user host nickname =>
    msg.cmd = cstr "NICK" ∧ msg.pfx = some (fullOrigin who user host) ∧
      msg.args[0]? = some nickname

/-- The channel is one that the bot has joined. -/
def InChannel (chs : List IrcChannel) : SelfAct → Prop
  | part _ _ _ channel | kick _ _ _ channel _ =>
    ∃ ch, ircServerChannelsFind chs channel = some ch ∧ ch.joined = true
  | nick _ _ _ _ => True

/-- The nickname of the user that the message is about. -/
def subject : SelfAct → CStr
  | part who _ _ _ => who
  | kick _ _ _ _ target => target
  | nick who _ _ _ => who

/-- The string that the handler gives to `irc_server_is_self`. -/
def tested : SelfAct → CStr
  | part who user host _ => fullOrigin who user host
  | kick _ _ _ _ target => target
  | nick who user host _ => fullOrigin who user host

/-- What a message about the bot does. -/
def Acts (s t : Sys) : SelfAct → Prop
  | part _ _ _ channel =>
    ∃ before ch after, ChannelAt s.server.channels channel before ch after ∧
      t.server.channels = before ++ after
  | kick _ _ _ channel _ =>
    ∃ before ch after, ChannelAt s.server.channels channel before ch after ∧
      t.server.channels = before ++ { ch with joined := false, users := [] } :: after ∧
      pushedLines t.trace = pushedLines s.trace ++
        if s.server.flags.autoRejoin ∧ Accepts s.server (joinLine ch) then
          [sentLine (joinLine ch)] else []
  | nick _ _ _ nickname => t.server.nickname = nickname

/-- The number of arguments that the handler reads. -/
def reads : SelfAct → ℕ
  | part _ _ _ _ => 2
  | kick _ _ _ _ _ => 3
  | nick _ _ _ _ => 1

/-- The message gives the nickname that there is already. -/
def Idle (nickname : CStr) : SelfAct → Prop
  | nick _ _ _ new => new = nickname
  | _ => False

end SelfAct

/-- The channels and whether they are joined. -/
def joinedFlags (chs : List IrcChannel) : List (CStr × Bool) :=
  chs.map fun ch => (ch.name, ch.joined)

/-- The nickname, the channels and their flags are the same, and nothing is sent. -/
def Harmless (s t : Sys) : Prop :=
  t.server.nickname = s.server.nickname ∧
    joinedFlags t.server.channels = joinedFlags s.server.channels ∧
    pushedLines t.trace = pushedLines s.trace

/-- The message has a result. When it is about the bot it does what it says, otherwise it does no
harm. -/
def ActedRight (s : Sys) (msg : ConnMsg) (act : SelfAct) : Prop :=
  ∃ t, ircServerHandle s msg = .ok (t, none) ∧
    if foldCase act.subject = foldCase s.server.nickname then act.Acts s t else Harmless s t

/-- The message has the arguments that its handler reads, and it is about the bot if what the
handler tests begins with the nickname of the bot. -/
def ToldApart (server : IrcServer) (msg : ConnMsg) (act : SelfAct) : Prop :=
  act.reads ≤ msg.argsz ∧
    (foldCase server.nickname <+: foldCase act.tested →
      foldCase act.subject = foldCase server.nickname ∨ act.Idle server.nickname)

/-! ## The string that is tested -/

theorem SelfAct.subject_prefix (act : SelfAct) : act.subject <+: act.tested := by
  cases act with
  | part who user host channel => exact ⟨33 :: (user ++ 64 :: host), rfl⟩
  | kick => exact List.prefix_rfl
  | nick who user host nickname => exact ⟨33 :: (user ++ 64 :: host), rfl⟩

/-- The bot always recognises itself. -/
theorem SelfAct.isSelf_of_subject {server : IrcServer} {act : SelfAct}
    (h : foldCase act.subject = foldCase server.nickname) :
    ircServerIsSelf server act.tested = true := by
  rw [ircServerIsSelf_iff, ← h]
  exact List.IsPrefix.map _ act.subject_prefix

/-! ## The channel list -/

variable {chs before after : List IrcChannel} {name : CStr} {ch ch' : IrcChannel}

/-- A channel that keeps its name and its flag keeps those of the list. -/
theorem ChannelAt.joinedFlags_replace (h : ChannelAt chs name before ch after)
    (hname : ch'.name = ch.name) (hjoined : ch'.joined = ch.joined) :
    joinedFlags (before ++ ch' :: after) = joinedFlags chs := by
  rw [h.eq]
  simp [joinedFlags, hname, hjoined]

/-- A channel whose flag changes, or which is removed, does not. -/
theorem ChannelAt.joinedFlags_ne (h : ChannelAt chs name before ch after)
    (hjoined : ch'.joined ≠ ch.joined) :
    joinedFlags (before ++ ch' :: after) ≠ joinedFlags chs := by
  rw [h.eq]
  simp [joinedFlags, hjoined]

theorem ChannelAt.joinedFlags_remove (h : ChannelAt chs name before ch after) :
    joinedFlags (before ++ after) ≠ joinedFlags chs := by
  rw [h.eq]
  intro heq
  have hlen := congrArg List.length heq
  simp [joinedFlags] at hlen

/-! ## The handlers -/

variable {s t : Sys} {msg : ConnMsg}

/-- `irc_server_handle` calls the handler that the table has for the command. -/
theorem ircServerHandle_of_find
    {h : CStr × (Sys → ConnMsg → Except Fault (Sys × Option IrcEventWhois))}
    (hfind : handlers.find? (·.1 == msg.cmd) = some h) : ircServerHandle s msg = h.2 s msg := by
  rw [ircServerHandle, hfind]

theorem ircServerHandle_part (hcmd : msg.cmd = cstr "PART") :
    ircServerHandle s msg = returns ircServerHandlePart s msg :=
  ircServerHandle_of_find (by rw [hcmd]; rfl)

theorem ircServerHandle_kick (hcmd : msg.cmd = cstr "KICK") :
    ircServerHandle s msg = returns ircServerHandleKick s msg :=
  ircServerHandle_of_find (by rw [hcmd]; rfl)

theorem ircServerHandle_nick (hcmd : msg.cmd = cstr "NICK") :
    ircServerHandle s msg = returns ircServerHandleNick s msg :=
  ircServerHandle_of_find (by rw [hcmd]; rfl)

/-- A user leaves a channel of the list, or the bot does. -/
theorem ircServerHandlePart_eq {origin channel reason : CStr} (hpfx : msg.pfx = some origin)
    (hchannel : msg.args[0]? = some channel) (hreason : msg.args[1]? = some reason)
    (hat : ChannelAt s.server.channels channel before ch after) :
    ircServerHandlePart s msg = .ok (dispatch (s.setChannels
      (if ircServerIsSelf s.server origin then before ++ after
        else before ++ ircChannelRemove ch origin :: after))
      (.part origin channel (some reason))) := by
  simp only [ircServerHandlePart, hpfx, ircUtilStrdup_some, arg_eq_ok_iff.2 hchannel,
    arg_eq_ok_iff.2 hreason, ok_bind, hat.find, hat.remove, hat.modify, Option.isSome_some, if_true]
  split <;> rfl

theorem ircServerHandleKick_eq {origin channel target reason : CStr} (hpfx : msg.pfx = some origin)
    (hchannel : msg.args[0]? = some channel) (htarget : msg.args[1]? = some target)
    (hreason : msg.args[2]? = some reason) :
    ircServerHandleKick s msg = .ok (dispatch
      (kicked (s.setChannels (ircServerChannelsAdd s.server.channels channel none true)) channel
        target) (.kick origin channel target (some reason))) := by
  simp only [ircServerHandleKick, hpfx, ircUtilStrdup_some, arg_eq_ok_iff.2 hchannel,
    arg_eq_ok_iff.2 htarget, arg_eq_ok_iff.2 hreason, ok_bind]
  rfl

theorem ircServerHandleNick_eq {origin nickname : CStr} (hpfx : msg.pfx = some origin)
    (hnickname : msg.args[0]? = some nickname) :
    ircServerHandleNick s msg = .ok (dispatch (if ircServerIsSelf s.server origin then
      { s with server := { s.server with nickname } } else s) (.nick origin nickname)) := by
  simp only [ircServerHandleNick, hpfx, ircUtilStrdup_some, arg_eq_ok_iff.2 hnickname, ok_bind]
  rfl

/-- Somebody else is kicked. -/
theorem kicked_of_other {channel target : CStr}
    (hat : ChannelAt s.server.channels channel before ch after)
    (hself : ircServerIsSelf s.server target = false) :
    kicked s channel target = s.setChannels (before ++ ircChannelRemove ch target :: after) := by
  rw [kicked, hself, if_neg (by simp), hat.modify]

/-- The bot is kicked: the channel is emptied, and joined again if the option is set. -/
theorem kicked_of_self {channel target : CStr}
    (hat : ChannelAt s.server.channels channel before ch after)
    (hself : ircServerIsSelf s.server target = true) :
    (kicked s channel target).server.channels = before ++ ircChannelClear ch :: after ∧
      pushedLines (kicked s channel target).trace = pushedLines s.trace ++
        if s.server.flags.autoRejoin ∧ Accepts s.server (joinLine ch) then
          [sentLine (joinLine ch)] else [] := by
  let u := s.setChannels (before ++ ircChannelClear ch :: after)
  have hu : ChannelAt (before ++ ircChannelClear ch :: after) channel before (ircChannelClear ch)
    after := hat.replace rfl
  have hfind : ircServerChannelsFind u.server.channels ch.name = some (ircChannelClear ch) :=
    hu.of_name.find
  have hkicked : kicked s channel target =
      if s.server.flags.autoRejoin then (ircServerJoin u ch.name ch.password).2 else u := by
    rw [kicked, hself, if_pos rfl, hat.modify]
    simp only [Sys.setChannels, hu.find]
    cases s.server.flags.autoRejoin <;> rfl
  rw [hkicked]
  cases s.server.flags.autoRejoin with
  | false => simp [u, Sys.setChannels]
  | true =>
    -- the flag of the channel is cleared, so `irc_server_join` sends if the connection is ready
    have hclear : (ircChannelClear ch).joined = false := rfl
    rw [if_pos rfl, ircServerJoin_of_find hfind, hclear, Bool.not_false, Bool.true_and]
    have haccepts : Accepts u.server (joinLine ch) ↔ Accepts s.server (joinLine ch) := Iff.rfl
    by_cases hready : ircServerReady u.server = true
    · rw [if_pos hready, ircServerSend_channels, pushedLines_ircServerSend]
      simp only [true_and, ← haccepts]
      exact ⟨rfl, rfl⟩
    · rw [if_neg hready]
      have hnot : ¬ Accepts s.server (joinLine ch) := by
        rintro ⟨co, hco, hready', -⟩
        exact hready ((ircServerReady_of_some hco).trans hready')
      simp [hnot, u, Sys.setChannels]

/-! ## Telling the bot from the others -/

variable {act : SelfAct}

/-- What the handler does depends on the test only: on a positive answer it does what the message
says, and that is harmless only when there is nothing to change. -/
theorem actedRight_iff_of_handle
    (hundefined : ¬ act.reads ≤ msg.argsz → ¬ Defined (ircServerHandle s msg))
    (hhandle : act.reads ≤ msg.argsz → ∃ t, ircServerHandle s msg = .ok (t, none) ∧
      if ircServerIsSelf s.server act.tested then
        act.Acts s t ∧ (Harmless s t → act.Idle s.server.nickname) ∧
          (act.Idle s.server.nickname → Harmless s t)
      else Harmless s t) :
    ActedRight s msg act ↔ ToldApart s.server msg act := by
  rw [ActedRight, ToldApart, ← ircServerIsSelf_iff]
  by_cases hargs : act.reads ≤ msg.argsz
  · obtain ⟨t, ht, hact⟩ := hhandle hargs
    simp only [ht, Except.ok.injEq, Prod.mk.injEq, and_true, exists_eq_left', hargs, true_and]
    by_cases hself : ircServerIsSelf s.server act.tested = true
    · rw [if_pos hself] at hact
      obtain ⟨hacts, hidle, hharmless⟩ := hact
      by_cases hsubject : foldCase act.subject = foldCase s.server.nickname
      · rw [if_pos hsubject]
        exact iff_of_true hacts fun _ => .inl hsubject
      · -- another user whose nickname begins with that of the bot
        rw [if_neg hsubject]
        exact ⟨fun h _ => .inr (hidle h), fun h => hharmless ((h hself).resolve_left hsubject)⟩
    · rw [if_neg hself] at hact
      have hsubject : foldCase act.subject ≠ foldCase s.server.nickname :=
        fun h => hself (SelfAct.isSelf_of_subject h)
      rw [if_neg hsubject]
      exact iff_of_true hact fun h => absurd h hself
  · -- the handler reads an argument that is not there
    refine iff_of_false ?_ fun h => hargs h.1
    rintro ⟨t, ht, -⟩
    exact hundefined hargs ⟨_, ht⟩

theorem actedRight_part_iff {who user host channel : CStr}
    (hsaid : (SelfAct.part who user host channel).Says msg)
    (hchannel : (SelfAct.part who user host channel).InChannel s.server.channels) :
    ActedRight s msg (.part who user host channel) ↔
      ToldApart s.server msg (.part who user host channel) := by
  obtain ⟨hcmd, hpfx, harg⟩ := hsaid
  obtain ⟨ch, hfind, hjoined⟩ := hchannel
  obtain ⟨before, after, hat⟩ := exists_channelAt hfind
  rw [actedRight_iff_of_handle]
  · intro hargs
    rw [ircServerHandle_part hcmd, defined_returns_iff, defined_ircServerHandlePart_iff]
    exact fun h => hargs h.1.2
  · intro hargs
    obtain ⟨reason, hreason⟩ := exists_arg_iff.2 hargs
    refine ⟨_, by rw [ircServerHandle_part hcmd, returns,
      ircServerHandlePart_eq hpfx harg hreason hat]; rfl, ?_⟩
    by_cases hself : ircServerIsSelf s.server (fullOrigin who user host) = true
    · rw [SelfAct.tested, if_pos hself, if_pos hself]
      exact ⟨⟨before, ch, after, hat, rfl⟩, fun h => absurd h.2.1 hat.joinedFlags_remove,
        fun h => h.elim⟩
    · rw [SelfAct.tested, if_neg hself, if_neg hself]
      exact ⟨rfl, hat.joinedFlags_replace rfl rfl, pushedLines_dispatch _ _⟩

theorem actedRight_kick_iff {who user host channel target : CStr}
    (hsaid : (SelfAct.kick who user host channel target).Says msg)
    (hchannel : (SelfAct.kick who user host channel target).InChannel s.server.channels) :
    ActedRight s msg (.kick who user host channel target) ↔
      ToldApart s.server msg (.kick who user host channel target) := by
  obtain ⟨hcmd, hpfx, harg, htarget⟩ := hsaid
  obtain ⟨ch, hfind, hjoined⟩ := hchannel
  obtain ⟨before, after, hat⟩ := exists_channelAt hfind
  rw [actedRight_iff_of_handle]
  · intro hargs
    rw [ircServerHandle_kick hcmd, defined_returns_iff, defined_ircServerHandleKick_iff]
    exact fun h => hargs h.2
  · intro hargs
    obtain ⟨reason, hreason⟩ := exists_arg_iff.2 hargs
    -- the channel is joined, so adding it does nothing
    refine ⟨dispatch (kicked s channel target) (.kick (fullOrigin who user host) channel target
      (some reason)), by rw [ircServerHandle_kick hcmd, returns,
        ircServerHandleKick_eq hpfx harg htarget hreason, hat.add_of_joined hjoined]; rfl, ?_⟩
    by_cases hself : ircServerIsSelf s.server target = true
    · rw [SelfAct.tested, if_pos hself]
      obtain ⟨hchannels, hpushed⟩ := kicked_of_self hat hself
      refine ⟨⟨before, ch, after, hat, hchannels, ?_⟩, fun h => ?_, fun h => h.elim⟩
      · rw [pushedLines_dispatch, hpushed]
      · -- the channel was joined, and is not any more
        have hflags : joinedFlags (kicked s channel target).server.channels = _ := h.2.1
        rw [hchannels] at hflags
        exact absurd hflags (hat.joinedFlags_ne (by simp [ircChannelClear, hjoined]))
    · rw [SelfAct.tested, if_neg hself, kicked_of_other hat (by simpa using hself)]
      exact ⟨rfl, hat.joinedFlags_replace rfl rfl, pushedLines_dispatch _ _⟩

theorem actedRight_nick_iff {who user host nickname : CStr}
    (hsaid : (SelfAct.nick who user host nickname).Says msg) :
    ActedRight s msg (.nick who user host nickname) ↔
      ToldApart s.server msg (.nick who user host nickname) := by
  obtain ⟨hcmd, hpfx, harg⟩ := hsaid
  rw [actedRight_iff_of_handle]
  · intro hargs
    rw [ircServerHandle_nick hcmd, defined_returns_iff, defined_ircServerHandleNick_iff]
    exact fun h => hargs h.2
  · intro _
    refine ⟨_, by rw [ircServerHandle_nick hcmd, returns, ircServerHandleNick_eq hpfx harg]; rfl,
      ?_⟩
    by_cases hself : ircServerIsSelf s.server (fullOrigin who user host) = true
    · rw [SelfAct.tested, if_pos hself, if_pos hself]
      exact ⟨rfl, fun h => h.1, fun h => ⟨h, rfl, pushedLines_dispatch _ _⟩⟩
    · rw [SelfAct.tested, if_neg hself, if_neg hself]
      exact ⟨rfl, rfl, pushedLines_dispatch _ _⟩

/-- The handlers act right on a message exactly when it has the arguments they read and what they
test begins with the nickname of the bot only if it is the bot. `isSelf` is right on a nickname
exactly when it is that of the bot to the letter, or neither begins with it nor equals it ignoring
case. -/
theorem actedRight_iff (s : Sys) (msg : ConnMsg) (act : SelfAct) (target : CStr)
    (hsaid : act.Says msg) (hchannel : act.InChannel s.server.channels) :
    (ActedRight s msg act ↔ ToldApart s.server msg act) ∧
      ((serverPrototypeIsSelf s.server target = true ↔
          foldCase target = foldCase s.server.nickname) ↔
        target = s.server.nickname ∨
          (¬ s.server.nickname <+: target ∧ foldCase target ≠ foldCase s.server.nickname)) := by
  constructor
  · cases act with
    | part => exact actedRight_part_iff hsaid hchannel
    | kick => exact actedRight_kick_iff hsaid hchannel
    | nick => exact actedRight_nick_iff hsaid
  · rw [serverPrototypeIsSelf_iff]
    by_cases hpre : s.server.nickname <+: target
    · -- of the strings that begin with the nickname, only itself is as long
      simp only [hpre, true_iff, not_true, false_and, or_false]
      refine ⟨fun heq => ?_, fun heq => heq ▸ rfl⟩
      have hlen : target.length = s.server.nickname.length := by
        simpa using congrArg List.length heq
      exact (hpre.eq_of_length hlen.symm).symm
    · have hne : target ≠ s.server.nickname := fun heq => hpre (heq ▸ List.prefix_rfl)
      simp [hpre, hne]

/-- The bot leaves a channel. -/
theorem actedRight_part_self :
    ActedRight (Sys.start { localServer with channels := [⟨cstr "#c", none, true, []⟩] })
      ⟨some (cstr "Bot!b@h"), cstr "PART", [cstr "#c", cstr "bye"]⟩
      (.part (cstr "Bot") (cstr "b") (cstr "h") (cstr "#c")) := by
  refine (actedRight_iff _ _ _ (cstr "bot") ?_ ?_).1.2 ⟨by decide, fun _ => .inl (by decide)⟩
  · exact ⟨rfl, by decide, rfl⟩
  · exact ⟨⟨cstr "#c", none, true, []⟩, by decide, rfl⟩

/-- A stranger called `botany` renames the bot `bot`, and `isSelf` takes the one for the other. -/
theorem not_actedRight_botany :
    (SelfAct.nick (cstr "botany") (cstr "b") (cstr "h") (cstr "evil")).Says
        ⟨some (cstr "botany!b@h"), cstr "NICK", [cstr "evil"]⟩ ∧
      ¬ ActedRight (Sys.start localServer) ⟨some (cstr "botany!b@h"), cstr "NICK", [cstr "evil"]⟩
        (.nick (cstr "botany") (cstr "b") (cstr "h") (cstr "evil")) ∧
      ¬ (serverPrototypeIsSelf localServer (cstr "botany") = true ↔
        foldCase (cstr "botany") = foldCase localServer.nickname) := by
  have hsaid : (SelfAct.nick (cstr "botany") (cstr "b") (cstr "h") (cstr "evil")).Says
      ⟨some (cstr "botany!b@h"), cstr "NICK", [cstr "evil"]⟩ := ⟨rfl, by decide, rfl⟩
  refine ⟨hsaid, ?_, by decide⟩
  rw [actedRight_nick_iff hsaid]
  rintro ⟨-, htold⟩
  rcases htold (by decide) with h | h
  · exact absurd h (by decide)
  · exact absurd (show cstr "evil" = cstr "bot" from h) (by decide)

end Irccd
