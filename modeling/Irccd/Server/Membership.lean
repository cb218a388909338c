import Irccd.Foundations.Runs
import Irccd.Server.Identity
import Irccd.Server.Prefixes
import Mathlib.Data.Finset.Basic
import Mathlib.Data.Finset.Lattice.Lemmas

/-!
# Who is on a channel

The handlers of 353, JOIN, PART and KICK update the users of a channel. Is it the list of those who
are there?

* `MemberMsg`: such a message, and what it does to the set of those who are there;
* `tracked`: the nicknames on the list, ignoring case;
* `Tracks`: the list has the nicknames it should have;
* `TrackCond`: what the messages need for that;
* `tracks_of_allSteps`: a run of messages that meet it stays in `Tracks`.
-/

namespace Irccd

/-! ## The users of a channel -/

/-- The nicknames of the users, ignoring case. -/
def tracked (ch : IrcChannel) : Finset CStr := (ch.users.map (foldCase ·.nickname)).toFinset

/-- The nicknames of the users differ, ignoring case. -/
def DistinctUsers (ch : IrcChannel) : Prop := (ch.users.map (foldCase ·.nickname)).Nodup

section Users

variable {ch : IrcChannel}

theorem mem_tracked {n : CStr} : n ∈ tracked ch ↔ ∃ u ∈ ch.users, foldCase u.nickname = n := by
  simp [tracked]

theorem isSome_ircChannelGet_iff {nickname : CStr} :
    (ircChannelGet ch nickname).isSome = true ↔ foldCase nickname ∈ tracked ch := by
  simp [ircChannelGet, mem_tracked]

theorem tracked_add (nickname : CStr) (modes : BitVec 32) :
    tracked (ircChannelAdd ch nickname modes) = insert (foldCase nickname) (tracked ch) := by
  unfold ircChannelAdd
  by_cases h : (ircChannelGet ch nickname).isSome = true
  · rw [if_pos h, Finset.insert_eq_of_mem (isSome_ircChannelGet_iff.1 h)]
  · rw [if_neg h, tracked, tracked, List.map_cons, List.toFinset_cons]

theorem DistinctUsers.add (hd : DistinctUsers ch) (nickname : CStr) (modes : BitVec 32) :
    DistinctUsers (ircChannelAdd ch nickname modes) := by
  unfold ircChannelAdd
  by_cases h : (ircChannelGet ch nickname).isSome = true
  · rwa [if_pos h]
  · rw [if_neg h, DistinctUsers, List.map_cons, List.nodup_cons]
    refine ⟨fun hmem => h (isSome_ircChannelGet_iff.2 ?_), hd⟩
    exact List.mem_toFinset.2 hmem

/-- `irc_channel_remove` removes one user, the only one with the nickname. -/
theorem map_nickname_remove (nickname : CStr) :
    (ircChannelRemove ch nickname).users.map (foldCase ·.nickname) =
      (ch.users.map (foldCase ·.nickname)).erase (foldCase nickname) := by
  rw [List.erase_eq_eraseP', List.eraseP_map]
  refine congrArg _ (congrArg (List.eraseP · ch.users) ?_)
  funext u
  simp [strcasecmp]

theorem tracked_remove (hd : DistinctUsers ch) (nickname : CStr) :
    tracked (ircChannelRemove ch nickname) = (tracked ch).erase (foldCase nickname) := by
  ext n
  rw [tracked, map_nickname_remove, List.mem_toFinset, hd.mem_erase_iff, Finset.mem_erase, tracked,
    List.mem_toFinset]

theorem DistinctUsers.remove (hd : DistinctUsers ch) (nickname : CStr) :
    DistinctUsers (ircChannelRemove ch nickname) := by
  unfold DistinctUsers
  rw [map_nickname_remove]
  exact hd.erase _

@[simp] theorem tracked_clear : tracked (ircChannelClear ch) = ∅ := rfl

theorem DistinctUsers.clear : DistinctUsers (ircChannelClear ch) := List.nodup_nil

/-- The words of a 353 message are added without the symbols that `irc_server_strip` takes away. -/
theorem tracked_addNames (prefixes : List IrcServerUmode) (words : List CStr) :
    tracked (addNames prefixes words ch) =
      tracked ch ∪ (words.map fun w => foldCase (ircServerStrip prefixes w).2).toFinset := by
  induction words generalizing ch with
  | nil => simp [addNames]
  | cons w words ih =>
    rw [addNames, List.foldl_cons, ← addNames, ih, tracked_add, List.map_cons, List.toFinset_cons,
      Finset.insert_union, Finset.union_insert]

theorem DistinctUsers.addNames (hd : DistinctUsers ch) (prefixes : List IrcServerUmode)
    (words : List CStr) : DistinctUsers (addNames prefixes words ch) := by
  induction words generalizing ch with
  | nil => exact hd
  | cons w words ih => exact ih (hd.add _ _)

end Users

/-! ## Messages -/

/-- A message about the users of a channel, with its origin and its arguments. -/
inductive MemberMsg
  /-- A 353 with the nicknames of `list`. -/
  | names (pfx : Option CStr) (target kind channel list : CStr) (rest : List CStr)
  | join (who user host channel : CStr) (rest : List CStr)
  | part (who user host channel : CStr) (rest : List CStr)
  | kick (who user host channel target : CStr) (rest : List CStr)
  deriving DecidableEq

namespace MemberMsg

/-- The message as it is received. -/
def msg : MemberMsg → ConnMsg
  | names pfx target kind channel list rest =>
    ⟨pfx, cstr "353", target :: kind :: channel :: list :: rest⟩
  | join who user host channel rest =>
    ⟨some (fullOrigin who user host), cstr "JOIN", channel :: rest⟩
  | part who user host channel rest =>
    ⟨some (fullOrigin who user host), cstr "PART", channel :: rest⟩
  | kick who user host channel target rest =>
    ⟨some (fullOrigin who user host), cstr "KICK", channel :: target :: rest⟩

def channel : MemberMsg → CStr
  | names _ _ _ channel _ _ => channel
  | join _ _ _ channel _ => channel
  | part _ _ _ channel _ => channel
  | kick _ _ _ channel _ _ => channel

/-- What the message does to the set of those who are on the channel. -/
def update (prefixes : List IrcServerUmode) (ref : Finset CStr) : MemberMsg → Finset CStr
  | names _ _ _ _ list _ =>
    ref ∪ ((tokens SP list).map fun w => foldCase (bare prefixes w)).toFinset
  | join who _ _ _ _ => insert (foldCase who) ref
  | part who _ _ _ _ => ref.erase (foldCase who)
  | kick _ _ _ _ target _ => ref.erase (foldCase target)

end MemberMsg

/-- What the handlers make of the server, and the set of those who are on the channel. -/
structure Tracking where
  sys : Except Fault Sys
  ref : Finset CStr

/-- Handle a message, and update the set as it says. -/
def Tracking.step (prefixes : List IrcServerUmode) (t : Tracking) (m : MemberMsg) :
    Option Tracking :=
  some {
    sys := t.sys >>= fun s => (ircServerHandle s m.msg).map Prod.fst
    ref := m.update prefixes t.ref }

/-- The handlers have had a result, and the users of the channel are those of the set. -/
def Tracks (channel : CStr) (t : Tracking) : Prop :=
  ∃ s ch, t.sys = .ok s ∧ ircServerChannelsFind s.server.channels channel = some ch ∧
    tracked ch = t.ref

/-- The symbols before the nicknames of a 353 come in the order of the PREFIX table, and whoever
joins is on the list. Whoever leaves is not on the list, and neither is his full origin, which does
not begin with the nickname of the bot. If the nickname of somebody who is kicked begins with that
of the bot, nobody else is on the list. A PART and a KICK come with a reason. -/
def TrackCond (prefixes : List IrcServerUmode) (nickname : CStr) (t : Tracking) :
    MemberMsg → Tracking → Prop
  | .names _ _ _ _ list _, _ =>
    ∀ w ∈ tokens SP list, (leading prefixes w).Sublist (prefixes.map (·.symbol))
  | .join who _ _ _ _, _ => foldCase who ∈ t.ref
  | .part who user host _ rest, _ =>
    rest ≠ [] ∧ ¬ foldCase nickname <+: foldCase (fullOrigin who user host) ∧
      foldCase who ∉ t.ref ∧ foldCase (fullOrigin who user host) ∉ t.ref
  | .kick _ _ _ _ target rest, _ =>
    rest ≠ [] ∧ (foldCase nickname <+: foldCase target → t.ref ⊆ {foldCase target})

/-! ## One message -/

section Step

variable {s : Sys} {msg : ConnMsg} {before after : List IrcChannel} {ch : IrcChannel}

theorem ircServerHandle_join (hcmd : msg.cmd = cstr "JOIN") :
    ircServerHandle s msg = returns ircServerHandleJoin s msg :=
  ircServerHandle_of_find (by rw [hcmd]; rfl)

theorem ircServerHandle_names (hcmd : msg.cmd = cstr "353") :
    ircServerHandle s msg = returns ircServerHandleNames s msg :=
  ircServerHandle_of_find (by rw [hcmd]; rfl)

/-- `t` is the server `s` with the channel under that name changed to `ch`. -/
structure Rewrites (channel : CStr) (s t : Sys) (ch : IrcChannel) : Prop where
  find : ircServerChannelsFind t.server.channels channel = some ch
  prefixes : t.server.prefixes = s.server.prefixes
  nickname : t.server.nickname = s.server.nickname

/-- The handlers change the channel of the message, and the server in nothing else that matters. -/
theorem Rewrites.of_channelAt {channel : CStr}
    (hat : ChannelAt s.server.channels channel before ch after) (ch' : IrcChannel)
    (hname : ch'.name = ch.name) :
    Rewrites channel s (s.setChannels (before ++ ch' :: after)) ch' :=
  ⟨(hat.replace hname).find, rfl, rfl⟩

theorem Rewrites.dispatch {channel : CStr} {t : Sys} (h : Rewrites channel s t ch)
    (ev : IrcEvent) : Rewrites channel s (dispatch t ev) ch := ⟨h.find, h.prefixes, h.nickname⟩

theorem kicked_server (s : Sys) (channel target : CStr) :
    (kicked s channel target).server =
      { s.server with
        channels := (kicked s channel target).server.channels
        coroutine := (kicked s channel target).server.coroutine } := by
  unfold kicked
  split
  · dsimp only
    split
    · rw [ircServerJoin_server]
      rfl
    · rfl
  · rfl

/-- The nicknames of a 353 are added to the channel. -/
theorem handle_names {pfx : Option CStr} {target kind channel list : CStr} {rest : List CStr}
    (hat : ChannelAt s.server.channels channel before ch after) (hd : DistinctUsers ch)
    (horder : ∀ w ∈ tokens SP list,
      (leading s.server.prefixes w).Sublist (s.server.prefixes.map (·.symbol))) :
    ∃ t ch', ircServerHandle s (MemberMsg.names pfx target kind channel list rest).msg =
        .ok (t, none) ∧ Rewrites channel s t ch' ∧ DistinctUsers ch' ∧
      tracked ch' =
        tracked ch ∪
          ((tokens SP list).map fun w => foldCase (bare s.server.prefixes w)).toFinset := by
  -- the channel is added first, which only sets its flag
  let joined : IrcChannel := { ch with joined := ch.joined || true }
  have hat' : ChannelAt (before ++ joined :: after) channel before joined after := hat.replace rfl
  refine ⟨s.setChannels (before ++ addNames s.server.prefixes (tokens SP list) joined :: after),
    addNames s.server.prefixes (tokens SP list) joined, ?_, ?_, ?_, ?_⟩
  · rw [ircServerHandle_names rfl, returns]
    simp only [ircServerHandleNames, MemberMsg.msg, ConnMsg.arg, List.getElem?_cons_succ,
      List.getElem?_cons_zero, ok_bind, hat.add]
    rw [hat'.modify]
    rfl
  · exact .of_channelAt hat _ (addNames_name _ _ _)
  · exact DistinctUsers.addNames (show DistinctUsers joined from hd) _ _
  · rw [tracked_addNames]
    have hmap : (tokens SP list).map (fun w => foldCase (ircServerStrip s.server.prefixes w).2) =
        (tokens SP list).map fun w => foldCase (bare s.server.prefixes w) :=
      List.map_congr_left fun w hw => by rw [ircServerStrip_eq_bare_iff.2 (horder w hw)]
    rw [hmap]
    rfl

/-- Nobody is added by a JOIN. -/
theorem handle_join (who user host : CStr) (rest : List CStr) {channel : CStr}
    (hat : ChannelAt s.server.channels channel before ch after) :
    ∃ t ch', ircServerHandle s (MemberMsg.join who user host channel rest).msg = .ok (t, none) ∧
      Rewrites channel s t ch' ∧ ch'.users = ch.users := by
  let joined : IrcChannel := { ch with joined := ch.joined || true }
  refine ⟨dispatch (s.setChannels (before ++ joined :: after))
    (.join (fullOrigin who user host) channel), joined, ?_, ?_, rfl⟩
  · rw [ircServerHandle_join rfl, returns]
    simp only [ircServerHandleJoin, MemberMsg.msg, ircUtilStrdup_some, ConnMsg.arg,
      List.getElem?_cons_zero, ok_bind, hat.add]
    rfl
  · exact (Rewrites.of_channelAt hat joined rfl).dispatch _

/-- A PART of another user removes whoever is listed under his full origin. -/
theorem handle_part {who user host channel : CStr} (reason : CStr) (rest : List CStr)
    (hat : ChannelAt s.server.channels channel before ch after)
    (hself : ¬ foldCase s.server.nickname <+: foldCase (fullOrigin who user host)) :
    ∃ t, ircServerHandle s (MemberMsg.part who user host channel (reason :: rest)).msg =
        .ok (t, none) ∧
      Rewrites channel s t (ircChannelRemove ch (fullOrigin who user host)) := by
  rw [← ircServerIsSelf_iff] at hself
  refine ⟨dispatch (s.setChannels
    (before ++ ircChannelRemove ch (fullOrigin who user host) :: after))
    (.part (fullOrigin who user host) channel (some reason)), ?_, ?_⟩
  · rw [ircServerHandle_part rfl, returns, ircServerHandlePart_eq rfl rfl rfl hat, if_neg hself]
    rfl
  · exact (Rewrites.of_channelAt hat _ (ircChannelRemove_name _ _)).dispatch _

/-- A KICK removes the user who is kicked, or everybody when it is taken for one of the bot. -/
theorem handle_kick {who user host channel target reason : CStr} {rest : List CStr}
    (hat : ChannelAt s.server.channels channel before ch after) (hd : DistinctUsers ch)
    (halone : foldCase s.server.nickname <+: foldCase target → tracked ch ⊆ {foldCase target}) :
    ∃ t ch', ircServerHandle s (MemberMsg.kick who user host channel target (reason :: rest)).msg =
        .ok (t, none) ∧ Rewrites channel s t ch' ∧ DistinctUsers ch' ∧
      tracked ch' = (tracked ch).erase (foldCase target) := by
  rw [← ircServerIsSelf_iff] at halone
  let joined : IrcChannel := { ch with joined := ch.joined || true }
  let u := s.setChannels (before ++ joined :: after)
  have hu : ChannelAt u.server.channels channel before joined after := hat.replace rfl
  have hrun : ircServerHandle s (MemberMsg.kick who user host channel target (reason :: rest)).msg =
      .ok (dispatch (kicked u channel target)
        (.kick (fullOrigin who user host) channel target (some reason)), none) := by
    rw [ircServerHandle_kick rfl, returns, ircServerHandleKick_eq rfl rfl rfl rfl, hat.add]
    rfl
  have hserver := kicked_server u channel target
  by_cases hself : ircServerIsSelf s.server target = true
  · refine ⟨_, ircChannelClear joined, hrun, Rewrites.dispatch ⟨?_, ?_, ?_⟩ _, .clear, ?_⟩
    · rw [(kicked_of_self hu hself).1]
      exact (hu.replace (ircChannelClear_name joined)).find
    · rw [hserver]
      rfl
    · rw [hserver]
      rfl
    · -- nobody else was there
      rw [tracked_clear, eq_comm, Finset.eq_empty_iff_forall_notMem]
      intro n hn
      rw [Finset.mem_erase] at hn
      exact hn.1 (Finset.mem_singleton.1 (halone hself hn.2))
  · have hother : ircServerIsSelf u.server target = false := Bool.not_eq_true _ ▸ hself
    have hkicked := kicked_of_other hu hother
    have hdjoined : DistinctUsers joined := hd
    refine ⟨_, ircChannelRemove joined target, hrun, Rewrites.dispatch ?_ _,
      hdjoined.remove _, tracked_remove hdjoined _⟩
    rw [hkicked]
    exact ⟨(hu.replace (ircChannelRemove_name joined target)).find, rfl, rfl⟩

/-- What a message that meets the condition does to the users of its channel. -/
theorem handle_member {channel : CStr} {m : MemberMsg} (hm : foldCase m.channel = foldCase channel)
    (hat : ChannelAt s.server.channels channel before ch after) (hd : DistinctUsers ch)
    {t' : Tracking} (hcond :
      TrackCond s.server.prefixes s.server.nickname ⟨.ok s, tracked ch⟩ m t') :
    ∃ t ch', ircServerHandle s m.msg = .ok (t, none) ∧ Rewrites m.channel s t ch' ∧
      DistinctUsers ch' ∧ tracked ch' = m.update s.server.prefixes (tracked ch) := by
  have hat' : ChannelAt s.server.channels m.channel before ch after := hat.congr hm
  cases m with
  | names pfx target kind chan list rest => exact handle_names hat' hd hcond
  | join who user host chan rest =>
    obtain ⟨t, ch', hrun, hrw, husers⟩ :=
      handle_join who user host rest hat'
    refine ⟨t, ch', hrun, hrw, ?_, ?_⟩
    · rwa [DistinctUsers, husers]
    · have hin : foldCase who ∈ tracked ch := hcond
      rw [tracked, husers, MemberMsg.update, Finset.insert_eq_of_mem hin]
      rfl
  | part who user host chan rest =>
    obtain ⟨hrest, hself, hwho, horigin⟩ := hcond
    obtain ⟨reason, rest, rfl⟩ := List.exists_cons_of_ne_nil hrest
    obtain ⟨t, hrun, hrw⟩ := handle_part reason rest hat' hself
    refine ⟨t, _, hrun, hrw, hd.remove _, ?_⟩
    -- nobody is there to be removed, under one name or the other
    rw [tracked_remove hd, MemberMsg.update, Finset.erase_eq_of_notMem hwho,
      Finset.erase_eq_of_notMem horigin]
  | kick who user host chan target rest =>
    obtain ⟨hrest, halone⟩ := hcond
    obtain ⟨reason, rest, rfl⟩ := List.exists_cons_of_ne_nil hrest
    exact handle_kick hat' hd halone

end Step

/-! ## Runs -/

/-- What the messages keep: the channel is there, its users differ and are those of the set. -/
def TrackInv (prefixes : List IrcServerUmode) (nickname channel : CStr) (t : Tracking) : Prop :=
  ∃ s ch, t.sys = .ok s ∧ ircServerChannelsFind s.server.channels channel = some ch ∧
    tracked ch = t.ref ∧ DistinctUsers ch ∧ s.server.prefixes = prefixes ∧
    s.server.nickname = nickname

theorem trackInv_step {prefixes : List IrcServerUmode} {nickname channel : CStr} {t t' : Tracking}
    {m : MemberMsg} (hinv : TrackInv prefixes nickname channel t)
    (hstep : t.step prefixes m = some t') (hcond : TrackCond prefixes nickname t m t')
    (hm : foldCase m.channel = foldCase channel) : TrackInv prefixes nickname channel t' := by
  obtain ⟨s, ch, hs, hfind, htracked, hd, rfl, rfl⟩ := hinv
  obtain ⟨before, after, hat⟩ := exists_channelAt hfind
  obtain ⟨sys, ref⟩ := t
  obtain rfl : sys = .ok s := hs
  obtain rfl : tracked ch = ref := htracked
  obtain ⟨u, ch', hrun, hrw, hd', htracked'⟩ := handle_member hm hat hd hcond
  rw [Tracking.step, Option.some.injEq] at hstep
  subst hstep
  refine ⟨u, ch', ?_, ?_, htracked', hd', hrw.prefixes, hrw.nickname⟩
  · rw [ok_bind, hrun]
    rfl
  · obtain ⟨before', after', hat'⟩ := exists_channelAt hrw.find
    exact (hat'.congr hm.symm).find

/-- In a run of messages about a channel that meet `TrackCond`, the users of the channel are always
those who are there. -/
theorem tracks_of_allSteps (s : Sys) (channel : CStr) (ch : IrcChannel) (ms : List MemberMsg)
    (hfind : ircServerChannelsFind s.server.channels channel = some ch) (hd : DistinctUsers ch)
    (hms : ∀ m ∈ ms, foldCase m.channel = foldCase channel)
    (hsteps : Runs.AllSteps (Tracking.step s.server.prefixes)
      (TrackCond s.server.prefixes s.server.nickname) ⟨.ok s, tracked ch⟩ ms) :
    Runs.AllStates (Tracking.step s.server.prefixes) (Tracks channel) ⟨.ok s, tracked ch⟩ ms := by
  refine Runs.AllStates.mono (P := TrackInv s.server.prefixes s.server.nickname channel)
    (Runs.AllStates.of_allSteps (fun t m t' hinv hstep hcond =>
      trackInv_step hinv hstep hcond.1 hcond.2) ?_ (hsteps.and_forall_mem hms)) ?_
  · exact ⟨s, ch, rfl, hfind, rfl, hd, rfl, rfl⟩
  · rintro t ⟨s, ch, hs, hfind, htracked, -⟩
    exact ⟨s, ch, hs, hfind, htracked⟩

/-- The bot on a channel where nobody is listed yet. -/
def channelServer : IrcServer :=
  { localServer with
    channels := [⟨cstr "#c", none, true, []⟩]
    prefixes := [⟨111, 64⟩, ⟨118, 43⟩] }

/-- Somebody who is listed with two symbols is kicked. -/
theorem tracks_names_kick :
    Runs.AllStates (Tracking.step channelServer.prefixes) (Tracks (cstr "#C"))
      ⟨.ok (Sys.start channelServer), tracked ⟨cstr "#c", none, true, []⟩⟩
      [.names none (cstr "bot") (cstr "=") (cstr "#c") (cstr "bot @+jean") [],
        .kick (cstr "al") (cstr "a") (cstr "h") (cstr "#c") (cstr "Jean") [cstr "out"]] := by
  refine tracks_of_allSteps (Sys.start channelServer) _ _ _ (by decide) List.nodup_nil (by decide)
    ?_
  intro t ht
  obtain rfl := Option.some.inj ht
  refine ⟨by unfold TrackCond; decide, ?_⟩
  intro t ht
  exact ⟨⟨by simp, fun h => absurd h (by decide)⟩, trivial⟩

/-- Somebody joins, and is not listed. -/
theorem not_tracks_join :
    ¬ Runs.AllStates (Tracking.step channelServer.prefixes) (Tracks (cstr "#c"))
      ⟨.ok (Sys.start channelServer), tracked ⟨cstr "#c", none, true, []⟩⟩
      [.join (cstr "jean") (cstr "j") (cstr "h") (cstr "#c") []] := by
  intro h
  obtain ⟨s, ch, hs, hfind, htracked⟩ := h.last rfl
  have hat : ChannelAt (Sys.start channelServer).server.channels (cstr "#c") []
    ⟨cstr "#c", none, true, []⟩ [] := ⟨rfl, by simp, strcasecmp_self _⟩
  obtain ⟨t, ch', hrun, hrw, husers⟩ :=
    handle_join (cstr "jean") (cstr "j") (cstr "h") [] hat
  rw [ok_bind, hrun] at hs
  obtain rfl : t = s := Except.ok.inj hs
  obtain rfl : ch' = ch := Option.some.inj (hrw.find.symm.trans hfind)
  rw [tracked, husers] at htracked
  exact absurd htracked (by decide)

end Irccd
