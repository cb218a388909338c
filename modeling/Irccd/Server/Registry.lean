import Irccd.Server.Membership
import Irccd.Server.Modes
import Irccd.Server.Rejoin
import Mathlib.Data.Finmap

/-!
# Unique keys

A server keeps its channels under their names, and a channel its users under their nicknames. Both
are linked lists that are searched ignoring case.

* `UserMap`: a finite map from nicknames in lower case to users;
* `Refines`: every sequence of `irc_channel_*` operations does to a channel what it does to its map;
* `Registered`: names and nicknames are unique, ignoring case;
* `registered_consume`: a message keeps them unique.
-/

namespace Irccd

/-! ## The users of a channel -/

/-- What a channel is for: a finite map from nicknames in lower case to users, and the flag. -/
@[ext] structure UserMap where
  users : Finmap fun _ : CStr => IrcChannelUser
  joined : Bool

/-- The operations of `channel.c` that change a channel. -/
inductive ChannelCall
  | add (nickname : CStr) (modes : BitVec 32)
  | set (nickname : CStr) (modes : BitVec 32)
  | remove (nickname : CStr)
  | clear
  deriving DecidableEq

namespace ChannelCall

def onChannel (ch : IrcChannel) : ChannelCall → IrcChannel
  | add nickname modes => ircChannelAdd ch nickname modes
  | set nickname modes => ircChannelSet ch nickname modes
  | remove nickname => ircChannelRemove ch nickname
  | clear => ircChannelClear ch

/-- The same operation on the map: the first spelling of a nickname and its modes are kept by `add`,
and `set` changes the modes of a user that is there. -/
def onMap (m : UserMap) : ChannelCall → UserMap
  | add nickname modes =>
    if foldCase nickname ∈ m.users then m
    else { m with users := m.users.insert (foldCase nickname) ⟨nickname, modes⟩ }
  | set nickname modes =>
    match m.users.lookup (foldCase nickname) with
    | none => m
    | some u => { m with users := m.users.insert (foldCase nickname) { u with modes } }
  | remove nickname => { m with users := m.users.erase (foldCase nickname) }
  | clear => ⟨∅, false⟩

end ChannelCall

/-- The map of a channel. -/
def userMap (ch : IrcChannel) : UserMap where
  users := (ch.users.map fun u => (⟨foldCase u.nickname, u⟩ : Σ _ : CStr, IrcChannelUser)).toFinmap
  joined := ch.joined

/-- The channel has the users of the map, each under one nickname. `irc_channel_get` and
`irc_channel_count` answer for the map. -/
structure HasUsers (ch : IrcChannel) (m : UserMap) : Prop where
  distinct : DistinctUsers ch
  map : userMap ch = m
  get : ∀ nickname, ircChannelGet ch nickname = m.users.lookup (foldCase nickname)
  count : ircChannelCount ch = m.users.keys.card

/-- Every sequence of operations does to the channel what it does to its map. -/
def Refines (ch : IrcChannel) : Prop :=
  ∀ calls : List ChannelCall,
    HasUsers (calls.foldl ChannelCall.onChannel ch) (calls.foldl ChannelCall.onMap (userMap ch))

section Users

variable {ch : IrcChannel}

theorem lookup_userMap (ch : IrcChannel) (key : CStr) :
    (userMap ch).users.lookup key = ch.users.find? (foldCase ·.nickname == key) := by
  rw [userMap, Finmap.dlookup_list_toFinmap]
  induction ch.users with
  | nil => rfl
  | cons u us ih =>
    rw [List.map_cons, List.find?_cons]
    by_cases hu : foldCase u.nickname = key
    · subst hu
      rw [List.dlookup_cons_eq, beq_self_eq_true]
    · have hne : (foldCase u.nickname == key) = false := by simpa using hu
      rw [List.dlookup_cons_ne _ _ (Ne.symm hu), hne]
      exact ih

theorem keys_userMap (ch : IrcChannel) : (userMap ch).users.keys = tracked ch := by
  ext key
  rw [Finmap.mem_keys, ← Finmap.lookup_isSome, lookup_userMap, List.find?_isSome, mem_tracked]
  simp

theorem DistinctUsers.hasUsers (hd : DistinctUsers ch) : HasUsers ch (userMap ch) := by
  refine ⟨hd, rfl, fun nickname => (lookup_userMap ch _).symm, ?_⟩
  rw [keys_userMap, tracked, List.toFinset_card_of_nodup hd, List.length_map]
  rfl

theorem mem_userMap_iff {nickname : CStr} :
    foldCase nickname ∈ (userMap ch).users ↔ (ircChannelGet ch nickname).isSome = true := by
  rw [← Finmap.lookup_isSome, lookup_userMap]
  rfl

theorem userMap_add (nickname : CStr) (modes : BitVec 32) :
    userMap (ircChannelAdd ch nickname modes) =
      (ChannelCall.add nickname modes).onMap (userMap ch) := by
  rw [ChannelCall.onMap, ircChannelAdd]
  by_cases h : (ircChannelGet ch nickname).isSome = true
  · rw [if_pos h, if_pos (mem_userMap_iff.2 h)]
  · rw [if_neg h, if_neg (mt mem_userMap_iff.1 h), userMap, List.map_cons, Finmap.toFinmap_cons]
    rfl

theorem userMap_set (nickname : CStr) (modes : BitVec 32) :
    userMap (ircChannelSet ch nickname modes) =
      (ChannelCall.set nickname modes).onMap (userMap ch) := by
  have hlookup (key : CStr) : (userMap (ircChannelSet ch nickname modes)).users.lookup key =
      if foldCase nickname = key then
        ((userMap ch).users.lookup key).map fun u => { u with modes }
      else (userMap ch).users.lookup key := by
    rw [lookup_userMap, lookup_userMap]
    exact find?_key_setModes key nickname modes ch.users
  -- the two maps have the same user under every key
  refine UserMap.ext (Finmap.ext_lookup fun key => ?_) ?_
  · rw [hlookup, ChannelCall.onMap]
    cases hu : (userMap ch).users.lookup (foldCase nickname) with
    | none =>
      split
      · rename_i hkey
        rw [← hkey, hu, Option.map_none]
      · rfl
    | some u =>
      split
      · rename_i hkey
        rw [← hkey, hu, Finmap.lookup_insert, Option.map_some]
      · rename_i hkey
        rw [Finmap.lookup_insert_of_ne _ (Ne.symm hkey)]
  · rw [ChannelCall.onMap]
    split <;> rfl

theorem find?_eraseP {us : List IrcChannelUser} (hd : (us.map (foldCase ·.nickname)).Nodup)
    (nickname key : CStr) :
    (us.eraseP (strcasecmp ·.nickname nickname)).find? (foldCase ·.nickname == key) =
      if foldCase nickname = key then none else us.find? (foldCase ·.nickname == key) := by
  induction us with
  | nil => simp
  | cons u us ih =>
    rw [List.map_cons, List.nodup_cons] at hd
    obtain ⟨hu, hd⟩ := hd
    by_cases hname : foldCase u.nickname = foldCase nickname
    · rw [List.eraseP_cons, strcasecmp_iff.2 hname, cond_true, List.find?_cons]
      split
      · -- nobody else has the nickname
        rename_i hkey
        rw [List.find?_eq_none]
        intro v hv hvkey
        refine hu (List.mem_map.2 ⟨v, hv, ?_⟩)
        rw [hname, hkey]
        exact beq_iff_eq.1 hvkey
      · rename_i hkey
        have hne : (foldCase u.nickname == key) = false := by
          rw [beq_eq_false_iff_ne, hname]
          exact hkey
        rw [hne]
    · have hneg : strcasecmp u.nickname nickname = false := by
        rw [Bool.eq_false_iff, ne_eq, strcasecmp_iff]
        exact hname
      rw [List.eraseP_cons, hneg, cond_false, List.find?_cons, List.find?_cons, ih hd]
      by_cases hkey : foldCase u.nickname = key
      · have hne : foldCase nickname ≠ key := fun h => hname (hkey.trans h.symm)
        simp [hkey, hne]
      · have hne : (foldCase u.nickname == key) = false := by simpa using hkey
        rw [hne]

theorem userMap_remove (hd : DistinctUsers ch) (nickname : CStr) :
    userMap (ircChannelRemove ch nickname) = (ChannelCall.remove nickname).onMap (userMap ch) := by
  refine UserMap.ext (Finmap.ext_lookup fun key => ?_) rfl
  rw [lookup_userMap, ChannelCall.onMap]
  refine (find?_eraseP hd nickname key).trans ?_
  split
  · rename_i hkey
    rw [← hkey, Finmap.lookup_erase]
  · rename_i hkey
    rw [Finmap.lookup_erase_ne (Ne.symm hkey), lookup_userMap]

theorem DistinctUsers.set (hd : DistinctUsers ch) (nickname : CStr) (modes : BitVec 32) :
    DistinctUsers (ircChannelSet ch nickname modes) := by
  have hnames := congrArg (List.map foldCase) (map_nickname_setModes nickname modes ch.users)
  rw [List.map_map, List.map_map] at hnames
  exact (congrArg List.Nodup hnames).mpr hd

/-- One operation. -/
theorem DistinctUsers.call (hd : DistinctUsers ch) (c : ChannelCall) :
    DistinctUsers (c.onChannel ch) ∧ userMap (c.onChannel ch) = c.onMap (userMap ch) := by
  cases c with
  | add nickname modes => exact ⟨hd.add nickname modes, userMap_add nickname modes⟩
  | set nickname modes => exact ⟨hd.set nickname modes, userMap_set nickname modes⟩
  | remove nickname => exact ⟨hd.remove nickname, userMap_remove hd nickname⟩
  | clear => exact ⟨.clear, rfl⟩

theorem DistinctUsers.refines (hd : DistinctUsers ch) : Refines ch := by
  intro calls
  induction calls generalizing ch with
  | nil => exact hd.hasUsers
  | cons c calls ih =>
    obtain ⟨hd', hmap⟩ := hd.call c
    rw [List.foldl_cons, List.foldl_cons, ← hmap]
    exact ih hd'

end Users

/-! ## The channels of a server -/

/-- Channel names are in lower case and differ, and so do the nicknames on each channel, ignoring
case. -/
structure Registered (chs : List IrcChannel) : Prop where
  names : DistinctNames chs
  lower : ∀ ch ∈ chs, foldCase ch.name = ch.name
  users : ∀ ch ∈ chs, DistinctUsers ch

namespace Registered

variable {chs : List IrcChannel}

theorem nil : Registered [] := ⟨List.nodup_nil, by simp, by simp⟩

theorem clear (h : Registered chs) : Registered (ircServerChannelsClear chs) := by
  refine ⟨h.names.clear, fun ch hch => ?_, fun ch hch => ?_⟩
  · obtain ⟨c, hc, rfl⟩ := List.mem_map.1 hch
    exact h.lower c hc
  · obtain ⟨c, hc, rfl⟩ := List.mem_map.1 hch
    exact .clear

theorem remove (h : Registered chs) (name : CStr) :
    Registered (ircServerChannelsRemove chs name) :=
  ⟨(ChannelsOp.remove name).distinctNames h.names,
    fun ch hch => h.lower ch (List.mem_of_mem_eraseP hch),
    fun ch hch => h.users ch (List.mem_of_mem_eraseP hch)⟩

theorem mem_modifyChannel {name : CStr} {f : IrcChannel → IrcChannel} {c : IrcChannel}
    (hc : c ∈ modifyChannel name f chs) :
    c ∈ chs ∨ ∃ ch, ircServerChannelsFind chs name = some ch ∧ c = f ch := by
  cases hfind : ircServerChannelsFind chs name with
  | none =>
    rw [modifyChannel_of_find_eq_none hfind] at hc
    exact .inl hc
  | some ch =>
    obtain ⟨before, after, hat⟩ := exists_channelAt hfind
    rw [hat.modify, List.mem_append, List.mem_cons] at hc
    rw [hat.eq, List.mem_append, List.mem_cons]
    rcases hc with hc | rfl | hc
    · exact .inl (.inl hc)
    · exact .inr ⟨ch, rfl, rfl⟩
    · exact .inl (.inr (.inr hc))

/-- The channel found under a name is changed, in its users or its flag. -/
theorem modify (h : Registered chs) (name : CStr) {f : IrcChannel → IrcChannel}
    (hf : ∀ ch, ircServerChannelsFind chs name = some ch →
      (f ch).name = ch.name ∧ (DistinctUsers ch → DistinctUsers (f ch))) :
    Registered (modifyChannel name f chs) := by
  refine ⟨(ChannelsOp.modify name fun ch hch => (hf ch hch).1).distinctNames h.names,
    fun c hc => ?_, fun c hc => ?_⟩
  · rcases mem_modifyChannel hc with hc | ⟨ch, hfind, rfl⟩
    · exact h.lower c hc
    · rw [(hf ch hfind).1]
      exact h.lower ch (List.mem_of_find?_eq_some hfind)
  · rcases mem_modifyChannel hc with hc | ⟨ch, hfind, rfl⟩
    · exact h.users c hc
    · exact (hf ch hfind).2 (h.users ch (List.mem_of_find?_eq_some hfind))

/-- A channel that is not on the list is added in lower case, and has no users. -/
theorem add (h : Registered chs) (name : CStr) (password : Option CStr) (joined : Bool) :
    Registered (ircServerChannelsAdd chs name password joined) := by
  cases hfind : (ircServerChannelsFind chs name).isSome with
  | true =>
    rw [ircServerChannelsAdd, if_pos hfind]
    exact h.modify name fun ch _ => ⟨rfl, id⟩
  | false =>
    refine ⟨(ChannelsOp.add name password joined).distinctNames h.names, ?_, ?_⟩
    · rw [ircServerChannelsAdd, if_neg (by simp [hfind]), List.forall_mem_cons]
      exact ⟨foldCase_foldCase name, h.lower⟩
    · rw [ircServerChannelsAdd, if_neg (by simp [hfind]), List.forall_mem_cons]
      exact ⟨List.nodup_nil, h.users⟩

end Registered

/-! ## Messages -/

theorem modeLoop_distinctUsers {prefixes : List IrcServerUmode} {msg : ConnMsg} {mode : CStr}
    {action : UInt8} {argindex : ℕ} {ch ch' : IrcChannel}
    (h : modeLoop prefixes msg mode action argindex ch = .ok ch') (hd : DistinctUsers ch) :
    DistinctUsers ch' := by
  induction mode generalizing action argindex ch with
  | nil =>
    cases h
    exact hd
  | cons p ps ih =>
    rw [modeLoop] at h
    split at h
    · exact ih h hd
    · split at h
      · exact ih h hd
      · dsimp only at h
        split at h
        · exact ih h hd
        · obtain ⟨nickname, -, h⟩ := bind_eq_ok_iff.1 h
          split at h
          · exact ih h hd
          · exact ih h (hd.set _ _)

section Handlers

variable {s t : Sys} {msg : ConnMsg}

/-- The channels are registered. -/
def Sys.Registered (s : Sys) : Prop := Irccd.Registered s.server.channels

theorem registered_ircServerSend (hs : s.Registered) (text : CStr) :
    (ircServerSend s text).2.Registered := by
  unfold Sys.Registered
  rw [(ircServerSend_frame s text).1]
  exact hs

theorem registered_ircServerJoin (hs : s.Registered) (name : CStr) (pass : Option CStr) :
    (ircServerJoin s name pass).2.Registered := by
  have hjoin : (joinChannel s name pass).Registered := by
    unfold joinChannel
    split
    · exact hs
    · exact hs.add name pass false
  unfold ircServerJoin
  dsimp only
  split
  · split
    · exact registered_ircServerSend hjoin _
    · exact hjoin
  · exact hjoin

theorem registered_rejoin (hs : s.Registered) : (rejoin s).Registered := by
  unfold rejoin
  induction s.server.channels generalizing s with
  | nil => exact hs
  | cons ch chs ih => exact ih (registered_ircServerJoin hs _ _)

theorem registered_kicked (hs : s.Registered) (channel target : CStr) :
    (kicked s channel target).Registered := by
  unfold kicked
  split
  · have hclear : (s.setChannels
        (modifyChannel channel ircChannelClear s.server.channels)).Registered :=
      hs.modify channel fun _ _ => ⟨rfl, fun _ => .clear⟩
    dsimp only
    split
    · exact registered_ircServerJoin hclear _ _
    · exact hclear
  · exact hs.modify channel fun _ _ => ⟨rfl, fun hd => hd.remove target⟩

theorem registered_ircServerHandleJoin (hs : s.Registered)
    (h : ircServerHandleJoin s msg = .ok t) : t.Registered := by
  unfold ircServerHandleJoin at h
  obtain ⟨origin, -, h⟩ := bind_eq_ok_iff.1 h
  obtain ⟨channel, -, h⟩ := bind_eq_ok_iff.1 h
  cases h
  exact hs.add channel none true

theorem registered_ircServerHandleKick (hs : s.Registered)
    (h : ircServerHandleKick s msg = .ok t) : t.Registered := by
  unfold ircServerHandleKick at h
  obtain ⟨origin, -, h⟩ := bind_eq_ok_iff.1 h
  obtain ⟨channel, -, h⟩ := bind_eq_ok_iff.1 h
  obtain ⟨target, -, h⟩ := bind_eq_ok_iff.1 h
  obtain ⟨reason, -, h⟩ := bind_eq_ok_iff.1 h
  cases h
  have hadd : (s.setChannels
      (ircServerChannelsAdd s.server.channels channel none true)).Registered :=
    hs.add channel none true
  exact registered_kicked hadd channel target

theorem registered_ircServerHandleMode (hs : s.Registered)
    (h : ircServerHandleMode s msg = .ok t) : t.Registered := by
  unfold ircServerHandleMode at h
  obtain ⟨origin, -, h⟩ := bind_eq_ok_iff.1 h
  obtain ⟨channel, -, h⟩ := bind_eq_ok_iff.1 h
  obtain ⟨mode, -, h⟩ := bind_eq_ok_iff.1 h
  dsimp only at h
  split at h
  · cases h
    exact hs
  · rename_i ch hfind
    obtain ⟨ch', hloop, h⟩ := bind_eq_ok_iff.1 h
    cases h
    -- the channel that is replaced is the one that the loop starts from
    refine hs.modify channel fun c hc => ?_
    obtain rfl : ch = c := Option.some.inj (hfind.symm.trans hc)
    exact ⟨modeLoop_name hloop, modeLoop_distinctUsers hloop⟩

theorem registered_ircServerHandlePart (hs : s.Registered)
    (h : ircServerHandlePart s msg = .ok t) : t.Registered := by
  unfold ircServerHandlePart at h
  obtain ⟨origin, -, h⟩ := bind_eq_ok_iff.1 h
  obtain ⟨channel, -, h⟩ := bind_eq_ok_iff.1 h
  obtain ⟨reason, -, h⟩ := bind_eq_ok_iff.1 h
  dsimp only at h
  split at h
  · cases h
    exact hs.remove channel
  · split at h
    · cases h
      exact hs.modify channel fun _ _ => ⟨rfl, fun hd => hd.remove origin⟩
    · cases h

theorem registered_ircServerHandleNames (hs : s.Registered)
    (h : ircServerHandleNames s msg = .ok t) : t.Registered := by
  unfold ircServerHandleNames at h
  obtain ⟨channel, -, h⟩ := bind_eq_ok_iff.1 h
  obtain ⟨names, -, h⟩ := bind_eq_ok_iff.1 h
  cases h
  exact (hs.add channel none true).modify channel fun ch _ =>
    ⟨addNames_name _ _ ch, fun hd => hd.addNames _ _⟩

theorem registered_ircServerHandleInvite (hs : s.Registered)
    (h : ircServerHandleInvite s msg = .ok t) : t.Registered := by
  unfold ircServerHandleInvite at h
  obtain ⟨origin, -, h⟩ := bind_eq_ok_iff.1 h
  obtain ⟨channel, -, h⟩ := bind_eq_ok_iff.1 h
  cases h
  have hjoin : ∀ c : Bool,
      (if c then (ircServerJoin s channel none).2 else s).Registered := by
    rintro (_ | _)
    · exact hs
    · exact registered_ircServerJoin hs channel none
  exact hjoin s.server.flags.joinInvite

/-- The other handlers leave the channels as they are. -/
def Keeps (f : Sys → ConnMsg → Except Fault Sys) : Prop :=
  ∀ s msg t, f s msg = .ok t → t.server.channels = s.server.channels

theorem keeps_ircServerHandleSupport : Keeps ircServerHandleSupport := by
  intro s msg t h
  cases h
  have hfold : ∀ (args : List CStr) (server : IrcServer),
      (args.foldl supportArg server).channels = server.channels := by
    intro args
    induction args with
    | nil => intro server; rfl
    | cons arg args ih =>
      intro server
      rw [List.foldl_cons, ih, (supportArg_frame server arg).2]
  exact hfold msg.args s.server

theorem keeps_ircServerHandleEndofnames : Keeps ircServerHandleEndofnames := by
  intro s msg t h
  unfold ircServerHandleEndofnames at h
  obtain ⟨channel, -, h⟩ := bind_eq_ok_iff.1 h
  split at h <;> cases h <;> rfl

theorem keeps_ircServerHandleError : Keeps ircServerHandleError := by
  intro s msg t h
  unfold ircServerHandleError at h
  obtain ⟨arg, -, h⟩ := bind_eq_ok_iff.1 h
  cases h
  rfl

theorem keeps_ircServerHandleNick : Keeps ircServerHandleNick := by
  intro s msg t h
  unfold ircServerHandleNick at h
  obtain ⟨origin, -, h⟩ := bind_eq_ok_iff.1 h
  obtain ⟨nickname, -, h⟩ := bind_eq_ok_iff.1 h
  cases h
  dsimp only [dispatch, Sys.emit]
  split <;> rfl

theorem keeps_ircServerHandleNotice : Keeps ircServerHandleNotice := by
  intro s msg t h
  unfold ircServerHandleNotice at h
  obtain ⟨origin, -, h⟩ := bind_eq_ok_iff.1 h
  obtain ⟨channel, -, h⟩ := bind_eq_ok_iff.1 h
  obtain ⟨notice, -, h⟩ := bind_eq_ok_iff.1 h
  cases h
  rfl

theorem keeps_ircServerHandleTopic : Keeps ircServerHandleTopic := by
  intro s msg t h
  unfold ircServerHandleTopic at h
  obtain ⟨origin, -, h⟩ := bind_eq_ok_iff.1 h
  obtain ⟨channel, -, h⟩ := bind_eq_ok_iff.1 h
  obtain ⟨topic, -, h⟩ := bind_eq_ok_iff.1 h
  cases h
  rfl

theorem keeps_ircServerHandlePing : Keeps ircServerHandlePing := by
  intro s msg t h
  unfold ircServerHandlePing at h
  split at h
  · obtain ⟨arg, -, h⟩ := bind_eq_ok_iff.1 h
    cases h
    exact (ircServerSend_frame s _).1
  · cases h
    rfl

theorem ctcpReply_channels (s : Sys) (nickname text : CStr) :
    (ctcpReply s nickname text).server.channels = s.server.channels := by
  unfold ctcpReply ircServerNotice
  split
  · exact (ircServerSend_frame s _).1
  split
  · split
    · exact (ircServerSend_frame s _).1
    · rfl
  split
  · exact (ircServerSend_frame s _).1
  split
  · split
    · exact (ircServerSend_frame s _).1
    · rfl
  · rfl

theorem keeps_ircServerHandleMsg : Keeps ircServerHandleMsg := by
  intro s msg t h
  unfold ircServerHandleMsg at h
  obtain ⟨text, -, h⟩ := bind_eq_ok_iff.1 h
  split at h
  · obtain ⟨origin, -, h⟩ := bind_eq_ok_iff.1 h
    split at h
    · obtain ⟨channel, -, h⟩ := bind_eq_ok_iff.1 h
      cases h
      rfl
    · cases h
      exact ctcpReply_channels s _ _
  · obtain ⟨origin, -, h⟩ := bind_eq_ok_iff.1 h
    obtain ⟨channel, -, h⟩ := bind_eq_ok_iff.1 h
    cases h
    rfl

end Handlers

/-! ## The table -/

theorem registered_handlers : ∀ h ∈ handlers, ∀ s msg t k, s.Registered →
    h.2 s msg = .ok (t, k) → t.Registered := by
  have hreturns : ∀ f : Sys → ConnMsg → Except Fault Sys,
      (∀ {s msg t}, s.Registered → f s msg = .ok t → t.Registered) →
      ∀ s msg t k, s.Registered → returns f s msg = .ok (t, k) → t.Registered :=
    fun f hf s msg t k hs h => hf hs (returns_eq_ok h)
  have hkeeps : ∀ f, Keeps f →
      ∀ s msg t k, s.Registered → returns f s msg = .ok (t, k) → t.Registered :=
    fun f hf => hreturns f fun hs h => (congrArg Registered (hf _ _ _ h)).mpr hs
  -- in the order of the table; most handlers keep the list, or change it by an operation
  intro h hh
  simp only [handlers, List.mem_cons, List.not_mem_nil, or_false] at hh
  rcases hh with rfl | rfl | rfl | rfl | rfl | rfl | rfl | rfl | rfl | rfl | rfl | rfl | rfl |
    rfl | rfl | rfl | rfl | rfl
  · exact hreturns ircServerHandleDisconnect fun hs h => by cases h; exact hs
  · exact hreturns ircServerHandleConnect fun hs h => by cases h; exact registered_rejoin hs
  · exact hkeeps _ keeps_ircServerHandleSupport
  · intro s msg t k hs h
    cases hw : ircServerHandleWhoisuser msg with
    | error e => simp [hw, Except.map] at h
    | ok ev =>
      simp only [hw, Except.map, Except.ok.injEq, Prod.mk.injEq] at h
      exact h.1 ▸ hs
  · exact hreturns _ registered_ircServerHandleNames
  · exact hkeeps _ keeps_ircServerHandleEndofnames
  · exact hreturns ircServerHandleNicknameinuse fun hs h => by cases h; exact hs
  · exact hkeeps _ keeps_ircServerHandleError
  · exact hreturns _ registered_ircServerHandleInvite
  · exact hreturns _ registered_ircServerHandleJoin
  · exact hreturns _ registered_ircServerHandleKick
  · exact hreturns _ registered_ircServerHandleMode
  · exact hkeeps _ keeps_ircServerHandleNick
  · exact hkeeps _ keeps_ircServerHandleNotice
  · exact hreturns _ registered_ircServerHandlePart
  · exact hkeeps _ keeps_ircServerHandlePing
  · exact hkeeps _ keeps_ircServerHandleMsg
  · exact hkeeps _ keeps_ircServerHandleTopic

theorem registered_consume {s t : Sys} {k k' : Option IrcEventWhois} {msg : ConnMsg}
    (hs : s.Registered) (h : consume s k msg = .ok (t, k')) : t.Registered := by
  cases k with
  | some ev =>
    simp only [consume, whoisPull] at h
    generalize (if msg.cmd = cstr "319" then _ else _ : Except Fault IrcEventWhois) = x at h
    cases x with
    | error e => cases h
    | ok ev' =>
      simp only [Except.map, Except.ok.injEq] at h
      split at h <;> cases h <;> exact hs
  | none =>
    simp only [consume, ircServerHandle] at h
    cases hf : handlers.find? (·.1 == msg.cmd) with
    | none =>
      rw [hf] at h
      cases h
      exact hs
    | some f =>
      rw [hf] at h
      exact registered_handlers f (List.mem_of_find?_eq_some hf) s msg t k' hs h

/-! ## Runs -/

/-- A message of the server, pulled by the consumer in a pending whois or not, or a call of the
API. -/
inductive RegistryAct
  | message (pending : Option IrcEventWhois) (msg : ConnMsg)
  | join (name : CStr) (pass : Option CStr)
  | disconnect
  deriving DecidableEq

/-- A message has to carry what its handler reads. -/
def RegistryAct.step (s : Sys) : RegistryAct → Option Sys
  | message pending msg => (consume s pending msg).toOption.map (·.1)
  | join name pass => some (ircServerJoin s name pass).2
  | disconnect => some (ircServerDisconnect s)

theorem registered_step {s s' : Sys} {a : RegistryAct} (hs : s.Registered)
    (h : RegistryAct.step s a = some s') : s'.Registered := by
  cases a with
  | message pending msg =>
    simp only [RegistryAct.step] at h
    cases hc : consume s pending msg with
    | error e => simp [hc, Except.toOption] at h
    | ok r =>
      obtain rfl : r.1 = s' := by simpa [hc, Except.toOption] using h
      exact registered_consume hs hc
  | join name pass =>
    cases h
    exact registered_ircServerJoin hs name pass
  | disconnect =>
    cases h
    exact Registered.clear hs

/-- A server starts without channels. Whatever it receives and is called for, its channels have
unique names in lower case and users with unique nicknames, ignoring case, and each channel, as a
new one, goes on as a finite map of its users. -/
theorem registries (s : Sys) (as : List RegistryAct) (name : CStr) (password : Option CStr)
    (joined : Bool) :
    Runs.AllStates RegistryAct.step
        (fun t => Registered t.server.channels ∧ ∀ ch ∈ t.server.channels, Refines ch)
        (s.setChannels []) as ∧
      Refines (ircChannelNew name password joined) ∧
      userMap (ircChannelNew name password joined) = ⟨∅, joined⟩ := by
  refine ⟨?_, DistinctUsers.refines List.nodup_nil, rfl⟩
  refine Runs.AllStates.mono (P := Sys.Registered)
    (Runs.AllStates.of_keeps (fun _ _ _ => registered_step) Registered.nil) fun t ht => ?_
  exact ⟨ht, fun ch hch => (ht.users ch hch).refines⟩

end Irccd
