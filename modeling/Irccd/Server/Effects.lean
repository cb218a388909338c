import Irccd.Server.Replies

/-!
# What the handlers change

Handlers and functions of the API change the rest of the program in few ways: they send lines,
dispatch events, and change the server without touching its coroutines.

* `ChannelsOp`, `Update`: what may change in the server;
* `Says`: sequences of such changes, with the texts that are sent and a condition on the events
  that are dispatched; `Talk` leaves out the texts;
* `says_consume`: a message that the consumer pulls has no other effect. Only 001 dispatches
  `connect`, and only 000 dispatches `disconnect`.
-/

namespace Irccd

/-- The operations of the source on the channel list of a server. -/
inductive ChannelsOp (chs : List IrcChannel) : List IrcChannel → Prop
  | same : ChannelsOp chs chs
  | add (name : CStr) (password : Option CStr) (joined : Bool) :
      ChannelsOp chs (ircServerChannelsAdd chs name password joined)
  /-- A change of the users, the flags or the password of a channel. -/
  | modify (name : CStr) {f : IrcChannel → IrcChannel}
      (hf : ∀ ch, ircServerChannelsFind chs name = some ch → (f ch).name = ch.name) :
      ChannelsOp chs (modifyChannel name f chs)
  | remove (name : CStr) : ChannelsOp chs (ircServerChannelsRemove chs name)

/-- A change of the server that leaves its coroutines alone. -/
structure Update (server server' : IrcServer) : Prop where
  coroutine : server'.coroutine = server.coroutine
  channels : ChannelsOp server.channels server'.channels

/-- `Talk E s s'`: from `s` to `s'` lines are sent, events satisfying `E` are dispatched, and the
server is changed. -/
inductive Talk (E : IrcEvent → Prop) (s : Sys) : Sys → Prop
  | refl : Talk E s s
  | send {t : Sys} (text : CStr) (h : Talk E s t) : Talk E s (ircServerSend t text).2
  | dispatch {t : Sys} {ev : IrcEvent} (h : Talk E s t) (hev : E ev) : Talk E s (dispatch t ev)
  | update {t : Sys} {server : IrcServer} (h : Talk E s t) (hserver : Update t.server server) :
      Talk E s { t with server }

/-- `Says E s texts t`: from `s` to `t` the texts are sent in this order, events satisfying `E` are
dispatched, and the server is changed. -/
inductive Says (E : IrcEvent → Prop) (s : Sys) : List CStr → Sys → Prop
  | refl : Says E s [] s
  | send {texts : List CStr} {t : Sys} (text : CStr) (h : Says E s texts t) :
      Says E s (texts ++ [text]) (ircServerSend t text).2
  | dispatch {texts : List CStr} {t : Sys} {ev : IrcEvent} (h : Says E s texts t) (hev : E ev) :
      Says E s texts (dispatch t ev)
  | update {texts : List CStr} {t : Sys} {server : IrcServer} (h : Says E s texts t)
      (hserver : Update t.server server) : Says E s texts { t with server }

variable {E : IrcEvent → Prop} {s t u : Sys} {xs ys : List CStr}

theorem Says.trans (h : Says E s xs t) (h' : Says E t ys u) : Says E s (xs ++ ys) u := by
  induction h' with
  | refl =>
    rw [List.append_nil]
    exact h
  | send text _ ih =>
    rw [← List.append_assoc]
    exact ih.send text
  | dispatch _ hev ih => exact ih.dispatch hev
  | update _ hserver ih => exact ih.update hserver

theorem Says.mono {F : IrcEvent → Prop} (h : Says E s xs t) (hEF : ∀ ev, E ev → F ev) :
    Says F s xs t := by
  induction h with
  | refl => exact .refl
  | send text _ ih => exact ih.send text
  | dispatch _ hev ih => exact ih.dispatch (hEF _ hev)
  | update _ hserver ih => exact ih.update hserver

theorem Says.talk (h : Says E s xs t) : Talk E s t := by
  induction h with
  | refl => exact .refl
  | send text _ ih => exact ih.send text
  | dispatch _ hev ih => exact ih.dispatch hev
  | update _ hserver ih => exact ih.update hserver

/-- A single text is sent. -/
theorem says_send (s : Sys) (text : CStr) : Says E s [text] (ircServerSend s text).2 :=
  Says.refl.send text

/-- What every change keeps holds at the end. -/
theorem Talk.keeps {P : Sys → Prop} (h : Talk E s t)
    (hsend : ∀ u text, P u → P (ircServerSend u text).2)
    (hdispatch : ∀ u ev, E ev → P u → P (Irccd.dispatch u ev))
    (hupdate : ∀ u server, Update u.server server → P u → P { u with server })
    (hs : P s) : P t := by
  induction h with
  | refl => exact hs
  | send text _ ih => exact hsend _ text ih
  | dispatch _ hev ih => exact hdispatch _ _ hev ih
  | update _ hserver ih => exact hupdate _ _ hserver ih

/-! ## The functions of the API -/

theorem Says.setChannels (h : Says E s xs t) {chs : List IrcChannel}
    (hchs : ChannelsOp t.server.channels chs) : Says E s xs (t.setChannels chs) :=
  h.update ⟨rfl, hchs⟩

/-- `irc_server_send` changes neither the channels of the server nor whether it is ready. -/
theorem ircServerSend_frame (s : Sys) (text : CStr) :
    (ircServerSend s text).2.server.channels = s.server.channels ∧
      ircServerReady (ircServerSend s text).2.server = ircServerReady s.server := by
  unfold ircServerSend ircServerReady
  cases hco : s.server.coroutine with
  | none => simp [hco]
  | some co =>
    unfold connSendLine ircConnPush
    dsimp only
    split
    · split <;> exact ⟨rfl, rfl⟩
    · exact ⟨rfl, rfl⟩

/-- `irc_server_join` on a channel that is on the list. -/
theorem ircServerJoin_of_find {s : Sys} {name : CStr} {ch : IrcChannel}
    (hfind : ircServerChannelsFind s.server.channels name = some ch) (pass : Option CStr) :
    (ircServerJoin s name pass).2 =
      if !ch.joined && ircServerReady s.server then (ircServerSend s (joinText name pass)).2
      else s := by
  have hjoin : joinChannel s name pass = s := by
    rw [joinChannel, hfind, Option.isSome_some, if_pos rfl]
  unfold ircServerJoin
  rw [hjoin]
  simp only [hfind]
  split <;> rfl

theorem ircServerJoin_says_of_find {name : CStr} {ch : IrcChannel}
    (hfind : ircServerChannelsFind s.server.channels name = some ch) (pass : Option CStr) :
    Says E s (joinTexts s.server name pass) (ircServerJoin s name pass).2 := by
  rw [ircServerJoin_of_find hfind, joinTexts, hfind, Option.any_some]
  split
  · exact says_send s _
  · exact .refl

/-- A channel that is not on the list is added first, and is not joined. -/
theorem says_ircServerJoin (s : Sys) (name : CStr) (pass : Option CStr) :
    Says E s (joinTexts s.server name pass) (ircServerJoin s name pass).2 := by
  cases hfind : ircServerChannelsFind s.server.channels name with
  | some ch => exact ircServerJoin_says_of_find hfind pass
  | none =>
    let u := s.setChannels (ircChannelNew name pass false :: s.server.channels)
    have hadd : joinChannel s name pass = u := by
      rw [joinChannel, ircServerChannelsAdd, hfind, Option.isSome_none, if_neg (by simp),
        if_neg (by simp)]
    have hname : strcasecmp (ircChannelNew name pass false).name name = true := by simp
    have hu : ircServerChannelsFind u.server.channels name = some (ircChannelNew name pass false) :=
      List.find?_cons_of_pos hname
    have hjoin : ircServerJoin s name pass = ircServerJoin u name pass := by
      have hadd' : joinChannel u name pass = u := by
        rw [joinChannel, hu, Option.isSome_some, if_pos rfl]
      rw [ircServerJoin, ircServerJoin, hadd, hadd']
    have htexts : joinTexts s.server name pass = joinTexts u.server name pass := by
      rw [joinTexts, joinTexts, hfind, hu]
      rfl
    have hsaid : Says E s [] u := by
      rw [← hadd, joinChannel, hfind]
      exact Says.refl.setChannels (.add name pass false)
    rw [hjoin, htexts]
    exact hsaid.trans (ircServerJoin_says_of_find hu pass)

theorem ircServerSetNickname_talk (s : Sys) (nickname : CStr) :
    Talk E s (ircServerSetNickname s nickname) := by
  unfold ircServerSetNickname
  split
  · exact .send _ .refl
  · exact .update .refl ⟨rfl, .same⟩

theorem ircServerSet_update {server server' : IrcServer} {v : Setter}
    (h : ircServerSet server v = some server') : Update server server' := by
  have hfields : server'.coroutine = server.coroutine ∧ server'.channels = server.channels := by
    unfold ircServerSet at h
    repeat' split at h
    all_goals cases h
    all_goals exact ⟨rfl, rfl⟩
  exact ⟨hfields.1, hfields.2 ▸ .same⟩

/-! ## The handlers -/

/-- An event that is neither `connect` nor `disconnect`. -/
def IrcEvent.Plain (ev : IrcEvent) : Prop := ev ≠ .connect ∧ ev ≠ .disconnect

/-- The loop of `irc_server_handle_connect` on channels of the list: the state where it goes on has
the same list. -/
theorem says_foldl_join (chs : List IrcChannel) (hchs : ∀ ch ∈ chs, ch ∈ s.server.channels)
    (h : Says E s xs t) (hchannels : t.server.channels = s.server.channels)
    (hready : ircServerReady t.server = ircServerReady s.server) :
    Says E s (xs ++ chs.flatMap fun ch => joinTexts s.server ch.name ch.password)
      (chs.foldl (fun s ch => (ircServerJoin s ch.name ch.password).2) t) := by
  induction chs generalizing xs t with
  | nil => simpa using h
  | cons ch chs ih =>
    obtain ⟨hch, hchs⟩ := List.forall_mem_cons.1 hchs
    -- what is said depends on the list, which the joins before have left alone
    have htexts : joinTexts t.server ch.name ch.password =
        joinTexts s.server ch.name ch.password := by
      rw [joinTexts, joinTexts, hchannels, hready]
    have hjoin : Says E s (xs ++ joinTexts s.server ch.name ch.password)
        (ircServerJoin t ch.name ch.password).2 :=
      htexts ▸ h.trans (says_ircServerJoin t ch.name ch.password)
    obtain ⟨c, hc⟩ : ∃ c, ircServerChannelsFind t.server.channels ch.name = some c := by
      rw [← Option.isSome_iff_exists, ircServerChannelsFind, List.find?_isSome, hchannels]
      exact ⟨ch, hch, strcasecmp_self _⟩
    have hframe : (ircServerJoin t ch.name ch.password).2.server.channels = s.server.channels ∧
        ircServerReady (ircServerJoin t ch.name ch.password).2.server =
          ircServerReady s.server := by
      rw [ircServerJoin_of_find hc]
      split
      · obtain ⟨hsend, hsend'⟩ := ircServerSend_frame t (joinText ch.name ch.password)
        exact ⟨hsend.trans hchannels, hsend'.trans hready⟩
      · exact ⟨hchannels, hready⟩
    rw [List.flatMap_cons, List.foldl_cons, ← List.append_assoc]
    exact ih hchs hjoin hframe.1 hframe.2

theorem says_rejoin (s : Sys) : Says E s (rejoinTexts s.server) (rejoin s) :=
  says_foldl_join s.server.channels (fun _ h => h) .refl rfl rfl

theorem supportArg_update {server server' : IrcServer} (h : Update server server') (arg : CStr) :
    Update server (supportArg server' arg) := by
  obtain ⟨hcoroutine, hchannels⟩ := supportArg_frame server' arg
  exact ⟨hcoroutine.trans h.coroutine, hchannels ▸ h.channels⟩

theorem foldl_supportArg_update (args : List CStr) {server server' : IrcServer}
    (h : Update server server') : Update server (args.foldl supportArg server') := by
  induction args generalizing server' with
  | nil => exact h
  | cons arg args ih => exact ih (supportArg_update h arg)

theorem says_kicked (s : Sys) (channel target : CStr) :
    Says E s (kickTexts s.server channel target) (kicked s channel target) := by
  unfold kicked kickTexts
  cases ircServerIsSelf s.server target with
  | false => exact Says.refl.setChannels (.modify channel fun _ _ => rfl)
  | true =>
    let u := s.setChannels (modifyChannel channel ircChannelClear s.server.channels)
    have hu : Says E s [] u := Says.refl.setChannels (.modify channel fun _ _ => rfl)
    have hflags : u.server.flags = s.server.flags := rfl
    simp only [if_true, Bool.true_and, ← hflags, show s.setChannels _ = u from rfl]
    cases u.server.flags.autoRejoin with
    | false => exact hu
    | true =>
      cases hfind : ircServerChannelsFind s.server.channels channel with
      | none =>
        have hnone : ircServerChannelsFind u.server.channels channel = none := by
          simpa only [u, Sys.setChannels, modifyChannel_of_find_eq_none hfind] using hfind
        simpa [hnone] using hu
      | some ch =>
        -- the channel is joined under its own name, and its flag was cleared just before
        obtain ⟨before, after, hat⟩ := exists_channelAt hfind
        have hclear : ChannelAt u.server.channels channel before (ircChannelClear ch) after := by
          simp only [u, Sys.setChannels, hat.modify]
          exact hat.replace rfl
        have hname : ircServerChannelsFind u.server.channels ch.name = some (ircChannelClear ch) :=
          hclear.of_name.find
        have htexts : joinTexts u.server ch.name ch.password =
            if ircServerReady s.server then [joinText ch.name ch.password] else [] := by
          rw [joinTexts, hname]
          rfl
        simp only [hclear.find, Bool.true_and, ← htexts]
        exact hu.trans (says_ircServerJoin u ch.name ch.password)

theorem says_ctcpReply (s : Sys) (nickname text : CStr) :
    Says E s (ctcpTexts s nickname text) (ctcpReply s nickname text) := by
  have hsend : ∀ key answer : CStr, Says E s [ctcpAnswer nickname (key ++ answer)]
      (ircServerSend s
        (cstr "NOTICE " ++ nickname ++ (cstr " :\x01" ++ key) ++ answer ++ cstr "\x01")).2 := by
    intro key answer
    have hformat : ctcpAnswer nickname (key ++ answer) =
        cstr "NOTICE " ++ nickname ++ (cstr " :\x01" ++ key) ++ answer ++ cstr "\x01" := by
      simp only [ctcpAnswer, List.append_assoc]
    rw [hformat]
    exact says_send s _
  -- one answer for each request that is known
  unfold ctcpReply ctcpTexts
  split
  · have hclientinfo : ctcpAnswer nickname
          (cstr "CLIENTINFO ACTION CLIENTINFO SOURCE TIME VERSION") =
        cstr "NOTICE " ++ nickname ++ cstr " :" ++
          cstr "\x01CLIENTINFO ACTION CLIENTINFO SOURCE TIME VERSION\x01" := by
      simp only [ctcpAnswer, List.append_assoc]
      rfl
    rw [hclientinfo]
    exact says_send s _
  split
  · cases s.server.ctcpSource with
    | none => exact .refl
    | some source => exact hsend (cstr "SOURCE ") source
  split
  · exact hsend (cstr "TIME ") s.clock
  split
  · cases s.server.ctcpVersion with
    | none => exact .refl
    | some version => exact hsend (cstr "VERSION ") version
  · exact .refl

theorem modeLoop_name {prefixes : List IrcServerUmode} {msg : ConnMsg} {mode : CStr}
    {action : UInt8} {argindex : ℕ} {ch ch' : IrcChannel}
    (h : modeLoop prefixes msg mode action argindex ch = .ok ch') : ch'.name = ch.name := by
  induction mode generalizing action argindex ch with
  | nil =>
    cases h
    rfl
  | cons p ps ih =>
    rw [modeLoop] at h
    split at h
    · exact ih h
    · split at h
      · exact ih h
      · dsimp only at h
        split at h
        · exact ih h
        · obtain ⟨nickname, -, h⟩ := bind_eq_ok_iff.1 h
          split at h
          · exact ih h
          · exact (ih h).trans (ircChannelSet_name _ _ _)

theorem addNames_name (prefixes : List IrcServerUmode) (names : List CStr) (ch : IrcChannel) :
    (addNames prefixes names ch).name = ch.name := by
  unfold addNames
  induction names generalizing ch with
  | nil => rfl
  | cons token names ih => rw [List.foldl_cons, ih, ircChannelAdd_name]

section Handlers

variable {msg : ConnMsg}

theorem says_ircServerHandleSupport (h : ircServerHandleSupport s msg = .ok t) : Says E s [] t := by
  cases h
  exact .update .refl (foldl_supportArg_update msg.args ⟨rfl, .same⟩)

theorem says_ircServerHandleInvite (h : ircServerHandleInvite s msg = .ok t) :
    Says IrcEvent.Plain s (inviteTexts s msg) t := by
  unfold ircServerHandleInvite at h
  obtain ⟨origin, -, h⟩ := bind_eq_ok_iff.1 h
  obtain ⟨channel, hchannel, h⟩ := bind_eq_ok_iff.1 h
  cases h
  rw [inviteTexts, getD_of_arg hchannel]
  -- the flag JOIN_INVITE decides whether a line is sent before the event
  refine .dispatch ?_ ⟨by simp, by simp⟩
  split
  · exact says_ircServerJoin s channel none
  · exact .refl

theorem says_ircServerHandleJoin (h : ircServerHandleJoin s msg = .ok t) :
    Says IrcEvent.Plain s [] t := by
  unfold ircServerHandleJoin at h
  obtain ⟨origin, -, h⟩ := bind_eq_ok_iff.1 h
  obtain ⟨channel, -, h⟩ := bind_eq_ok_iff.1 h
  cases h
  exact (Says.refl.setChannels (.add channel none true)).dispatch ⟨by simp, by simp⟩

theorem says_ircServerHandleKick (h : ircServerHandleKick s msg = .ok t) :
    Says IrcEvent.Plain s (handleKickTexts s msg) t := by
  unfold ircServerHandleKick at h
  obtain ⟨origin, -, h⟩ := bind_eq_ok_iff.1 h
  obtain ⟨channel, hchannel, h⟩ := bind_eq_ok_iff.1 h
  obtain ⟨target, htarget, h⟩ := bind_eq_ok_iff.1 h
  obtain ⟨reason, -, h⟩ := bind_eq_ok_iff.1 h
  cases h
  rw [handleKickTexts, getD_of_arg hchannel, getD_of_arg htarget]
  have hadd : Says IrcEvent.Plain s []
      (s.setChannels (ircServerChannelsAdd s.server.channels channel none true)) :=
    Says.refl.setChannels (.add channel none true)
  exact (hadd.trans (says_kicked _ channel target)).dispatch ⟨by simp, by simp⟩

theorem says_ircServerHandleMode (h : ircServerHandleMode s msg = .ok t) :
    Says IrcEvent.Plain s [] t := by
  unfold ircServerHandleMode at h
  obtain ⟨origin, -, h⟩ := bind_eq_ok_iff.1 h
  obtain ⟨channel, -, h⟩ := bind_eq_ok_iff.1 h
  obtain ⟨mode, -, h⟩ := bind_eq_ok_iff.1 h
  dsimp only at h
  split at h
  · cases h
    exact Says.refl.dispatch ⟨by simp, by simp⟩
  · rename_i ch hfind
    obtain ⟨ch', hloop, h⟩ := bind_eq_ok_iff.1 h
    cases h
    -- the loop starts from the channel that is replaced, and keeps its name
    refine Says.dispatch (Says.refl.setChannels (.modify channel fun c hc => ?_)) ⟨by simp, by simp⟩
    obtain rfl : ch = c := Option.some.inj (hfind.symm.trans hc)
    exact modeLoop_name hloop

theorem says_ircServerHandlePart (h : ircServerHandlePart s msg = .ok t) :
    Says IrcEvent.Plain s [] t := by
  unfold ircServerHandlePart at h
  obtain ⟨origin, -, h⟩ := bind_eq_ok_iff.1 h
  obtain ⟨channel, -, h⟩ := bind_eq_ok_iff.1 h
  obtain ⟨reason, -, h⟩ := bind_eq_ok_iff.1 h
  dsimp only at h
  split at h
  · cases h
    exact Says.dispatch (Says.refl.setChannels (.remove channel)) ⟨by simp, by simp⟩
  · split at h
    · cases h
      exact Says.dispatch (Says.refl.setChannels (.modify channel fun _ _ => rfl))
        ⟨by simp, by simp⟩
    · cases h

theorem says_ircServerHandleMsg (h : ircServerHandleMsg s msg = .ok t) :
    Says IrcEvent.Plain s (msgTexts s msg) t := by
  unfold ircServerHandleMsg at h
  obtain ⟨text, htext, h⟩ := bind_eq_ok_iff.1 h
  rw [msgTexts, getD_of_arg htext]
  split at h
  · rename_i hctcp
    obtain ⟨origin, horigin, h⟩ := bind_eq_ok_iff.1 h
    rw [ircUtilStrdup_eq_ok_iff.1 horigin, hctcp]
    split at h
    · rename_i haction
      obtain ⟨channel, -, h⟩ := bind_eq_ok_iff.1 h
      cases h
      rw [haction, bne_self_eq_false, Bool.and_false, if_neg (by simp)]
      exact Says.refl.dispatch ⟨by simp, by simp⟩
    · rename_i haction
      cases h
      rw [Bool.true_and, if_pos (by simpa using haction)]
      exact (says_ctcpReply s _ _).dispatch ⟨by simp, by simp⟩
  · rename_i hctcp
    obtain ⟨origin, -, h⟩ := bind_eq_ok_iff.1 h
    obtain ⟨channel, -, h⟩ := bind_eq_ok_iff.1 h
    cases h
    rw [Bool.not_eq_true] at hctcp
    rw [hctcp, Bool.false_and, if_neg (by simp)]
    exact Says.refl.dispatch ⟨by simp, by simp⟩

theorem says_ircServerHandleNick (h : ircServerHandleNick s msg = .ok t) :
    Says IrcEvent.Plain s [] t := by
  unfold ircServerHandleNick at h
  obtain ⟨origin, -, h⟩ := bind_eq_ok_iff.1 h
  obtain ⟨nickname, -, h⟩ := bind_eq_ok_iff.1 h
  cases h
  refine .dispatch ?_ ⟨by simp, by simp⟩
  split
  · exact .update .refl ⟨rfl, .same⟩
  · exact .refl

theorem says_ircServerHandleNotice (h : ircServerHandleNotice s msg = .ok t) :
    Says IrcEvent.Plain s [] t := by
  unfold ircServerHandleNotice at h
  obtain ⟨origin, -, h⟩ := bind_eq_ok_iff.1 h
  obtain ⟨channel, -, h⟩ := bind_eq_ok_iff.1 h
  obtain ⟨notice, -, h⟩ := bind_eq_ok_iff.1 h
  cases h
  exact Says.refl.dispatch ⟨by simp, by simp⟩

theorem says_ircServerHandleTopic (h : ircServerHandleTopic s msg = .ok t) :
    Says IrcEvent.Plain s [] t := by
  unfold ircServerHandleTopic at h
  obtain ⟨origin, -, h⟩ := bind_eq_ok_iff.1 h
  obtain ⟨channel, -, h⟩ := bind_eq_ok_iff.1 h
  obtain ⟨topic, -, h⟩ := bind_eq_ok_iff.1 h
  cases h
  exact Says.refl.dispatch ⟨by simp, by simp⟩

theorem says_ircServerHandlePing (h : ircServerHandlePing s msg = .ok t) :
    Says E s (pingTexts s msg) t := by
  unfold ircServerHandlePing at h
  split at h
  · rename_i hargs
    obtain ⟨arg, harg, h⟩ := bind_eq_ok_iff.1 h
    cases h
    rw [pingTexts, if_pos hargs, getD_of_arg harg]
    exact says_send s _
  · rename_i hargs
    cases h
    rw [pingTexts, if_neg hargs]
    exact .refl

theorem says_ircServerHandleNames (h : ircServerHandleNames s msg = .ok t) : Says E s [] t := by
  unfold ircServerHandleNames at h
  obtain ⟨channel, -, h⟩ := bind_eq_ok_iff.1 h
  obtain ⟨names, -, h⟩ := bind_eq_ok_iff.1 h
  cases h
  have hadd : Says E s []
      (s.setChannels (ircServerChannelsAdd s.server.channels channel none true)) :=
    Says.refl.setChannels (.add channel none true)
  exact hadd.setChannels (.modify channel fun _ _ => addNames_name _ _ _)

theorem says_ircServerHandleEndofnames (h : ircServerHandleEndofnames s msg = .ok t) :
    Says IrcEvent.Plain s [] t := by
  unfold ircServerHandleEndofnames at h
  obtain ⟨channel, -, h⟩ := bind_eq_ok_iff.1 h
  split at h
  · cases h
    exact .refl
  · cases h
    exact Says.refl.dispatch ⟨by simp, by simp⟩

theorem says_ircServerHandleError (h : ircServerHandleError s msg = .ok t) : Says E s [] t := by
  unfold ircServerHandleError at h
  obtain ⟨arg, -, h⟩ := bind_eq_ok_iff.1 h
  cases h
  exact .refl

end Handlers

/-! ## The table -/

theorem returns_eq_ok {f : Sys → ConnMsg → Except Fault Sys} {msg : ConnMsg}
    {k : Option IrcEventWhois} (h : returns f s msg = .ok (t, k)) : f s msg = .ok t := by
  unfold returns at h
  cases hf : f s msg with
  | error e => rw [hf] at h; cases h
  | ok u =>
    rw [hf] at h
    cases h
    rfl

/-- A handler that sends nothing, of a command that gets no reply. -/
theorem says_replies_of_silent {f : Sys → ConnMsg → Except Fault Sys} {cmd : CStr}
    (hcmd : replying.find? (·.1 == cmd) = none)
    (hf : ∀ {s t msg}, f s msg = .ok t → Says IrcEvent.Plain s [] t)
    (s : Sys) (msg : ConnMsg) (t : Sys) (k : Option IrcEventWhois) (hmsg : msg.cmd = cmd)
    (h : returns f s msg = .ok (t, k)) : Says IrcEvent.Plain s (replies s msg) t := by
  rw [replies_of_find_eq_none (hmsg ▸ hcmd)]
  exact hf (returns_eq_ok h)

/-- A handler that sends the replies of its command. -/
theorem says_replies_of_replying {f : Sys → ConnMsg → Except Fault Sys} {cmd : CStr}
    {g : Sys → ConnMsg → List CStr} (hcmd : replying.find? (·.1 == cmd) = some (cmd, g))
    (hf : ∀ {s t msg}, f s msg = .ok t → Says IrcEvent.Plain s (g s msg) t)
    (s : Sys) (msg : ConnMsg) (t : Sys) (k : Option IrcEventWhois) (hmsg : msg.cmd = cmd)
    (h : returns f s msg = .ok (t, k)) : Says IrcEvent.Plain s (replies s msg) t := by
  rw [replies_of_find (hmsg ▸ hcmd)]
  exact hf (returns_eq_ok h)

theorem says_ircServerHandleNicknameinuse (h : ircServerHandleNicknameinuse s msg = .ok t) :
    Says E s [] t := by
  cases h
  exact .refl

/-- 311 opens a pending whois, and the server stays as it is. -/
theorem says_ircServerHandleWhoisuser (s : Sys) (msg : ConnMsg) (t : Sys)
    (k : Option IrcEventWhois) (hmsg : msg.cmd = cstr "311")
    (h : (ircServerHandleWhoisuser msg).map (s, some ·) = .ok (t, k)) :
    Says E s (replies s msg) t := by
  rw [replies_of_find_eq_none (by rw [hmsg]; rfl)]
  cases hw : ircServerHandleWhoisuser msg with
  | error e => rw [hw] at h; cases h
  | ok ev =>
    rw [hw] at h
    cases h
    exact .refl

/-- Every handler but those of 000 and 001 sends the replies and dispatches plain events only. -/
theorem says_handlers : ∀ h ∈ handlers, h.1 = cstr "000" ∨ h.1 = cstr "001" ∨
    ∀ s msg t k, msg.cmd = h.1 → h.2 s msg = .ok (t, k) →
      Says IrcEvent.Plain s (replies s msg) t := by
  -- the first two entries are those of 000 and 001
  unfold handlers
  refine List.forall_mem_cons.2 ⟨.inl rfl, ?_⟩
  refine List.forall_mem_cons.2 ⟨.inr (.inl rfl), ?_⟩
  intro h hh
  refine .inr (.inr ?_)
  simp only [List.mem_cons, List.not_mem_nil, or_false] at hh
  rcases hh with rfl | rfl | rfl | rfl | rfl | rfl | rfl | rfl | rfl | rfl | rfl | rfl | rfl |
    rfl | rfl | rfl
  · exact says_replies_of_silent rfl says_ircServerHandleSupport
  · exact says_ircServerHandleWhoisuser
  · exact says_replies_of_silent rfl says_ircServerHandleNames
  · exact says_replies_of_silent rfl says_ircServerHandleEndofnames
  · exact says_replies_of_silent (f := ircServerHandleNicknameinuse) rfl
      says_ircServerHandleNicknameinuse
  · exact says_replies_of_silent rfl says_ircServerHandleError
  · exact says_replies_of_replying rfl says_ircServerHandleInvite
  · exact says_replies_of_silent rfl says_ircServerHandleJoin
  · exact says_replies_of_replying rfl says_ircServerHandleKick
  · exact says_replies_of_silent rfl says_ircServerHandleMode
  · exact says_replies_of_silent rfl says_ircServerHandleNick
  · exact says_replies_of_silent rfl says_ircServerHandleNotice
  · exact says_replies_of_silent rfl says_ircServerHandlePart
  · exact says_replies_of_replying rfl says_ircServerHandlePing
  · exact says_replies_of_replying rfl says_ircServerHandleMsg
  · exact says_replies_of_silent rfl says_ircServerHandleTopic

/-- A command without handler gets no reply. -/
theorem replying_of_handlers {cmd : CStr} (h : handlers.find? (·.1 == cmd) = none) :
    replying.find? (·.1 == cmd) = none := by
  have hsub : ∀ r ∈ replying, ∃ f ∈ handlers, f.1 = r.1 := by decide +kernel
  rw [List.find?_eq_none] at h ⊢
  intro r hr
  obtain ⟨f, hf, heq⟩ := hsub r hr
  rw [← heq]
  exact h f hf

/-- All that the consumer does with the message it pulls. -/
theorem consume_cases {k k' : Option IrcEventWhois} {msg : ConnMsg}
    (h : consume s k msg = .ok (t, k')) :
    (k = none ∧ msg.cmd = cstr "000" ∧ t = dispatch s .disconnect) ∨
    (k = none ∧ msg.cmd = cstr "001" ∧ t = dispatch (rejoin s) .connect) ∨
    ((k = none → msg.cmd ≠ cstr "000" ∧ msg.cmd ≠ cstr "001") ∧
      Says IrcEvent.Plain s (answers s msg k) t) := by
  have h000 : handlers.find? (·.1 == cstr "000") =
      some (cstr "000", returns ircServerHandleDisconnect) := rfl
  have h001 : handlers.find? (·.1 == cstr "001") =
      some (cstr "001", returns ircServerHandleConnect) := rfl
  cases k with
  | some ev =>
    -- in a pending whois the message fills the event, or dispatches it, or is dropped
    refine .inr (.inr ⟨by simp, ?_⟩)
    simp only [consume, whoisPull] at h
    generalize (if msg.cmd = cstr "319" then _ else _ : Except Fault IrcEventWhois) = x at h
    cases x with
    | error e => cases h
    | ok ev' =>
      simp only [Except.map, Except.ok.injEq] at h
      split at h
      · cases h
        exact Says.refl.dispatch ⟨by simp, by simp⟩
      · cases h
        exact .refl
  | none =>
    simp only [consume, ircServerHandle] at h
    by_cases hdisconnect : msg.cmd = cstr "000"
    · rw [hdisconnect, h000] at h
      have hret : returns ircServerHandleDisconnect s msg = .ok (t, k') := h
      obtain rfl : dispatch s .disconnect = t := Except.ok.inj (returns_eq_ok hret)
      exact .inl ⟨rfl, hdisconnect, rfl⟩
    by_cases hconnect : msg.cmd = cstr "001"
    · rw [hconnect, h001] at h
      have hret : returns ircServerHandleConnect s msg = .ok (t, k') := h
      obtain rfl : dispatch (rejoin s) .connect = t := Except.ok.inj (returns_eq_ok hret)
      exact .inr (.inl ⟨rfl, hconnect, rfl⟩)
    refine .inr (.inr ⟨fun _ => ⟨hdisconnect, hconnect⟩, ?_⟩)
    cases hf : handlers.find? (·.1 == msg.cmd) with
    -- a command without handler is ignored
    | none =>
      rw [hf] at h
      cases h
      rw [answers, replies_of_find_eq_none (replying_of_handlers hf)]
      exact .refl
    | some f =>
      rw [hf] at h
      have hkey : f.1 = msg.cmd := by simpa using List.find?_some hf
      rcases says_handlers f (List.mem_of_find?_eq_some hf) with h0 | h1 | hsaid
      · exact absurd (hkey.symm.trans h0) hdisconnect
      · exact absurd (hkey.symm.trans h1) hconnect
      · exact hsaid s msg t k' hkey.symm h

/-- The consumer sends the answers, dispatches events and changes the server, and nothing else. -/
theorem says_consume {k k' : Option IrcEventWhois} {msg : ConnMsg}
    (h : consume s k msg = .ok (t, k')) : Says (fun _ => True) s (answers s msg k) t := by
  rcases consume_cases h with ⟨rfl, hcmd, rfl⟩ | ⟨rfl, hcmd, rfl⟩ | ⟨-, hsaid⟩
  · rw [answers, replies_of_find_eq_none (by rw [hcmd]; rfl)]
    exact Says.refl.dispatch trivial
  · have hreplies : replies s msg = rejoinTexts s.server := by
      exact replies_of_find (by rw [hcmd]; rfl)
    rw [answers, hreplies]
    exact (says_rejoin s).dispatch trivial
  · exact hsaid.mono fun _ _ => trivial

end Irccd
