import Irccd.Server.Rejoin
import Irccd.System.Basic

/-!
# Joining again after every connection

What the bot sends when a 001 message is handled.

* `welcomed`: the consumer handles a 001 message, with room in the output buffer;
* `Rejoins`: a JOIN line is pushed for every channel, and nothing else;
* `RejoinCond`: the connection is ready, no channel is still flagged as joined, and every JOIN line
  is short enough;
* `rejoins_iff`: the steps of a run satisfy the one exactly when they satisfy the other.
-/

namespace Irccd

/-- The act lets the consumer handle a 001 message, with room in the output buffer for the JOIN
lines. -/
def welcomed (s : Sys) : Act → Bool
  | .resumeConsumer =>
    match s.server.coroutine with
    | some co => co.consumer.isNone && (co.conn.storage.map (·.cmd) == some (cstr "001")) &&
      decide (co.conn.outb.outsz + (wire (joinLines s.server)).length < connOutSize)
    | none => false
  | _ => false

/-- When a 001 message is handled, one JOIN line is pushed for every channel on the list, and no
other line. -/
def Rejoins (s : Sys) (a : Act) (s' : Sys) : Prop :=
  welcomed s a = true → pushedLines s'.trace = pushedLines s.trace ++ joinLines s.server

instance (s : Sys) (a : Act) (s' : Sys) : Decidable (Rejoins s a s') :=
  inferInstanceAs (Decidable (_ → _))

/-- When a 001 message is handled, the connection is ready, no channel is flagged as joined, and
every JOIN line is shorter than `IRCCD_MESSAGE_LEN`. -/
def RejoinCond (s : Sys) (a : Act) (_ : Sys) : Prop :=
  welcomed s a = true → ∀ ch ∈ s.server.channels,
    ircServerReady s.server = true ∧ ch.joined = false ∧ (joinLine ch).length < messageLen

/-! ## The names of the channels -/

theorem Talk.distinctNames {E : IrcEvent → Prop} {s t : Sys} (h : Talk E s t)
    (hs : DistinctNames s.server.channels) : DistinctNames t.server.channels := by
  refine h.keeps (P := fun u => DistinctNames u.server.channels) (fun u text hu => ?_)
    (fun u ev _ hu => hu) (fun u server hserver hu => hserver.channels.distinctNames hu) hs
  unfold ircServerSend
  split <;> exact hu

theorem ircServerConnect_channels (s : Sys) (ais : Option (List AddrInfo)) (uninit : ConnMsg) :
    (ircServerConnect s ais uninit).server.channels = s.server.channels := by
  rcases ircServerConnect_cases s ais uninit with heq | ⟨-, -, n, co, -, heq⟩
  · rw [heq]
  · rw [heq]
    rfl

/-- In every run the names of the channels differ. -/
theorem distinctNames_step {s s' : Sys} {a : Act} (hs : DistinctNames s.server.channels)
    (h : step s a = some s') : DistinctNames s'.server.channels := by
  have htalk : ∀ {t : Sys}, Talk (fun _ => True) s t → DistinctNames t.server.channels :=
    fun h => h.distinctNames hs
  -- `irc_server_disconnect` keeps the channels, without their users and flags
  have hdisconnect : DistinctNames (ircServerDisconnect s).server.channels := hs.clear
  have hperform := (step_eq_some_iff.1 h).1
  cases a with
  | conn c =>
    obtain ⟨co, n, -, -, rfl⟩ := exists_of_step_conn h
    exact hs
  | resumeConsumer =>
    rcases resumeConsumer_cases hperform with rfl | ⟨co, msg, t, k, -, -, hconsume, rfl⟩
    · exact hs
    · exact (says_consume hconsume).talk.distinctNames hs
  | serverConnect ais uninit =>
    cases hperform
    rwa [ircServerConnect_channels]
  | serverDisconnect =>
    cases hperform
    exact hdisconnect
  | serverReconnect ais uninit =>
    cases hperform
    rwa [ircServerReconnect, ircServerConnect_channels]
  | botServerAdd ais uninit =>
    cases hperform
    unfold ircBotServerAdd
    split
    · exact hs
    · simp only [ircServerConnect_channels]
      exact hs
  | botServerRemove =>
    cases hperform
    unfold ircBotServerRemove
    split
    · exact hdisconnect
    · exact hs
  | join name pass =>
    cases hperform
    exact htalk (says_ircServerJoin s name pass).talk
  | send text =>
    cases hperform
    exact htalk (.send text .refl)
  | setNickname nickname =>
    cases hperform
    exact htalk (ircServerSetNickname_talk s nickname)
  | set v =>
    simp only [perform, Option.map_eq_some_iff] at hperform
    obtain ⟨server, hserver, rfl⟩ := hperform
    exact htalk (.update .refl (ircServerSet_update hserver))
  | tick clock =>
    cases hperform
    exact hs

/-! ## Handling a 001 message -/

theorem exists_of_welcomed {s : Sys} {a : Act} (h : welcomed s a = true) :
    ∃ co msg, a = .resumeConsumer ∧ s.server.coroutine = some co ∧ co.consumer = none ∧
      co.conn.storage = some msg ∧ msg.cmd = cstr "001" ∧
      co.conn.outb.outsz + (wire (joinLines s.server)).length < connOutSize := by
  unfold welcomed at h
  split at h
  · split at h
    · rename_i co hco
      simp only [Bool.and_eq_true, Option.isNone_iff_eq_none, beq_iff_eq, Option.map_eq_some_iff,
        decide_eq_true_eq] at h
      obtain ⟨⟨hnone, msg, hstorage, hcmd⟩, hroom⟩ := h
      exact ⟨co, msg, rfl, hco, hnone, hstorage, hcmd, hroom⟩
    · cases h
  · cases h

/-- The consumer handles the 001 message as `irc_server_handle_connect` does. -/
theorem trace_of_welcomed {s s' : Sys} {co : IrcServerCoro} {msg : ConnMsg}
    (hco : s.server.coroutine = some co) (hnone : co.consumer = none)
    (hstorage : co.conn.storage = some msg) (hcmd : msg.cmd = cstr "001")
    (h : step s .resumeConsumer = some s') :
    s'.trace =
      (rejoin (s.setNet co ⟨{ co.conn with storage := none, msg := pulledMsg co.conn.msg },
        s.trace⟩)).trace ++ [.dispatch .connect] := by
  have hne : cstr "001" ≠ cstr "000" := by decide
  have hperform : resumeConsumer s = some s' := (step_eq_some_iff.1 h).1
  simp only [resumeConsumer, hco, hstorage, hnone] at hperform
  split at hperform
  · cases hperform
  · split at hperform
    · rename_i t k hconsume
      cases hperform
      rcases consume_cases hconsume with ⟨-, h000, -⟩ | ⟨-, -, rfl⟩ | ⟨hplain, -⟩
      · exact absurd (hcmd.symm.trans h000) hne
      · rfl
      · exact absurd hcmd (hplain rfl).2
    · cases hperform

theorem rejoins_iff_of_step {s s' : Sys} {a : Act} (hd : DistinctNames s.server.channels)
    (h : step s a = some s') : Rejoins s a s' ↔ RejoinCond s a s' := by
  unfold Rejoins RejoinCond
  by_cases hw : welcomed s a = true
  · obtain ⟨co, msg, rfl, hco, hnone, hstorage, hcmd, hroom⟩ := exists_of_welcomed hw
    have htrace : pushedLines s'.trace =
        pushedLines (rejoin (s.setNet co
          ⟨{ co.conn with storage := none, msg := pulledMsg co.conn.msg }, s.trace⟩)).trace := by
      rw [trace_of_welcomed hco hnone hstorage hcmd h]
      simp [pushedLines]
    -- the message is pulled before it is handled, which changes neither buffer nor channels
    have hiff := pushedLines_rejoin_iff
      (s := s.setNet co
        ⟨{ co.conn with storage := none, msg := pulledMsg co.conn.msg }, s.trace⟩) rfl hd hroom
    rw [htrace, ircServerReady_of_some hco]
    exact imp_congr_right fun _ => hiff
  · simp [hw]

/-- In a run one JOIN line is pushed for every channel, and no other line, each time a 001 message
is handled, exactly when each time the connection is ready, no channel is still flagged as joined,
and the lines are short enough. -/
theorem rejoins_iff (name nickname username realname : CStr) (as : List Act) :
    Runs.AllSteps step Rejoins (Sys.start (ircServerNew name nickname username realname)) as ↔
      Runs.AllSteps step RejoinCond (Sys.start (ircServerNew name nickname username realname)) as :=
  Runs.AllSteps.congr (I := fun s => DistinctNames s.server.channels)
    (fun _ _ _ => distinctNames_step) (fun _ _ _ => rejoins_iff_of_step)
    (show DistinctNames [] from List.nodup_nil)

/-- The connection is lost while the bot is on #a: the channel is not joined again on the next
one. -/
theorem not_rejoins_lost :
    ¬ Runs.AllSteps step Rejoins (Sys.start localServer)
      [.join (cstr "#a") none,
        .serverConnect (some [⟨3, .done, .inProgress 0⟩]) ⟨none, [], []⟩,
        .conn (.ioEvent .evWrite), .conn (.resumeIo .again []),
        .conn (.ioEvent .evWrite), .conn (.resumeIo .again [.sent 100]),
        .conn (.ioEvent .evRead),
        .conn (.resumeIo (.data (cstr "001 bot :Hi\r\n:bot!b@h JOIN #a\r\n")) []),
        .conn .resumeProducer, .resumeConsumer, .conn .resumeProducer, .resumeConsumer,
        .conn (.ioEvent .evRead), .conn (.resumeIo .failed []),
        .conn .resumeProducer, .resumeConsumer,
        .conn .timerCallback, .conn (.resumeTimer none),
        .conn .timerExpire, .conn .timerCallback,
        .conn (.resumeTimer (some [⟨3, .done, .inProgress 0⟩])),
        .conn (.ioEvent .evWrite), .conn (.resumeIo .again []),
        .conn (.ioEvent .evWrite), .conn (.resumeIo .again [.sent 100]),
        .conn (.ioEvent .evRead), .conn (.resumeIo (.data (cstr "001 bot :Hi\r\n")) []),
        .conn .resumeProducer, .resumeConsumer] := by
  decide +kernel

end Irccd
