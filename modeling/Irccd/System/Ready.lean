import Irccd.System.Coherent

/-!
# A connection that is ready

When `irc__conn_ready` answers yes, is there a socket behind the connection?

* `Live`: the socket is open and connected, and the `io_fd` coroutine exists;
* `ReadyIsLive`: a connection that is ready is live, so that nothing is accepted otherwise;
* `ReadyCond`: the watchdog does not destroy a connection that is ready, and no endpoint leaves a
  positive `SO_ERROR`;
* `readyIsLive_iff`: a run stays in `ReadyIsLive` exactly when its steps satisfy `ReadyCond`.
-/

namespace Irccd

/-- The socket is open and connected, and the `io_fd` coroutine exists. -/
def Live (n : Net) : Prop := n.conn.ioCoro ≠ none ∧ sockState n.conn.fd n.trace = .connected

/-- A connection that is ready is live, and `irc_server_send` answers `-ENOTCONN` and changes
nothing when there is no live connection. -/
def ReadyIsLive (s : Sys) : Prop :=
  (ircServerReady s.server = true →
    ∃ co, s.server.coroutine = some co ∧ Live ⟨co.conn, s.trace⟩) ∧
  ((∀ co, s.server.coroutine = some co → ¬ Live ⟨co.conn, s.trace⟩) →
    ∀ text, ircServerSend s text = (-ENOTCONN, s))

/-- The watchdog destroys no connection that is ready, and the endpoint that `conn_dial` waits for,
if none failed before it, leaves no positive error. -/
def ReadyCond (_ : List CStr) (n : Net) : ConnAct → Prop
  | .resumeTimer _ =>
    n.conn.timer.revents = true → n.conn.timerCoro = .watch → ircConnReady n.conn = false
  | .resumeIo _ _ =>
    n.conn.ioCoro = some (.dial 0) → n.conn.io.revents ≠ .none →
      ∀ a rest soError, n.conn.ai = a :: rest → a.connect = .inProgress soError → soError ≤ 0
  | _ => True

theorem Live.append {n : Net} {conn : Conn} {cs : List Call} (hn : Live n)
    (hfd : conn.fd = n.conn.fd) (hcoro : conn.ioCoro ≠ none) (hcs : ∀ c ∈ cs, ¬ c.IsDial) :
    Live ⟨conn, n.trace ++ cs⟩ := by
  refine ⟨hcoro, ?_⟩
  rw [sockState_append_of_not_dial hcs, hfd]
  exact hn.2

theorem Live.of_identified {linked : Bool} {lines : List CStr} {n n' : Net}
    (h : Identified linked lines n n') (hconn : sockState n.conn.fd n.trace = .connected) :
    Live n' := by
  cases h with
  | mk => exact ⟨by simp, (sockState_append_of_not_dial not_isDial_push).trans hconn⟩

theorem Live.of_waited {n n' : Net} {r : RecvResult} {rc : ℤ} (h : Waited n r rc n')
    (hn : Live n) : Live n' := by
  have hsock := h.sockState_eq n.conn.fd
  cases h with
  | mk => exact ⟨hn.1, hsock.trans hn.2⟩

theorem ircConnReady_of_state {c : Conn} (h : c.state = .ident ∨ c.state = .ready) :
    ircConnReady c = true := by
  rcases h with h | h <;> simp [ircConnReady, h]

theorem not_ircConnReady_of_state {c : Conn} (h : c.state = .connect ∨ c.state = .resolve) :
    ¬ ircConnReady c = true := by
  rcases h with h | h <;> simp [ircConnReady, h]

/-- A ready connection is live after a step that satisfies `ReadyCond`. -/
theorem live_trans {lines : List CStr} {n n' : Net} {a : ConnAct} (hn : Coherent n)
    (hlive : ircConnReady n.conn = true → Live n) (h : ConnTrans lines n a n')
    (hcond : ReadyCond lines n a) : ircConnReady n'.conn = true → Live n' := by
  intro hready
  cases h with
  | quiet => exact hlive hready
  | redial hpoint _ _ h =>
    have hstate : n'.conn.state = .connect := h.state_eq.trans (hn.dial _ hpoint).1
    exact absurd hready (not_ircConnReady_of_state (.inl hstate))
  | identify hpoint hrevents hai ha hso h =>
    -- the error is neither negative, since `conn_dial` succeeded, nor positive
    obtain rfl : _ = (0 : ℤ) := Int.le_antisymm (hcond hpoint hrevents _ _ _ hai ha) hso
    refine .of_identified h ?_
    show sockState n.conn.fd (n.dialed 0).trace = .connected
    rw [n.sockState_dialed, if_pos rfl]
  | waitIdent hpoint _ h =>
    have hn' := Live.of_waited h (hlive (ircConnReady_of_state (.inl (hn.ident hpoint))))
    rcases connIdentLoop_cases _ with ⟨-, timer, heq⟩ | ⟨-, heq⟩
    · rw [heq]
      exact ⟨by simp, hn'.2⟩
    · rw [heq]
      exact ⟨by simp, hn'.2⟩
  | waitReady hpoint _ h =>
    have hn' := Live.of_waited h (hlive (ircConnReady_of_state (.inr (hn.ready hpoint))))
    exact ⟨hn'.1, hn'.2⟩
  | lostIdent hpoint _ _ h =>
    have hn' := Live.of_waited h (hlive (ircConnReady_of_state (.inl (hn.ident hpoint))))
    exact ⟨by simp [connReschedule], hn'.2⟩
  | lostReady hpoint _ _ h =>
    have hn' := Live.of_waited h (hlive (ircConnReady_of_state (.inr (hn.ready hpoint))))
    exact ⟨by simp [connReschedule], by simpa [connReschedule, sockStep] using hn'.2⟩
  -- the socket is closed, so the connection must not have been ready
  | teardown hrevents hpoint =>
    have hnot : ircConnReady n.conn = false := hcond hrevents hpoint
    exact absurd (hnot.symm.trans hready) (by simp)
  | respawn _ _ _ hstate h =>
    exact absurd hready (not_ircConnReady_of_state
      (hstate.imp h.state_eq.trans fun hs => h.state_eq.trans hs.1))
  | respawnIdent _ _ _ h =>
    exact .of_identified h (Net.sockState_connected _ _ _)
  | produce => exact (hlive hready).append rfl (hlive hready).1 (by simp [Call.IsDial])

theorem ready_kept : Kept (fun n => Coherent n ∧ (ircConnReady n.conn = true → Live n))
    (fun _ => True) ReadyCond (fun _ => True) := by
  refine Kept.of_trans (fun lines n a n' hn hlive h hcond => live_trans hn hlive h hcond)
    (fun n line hfits hready _ _ hlive _ => ?_) (fun n ev hlive hready => ?_)
    (fun n _ hlive => hlive) (fun lines ais uninit stale trace _ _ hready => ?_)
    (fun _ _ _ => trivial) (fun _ _ _ => trivial)
  · exact (hlive hready).append rfl (hlive hready).1 (by simp [Call.IsDial])
  · exact (hlive hready).append rfl (hlive hready).1 (by simp [Call.IsDial])
  · rcases connIoSpawn_cases false lines ais ⟨connAlloc uninit stale, trace ++ [.spawn]⟩ with
      ⟨-, state, timer, hstate, hsus⟩ | ⟨-, ai, fd, timer, hident⟩
    · exact absurd hready (not_ircConnReady_of_state
        (hstate.imp hsus.state_eq.trans fun hs => hsus.state_eq.trans hs.1))
    · exact .of_identified hident (Net.sockState_connected _ _ _)

/-- A line sent to a connection that is not ready is refused. -/
theorem ircServerSend_of_not_ready {s : Sys} (h : ircServerReady s.server = false) (text : CStr) :
    ircServerSend s text = (-ENOTCONN, s) := by
  unfold ircServerReady at h
  unfold ircServerSend
  cases hco : s.server.coroutine with
  | none => rfl
  | some co =>
    simp only [hco] at h
    simp only [connSendLine, h, Bool.and_false, Bool.false_eq_true, if_false, Prod.mk.injEq,
      true_and]
    -- the connection is put back as it was
    obtain ⟨server, trace, listed, clock, stale⟩ := s
    cases server
    obtain rfl : _ = some co := hco
    rfl

theorem readyIsLive_of_holds {s : Sys}
    (h : s.Holds (fun n => Coherent n ∧ (ircConnReady n.conn = true → Live n)) (fun _ => True)) :
    ReadyIsLive s := by
  have hready : ircServerReady s.server = true →
      ∃ co, s.server.coroutine = some co ∧ Live ⟨co.conn, s.trace⟩ := by
    intro hready
    unfold ircServerReady at hready
    cases hco : s.server.coroutine with
    | none => simp [hco] at hready
    | some co =>
      simp only [hco] at hready
      exact ⟨co, rfl, ((Sys.holds_iff_of_some hco).1 h).2 hready⟩
  refine ⟨hready, fun hdead text => ircServerSend_of_not_ready ?_ text⟩
  by_contra hnot
  obtain ⟨co, hco, hlive⟩ := hready (by simpa using hnot)
  exact hdead co hco hlive

/-- A step that does not satisfy `ReadyCond` leaves a connection that is ready and not live. -/
theorem not_live_trans {lines : List CStr} {n n' : Net} {a : ConnAct} (hn : Coherent n)
    (h : ConnTrans lines n a n') (hcond : ¬ ReadyCond lines n a) :
    ircConnReady n'.conn = true ∧ ¬ Live n' := by
  cases a with
  | ioEvent => exact absurd trivial hcond
  | timerExpire => exact absurd trivial hcond
  | timerCallback => exact absurd trivial hcond
  | resumeProducer => exact absurd trivial hcond
  | resumeTimer ais =>
    simp only [ReadyCond, Classical.not_imp, Bool.not_eq_false] at hcond
    obtain ⟨hrevents, hpoint, hready⟩ := hcond
    -- a ready connection whose coroutine is gone
    obtain ⟨hnone, hstate⟩ := h.destroyed_of_watch hrevents hpoint
    refine ⟨?_, fun hlive => hlive.1 hnone⟩
    rwa [ircConnReady, hstate]
  | resumeIo r rs =>
    simp only [ReadyCond, Classical.not_imp, not_forall] at hcond
    obtain ⟨hpoint, hrevents, a, rest, e, hai, ha, hpos⟩ := hcond
    have hident := h.identified_of_dial hpoint hrevents hai ha (by omega)
    -- the socket is still as `conn_dial` left it
    have hopen : sockState n.conn.fd n.trace = .opened := (hn.dial 0 hpoint).2.1
    have hne : e ≠ 0 := by omega
    cases hident with
    | mk _ hstate =>
      refine ⟨ircConnReady_of_state (hstate.symm.imp And.left And.left), fun hlive => ?_⟩
      have hconn : sockState n.conn.fd (n.dialed e).trace = .connected :=
        (sockState_append_of_not_dial not_isDial_push).symm.trans hlive.2
      rw [n.sockState_dialed, if_neg hne, hopen] at hconn
      cases hconn

theorem not_readyIsLive {s s' : Sys} {a : Act}
    (hs : s.Holds (fun n => Coherent n ∧ (ircConnReady n.conn = true → Live n)) (fun _ => True))
    (h : step s a = some s') (hcond : ¬ StepCond ReadyCond (fun _ => True) s a s') :
    ¬ ReadyIsLive s' := by
  obtain ⟨co, n, c, hcoh, htrans, hnot, rfl⟩ := exists_trans_of_not_stepCond hs h hcond
  obtain ⟨hready, hdead⟩ := not_live_trans hcoh htrans hnot
  intro hlive
  obtain ⟨co', ⟨⟩, hlive⟩ := hlive.1 hready
  exact hdead hlive

/-- In a run a connection that is ready is always live, and a line is refused when there is no live
connection, exactly when the steps of the run satisfy `ReadyCond`. -/
theorem readyIsLive_iff (name nickname username realname : CStr) (as : List Act) :
    Runs.AllStates step ReadyIsLive (Sys.start (ircServerNew name nickname username realname)) as ↔
      Runs.AllSteps step (StepCond ReadyCond fun _ => True)
        (Sys.start (ircServerNew name nickname username realname)) as :=
  Runs.allStates_iff_allSteps (fun _ _ _ => ready_kept.step) (fun _ => readyIsLive_of_holds)
    (fun _ _ _ => not_readyIsLive) trivial

/-- Silence during the identification: the watchdog fires, the socket is closed, and the connection
is still ready. -/
theorem not_readyIsLive_timeout :
    ¬ Runs.AllStates step ReadyIsLive (Sys.start localServer)
      [.serverConnect (some [⟨3, .done, .inProgress 0⟩]) ⟨none, [], []⟩,
        .conn (.ioEvent .evWrite), .conn (.resumeIo .again []),
        .conn .timerExpire, .conn .timerCallback, .conn (.resumeTimer none)] := by
  intro h
  have hrun : (Runs.exec step (Sys.start localServer)
      [.serverConnect (some [⟨3, .done, .inProgress 0⟩]) ⟨none, [], []⟩,
        .conn (.ioEvent .evWrite), .conn (.resumeIo .again []),
        .conn .timerExpire, .conn .timerCallback, .conn (.resumeTimer none)]).map
      (fun t => (ircServerReady t.server, t.server.coroutine.map (·.conn.ioCoro))) =
      some (true, some none) := by decide +kernel
  obtain ⟨t, ht, heq⟩ := Option.map_eq_some_iff.1 hrun
  rw [Prod.mk.injEq] at heq
  obtain ⟨co, hco, hlive⟩ := (h.last ht).1 heq.1
  rw [hco, Option.map_some, Option.some.injEq] at heq
  exact hlive.1 heq.2

end Irccd
