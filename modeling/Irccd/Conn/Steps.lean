import Irccd.Conn.Effects

/-!
# The steps of a connection

What the event loop and the coroutines of a connection can do in one step, and what a step changes.

* `ConnAct`, `connStep`: the steps;
* `Coherent`: where the coroutines are suspended and what `state` says agree;
* `ConnTrans`, `connStep_cases`: all that a step of a coherent connection can do. Every invariant of
  a connection is derived from this list.
-/

namespace Irccd

/-- A step of a connection, with what the outside world answers. -/
inductive ConnAct
  /-- The event loop finds the socket ready. -/
  | ioEvent (revents : Events)
  /-- The delay of the timer is over. -/
  | timerExpire
  /-- The event loop delivers the event of the timer. -/
  | timerCallback
  | resumeIo (r : RecvResult) (rs : List SendResult)
  | resumeTimer (ais : Option (List AddrInfo))
  | resumeProducer
  deriving DecidableEq

/-- A step of a connection. It is `none` when the step is not possible. `lines` are those that
`conn_ident` sends. -/
def connStep (lines : List CStr) (n : Net) : ConnAct → Option Net
  | .ioEvent revents =>
    if n.conn.io.active ∧ revents ≠ .none ∧ revents.subset n.conn.io.events then
      some { n with conn := { n.conn with io := { n.conn.io with revents } } }
    else none
  | .timerExpire =>
    if n.conn.timer.active then
      some { n with conn := { n.conn with timer := nceTimerExpire n.conn.timer } }
    else none
  | .timerCallback =>
    if n.conn.timer.pending then
      some { n with conn := { n.conn with timer := nceTimerCb n.conn.timer } }
    else none
  | .resumeIo r rs => connIoResume lines r rs n
  | .resumeTimer ais => some (connTimerResume lines ais n)
  | .resumeProducer => some (connProducerResume n)

/-- What is required of the endpoint that `conn_dial` waits for is decidable. -/
instance decidableForallDial {ais : List AddrInfo} {p : ℤ → Prop} [DecidablePred p] :
    Decidable (∀ a rest soError, ais = a :: rest → a.connect = .inProgress soError → p soError) :=
  match ais with
  | [] => isTrue (by simp)
  | ⟨_, _, .done⟩ :: _ => isTrue (by rintro _ _ _ ⟨⟩ ⟨⟩)
  | ⟨_, _, .failed⟩ :: _ => isTrue (by rintro _ _ _ ⟨⟩ ⟨⟩)
  | ⟨_, _, .inProgress soError⟩ :: _ =>
    decidable_of_iff (p soError)
      ⟨by rintro h _ _ _ ⟨⟩ ⟨⟩; exact h, fun h => h _ _ _ rfl rfl⟩

/-! ## Identifying -/

/-- The first endpoint answers at once. -/
def connectsAtOnce : Option (List AddrInfo) → Bool
  | some (⟨_, .done, .done⟩ :: _) => true
  | _ => false

/-- The connection that is spawned, at the end of `conn_connect`, when the first endpoint has
answered at once. -/
def Net.connected (n : Net) (ai : List AddrInfo) (fd : ℤ) : Net :=
  connEstablished ⟨{ n.conn with ai, fd, io := nceIoInit n.conn.io },
    n.trace ++ [.socket fd, .connected fd]⟩

theorem Net.connected_trace (n : Net) (ai : List AddrInfo) (fd : ℤ) :
    Dialed n.trace (n.connected ai fd).trace := ⟨_, rfl, by simp [Call.IsDial]⟩

theorem Net.sockState_connected (n : Net) (ai : List AddrInfo) (fd : ℤ) :
    sockState (n.connected ai fd).conn.fd (n.connected ai fd).trace = .connected := by
  simp [Net.connected, connEstablished, sockState, sockStep]

theorem exists_of_connectsAtOnce {ais : List AddrInfo} (h : connectsAtOnce (some ais) = true) :
    ∃ fd rest, ais = ⟨fd, .done, .done⟩ :: rest := by
  unfold connectsAtOnce at h
  split at h
  · rename_i fd rest heq
    exact ⟨fd, rest, Option.some.inj heq⟩
  · cases h

/-- `conn_io_spawn` is suspended in `conn_connect`, unless the first endpoint answers at once. -/
theorem connIoSpawn_cases (linked : Bool) (lines : List CStr) (ais : Option (List AddrInfo))
    (n : Net) :
    (connectsAtOnce ais = false ∧ ∃ state timer,
      (state = .connect ∨
        state = .resolve ∧ (connIoSpawn linked lines ais n).conn.ioCoro = some .idle) ∧
      Suspended ⟨{ n.conn with state, timer }, n.trace⟩ (connIoSpawn linked lines ais n)) ∨
    (connectsAtOnce ais = true ∧ ∃ ai fd timer,
      Identified linked lines (Net.connected ⟨{ n.conn with timer }, n.trace⟩ ai fd)
        (connIoSpawn linked lines ais n)) := by
  cases ais with
  | none => exact .inl ⟨rfl, .resolve, n.conn.timer, .inr ⟨rfl, rfl⟩, .idle (.refl _)⟩
  | some ais =>
    rcases connConnectLoop_cases ais 0 ⟨{ n.conn with
        io := nceIoInit n.conn.io
        state := .connect
        ai := ais
        timer := nceTimerAgain (nceTimerAgain n.conn.timer) }, n.trace⟩
      with ⟨n', hloop, hsus⟩ | ⟨-, fd, rest, rfl, hloop⟩
    · -- a list that starts with such an endpoint would have made the loop succeed
      have honce : connectsAtOnce (some ais) = false := by
        by_contra honce
        obtain ⟨fd, rest, rfl⟩ := exists_of_connectsAtOnce (by simpa using honce)
        simp [connConnectLoop, connSocket] at hloop
      have hsus : Suspended ⟨{ n.conn with
          state := .connect
          timer := nceTimerAgain (nceTimerAgain n.conn.timer) }, n.trace⟩ n' :=
        Suspended.after (.refl _) hsus
      refine .inl ⟨honce, .connect, nceTimerAgain (nceTimerAgain n.conn.timer), .inl rfl, ?_⟩
      have hspawn : connIoSpawn linked lines (some ais) n = n' :=
        congrArg (connConnected linked lines) hloop
      rw [hspawn]
      exact hsus
    · have hspawn : connIoSpawn linked lines (some (⟨fd, .done, .done⟩ :: rest)) n =
          connIdent linked lines (Net.connected
            ⟨{ n.conn with timer := nceTimerAgain (nceTimerAgain n.conn.timer) }, n.trace⟩
            (⟨fd, .done, .done⟩ :: rest) (freshFd n.trace fd)) :=
        congrArg (connConnected linked lines) hloop
      rw [hspawn]
      exact .inr ⟨rfl, _, _, _, connIdent_identified linked lines rfl⟩

theorem connIoSpawn_isPrefix (linked : Bool) (lines : List CStr) (ais : Option (List AddrInfo))
    (n : Net) : n.trace <+: (connIoSpawn linked lines ais n).trace := by
  rcases connIoSpawn_cases linked lines ais n with ⟨-, _, _, -, hsus⟩ | ⟨-, ai, fd, timer, hident⟩
  · exact hsus.isPrefix
  · have hconnected := Net.connected_trace ⟨{ n.conn with timer }, n.trace⟩ ai fd
    exact hconnected.isPrefix.trans hident.isPrefix

/-! ## Steps -/

/-- Where the coroutines are suspended agrees with the rest of the connection. -/
structure Coherent (n : Net) : Prop where
  dial : ∀ rc, n.conn.ioCoro = some (.dial rc) →
    n.conn.state = .connect ∧ sockState n.conn.fd n.trace = .opened ∧
      ∃ a rest soError, n.conn.ai = a :: rest ∧ a.connect = .inProgress soError
  ident : n.conn.ioCoro = some .ident → n.conn.state = .ident
  ready : n.conn.ioCoro = some .ready → n.conn.state = .ready
  waiting : n.conn.ioCoro = some .ident ∨ n.conn.ioCoro = some .ready →
    n.conn.io.active = true ∧ sockState n.conn.fd n.trace ≠ .closed
  delay : n.conn.timerCoro = .delay ↔ n.conn.ioCoro = none

/-- The `io_fd` coroutine waits in `conn_wait`. -/
def Waits (n : Net) : Prop := n.conn.ioCoro = some .ident ∨ n.conn.ioCoro = some .ready

instance (n : Net) : Decidable (Waits n) := inferInstanceAs (Decidable (_ ∨ _))

/-- The step only brings an event, or resumes a coroutine that has nothing to do. -/
def Quiet (n : Net) : ConnAct → Prop
  | .resumeIo _ _ => n.conn.ioCoro = some .idle ∨ n.conn.io.revents = .none
  | .resumeTimer _ => n.conn.timer.revents = false
  | .resumeProducer => n.conn.storage.isSome ∨ n.conn.inb.findLine = none
  | _ => True

/-- `ConnTrans lines n a n'`: the step `a` of the connection `n` may lead to `n'`. -/
inductive ConnTrans (lines : List CStr) (n : Net) : ConnAct → Net → Prop
  | quiet {a : ConnAct} {revents : Events} {timer : NceTimer} (h : Quiet n a) :
      ConnTrans lines n a ⟨{ n.conn with io := { n.conn.io with revents }, timer }, n.trace⟩
  /-- `conn_connect` goes on with the next endpoint, or gives up. -/
  | redial {r : RecvResult} {rs : List SendResult} {rc : ℤ} {n' : Net}
      (hpoint : n.conn.ioCoro = some (.dial rc)) (hrevents : n.conn.io.revents ≠ .none)
      (hfail : rc = 0 → ∀ a rest soError, n.conn.ai = a :: rest →
        a.connect = .inProgress soError → soError < 0)
      (h : Suspended n n') :
      ConnTrans lines n (.resumeIo r rs) n'
  /-- `conn_connect` succeeds and `conn_ident` sends its lines. -/
  | identify {r : RecvResult} {rs : List SendResult} {a : AddrInfo} {rest : List AddrInfo}
      {soError : ℤ} {n' : Net} (hpoint : n.conn.ioCoro = some (.dial 0))
      (hrevents : n.conn.io.revents ≠ .none) (hai : n.conn.ai = a :: rest)
      (ha : a.connect = .inProgress soError) (hso : 0 ≤ soError)
      (h : Identified true lines (n.dialed soError) n') :
      ConnTrans lines n (.resumeIo r rs) n'
  /-- `conn_ident` has sent something, or received something. -/
  | waitIdent {r : RecvResult} {rs : List SendResult} {n' : Net}
      (hpoint : n.conn.ioCoro = some .ident) (hrevents : n.conn.io.revents ≠ .none)
      (h : Waited n r 0 n') :
      ConnTrans lines n (.resumeIo r rs) (connIdentLoop n')
  /-- `conn_ready` has sent something, or received something. -/
  | waitReady {r : RecvResult} {rs : List SendResult} {n' : Net}
      (hpoint : n.conn.ioCoro = some .ready) (hrevents : n.conn.io.revents ≠ .none)
      (h : Waited n r 0 n') :
      ConnTrans lines n (.resumeIo r rs) (connTimerAgain n')
  /-- The connection is lost in `conn_ident`. -/
  | lostIdent {r : RecvResult} {rs : List SendResult} {rc : ℤ} {n' : Net}
      (hpoint : n.conn.ioCoro = some .ident) (hrevents : n.conn.io.revents ≠ .none)
      (hrc : rc < 0) (h : Waited n r rc n') (hwait : connWait n r rs = some (rc, n')) :
      ConnTrans lines n (.resumeIo r rs) (connReschedule n')
  /-- The connection is lost in `conn_ready`. -/
  | lostReady {r : RecvResult} {rs : List SendResult} {rc : ℤ} {n' : Net}
      (hpoint : n.conn.ioCoro = some .ready) (hrevents : n.conn.io.revents ≠ .none)
      (hrc : rc < 0) (h : Waited n r rc n') (hwait : connWait n r rs = some (rc, n')) :
      ConnTrans lines n (.resumeIo r rs) (connReschedule
        ⟨{ n'.conn with inb := n'.conn.inb.inject }, n'.trace ++ [.inject]⟩)
  /-- The watchdog destroys the `io_fd` coroutine. -/
  | teardown {ais : Option (List AddrInfo)} {timer : NceTimer}
      (hrevents : n.conn.timer.revents = true) (hpoint : n.conn.timerCoro = .watch) :
      ConnTrans lines n (.resumeTimer ais)
        ⟨{ n.conn with ai := [], ioCoro := none, fd := -1, timer, timerCoro := .delay },
          n.trace ++ closeCall n.conn.fd⟩
  /-- The `io_fd` coroutine is spawned again, and is suspended in `conn_connect`. -/
  | respawn {ais : Option (List AddrInfo)} {state : ConnState} {timer : NceTimer} {n' : Net}
      (hrevents : n.conn.timer.revents = true) (hpoint : n.conn.timerCoro = .delay)
      (honce : connectsAtOnce ais = false)
      (hstate : state = .connect ∨ state = .resolve ∧ n'.conn.ioCoro = some .idle)
      (h : Suspended ⟨{ n.conn with state, timer, timerCoro := .watch }, n.trace⟩ n') :
      ConnTrans lines n (.resumeTimer ais) n'
  /-- The `io_fd` coroutine is spawned again, and its first endpoint answers at once. -/
  | respawnIdent {ais : Option (List AddrInfo)} {timer : NceTimer} {ai : List AddrInfo} {fd : ℤ}
      {n' : Net} (hrevents : n.conn.timer.revents = true) (hpoint : n.conn.timerCoro = .delay)
      (honce : connectsAtOnce ais = true)
      (h : Identified true lines
        (Net.connected ⟨{ n.conn with timer, timerCoro := .watch }, n.trace⟩ ai fd) n') :
      ConnTrans lines n (.resumeTimer ais) n'
  /-- The producer takes a line, and pushes its message. -/
  | produce {len : ℕ} {msg : ConnMsg} {again : Bool} (hstorage : n.conn.storage = none)
      (hline : n.conn.inb.findLine = some len)
      (hmsg : msg = if 0 < len ∧ len < messageLen then (ircConnMsgParse n.conn.inb.contents len).2
        else n.conn.msg) :
      ConnTrans lines n .resumeProducer
        ⟨{ n.conn with
          msg
          storage := some msg
          again
          inb := n.conn.inb.shift (len + 2) },
          n.trace ++ [.next (n.conn.inb.contents.take (len + 2))]⟩

namespace ConnTrans

variable {lines : List CStr} {n n' : Net}

/-- A connection that is established, as far as the program can tell, is followed by
`conn_ident`. -/
theorem identified_of_dial {r : RecvResult} {rs : List SendResult} {a : AddrInfo}
    {rest : List AddrInfo} {soError : ℤ} (h : ConnTrans lines n (.resumeIo r rs) n')
    (hpoint : n.conn.ioCoro = some (.dial 0)) (hrevents : n.conn.io.revents ≠ .none)
    (hai : n.conn.ai = a :: rest) (ha : a.connect = .inProgress soError) (hso : 0 ≤ soError) :
    Identified true lines (n.dialed soError) n' := by
  cases h with
  | quiet hquiet => simp [Quiet, hpoint, hrevents] at hquiet
  | redial hpoint' _ hfail =>
    rw [hpoint, Option.some.injEq, IoPoint.dial.injEq] at hpoint'
    exact absurd (hfail hpoint'.symm a rest soError hai ha) (by omega)
  | identify _ _ hai' ha' _ h =>
    obtain ⟨rfl, rfl⟩ := List.cons.inj (hai.symm.trans hai')
    obtain rfl := ConnectResult.inProgress.inj (ha.symm.trans ha')
    exact h
  | waitIdent hpoint' => simp [hpoint] at hpoint'
  | waitReady hpoint' => simp [hpoint] at hpoint'
  | lostIdent hpoint' => simp [hpoint] at hpoint'
  | lostReady hpoint' => simp [hpoint] at hpoint'

/-- The watchdog leaves `state` as it is. -/
theorem destroyed_of_watch {ais : Option (List AddrInfo)}
    (h : ConnTrans lines n (.resumeTimer ais) n') (hrevents : n.conn.timer.revents = true)
    (hpoint : n.conn.timerCoro = .watch) :
    n'.conn.ioCoro = none ∧ n'.conn.state = n.conn.state := by
  cases h with
  | quiet hquiet => simp [Quiet, hrevents] at hquiet
  | teardown => exact ⟨rfl, rfl⟩
  | respawn _ hdelay => simp [hpoint] at hdelay
  | respawnIdent _ hdelay => simp [hpoint] at hdelay

/-- After the delay a connection that answers at once is followed by `conn_ident`. -/
theorem identified_of_delay {ais : Option (List AddrInfo)}
    (h : ConnTrans lines n (.resumeTimer ais) n') (hrevents : n.conn.timer.revents = true)
    (hpoint : n.conn.timerCoro = .delay) (honce : connectsAtOnce ais = true) :
    ∃ timer ai fd, Identified true lines
      (Net.connected ⟨{ n.conn with timer, timerCoro := .watch }, n.trace⟩ ai fd) n' := by
  cases h with
  | quiet hquiet => simp [Quiet, hrevents] at hquiet
  | teardown _ hwatch => simp [hpoint] at hwatch
  | respawn _ _ honce' => simp [honce] at honce'
  | respawnIdent _ _ _ h => exact ⟨_, _, _, h⟩

end ConnTrans

theorem connIoResume_cases {lines : List CStr} {n n' : Net} {r : RecvResult}
    {rs : List SendResult} (hn : Coherent n) (h : connIoResume lines r rs n = some n') :
    ConnTrans lines n (.resumeIo r rs) n' := by
  have hquiet : n.conn.ioCoro = some .idle ∨ n.conn.io.revents = .none →
    ConnTrans lines n (.resumeIo r rs) n := fun h => .quiet h
  unfold connIoResume at h
  cases hpoint : n.conn.ioCoro with
  | none => simp [hpoint] at h
  | some point =>
    by_cases hidle : point = .idle
    · simp only [hpoint, hidle, Option.some.injEq] at h
      exact h ▸ hquiet (.inl (hidle ▸ hpoint))
    by_cases hrevents : n.conn.io.revents = .none
    · have hn' : n = n' := by cases point <;> simp_all
      exact hn' ▸ hquiet (.inr hrevents)
    cases point with
    | idle => exact absurd rfl hidle
    | dial rc =>
      -- `Coherent` gives the endpoint that `conn_dial` waits for
      simp only [hpoint, if_neg hrevents, Option.some.injEq] at h
      obtain ⟨-, -, a, rest, soError, hai, ha⟩ := hn.dial rc hpoint
      rcases connDialResume_cases rc hai ha with ⟨hfail, m, hres, hsus⟩ | ⟨rfl, hso, hres⟩
      · rw [hres] at h
        refine h ▸ .redial hpoint hrevents (fun hrc a' rest' e hai' ha' => ?_) hsus
        obtain ⟨rfl, rfl⟩ := List.cons.inj (hai.symm.trans hai')
        obtain rfl : soError = e := ConnectResult.inProgress.inj (ha.symm.trans ha')
        exact hfail hrc
      · rw [hres] at h
        exact h ▸ .identify hpoint hrevents hai ha hso (connIdent_identified true lines rfl)
    | ident =>
      simp only [hpoint, if_neg hrevents, Option.map_eq_some_iff] at h
      obtain ⟨⟨rc, m⟩, hwait, h⟩ := h
      have hwaited := connWait_cases hwait
      by_cases hneg : rc < 0
      · simp only [if_pos hneg] at h
        exact h ▸ .lostIdent hpoint hrevents hneg hwaited hwait
      · simp only [if_neg hneg] at h
        obtain rfl : rc = 0 := by
          have := hwaited.nonpos
          omega
        exact h ▸ .waitIdent hpoint hrevents hwaited
    | ready =>
      simp only [hpoint, if_neg hrevents, Option.map_eq_some_iff] at h
      obtain ⟨⟨rc, m⟩, hwait, h⟩ := h
      have hwaited := connWait_cases hwait
      by_cases hneg : rc < 0
      · simp only [if_pos hneg] at h
        exact h ▸ .lostReady hpoint hrevents hneg hwaited hwait
      · simp only [if_neg hneg] at h
        obtain rfl : rc = 0 := by
          have := hwaited.nonpos
          omega
        exact h ▸ .waitReady hpoint hrevents hwaited

theorem connTimerResume_cases (lines : List CStr) (ais : Option (List AddrInfo)) {n : Net}
    (hn : Coherent n) : ConnTrans lines n (.resumeTimer ais) (connTimerResume lines ais n) := by
  unfold connTimerResume
  by_cases hrevents : n.conn.timer.revents = true
  · rw [if_pos hrevents]
    cases hpoint : n.conn.timerCoro with
    | watch =>
      -- outside the delay there is a coroutine to destroy
      have hcoro : n.conn.ioCoro ≠ none := by
        intro h
        rw [hn.delay.2 h] at hpoint
        cases hpoint
      have hdestroy := connIoDestroy_eq
        (n := ⟨{ n.conn with timer := nceTimerTake n.conn.timer }, n.trace⟩) hcoro
      simp only [hpoint] at hdestroy ⊢
      rw [hdestroy]
      exact .teardown hrevents hpoint
    | delay =>
      simp only [hpoint]
      rcases connIoSpawn_cases true lines ais ⟨{ n.conn with
          timer := nceTimerStop (nceTimerTake n.conn.timer)
          timerCoro := .watch }, n.trace⟩ with
        ⟨honce, state, timer, hstate, hsus⟩ | ⟨honce, ai, fd, timer, hident⟩
      · exact .respawn hrevents hpoint honce hstate hsus
      · exact .respawnIdent hrevents hpoint honce hident
  · rw [if_neg hrevents]
    exact .quiet (by simpa [Quiet] using hrevents)

theorem connTimerResume_of_delay {lines : List CStr} {ais : Option (List AddrInfo)} {n : Net}
    (hrevents : n.conn.timer.revents = true) (hpoint : n.conn.timerCoro = .delay) :
    connTimerResume lines ais n = connIoSpawn true lines ais ⟨{ n.conn with
      timer := nceTimerStop (nceTimerTake n.conn.timer)
      timerCoro := .watch }, n.trace⟩ := by
  simp only [connTimerResume, if_pos hrevents, hpoint]

theorem connProducerResume_cases (lines : List CStr) (n : Net) :
    ConnTrans lines n .resumeProducer (connProducerResume n) := by
  unfold connProducerResume connNext
  cases hstorage : n.conn.storage with
  | some msg => exact .quiet (Or.inl (by rw [hstorage]; rfl))
  | none =>
    cases hline : n.conn.inb.findLine with
    | none => exact .quiet (Or.inr hline)
    | some len => exact .produce hstorage hline rfl

/-- All that a step of a coherent connection can do. -/
theorem connStep_cases {lines : List CStr} {n n' : Net} {a : ConnAct} (hn : Coherent n)
    (h : connStep lines n a = some n') : ConnTrans lines n a n' := by
  cases a with
  -- what the event loop does only reaches the watchers
  | ioEvent revents =>
    rw [connStep, Option.ite_none_right_eq_some] at h
    obtain ⟨-, ⟨⟩⟩ := h
    exact .quiet trivial
  | timerExpire =>
    rw [connStep, Option.ite_none_right_eq_some] at h
    obtain ⟨-, ⟨⟩⟩ := h
    exact .quiet trivial
  | timerCallback =>
    rw [connStep, Option.ite_none_right_eq_some] at h
    obtain ⟨-, ⟨⟩⟩ := h
    exact .quiet trivial
  | resumeIo r rs => exact connIoResume_cases hn h
  | resumeTimer ais =>
    obtain rfl : connTimerResume lines ais n = n' := Option.some.inj h
    exact connTimerResume_cases lines ais hn
  | resumeProducer =>
    obtain rfl : connProducerResume n = n' := Option.some.inj h
    exact connProducerResume_cases lines n

end Irccd
