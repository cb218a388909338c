import Irccd.System.Coherent

/-!
# Waking up for output

When there is something to send on an open socket and the `io_fd` coroutine waits, does it wait for
the socket to be writable?

* `Wakeful`: it does;
* `WakeCond`: a coroutine that is resumed for reading only has nothing to send, and a connection
  that is established with something to send gets one more line in its buffer;
* `wakeful_iff`: a run stays in `Wakeful` exactly when its steps satisfy `WakeCond`.
-/

namespace Irccd

/-- If there is something to send on an open socket and the `io_fd` coroutine waits, then it waits
for `EV_WRITE`. -/
def Wakeful (n : Net) : Prop :=
  n.conn.state = .ident ∨ n.conn.state = .ready → sockState n.conn.fd n.trace ≠ .closed →
    0 < n.conn.outb.outsz → (∃ point, n.conn.ioCoro = some point ∧ point ≠ .idle) →
      n.conn.io.active = true ∧ n.conn.io.events.write = true

/-- There is nothing to send, or room for one of the lines. -/
def Room (lines : List CStr) (n : Net) : Prop :=
  n.conn.outb.outsz = 0 ∨ ∃ line ∈ lines, n.conn.outb.Fits (line.take (messageLen - 1))

/-- Nothing is left to send when the coroutine is resumed for reading only and `recv (2)` does not
fail, and there is `Room` for the lines of `conn_ident` when `conn_connect` succeeds. -/
def WakeCond (lines : List CStr) (n : Net) : ConnAct → Prop
  | .resumeIo r _ =>
    n.conn.io.revents ≠ .none →
      (n.conn.ioCoro = some (.dial 0) → ∀ a rest soError, n.conn.ai = a :: rest →
        a.connect = .inProgress soError → 0 ≤ soError → Room lines n) ∧
      (n.conn.ioCoro = some .ident ∨ n.conn.ioCoro = some .ready →
        n.conn.io.revents.write = false → ¬ RecvFails n r → n.conn.outb.outsz = 0)
  | .resumeTimer ais =>
    n.conn.timer.revents = true → n.conn.timerCoro = .delay → connectsAtOnce ais = true →
      Room lines n
  | _ => True

/-- A coroutine that does not wait requires nothing. -/
theorem Wakeful.of_not_waiting {n : Net}
    (h : n.conn.ioCoro = none ∨ n.conn.ioCoro = some .idle) : Wakeful n := by
  rintro - - - ⟨point, hpoint, hne⟩
  rcases h with h | h
  · simp [h] at hpoint
  · exact absurd (Option.some.inj (hpoint.symm.trans h)) hne

theorem Wakeful.of_state {n : Net} (h : n.conn.state = .connect ∨ n.conn.state = .resolve) :
    Wakeful n := by
  intro hstate
  rcases h with h | h <;> simp [h] at hstate

theorem Wakeful.of_suspended {n n' : Net} (h : Suspended n n')
    (hstate : n.conn.state = .connect ∨ n.conn.state = .resolve ∧ n'.conn.ioCoro = some .idle) :
    Wakeful n' :=
  of_state (hstate.imp h.state_eq.trans fun hs => h.state_eq.trans hs.1)

/-- `conn_ident` waits for writing as soon as it pushes a line. -/
theorem Wakeful.of_identified {lines : List CStr} {n n' : Net}
    (h : Identified true lines n n') (hroom : Room lines n) : Wakeful n' := by
  cases h with
  | @mk sent outb timer state point hout hpoint _ hnil =>
    rintro - - hleft -
    have hleft' : 0 < outb.outsz := hleft
    -- with no line pushed, what is left was there before, and no line fits
    have hsent : sent ≠ [] := by
      intro hsent
      rcases hroom with hempty | ⟨line, hline, hfits⟩
      · have hcontents : outb.contents = [] := by
          rw [hout, hsent, OutBuf.contents_eq_nil_iff.2 hempty]
          rfl
        have := OutBuf.contents_eq_nil_iff.1 hcontents
        omega
      · exact (hnil rfl).1 hsent line hline hfits
    simp [hsent, nceIoReset, Events.evReadWrite]

/-- Before `server->coroutine` is set, nothing is pushed. -/
theorem Wakeful.of_unlinked {lines : List CStr} {n n' : Net} (h : Identified false lines n n')
    (hempty : n.conn.outb.contents = []) : Wakeful n' := by
  cases h with
  | @mk sent outb timer state point hout hpoint hunlinked =>
    have hcontents : outb.contents = [] := by
      rw [hout, hunlinked rfl, hempty]
      rfl
    intro _ _ hleft
    rw [OutBuf.contents_eq_nil_iff.1 hcontents] at hleft
    exact absurd hleft (by decide)

/-- Without room, `conn_ident` does not wait for writing. -/
theorem not_wakeful_of_identified {lines : List CStr} {n n' : Net}
    (h : Identified true lines n n') (hio : n.conn.io.events.write = false)
    (hopen : sockState n.conn.fd n.trace ≠ .closed) (hroom : ¬ Room lines n) : ¬ Wakeful n' := by
  cases h with
  | @mk sent outb timer state point hout hpoint _ hnil =>
    rw [Room, not_or] at hroom
    have hsent : sent = [] := (hnil rfl).2 fun line hline hfits => hroom.2 ⟨line, hline, hfits⟩
    have hsize : outb.outsz = n.conn.outb.outsz := by
      rw [← OutBuf.length_contents, hout, hsent, ← OutBuf.length_contents]
      simp [wire]
    intro hwake
    have hwrite := hwake (hpoint.symm.imp And.left And.left)
      (by rwa [sockState_append_of_not_dial not_isDial_push]) (by simp only [hsize]; omega)
      ⟨point, rfl, by rcases hpoint with ⟨-, rfl, -⟩ | ⟨-, rfl, -⟩ <;> simp⟩
    simp [hsent, hio] at hwrite

/-- After `conn_wait` the coroutine waits for writing, unless nothing is left to send. -/
theorem Waited.wakeful_io {n n' : Net} {r : RecvResult} (h : Waited n r 0 n')
    (hrevents : n.conn.io.revents ≠ .none) (hactive : n.conn.io.active = true)
    (hcond : n.conn.io.revents.write = false → ¬ RecvFails n r → n.conn.outb.outsz = 0)
    (hleft : 0 < n'.conn.outb.outsz) :
    n'.conn.io.active = true ∧ n'.conn.io.events.write = true := by
  cases h with
  | @mk inb outb io data sent _ hout _ hactive' hread hwrite hmask =>
    refine ⟨hactive' hactive, ?_⟩
    cases hw : n.conn.io.revents.write with
    | true => exact hwrite rfl hw hleft
    | false =>
      -- a wake-up for reading only that did not fail: nothing was left, and nothing is sent
      have hr := Events.read_of_ne_none hrevents hw
      have hok : ¬ RecvFails n r := fun hfails => absurd ((hread hw hr).2 hfails) (by omega)
      have hempty := hcond hw hok
      rw [(hmask rfl hw).1, List.nil_append] at hout
      have hsize : outb.outsz = n.conn.outb.outsz := by
        rw [← OutBuf.length_contents, hout, OutBuf.length_contents]
      have hleft' : 0 < outb.outsz := hleft
      omega

/-- After a `conn_wait` for reading only, the coroutine waits for reading only. -/
theorem Waited.read_only {n n' : Net} {r : RecvResult} (h : Waited n r 0 n')
    (hwrite : n.conn.io.revents.write = false) :
    n'.conn.outb.outsz = n.conn.outb.outsz ∧ n'.conn.io.events.write = false := by
  cases h with
  | @mk inb outb io data sent _ hout _ _ _ _ hmask =>
    obtain ⟨hsent, hio⟩ := hmask rfl hwrite
    rw [hsent, List.nil_append] at hout
    exact ⟨by rw [← OutBuf.length_contents, hout, OutBuf.length_contents], hio⟩

/-- A step that satisfies `WakeCond` keeps `Wakeful`. -/
theorem wakeful_trans {lines : List CStr} {n n' : Net} {a : ConnAct} (hn : Coherent n)
    (hwake : Wakeful n) (h : ConnTrans lines n a n') (hcond : WakeCond lines n a) :
    Wakeful n' := by
  cases h with
  | quiet => exact hwake
  | redial hpoint _ _ h => exact .of_suspended h (.inl (hn.dial _ hpoint).1)
  | identify hpoint hrevents hai ha hso h =>
    exact .of_identified h ((hcond hrevents).1 hpoint _ _ _ hai ha hso)
  | waitIdent hpoint hrevents h =>
    have hio := h.wakeful_io hrevents (hn.waiting (.inl hpoint)).1
      ((hcond hrevents).2 (.inl hpoint))
    rcases connIdentLoop_cases _ with ⟨hempty, timer, heq⟩ | ⟨-, heq⟩
    · -- `conn_ready` starts to wait with an empty buffer
      rw [heq]
      intro _ _ hleft
      exact absurd hempty (by simp only at hleft; omega)
    · rw [heq]
      exact fun _ _ hleft _ => hio hleft
  | waitReady hpoint hrevents h =>
    have hio := h.wakeful_io hrevents (hn.waiting (.inr hpoint)).1
      ((hcond hrevents).2 (.inr hpoint))
    exact fun _ _ hleft _ => hio hleft
  | lostIdent => exact .of_not_waiting (.inr rfl)
  | lostReady => exact .of_not_waiting (.inr rfl)
  | teardown => exact .of_not_waiting (.inl rfl)
  | respawn _ _ _ hstate h => exact .of_suspended h hstate
  | respawnIdent hrevents hpoint honce h => exact .of_identified h (hcond hrevents hpoint honce)
  | produce =>
    intro hstate hopen
    exact hwake hstate (by simpa [sockStep] using hopen)

theorem wakeful_kept : Kept (fun n => Coherent n ∧ Wakeful n) (fun _ => True) WakeCond
    (fun _ => True) := by
  refine Kept.of_trans (fun lines n a n' hn hwake h hcond => wakeful_trans hn hwake h hcond)
    (fun n line hfits _ _ _ _ => ?_) (fun n ev hwake => ?_) (fun n _ hwake => hwake)
    (fun lines ais uninit stale trace _ _ => ?_) (fun _ _ _ => trivial) (fun _ _ _ => trivial)
  · -- `irc__conn_push` sets the watcher
    exact fun _ _ _ _ => ⟨rfl, rfl⟩
  · intro hstate hopen
    exact hwake hstate (by simpa [sockStep] using hopen)
  · rcases connIoSpawn_cases false lines ais ⟨connAlloc uninit stale, trace ++ [.spawn]⟩ with
      ⟨-, state, timer, hstate, hsus⟩ | ⟨-, ai, fd, timer, hident⟩
    · exact .of_suspended hsus hstate
    · exact .of_unlinked hident rfl

/-- A wake-up for reading only that does not fail makes the coroutine wait for reading only,
although something is left to send. -/
theorem not_wakeful_of_read {lines : List CStr} {n n' : Net} {r : RecvResult} {rs : List SendResult}
    (hn : Coherent n) (h : ConnTrans lines n (.resumeIo r rs) n')
    (hrevents : n.conn.io.revents ≠ .none) (hpoint : Waits n)
    (hwrite : n.conn.io.revents.write = false) (hok : ¬ RecvFails n r)
    (hleft : n.conn.outb.outsz ≠ 0) : ¬ Wakeful n' := by
  -- the two ways to be lost are excluded by `hok`
  have hread := Events.read_of_ne_none hrevents hwrite
  have hkept : ∀ {rc : ℤ} {m : Net}, Waited n r rc m → ¬ rc < 0 := by
    rintro rc m ⟨-, -, -, -, hfails, -, -⟩ hneg
    exact hok ((hfails hwrite hread).1 hneg)
  have hopen := (hn.waiting hpoint).2
  cases h with
  | quiet hquiet => rcases hpoint with hpoint | hpoint <;> simp [Quiet, hpoint, hrevents] at hquiet
  | redial hpoint' => simp [Waits, hpoint'] at hpoint
  | identify hpoint' => simp [Waits, hpoint'] at hpoint
  | @waitIdent _ _ m hpoint' _ h =>
    obtain ⟨hsize, hio⟩ := h.read_only hwrite
    have hsock := h.sockState_eq n.conn.fd
    have hm : m.conn.state = .ident ∧ m.conn.fd = n.conn.fd := by
      rw [h.frame]
      exact ⟨hn.ident hpoint', rfl⟩
    rcases connIdentLoop_cases m with ⟨hempty, -⟩ | ⟨hpos, heq⟩
    · -- something is left, so the loop does not end
      omega
    · rw [heq]
      intro hwake
      have hwrite' := hwake (.inl hm.1) (by rw [hm.2, hsock]; exact hopen) hpos
        ⟨.ident, rfl, by simp⟩
      simp [hio] at hwrite'
  | @waitReady _ _ m hpoint' _ h =>
    obtain ⟨hsize, hio⟩ := h.read_only hwrite
    have hsock := h.sockState_eq n.conn.fd
    have hm : m.conn.state = .ready ∧ m.conn.fd = n.conn.fd ∧ m.conn.ioCoro = some .ready := by
      rw [h.frame]
      exact ⟨hn.ready hpoint', rfl, hpoint'⟩
    intro hwake
    have hwrite' := hwake (.inr hm.1) (by rw [← hsock, ← hm.2.1] at hopen; exact hopen)
      (by simp only [connTimerAgain]; omega) ⟨.ready, hm.2.2, by simp⟩
    simp [connTimerAgain, hio] at hwrite'
  | lostIdent _ _ hneg h => exact absurd hneg (hkept h)
  | lostReady _ _ hneg h => exact absurd hneg (hkept h)

/-- A step that does not satisfy `WakeCond` leaves `Wakeful`. -/
theorem not_wakeful_trans {lines : List CStr} {n n' : Net} {a : ConnAct} (hn : Coherent n)
    (h : ConnTrans lines n a n') (hcond : ¬ WakeCond lines n a) : ¬ Wakeful n' := by
  cases a with
  | resumeTimer ais =>
    simp only [WakeCond, Classical.not_imp] at hcond
    obtain ⟨hrevents, hpoint, honce, hroom⟩ := hcond
    -- `conn_connect` ends by watching `EV_READ` only, and no push changes that
    obtain ⟨timer, ai, fd, hident⟩ := h.identified_of_delay hrevents hpoint honce
    exact not_wakeful_of_identified hident rfl (by simp [Net.sockState_connected]) hroom
  | resumeIo r rs =>
    simp only [WakeCond, Classical.not_imp] at hcond
    obtain ⟨hrevents, hcond⟩ := hcond
    rw [not_and_or] at hcond
    rcases hcond with hcond | hcond
    · -- `conn_dial` succeeds, and no line of `conn_ident` fits in what is left of the buffer
      simp only [Classical.not_imp, not_forall] at hcond
      obtain ⟨hpoint, a, rest, e, hai, ha, hso, hroom⟩ := hcond
      have hident := h.identified_of_dial hpoint hrevents hai ha hso
      refine not_wakeful_of_identified hident rfl ?_ hroom
      show sockState n.conn.fd (n.dialed e).trace ≠ .closed
      rw [n.sockState_dialed, (hn.dial 0 hpoint).2.1]
      split <;> simp
    · simp only [Classical.not_imp] at hcond
      obtain ⟨hpoint, hwrite, hok, hleft⟩ := hcond
      exact not_wakeful_of_read hn h hrevents hpoint hwrite hok hleft
  | _ => exact absurd trivial hcond

/-- In a run the coroutine waits for writing whenever there is something to send on an open socket,
exactly when the steps of the run satisfy `WakeCond`. -/
theorem wakeful_iff (name nickname username realname : CStr) (as : List Act) :
    Runs.AllStates step (Sys.Holds Wakeful fun _ => True)
        (Sys.start (ircServerNew name nickname username realname)) as ↔
      Runs.AllSteps step (StepCond WakeCond fun _ => True)
        (Sys.start (ircServerNew name nickname username realname)) as := by
  refine Runs.allStates_iff_allSteps
    (I := Sys.Holds (fun n => Coherent n ∧ Wakeful n) fun _ => True)
    (fun _ _ _ => wakeful_kept.step) (fun s hs => ?_) (fun s a s' hs h hcond => ?_) trivial
  · exact hs.mono (fun _ hn => hn.2) fun _ _ => trivial
  · obtain ⟨co, n, c, hcoh, htrans, hnot, rfl⟩ := exists_trans_of_not_stepCond hs h hcond
    rw [Sys.holds_setNet]
    exact not_wakeful_trans hcoh htrans hnot

/-- A read event during the identification, before anything is sent: the rest of the lines waits
for an event that is not watched. -/
theorem not_wakeful_readOnly :
    ¬ Runs.AllStates step (Sys.Holds Wakeful fun _ => True) (Sys.start localServer)
      [.serverConnect (some [⟨3, .done, .inProgress 0⟩]) ⟨none, [], []⟩,
        .conn (.ioEvent .evWrite), .conn (.resumeIo .again []),
        .conn (.ioEvent .evRead), .conn (.resumeIo .again [])] := by
  intro h
  have hrun : ((Runs.exec step (Sys.start localServer)
      [.serverConnect (some [⟨3, .done, .inProgress 0⟩]) ⟨none, [], []⟩,
        .conn (.ioEvent .evWrite), .conn (.resumeIo .again []),
        .conn (.ioEvent .evRead), .conn (.resumeIo .again [])]).bind Sys.net).map
      (fun n => (n.conn.state, sockState n.conn.fd n.trace, n.conn.outb.outsz, n.conn.ioCoro,
        n.conn.io.events)) =
      some (.ident, .connected, 65, some .ident, .evRead) := by decide +kernel
  obtain ⟨n, hn, heq⟩ := Option.map_eq_some_iff.1 hrun
  obtain ⟨t, ht, hnet⟩ := Option.bind_eq_some_iff.1 hn
  simp only [Prod.mk.injEq] at heq
  obtain ⟨hstate, hsock, hsize, hcoro, hevents⟩ := heq
  have hwake := (Sys.holds_iff_of_net hnet).1 (h.last ht)
  have hwrite := hwake (.inl hstate) (by simp [hsock]) (by omega) ⟨.ident, hcoro, by simp⟩
  simp [hevents, Events.evRead] at hwrite

end Irccd
