import Irccd.System.Basic

/-!
# Coherent runs

In every run the places where the coroutines are suspended agree with `state`.

* `coherent_kept`: `Coherent` is kept by every step;
* `Kept.of_trans`: other properties may be proved on the list `ConnTrans`.
-/

namespace Irccd

namespace Coherent

variable {lines : List CStr} {n n' : Net} {a : ConnAct}

theorem watch (hn : Coherent n) (h : n.conn.ioCoro ≠ none) : n.conn.timerCoro = .watch := by
  cases hpoint : n.conn.timerCoro with
  | watch => rfl
  | delay => exact absurd (hn.delay.1 hpoint) h

/-- A coroutine that is suspended for ever requires nothing. -/
theorem of_idle (hcoro : n.conn.ioCoro = some .idle) (hwatch : n.conn.timerCoro = .watch) :
    Coherent n := by
  constructor <;> simp [hcoro, hwatch]

/-- A coroutine that waits in `conn_ident` or in `conn_ready`. -/
theorem of_waiting {state : ConnState} {point : IoPoint} (hstate : n.conn.state = state)
    (hcoro : n.conn.ioCoro = some point)
    (hpoint : state = .ready ∧ point = .ready ∨ state = .ident ∧ point = .ident)
    (hactive : n.conn.io.active = true) (hopen : sockState n.conn.fd n.trace ≠ .closed)
    (hwatch : n.conn.timerCoro = .watch) : Coherent n := by
  rcases hpoint with ⟨rfl, rfl⟩ | ⟨rfl, rfl⟩ <;>
    constructor <;> simp [hstate, hcoro, hactive, hopen, hwatch]

theorem of_suspended (h : Suspended n n')
    (hstate : n.conn.state = .connect ∨ n'.conn.ioCoro = some .idle)
    (hwatch : n.conn.timerCoro = .watch) : Coherent n' := by
  cases h with
  | idle h => exact of_idle rfl hwatch
  | dial h he =>
    have hconnect := hstate.resolve_right (by simp)
    constructor <;> simp [hconnect, sockStep, he, hwatch]

theorem of_identified {linked : Bool} (h : Identified linked lines n n')
    (hactive : n.conn.io.active = true) (hopen : sockState n.conn.fd n.trace ≠ .closed)
    (hwatch : n.conn.timerCoro = .watch) : Coherent n' := by
  cases h with
  | @mk sent outb timer state point hout hpoint =>
    refine of_waiting rfl rfl (hpoint.imp (fun h => ⟨h.1, h.2.1⟩) fun h => ⟨h.1, h.2.1⟩) ?_ ?_
      hwatch
    · simp only
      split
      · exact hactive
      · rfl
    · rwa [sockState_append_of_not_dial not_isDial_push]

/-- Every step of a coherent connection leaves it coherent. -/
theorem trans (hn : Coherent n) (h : ConnTrans lines n a n') : Coherent n' := by
  cases h with
  -- the watchers' events are no part of `Coherent`
  | quiet => exact ⟨hn.dial, hn.ident, hn.ready, hn.waiting, hn.delay⟩
  | redial hpoint _ _ h =>
    exact of_suspended h (.inl (hn.dial _ hpoint).1) (hn.watch (by simp [hpoint]))
  | @identify _ _ _ _ soError _ hpoint _ _ _ _ h =>
    refine of_identified h rfl ?_ (hn.watch (by simp [hpoint]))
    -- with a positive `SO_ERROR` the socket is open and not connected
    show sockState n.conn.fd (n.dialed soError).trace ≠ .closed
    rw [n.sockState_dialed, (hn.dial 0 hpoint).2.1]
    split <;> simp
  | waitIdent hpoint _ h =>
    have hwatch := hn.watch (by simp [hpoint])
    have hopen := h.sockState_eq n.conn.fd
    have hwaiting := hn.waiting (.inl hpoint)
    cases h with
    | mk _ _ _ hactive =>
      rcases connIdentLoop_cases _ with ⟨-, timer, heq⟩ | ⟨-, heq⟩
      · rw [heq]
        exact of_waiting rfl rfl (.inl ⟨rfl, rfl⟩) (hactive hwaiting.1) (hopen ▸ hwaiting.2) hwatch
      · rw [heq]
        exact of_waiting (hn.ident hpoint) rfl (.inr ⟨rfl, rfl⟩) (hactive hwaiting.1)
          (hopen ▸ hwaiting.2) hwatch
  | waitReady hpoint _ h =>
    have hwatch := hn.watch (by simp [hpoint])
    have hopen := h.sockState_eq n.conn.fd
    have hwaiting := hn.waiting (.inr hpoint)
    cases h with
    | mk _ _ _ hactive =>
      exact of_waiting (hn.ready hpoint) hpoint (.inl ⟨rfl, rfl⟩) (hactive hwaiting.1)
        (hopen ▸ hwaiting.2) hwatch
  | lostIdent hpoint _ _ h =>
    have hwatch := hn.watch (by simp [hpoint])
    cases h with
    | mk => exact of_idle rfl hwatch
  | lostReady hpoint _ _ h =>
    have hwatch := hn.watch (by simp [hpoint])
    cases h with
    | mk => exact of_idle rfl hwatch
  -- `state` may be anything here: only the places say that the coroutine is gone
  | teardown => constructor <;> simp
  | respawn _ _ _ hstate h => exact of_suspended h (hstate.imp id And.right) rfl
  | respawnIdent _ _ _ h => exact of_identified h rfl (by simp [Net.sockState_connected]) rfl
  | produce =>
    have hsock : ∀ {fd : ℤ} {bytes : List UInt8},
        sockState fd (n.trace ++ [.next bytes]) = sockState fd n.trace := by
      simp [sockStep]
    exact ⟨fun rc hrc => hsock.symm ▸ hn.dial rc hrc, hn.ident, hn.ready,
      fun hpoint => hsock.symm ▸ hn.waiting hpoint, hn.delay⟩

/-- A push or a dispatched event does not disturb the coroutines. -/
theorem append (hn : Coherent n) {c : Conn} {call : Call} (hcall : ¬ call.IsDial)
    (hframe : c = { n.conn with outb := c.outb, io := c.io })
    (hactive : c.io.active = true ∨ c.io = n.conn.io) : Coherent ⟨c, n.trace ++ [call]⟩ := by
  have hsock : ∀ {fd : ℤ}, sockState fd (n.trace ++ [call]) = sockState fd n.trace :=
    sockState_append_of_not_dial (by simpa using hcall)
  rw [hframe]
  refine ⟨fun rc hpoint => ?_, hn.ident, hn.ready, fun hpoint => ?_, hn.delay⟩
  · exact hsock.symm ▸ hn.dial rc hpoint
  · obtain ⟨hio, hopen⟩ := hn.waiting hpoint
    exact ⟨hactive.elim id fun h => h ▸ hio, hsock.symm ▸ hopen⟩

theorem pull (hn : Coherent n) (msg : ConnMsg) :
    Coherent ⟨{ n.conn with storage := none, msg }, n.trace⟩ :=
  ⟨hn.dial, hn.ident, hn.ready, hn.waiting, hn.delay⟩

theorem spawn (lines : List CStr) (ais : Option (List AddrInfo)) (uninit : ConnMsg)
    (stale : List ℤ) (trace : List Call) :
    Coherent (ircConnSpawn lines ais uninit stale trace) := by
  rcases connIoSpawn_cases false lines ais ⟨connAlloc uninit stale, trace ++ [.spawn]⟩ with
    ⟨-, state, timer, hstate, hsus⟩ | ⟨-, ai, fd, timer, hident⟩
  · exact .of_suspended hsus (hstate.imp id And.right) rfl
  · exact .of_identified hident rfl (by simp [Net.sockState_connected]) rfl

end Coherent

/-- In order to keep a property in every run, it is enough to keep it in the transitions of
`ConnTrans` from coherent connections. -/
theorem Kept.of_trans {P : Net → Prop} {Q : List Call → Prop}
    {C : List CStr → Net → ConnAct → Prop} {B : Option (List AddrInfo) → Prop}
    (conn : ∀ lines n a n', Coherent n → P n → ConnTrans lines n a n' → C lines n a → P n')
    (push : ∀ (n : Net) (line : CStr) (hfits : n.conn.outb.Fits line),
      ircConnReady n.conn = true → line.length < messageLen → Coherent n → P n →
      P ⟨{ n.conn with
        outb := n.conn.outb.append line hfits
        io := nceIoReset n.conn.io n.conn.fd .evReadWrite }, n.trace ++ [.push line]⟩)
    (dispatch : ∀ (n : Net) (ev : IrcEvent), P n → P (n.emit (.dispatch ev)))
    (pull : ∀ (n : Net) (msg : ConnMsg), P n → P ⟨{ n.conn with storage := none, msg }, n.trace⟩)
    (spawn : ∀ lines ais uninit stale trace, Q trace → B ais →
      P (ircConnSpawn lines ais uninit stale trace))
    (destroy : ∀ n, Coherent n → P n → Q (ircConnDestroy n))
    (idle : ∀ (trace : List Call) (ev : IrcEvent), Q trace → Q (trace ++ [.dispatch ev])) :
    Kept (fun n => Coherent n ∧ P n) Q C B where
  conn lines n a n' hn h hC := by
    have htrans := connStep_cases hn.1 h
    exact ⟨hn.1.trans htrans, conn lines n a n' hn.1 hn.2 htrans hC⟩
  push n line hfits hready hlen hn :=
    ⟨hn.1.append id rfl (.inl rfl), push n line hfits hready hlen hn.1 hn.2⟩
  dispatch n ev hn := ⟨hn.1.append id rfl (.inr rfl), dispatch n ev hn.2⟩
  pull n msg hn := ⟨hn.1.pull msg, pull n msg hn.2⟩
  spawn lines ais uninit stale trace hQ hB :=
    ⟨.spawn lines ais uninit stale trace, spawn lines ais uninit stale trace hQ hB⟩
  destroy n hn := destroy n hn.1 hn.2
  idle := idle

/-- A step that does not satisfy the condition on the steps of the connection is one of them. -/
theorem exists_trans_of_not_stepCond {P : Net → Prop} {Q : List Call → Prop}
    {C : List CStr → Net → ConnAct → Prop} {s s' : Sys} {a : Act}
    (hs : s.Holds (fun n => Coherent n ∧ P n) Q) (h : step s a = some s')
    (hcond : ¬ StepCond C (fun _ => True) s a s') :
    ∃ co n c, Coherent ⟨co.conn, s.trace⟩ ∧
      ConnTrans (identLines s.server) ⟨co.conn, s.trace⟩ c n ∧
      ¬ C (identLines s.server) ⟨co.conn, s.trace⟩ c ∧ s' = s.setNet co n := by
  -- only a step of the connection is asked for anything
  simp only [StepCond, implies_true, and_true, not_forall] at hcond
  obtain ⟨co, c, hco, rfl, hcond⟩ := hcond
  obtain ⟨co', n, hco', hn, rfl⟩ := exists_of_step_conn h
  obtain rfl : co = co' := Option.some.inj (hco.symm.trans hco')
  have hcoh := ((Sys.holds_iff_of_some hco).1 hs).1
  exact ⟨co, n, c, hcoh, connStep_cases hcoh hn, hcond, rfl⟩

end Irccd
