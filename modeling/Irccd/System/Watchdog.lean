import Irccd.System.Coherent

/-!
# The watchdog

Does the timer run while the `io_fd` coroutine waits on its socket?

* `Watched`: it does, or it has already brought its event;
* `Watched.resurrects`: then silence on the socket makes `conn_timer_resurrect` destroy the
  coroutine;
* `Attempts`: `conn_connect` finds an endpoint to wait for;
* `WatchCond`: after the delay before reconnecting, `conn_connect` finds none;
* `watched_iff`: a run stays in `Watched` exactly when its steps satisfy `WatchCond`.
-/

namespace Irccd

/-- The `io_fd` coroutine waits on its socket, in `conn_dial`, `conn_ident` or `conn_ready`. -/
def WaitsOnSocket (n : Net) : Prop := ∃ point, n.conn.ioCoro = some point ∧ point ≠ .idle

/-- The timer runs, or an event of it is still to come. -/
def NceTimer.Alive (t : NceTimer) : Prop := t.active ∨ t.pending ∨ t.revents

/-- While the `io_fd` coroutine waits on its socket, the timer is alive. -/
def Watched (n : Net) : Prop := WaitsOnSocket n → n.conn.timer.Alive

/-- The connection of the endpoint goes on in the background. -/
def AddrInfo.Awaited (a : AddrInfo) : Prop :=
  a.socket = .done ∧ ∃ soError, a.connect = .inProgress soError

/-- Some endpoint makes the coroutine wait: the first one, which answers at once, or any one whose
connection goes on in the background. -/
def Attempts (ais : Option (List AddrInfo)) : Prop :=
  connectsAtOnce ais = true ∨ ∃ a ∈ ais.getD [], a.Awaited

/-- When the delay before reconnecting is over, no endpoint makes `conn_connect` wait. -/
def WatchCond (_ : List CStr) (n : Net) : ConnAct → Prop
  | .resumeTimer ais => n.conn.timer.revents = true → n.conn.timerCoro = .delay → ¬ Attempts ais
  | _ => True

/-! ## What the watchdog is for -/

/-- The timer of a coroutine that is watched needs nothing but time to bring its event. -/
theorem NceTimer.Alive.fires {t : NceTimer} (h : t.Alive) (lines : List CStr) (c : Conn)
    (trace : List Call) :
    ∃ (as : List ConnAct) (t' : NceTimer), (∀ a ∈ as, a = .timerExpire ∨ a = .timerCallback) ∧
      t'.revents = true ∧
      Runs.exec (connStep lines) ⟨{ c with timer := t }, trace⟩ as =
        some ⟨{ c with timer := t' }, trace⟩ := by
  rcases h with h | h | h
  · exact ⟨[.timerExpire, .timerCallback], nceTimerCb (nceTimerExpire t), by simp, rfl,
      by simp [connStep, h, nceTimerExpire]⟩
  · exact ⟨[.timerCallback], nceTimerCb t, by simp, rfl, by simp [connStep, h]⟩
  · exact ⟨[], t, by simp, h, rfl⟩

/-- Silence on the socket leads to `conn_timer_resurrect`: when only the timer has events, the
coroutine that waits is destroyed. -/
theorem Watched.resurrects {n : Net} (hn : Coherent n) (hwatched : Watched n)
    (hwaits : WaitsOnSocket n) (lines : List CStr) :
    ∃ (as : List ConnAct) (n' : Net), (∀ a ∈ as, a = .timerExpire ∨ a = .timerCallback) ∧
      Runs.exec (connStep lines) n (as ++ [.resumeTimer none]) = some n' ∧
      n'.conn.ioCoro = none := by
  obtain ⟨as, t, has, ht, hexec⟩ := (hwatched hwaits).fires lines n.conn n.trace
  obtain ⟨point, hpoint, -⟩ := hwaits
  -- the events of the timer leave the coroutines where they are
  have hcoh : Coherent ⟨{ n.conn with timer := t }, n.trace⟩ :=
    ⟨hn.dial, hn.ident, hn.ready, hn.waiting, hn.delay⟩
  have hdestroyed := (connTimerResume_cases lines none hcoh).destroyed_of_watch ht
    (hn.watch (by simp [hpoint]))
  refine ⟨as, connTimerResume lines none ⟨{ n.conn with timer := t }, n.trace⟩, has, ?_,
    hdestroyed.1⟩
  rw [Runs.exec_append, hexec]
  rfl

/-! ## The timer in the functions of the coroutines -/

/-- The functions of the `io_fd` coroutine keep the repeat value of the timer, and keep it running
if it repeats. -/
def Rearmed (t t' : NceTimer) : Prop :=
  t'.again = t.again ∧ (t.again ≠ 0 → t.active = true → t'.active = true)

theorem Rearmed.refl (t : NceTimer) : Rearmed t t := ⟨rfl, fun _ => id⟩

theorem Rearmed.trans {t₁ t₂ t₃ : NceTimer} (h : Rearmed t₁ t₂) (h' : Rearmed t₂ t₃) :
    Rearmed t₁ t₃ :=
  ⟨h'.1.trans h.1, fun hagain hactive => h'.2 (by rwa [h.1]) (h.2 hagain hactive)⟩

theorem rearmed_again (t : NceTimer) : Rearmed t (nceTimerAgain t) :=
  ⟨rfl, fun hagain _ => by simpa [nceTimerAgain] using hagain⟩

theorem rearmed_feed (t : NceTimer) : Rearmed t (nceTimerFeed t) := ⟨rfl, fun _ => id⟩

@[simp] theorem ircConnPush_timer (n : Net) (data : CStr) :
    (ircConnPush n data).2.conn.timer = n.conn.timer := by
  unfold ircConnPush
  split <;> rfl

@[simp] theorem connIdentSend_timer (linked : Bool) (lines : List CStr) (n : Net) :
    (connIdentSend linked lines n).conn.timer = n.conn.timer := by
  induction lines generalizing n with
  | nil => rfl
  | cons line lines ih =>
    have hline : (connSendLine linked n line).2.conn.timer = n.conn.timer := by
      unfold connSendLine
      split
      · exact ircConnPush_timer n _
      · rfl
    rw [connIdentSend, List.foldl_cons, ← connIdentSend, ih, hline]

@[simp] theorem connSocket_timer (n : Net) (a : AddrInfo) :
    (connSocket n a).2.conn.timer = n.conn.timer := by
  unfold connSocket
  split <;> rfl

/-- `conn_connect` leaves the timer as it is, or ends in `conn_reschedule`. -/
theorem connConnectLoop_timer (ais : List AddrInfo) (rc : ℤ) (n : Net) :
    (connConnectLoop ais rc n).2.conn.timer = n.conn.timer ∨
      (connConnectLoop ais rc n).2.conn.timer = nceTimerFeed n.conn.timer := by
  induction ais generalizing rc n with
  | nil => exact .inr rfl
  | cons a rest ih =>
    rw [connConnectLoop]
    have hsock := connSocket_timer { n with conn := { n.conn with ai := a :: rest } } a
    rcases h : connSocket { n with conn := { n.conn with ai := a :: rest } } a with ⟨_ | _, m⟩
    · rw [h] at hsock
      exact hsock ▸ ih (-1) m
    · rw [h] at hsock
      cases hconnect : a.connect with
      | failed => exact hsock ▸ ih (-1) (connClose m)
      | inProgress e => exact .inl hsock
      | done =>
        by_cases hrc : rc = 0
        · simp only [if_pos hrc]
          exact .inl hsock
        · simp only [if_neg hrc]
          exact hsock ▸ ih rc (m.emit (.connected m.conn.fd))

theorem connConnectLoop_rearmed (ais : List AddrInfo) (rc : ℤ) (n : Net) :
    Rearmed n.conn.timer (connConnectLoop ais rc n).2.conn.timer := by
  rcases connConnectLoop_timer ais rc n with h | h
  · rw [h]
    exact .refl _
  · rw [h]
    exact rearmed_feed _

theorem connDialResume_rearmed (rc : ℤ) (n : Net) :
    Rearmed n.conn.timer (connDialResume rc n).2.conn.timer := by
  simp only [connDialResume]
  split
  · rename_i soError rest hai
    by_cases hneg : soError < 0
    · rw [if_pos hneg]
      exact connConnectLoop_rearmed rest (-1) _
    · rw [if_neg hneg]
      -- recording that the connection is established does not touch the timer
      by_cases hrc : rc = 0
      · rw [if_pos hrc]
        split <;> exact .refl _
      · rw [if_neg hrc]
        split <;> exact connConnectLoop_rearmed rest rc _
  · exact .refl _

theorem connIdentLoop_rearmed (n : Net) :
    Rearmed n.conn.timer (connIdentLoop n).conn.timer := by
  unfold connIdentLoop
  split
  · exact rearmed_again _
  · exact .refl _

theorem connConnected_rearmed (linked : Bool) (lines : List CStr) (o : Bool × Net) :
    Rearmed o.2.conn.timer (connConnected linked lines o).conn.timer := by
  rcases o with ⟨_ | _, n⟩
  · exact .refl _
  · refine .trans ?_ (connIdentLoop_rearmed _)
    rw [connIdentSend_timer]
    exact rearmed_again _

theorem connIoResume_rearmed {lines : List CStr} {r : RecvResult} {rs : List SendResult}
    {n n' : Net} (h : connIoResume lines r rs n = some n') :
    Rearmed n.conn.timer n'.conn.timer := by
  unfold connIoResume at h
  split at h
  · cases h
  · cases h
    exact .refl _
  · split at h
    · cases h
      exact .refl _
    split at h
    · cases h
      exact .trans (connDialResume_rearmed _ _) (connConnected_rearmed _ _ _)
    · -- in `conn_ready` the timer is armed again, or fed by `conn_reschedule`
      obtain ⟨⟨rc, m⟩, hwait, rfl⟩ := Option.map_eq_some_iff.1 h
      have htimer : m.conn.timer = n.conn.timer := by rw [(connWait_cases hwait).frame]
      simp only
      split
      · exact htimer ▸ rearmed_feed _
      · exact htimer ▸ rearmed_again _
    · obtain ⟨⟨rc, m⟩, hwait, rfl⟩ := Option.map_eq_some_iff.1 h
      have htimer : m.conn.timer = n.conn.timer := by rw [(connWait_cases hwait).frame]
      simp only
      split
      · exact htimer ▸ rearmed_feed _
      · exact htimer ▸ connIdentLoop_rearmed m

theorem connIoSpawn_rearmed (linked : Bool) (lines : List CStr) (ais : Option (List AddrInfo))
    (n : Net) : Rearmed n.conn.timer (connIoSpawn linked lines ais n).conn.timer := by
  cases ais with
  | none => exact .trans (rearmed_again _) (rearmed_feed _)
  | some ais =>
    exact .trans (.trans (rearmed_again _) (rearmed_again _))
      (.trans (connConnectLoop_rearmed ais 0 _) (connConnected_rearmed _ _ _))

/-! ## Waiting for the first time, and after a delay -/

theorem Identified.waitsOnSocket {linked : Bool} {lines : List CStr} {n n' : Net}
    (h : Identified linked lines n n') : WaitsOnSocket n' := by
  cases h with
  | @mk sent outb timer state point hout hpoint =>
    exact ⟨point, rfl, by rcases hpoint with ⟨-, rfl, -⟩ | ⟨-, rfl, -⟩ <;> simp⟩

/-- Once `conn_connect` cannot succeed at once, it waits when an endpoint is awaited, without
touching the timer, and gives up otherwise. -/
theorem connConnectLoop_awaited {ais : List AddrInfo} (rc : ℤ) (n : Net)
    (hrc : rc = 0 → connectsAtOnce (some ais) = false) :
    (connConnectLoop ais rc n).1 = false ∧
      (((∃ a ∈ ais, a.Awaited) ∧ WaitsOnSocket (connConnectLoop ais rc n).2 ∧
          (connConnectLoop ais rc n).2.conn.timer = n.conn.timer) ∨
        ((¬ ∃ a ∈ ais, a.Awaited) ∧ (connConnectLoop ais rc n).2.conn.ioCoro = some .idle)) := by
  induction ais generalizing rc n with
  | nil => exact ⟨rfl, .inr ⟨by simp, rfl⟩⟩
  | cons a rest ih =>
    have hsock := connSocket_timer { n with conn := { n.conn with ai := a :: rest } } a
    -- an endpoint that is not awaited leaves the outcome to those after it
    have hnext : ∀ {rc' : ℤ} {m : Net}, rc' ≠ 0 → ¬ a.Awaited → m.conn.timer = n.conn.timer →
        (connConnectLoop rest rc' m).1 = false ∧
          (((∃ b ∈ a :: rest, b.Awaited) ∧ WaitsOnSocket (connConnectLoop rest rc' m).2 ∧
              (connConnectLoop rest rc' m).2.conn.timer = n.conn.timer) ∨
            ((¬ ∃ b ∈ a :: rest, b.Awaited) ∧
              (connConnectLoop rest rc' m).2.conn.ioCoro = some .idle)) := by
      intro rc' m hne ha htimer
      obtain ⟨hfalse, h⟩ := ih rc' m fun h0 => absurd h0 hne
      rw [htimer] at h
      simpa only [List.exists_mem_cons_iff, ha, false_or] using And.intro hfalse h
    rw [connConnectLoop]
    rcases h : connSocket { n with conn := { n.conn with ai := a :: rest } } a with ⟨_ | _, m⟩
    · rw [h] at hsock
      refine hnext (by decide) (fun ha => ?_) hsock
      simp [connSocket, ha.1] at h
    · rw [h] at hsock
      obtain ⟨hdone, -⟩ := connSocket_true h
      cases hconnect : a.connect with
      | failed => exact hnext (by decide) (by simp [AddrInfo.Awaited, hconnect]) hsock
      | inProgress e =>
        exact ⟨rfl, .inl ⟨⟨a, List.mem_cons_self, hdone, e, hconnect⟩,
          ⟨.dial rc, rfl, by simp⟩, hsock⟩⟩
      | done =>
        have hne : rc ≠ 0 := by
          intro h0
          obtain ⟨fd, socket, connect⟩ := a
          obtain rfl : socket = .done := hdone
          obtain rfl : connect = .done := hconnect
          exact absurd (hrc h0) (by simp [connectsAtOnce])
        simp only [if_neg hne]
        exact hnext hne (by simp [AddrInfo.Awaited, hconnect]) hsock

/-- The timer does not run any more, and will not be started by `nce_timer_again`. -/
def NceTimer.Dead (t : NceTimer) : Prop := ¬ t.Alive ∧ t.again = 0

theorem NceTimer.Dead.again {t : NceTimer} (h : t.Dead) : (nceTimerAgain t).Dead := by
  obtain ⟨halive, hagain⟩ := h
  rw [NceTimer.Alive, not_or, not_or] at halive
  exact ⟨by simp [NceTimer.Alive, nceTimerAgain, hagain, halive.2.2], hagain⟩

theorem connIdent_dead {linked : Bool} {lines : List CStr} {n : Net} (h : n.conn.timer.Dead) :
    (connIdent linked lines n).conn.timer.Dead := by
  have hsend : (connIdentSend linked lines (connTimerAgain n)).conn.timer.Dead := by
    rw [connIdentSend_timer]
    exact h.again
  unfold connIdent connIdentLoop
  split
  · exact hsend.again
  · exact hsend

/-- `conn_io_spawn` waits when there is an attempt to make, and gives up otherwise. A timer that is
dead stays so while the coroutine waits. -/
theorem connIoSpawn_attempts (linked : Bool) (lines : List CStr) (ais : Option (List AddrInfo))
    {n : Net} (hdead : n.conn.timer.Dead) :
    (Attempts ais ∧ WaitsOnSocket (connIoSpawn linked lines ais n) ∧
        (connIoSpawn linked lines ais n).conn.timer.Dead) ∨
      (¬ Attempts ais ∧ (connIoSpawn linked lines ais n).conn.ioCoro = some .idle) := by
  cases ais with
  | none => exact .inr ⟨by simp [Attempts, connectsAtOnce], rfl⟩
  | some ais =>
    -- `conn_io_entry` arms the timer on each round of its loop
    let m : Net := ⟨{ n.conn with
      io := nceIoInit n.conn.io
      state := .connect
      ai := ais
      timer := nceTimerAgain (nceTimerAgain n.conn.timer) }, n.trace⟩
    have hm : m.conn.timer.Dead := hdead.again.again
    have hspawn : connIoSpawn linked lines (some ais) n =
        connConnected linked lines (connConnectLoop ais 0 m) := rfl
    cases honce : connectsAtOnce (some ais) with
    | true =>
      obtain ⟨fd, rest, rfl⟩ := exists_of_connectsAtOnce honce
      refine .inl ⟨.inl honce, ?_⟩
      rw [hspawn]
      exact ⟨(connIdent_identified linked lines rfl).waitsOnSocket, connIdent_dead hm⟩
    | false =>
      obtain ⟨hfalse, hloop⟩ := connConnectLoop_awaited 0 m fun _ => honce
      have hend : connIoSpawn linked lines (some ais) n = (connConnectLoop ais 0 m).2 := by
        rw [hspawn]
        generalize connConnectLoop ais 0 m = o at hfalse ⊢
        obtain ⟨b, o⟩ := o
        obtain rfl : b = false := hfalse
        rfl
      rw [hend]
      simp only [Attempts, honce, Bool.false_eq_true, false_or, Option.getD_some]
      rcases hloop with ⟨hawaited, hwaits, htimer⟩ | h
      · exact .inl ⟨hawaited, hwaits, htimer ▸ hm⟩
      · exact .inr h

/-! ## Runs -/

/-- The timer of a coroutine that waits runs and repeats. The delay before reconnecting does not
repeat, and nothing sets the repeat value again after it. -/
structure Armed (n : Net) : Prop where
  waits : WaitsOnSocket n → n.conn.timer.active = true ∧ n.conn.timer.again ≠ 0
  delay : n.conn.timerCoro = .delay → n.conn.timer.again = 0

theorem Armed.watched {n : Net} (h : Armed n) : Watched n := fun hwaits => .inl (h.waits hwaits).1

/-- The timer of the delay is dead once it is stopped. -/
theorem Armed.dead {n : Net} (h : Armed n) (hdelay : n.conn.timerCoro = .delay) :
    (nceTimerStop (nceTimerTake n.conn.timer)).Dead :=
  ⟨by simp [NceTimer.Alive, nceTimerStop], h.delay hdelay⟩

/-- The `timer` coroutine stays where it is while the other one runs. -/
theorem ConnTrans.timerCoro_of_resumeIo {lines : List CStr} {n n' : Net} {r : RecvResult}
    {rs : List SendResult} (h : ConnTrans lines n (.resumeIo r rs) n') :
    n'.conn.timerCoro = n.conn.timerCoro := by
  cases h with
  | quiet => rfl
  | redial _ _ _ h => cases h <;> rfl
  | identify _ _ _ _ _ h => cases h; rfl
  | waitIdent _ _ h =>
    have hm := congrArg Conn.timerCoro h.frame
    rcases connIdentLoop_cases _ with ⟨-, timer, heq⟩ | ⟨-, heq⟩ <;> rw [heq] <;> exact hm
  | waitReady _ _ h => cases h; rfl
  | lostIdent _ _ _ h => cases h; rfl
  | lostReady _ _ _ h => cases h; rfl

theorem connTimerResume_of_watch {lines : List CStr} {ais : Option (List AddrInfo)} {n : Net}
    (hrevents : n.conn.timer.revents = true) (hpoint : n.conn.timerCoro = .watch) :
    (connTimerResume lines ais n).conn.timer.again = 0 := by
  simp only [connTimerResume, if_pos hrevents, hpoint, nceTimerStart]
  split <;> rfl

/-- Only a coroutine that waits on its socket does so after it has run. -/
theorem waitsOnSocket_of_resumeIo {lines : List CStr} {n n' : Net} {r : RecvResult}
    {rs : List SendResult} (h : connIoResume lines r rs n = some n') (hwaits : WaitsOnSocket n') :
    WaitsOnSocket n := by
  cases hpoint : n.conn.ioCoro with
  | none => simp [connIoResume, hpoint] at h
  | some point =>
    refine ⟨point, hpoint, ?_⟩
    -- a coroutine that has given up stays so
    rintro rfl
    have hsame : n = n' := by simpa [connIoResume, hpoint] using h
    obtain ⟨point, hpoint', hne⟩ := hsame ▸ hwaits
    exact hne (Option.some.inj (hpoint'.symm.trans hpoint))

theorem Armed.resumeIo {lines : List CStr} {n n' : Net} {r : RecvResult} {rs : List SendResult}
    (harmed : Armed n) (h : connIoResume lines r rs n = some n')
    (htrans : ConnTrans lines n (.resumeIo r rs) n') : Armed n' := by
  obtain ⟨hagain, hactive⟩ := connIoResume_rearmed h
  constructor
  · intro hwaits
    obtain ⟨hrunning, hrepeats⟩ := harmed.waits (waitsOnSocket_of_resumeIo h hwaits)
    exact ⟨hactive hrepeats hrunning, hagain ▸ hrepeats⟩
  · intro hdelay
    rw [hagain]
    exact harmed.delay (htrans.timerCoro_of_resumeIo ▸ hdelay)

/-- The watchdog destroys the coroutine and sets the delay. After the delay the timer is dead, so no
endpoint may make the new coroutine wait. -/
theorem Armed.resumeTimer {lines : List CStr} {n : Net} {ais : Option (List AddrInfo)}
    (hn : Coherent n) (harmed : Armed n)
    (htrans : ConnTrans lines n (.resumeTimer ais) (connTimerResume lines ais n))
    (hcond : WatchCond lines n (.resumeTimer ais)) : Armed (connTimerResume lines ais n) := by
  by_cases hrevents : n.conn.timer.revents = true
  · cases hpoint : n.conn.timerCoro with
    | watch =>
      obtain ⟨hnone, -⟩ := htrans.destroyed_of_watch hrevents hpoint
      refine ⟨?_, fun _ => connTimerResume_of_watch hrevents hpoint⟩
      rintro ⟨point, hsome, -⟩
      exact absurd (hnone.symm.trans hsome) (by simp)
    | delay =>
      have hspawn := connIoSpawn_attempts true lines ais (n := ⟨{ n.conn with
        timer := nceTimerStop (nceTimerTake n.conn.timer)
        timerCoro := .watch }, n.trace⟩) (harmed.dead hpoint)
      rw [← connTimerResume_of_delay hrevents hpoint] at hspawn
      rcases hspawn with ⟨hattempts, -⟩ | ⟨-, hidle⟩
      · exact absurd hattempts (hcond hrevents hpoint)
      · refine ⟨?_, fun hdelay => ?_⟩
        · rintro ⟨point, hsome, hne⟩
          exact absurd (Option.some.inj (hsome.symm.trans hidle)) hne
        · exact absurd (((hn.trans htrans).delay.1 hdelay).symm.trans hidle) (by simp)
  · -- without events the coroutine keeps waiting
    have hsame : connTimerResume lines ais n = n := by rw [connTimerResume, if_neg hrevents]
    rw [hsame]
    exact harmed

/-- A step that satisfies `WatchCond` keeps the timer armed. -/
theorem armed_step {lines : List CStr} {n n' : Net} {a : ConnAct} (hn : Coherent n)
    (harmed : Armed n) (h : connStep lines n a = some n') (hcond : WatchCond lines n a) :
    Armed n' := by
  have htrans := connStep_cases hn h
  cases a with
  | ioEvent revents =>
    rw [connStep, Option.ite_none_right_eq_some] at h
    obtain ⟨-, ⟨⟩⟩ := h
    exact ⟨harmed.waits, harmed.delay⟩
  | timerExpire =>
    rw [connStep, Option.ite_none_right_eq_some] at h
    obtain ⟨-, ⟨⟩⟩ := h
    -- a repeating timer starts again by itself
    exact ⟨fun hwaits => ⟨by simpa [nceTimerExpire] using (harmed.waits hwaits).2,
      (harmed.waits hwaits).2⟩, harmed.delay⟩
  | timerCallback =>
    rw [connStep, Option.ite_none_right_eq_some] at h
    obtain ⟨-, ⟨⟩⟩ := h
    exact ⟨harmed.waits, harmed.delay⟩
  | resumeIo r rs => exact harmed.resumeIo h htrans
  | resumeTimer ais =>
    obtain rfl : connTimerResume lines ais n = n' := Option.some.inj h
    exact harmed.resumeTimer hn htrans hcond
  | resumeProducer =>
    obtain rfl : connProducerResume n = n' := Option.some.inj h
    unfold connProducerResume connNext
    cases n.conn.storage with
    | some msg => exact harmed
    | none =>
      cases n.conn.inb.findLine with
      | none => exact harmed
      | some len => exact ⟨harmed.waits, harmed.delay⟩

/-- A step that does not satisfy `WatchCond` leaves a coroutine that waits with a dead timer. -/
theorem not_watched_step {lines : List CStr} {n n' : Net} {a : ConnAct} (harmed : Armed n)
    (h : connStep lines n a = some n') (hcond : ¬ WatchCond lines n a) : ¬ Watched n' := by
  cases a with
  | resumeTimer ais =>
    -- the only step with a condition: the delay is over and an endpoint makes the coroutine wait
    obtain rfl : connTimerResume lines ais n = n' := Option.some.inj h
    simp only [WatchCond, Classical.not_imp, not_not] at hcond
    obtain ⟨hrevents, hpoint, hattempts⟩ := hcond
    rw [connTimerResume_of_delay hrevents hpoint]
    rcases connIoSpawn_attempts true lines ais (n := ⟨{ n.conn with
        timer := nceTimerStop (nceTimerTake n.conn.timer)
        timerCoro := .watch }, n.trace⟩) (harmed.dead hpoint) with ⟨-, hwaits, hdead⟩ | ⟨hnot, -⟩
    · exact fun hwatched => hdead.1 (hwatched hwaits)
    · exact absurd hattempts hnot
  | _ => exact absurd trivial hcond

theorem watchdog_kept : Kept (fun n => Coherent n ∧ Armed n) (fun _ => True) WatchCond
    (fun _ => True) where
  conn lines n a n' hn h hcond :=
    ⟨hn.1.trans (connStep_cases hn.1 h), armed_step hn.1 hn.2 h hcond⟩
  push n line hfits _ _ hn := ⟨hn.1.append id rfl (.inl rfl), hn.2.waits, hn.2.delay⟩
  dispatch n ev hn := ⟨hn.1.append id rfl (.inr rfl), hn.2.waits, hn.2.delay⟩
  pull n msg hn := ⟨hn.1.pull msg, hn.2.waits, hn.2.delay⟩
  spawn lines ais uninit stale trace _ _ := by
    have hcoh := Coherent.spawn lines ais uninit stale trace
    obtain ⟨hagain, hactive⟩ :=
      connIoSpawn_rearmed false lines ais ⟨connAlloc uninit stale, trace ++ [.spawn]⟩
    have hrepeats : (ircConnSpawn lines ais uninit stale trace).conn.timer.again = 60 := hagain
    refine ⟨hcoh, fun _ => ⟨hactive (by simp [connAlloc]) rfl, by simp [hrepeats]⟩,
      fun hdelay => ?_⟩
    -- `conn_timer_spawn` leaves the watchdog waiting
    have hnone := hcoh.delay.1 hdelay
    rcases connIoSpawn_cases false lines ais ⟨connAlloc uninit stale, trace ++ [.spawn]⟩ with
      ⟨_, _, _, _, hsus⟩ | ⟨_, _, _, _, hident⟩
    · exact absurd hnone hsus.ioCoro_ne_none
    · obtain ⟨point, hpoint, -⟩ := hident.waitsOnSocket
      exact absurd (hnone.symm.trans hpoint) (by simp)
  destroy _ _ := trivial
  idle _ _ _ := trivial

/-- In a run the timer is alive whenever the `io_fd` coroutine waits on its socket, exactly when the
steps of the run satisfy `WatchCond`. -/
theorem watched_iff (name nickname username realname : CStr) (as : List Act) :
    Runs.AllStates step (Sys.Holds Watched fun _ => True)
        (Sys.start (ircServerNew name nickname username realname)) as ↔
      Runs.AllSteps step (StepCond WatchCond fun _ => True)
        (Sys.start (ircServerNew name nickname username realname)) as := by
  refine Runs.allStates_iff_allSteps
    (I := Sys.Holds (fun n => Coherent n ∧ Armed n) fun _ => True)
    (fun _ _ _ => watchdog_kept.step) (fun s hs => ?_) (fun s a s' hs h hcond => ?_) trivial
  · exact hs.mono (fun _ hn => hn.2.watched) fun _ _ => trivial
  · -- only a step of the connection can fail the condition
    simp only [StepCond, implies_true, and_true, not_forall] at hcond
    obtain ⟨co, c, hco, rfl, hcond⟩ := hcond
    obtain ⟨co', n, hco', hn, rfl⟩ := exists_of_step_conn h
    obtain rfl : co = co' := Option.some.inj (hco.symm.trans hco')
    rw [Sys.holds_setNet]
    exact not_watched_step ((Sys.holds_iff_of_some hco).1 hs).2 hn hcond

/-- The second connection waits for its socket with a timer that was stopped for good. -/
theorem not_watched_reconnect :
    ¬ Runs.AllStates step (Sys.Holds Watched fun _ => True) (Sys.start localServer)
      [.serverConnect none ⟨none, [], []⟩,
        .conn .timerCallback, .conn (.resumeTimer none),
        .conn .timerExpire, .conn .timerCallback,
        .conn (.resumeTimer (some [⟨3, .done, .inProgress 0⟩]))] := by
  intro h
  have hrun : ((Runs.exec step (Sys.start localServer)
      [.serverConnect none ⟨none, [], []⟩,
        .conn .timerCallback, .conn (.resumeTimer none),
        .conn .timerExpire, .conn .timerCallback,
        .conn (.resumeTimer (some [⟨3, .done, .inProgress 0⟩]))]).bind Sys.net).map
      (fun n => (n.conn.ioCoro, n.conn.timer)) =
      some (some (.dial 0), ⟨30, 0, false, false, false⟩) := by decide +kernel
  obtain ⟨n, hn, heq⟩ := Option.map_eq_some_iff.1 hrun
  obtain ⟨t, ht, hnet⟩ := Option.bind_eq_some_iff.1 hn
  rw [Prod.mk.injEq] at heq
  have hwatched := (Sys.holds_iff_of_net hnet).1 (h.last ht) ⟨_, heq.1, by simp⟩
  simp [NceTimer.Alive, heq.2] at hwatched

end Irccd
