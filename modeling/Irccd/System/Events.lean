import Irccd.Conn.Links
import Irccd.System.Coherent

/-!
# The events of a run

Do CONNECT and DISCONNECT alternate, and does every connection that gave the one give the other?

* `Alternating`: they do, and while the last event is CONNECT the connection is up, or its
  DISCONNECT is about to be dispatched;
* `EventCond`: what is required of the steps of a run;
* `Linked`: the invariant, on the events dispatched and those expected;
* `alternating_of_allSteps`: a run whose steps satisfy `EventCond` stays in `Alternating`, if the
  IRC server sends one 001 on a connection, and no 000.
-/

namespace Irccd

open Framing

/-- CONNECT and DISCONNECT alternate, starting with CONNECT. While a connection that gave CONNECT
has not given DISCONNECT, it is up, or the message that is going to give it is there. -/
def Alternating (s : Sys) : Prop :=
  Alternates (linkEvents s.trace) ∧
    ((linkEvents s.trace).getLast? = some .connect →
      s.Holds (fun n => Waits n ∨ .disconnect ∈ expected n) fun _ => False)

/-- The last of the events is a CONNECT. -/
def Outstanding (es : List Link) : Prop := linkStatus es = some true

instance (es : List Link) : Decidable (Outstanding es) := inferInstanceAs (Decidable (_ = _))

/-- The conditions on the steps of a connection.
* It begins when no line is unfinished in the input buffer.
* It does not end in `conn_ident` or by the watchdog when a CONNECT is outstanding, dispatched or
  expected, and ends in `conn_ready` only when a CONNECT is outstanding, dispatched or pushed.
* A blank line or a line that is too long is not taken after a 000 or 001. -/
def ConnEventCond (n : Net) : ConnAct → Prop
  | .resumeIo r rs =>
    n.conn.io.revents ≠ .none →
      (n.conn.ioCoro = some (.dial 0) → ∀ a rest soError, n.conn.ai = a :: rest →
        a.connect = .inProgress soError → 0 ≤ soError →
          Framing.rest isCR isLF n.conn.inb.contents = []) ∧
      (n.conn.ioCoro = some .ident → ∀ w ∈ connWait n r rs, w.1 < 0 →
        ¬ Outstanding (linkEvents w.2.trace ++ expected w.2)) ∧
      (n.conn.ioCoro = some .ready → ∀ w ∈ connWait n r rs, w.1 < 0 →
        Outstanding (linkEvents n.trace ++ n.conn.storage.toList.flatMap Link.ofMsg))
  | .resumeTimer ais =>
    n.conn.timer.revents = true →
      (n.conn.timerCoro = .watch → ¬ Outstanding (linkEvents n.trace ++ expected n)) ∧
      (n.conn.timerCoro = .delay → connectsAtOnce ais = true →
        rest isCR isLF n.conn.inb.contents = [])
  | .resumeProducer =>
    n.conn.storage = none → ∀ len ∈ n.conn.inb.findLine, ¬ (0 < len ∧ len < messageLen) →
      Link.ofMsg n.conn.msg = []
  | _ => True

/-- A blank line or a line that is too long is only taken while a whois is pending: the consumer has
not freed the strings of the message that is pushed again. -/
def RepeatCond (co : IrcServerCoro) (c : ConnAct) : Prop :=
  c = .resumeProducer → co.conn.storage = none →
    ∀ len ∈ co.conn.inb.findLine, ¬ (0 < len ∧ len < messageLen) → co.consumer.isSome = true

instance (co : IrcServerCoro) (c : ConnAct) : Decidable (RepeatCond co c) :=
  inferInstanceAs (Decidable (_ → _ → ∀ len ∈ co.conn.inb.findLine, _))

/-- The conditions on the steps of a run: besides those on the connection, no 000 or 001 is pulled
while a whois is pending, the server is not disconnected when a CONNECT is outstanding, and not
removed when none is. -/
def EventCond (s : Sys) (a : Act) (_ : Sys) : Prop :=
  match a with
  | .conn c => ∀ co ∈ s.server.coroutine, ConnEventCond ⟨co.conn, s.trace⟩ c ∧ RepeatCond co c
  | .resumeConsumer =>
    ∀ co ∈ s.server.coroutine, co.consumer.isSome = true → ∀ msg ∈ co.conn.storage,
      Link.ofMsg msg = []
  | .serverDisconnect => ¬ Outstanding (linkEvents s.trace)
  | .serverReconnect _ _ => ¬ Outstanding (linkEvents s.trace)
  | .botServerRemove => s.listed = true → Outstanding (linkEvents s.trace)
  | _ => True

instance (n : Net) : (a : ConnAct) → Decidable (ConnEventCond n a)
  | .resumeIo _ _ => inferInstanceAs (Decidable (_ → _ ∧ _ ∧ _))
  | .resumeTimer _ => inferInstanceAs (Decidable (_ → _ ∧ _))
  | .resumeProducer => inferInstanceAs (Decidable (_ → ∀ len ∈ n.conn.inb.findLine, _))
  | .ioEvent _ | .timerExpire | .timerCallback => isTrue trivial

instance (s : Sys) : (a : Act) → (s' : Sys) → Decidable (EventCond s a s')
  | .conn c, _ =>
    inferInstanceAs (Decidable
      (∀ co ∈ s.server.coroutine, ConnEventCond ⟨co.conn, s.trace⟩ c ∧ RepeatCond co c))
  | .resumeConsumer, _ =>
    inferInstanceAs (Decidable (∀ co ∈ s.server.coroutine, _ → ∀ msg ∈ co.conn.storage, _))
  | .serverDisconnect, _ | .serverReconnect _ _, _ => inferInstanceAs (Decidable (¬ _))
  | .botServerRemove, _ => inferInstanceAs (Decidable (_ → _))
  | .serverConnect _ _, _ | .botServerAdd _ _, _ | .join _ _, _ | .send _, _ | .setNickname _, _
  | .set _, _ | .tick _, _ => isTrue trivial

/-! ## The invariant of a connection -/

/-- The events dispatched, those of `es` and those expected alternate. At their end a CONNECT is
outstanding exactly when the connection is up and has received a 001. -/
structure Linked (es : List Link) (n : Net) : Prop where
  status : linkStatus (linkEvents n.trace ++ es ++ expected n) =
    some (decide (Waits n ∧ welcomes n.trace ≠ []))
  rest : Waits n → rest isCR isLF n.conn.inb.contents = rest isCR isLF (arrived n.trace)
  dial : ∀ rc, n.conn.ioCoro = some (.dial rc) → arrived n.trace = []

theorem welcomes_congr {trace trace' : List Call} (h : arrived trace' = arrived trace) :
    welcomes trace' = welcomes trace := by
  rw [welcomes, h, ← welcomes]

namespace Linked

variable {es : List Link} {lines : List CStr} {n n' : Net}

/-- Only the place of the coroutine, the input side and some of the calls matter. -/
theorem congr (hn : Linked es n) (hwaits : Waits n' ↔ Waits n)
    (hdial : ∀ rc, n'.conn.ioCoro = some (.dial rc) → n.conn.ioCoro = some (.dial rc))
    (hin : n'.conn.inb = n.conn.inb) (hstorage : n'.conn.storage = n.conn.storage)
    (hevents : linkEvents n'.trace = linkEvents n.trace)
    (harrived : arrived n'.trace = arrived n.trace) : Linked es n' := by
  have hexpected : expected n' = expected n := by rw [expected, hin, hstorage, ← expected]
  refine ⟨?_, fun h => ?_, fun rc hrc => ?_⟩
  · rw [hevents, hexpected, hn.status, welcomes_congr harrived]
    simp only [hwaits]
  · rw [hin, harrived]
    exact hn.rest (hwaits.1 h)
  · rw [harrived]
    exact hn.dial rc (hdial rc hrc)

/-- Nothing is outstanding when the connection is not up. -/
theorem status_of_not_waits (hn : Linked [] n) (hwaits : ¬ Waits n) :
    linkStatus (linkEvents n.trace ++ expected n) = some false := by
  have hstatus := hn.status
  rw [List.append_nil, decide_eq_false fun h => hwaits h.1] at hstatus
  exact hstatus

/-- Nothing is outstanding on a connection that must not have given a CONNECT. -/
theorem status_of_not_outstanding (hn : Linked [] n)
    (hnot : ¬ Outstanding (linkEvents n.trace ++ expected n)) :
    linkStatus (linkEvents n.trace ++ expected n) = some false := by
  have hstatus := hn.status
  rw [List.append_nil] at hstatus
  cases hup : decide (Waits n ∧ welcomes n.trace ≠ []) with
  | false => exact hstatus.trans (congrArg some hup)
  | true => exact absurd (hstatus.trans (congrArg some hup)) hnot

/-- A connection that is not up has nothing outstanding. -/
theorem of_not_waits (hwaits : ¬ Waits n) (hdial : ∀ rc, n.conn.ioCoro ≠ some (.dial rc))
    (hstatus : linkStatus (linkEvents n.trace ++ expected n) = some false) : Linked [] n := by
  refine ⟨?_, fun h => absurd h hwaits, fun rc hrc => absurd hrc (hdial rc)⟩
  rw [List.append_nil, hstatus, decide_eq_false fun h => hwaits h.1]

theorem of_suspended (h : Suspended n n')
    (hstatus : linkStatus (linkEvents n.trace ++ expected n) = some false) : Linked [] n' := by
  cases h with
  | idle h =>
    refine of_not_waits (by simp [Waits]) (by simp) ?_
    rw [linkEvents_dialed h]
    exact hstatus
  | @dial _ _ fd _ _ _ _ h =>
    have hd : Dialed n.trace (_ ++ [Call.socket fd]) := h.snoc trivial
    refine ⟨?_, by simp [Waits], by simp [arrivedStep]⟩
    rw [linkEvents_dialed hd, List.append_nil, decide_eq_false (by simp [Waits])]
    exact hstatus

/-- A connection begins with nothing received. -/
theorem of_identified {linked : Bool} (h : Identified linked lines n n')
    (harrived : arrived n.trace = []) (hrest : Framing.rest isCR isLF n.conn.inb.contents = [])
    (hstatus : linkStatus (linkEvents n.trace ++ expected n) = some false) : Linked [] n' := by
  cases h with
  | @mk sent outb timer state point hout hpoint =>
    have harrived' : arrived (n.trace ++ sent.map .push) = [] := by
      rw [arrived_append, arrived_pushes, harrived]
    have hwelcomes : welcomes (n.trace ++ sent.map .push) = [] := by
      rw [welcomes, harrived']
      rfl
    refine ⟨?_, fun _ => ?_, fun rc hrc => harrived'⟩
    · rw [linkEvents_append, linkEvents_pushes, List.append_nil, List.append_nil,
        decide_eq_false fun h => h.2 hwelcomes]
      exact hstatus
    · rw [harrived', hrest]
      rfl

/-- The events that `conn_wait` receives. -/
theorem of_waited {r : RecvResult} {rc : ℤ} (h : Waited n r rc n') (hn : Linked [] n)
    (hwaits : Waits n) (hone : OneWelcome n'.trace) : Linked [] n' := by
  have hrest := hn.rest hwaits
  have hstatus := hn.status
  cases h with
  | @mk inb outb io data sent hin hout =>
    have harrived : arrived (n.trace ++ recvCall n.conn.fd data ++ sendCall n.conn.fd sent) =
        arrived n.trace ++ data := by
      rw [arrived_append, arrived_append, arrived_recvCall, arrived_sendCall]
    have hevents : linkEvents (n.trace ++ recvCall n.conn.fd data ++ sendCall n.conn.fd sent) =
        linkEvents n.trace := by simp
    -- what the data adds to the messages of the connection and to those of the buffer
    obtain ⟨new, hwelcomes, hexpected⟩ : ∃ new,
        welcomes (n.trace ++ recvCall n.conn.fd data ++ sendCall n.conn.fd sent) =
          welcomes n.trace ++ new ∧
        expected ⟨{ n.conn with inb, outb, io },
          n.trace ++ recvCall n.conn.fd data ++ sendCall n.conn.fd sent⟩ = expected n ++ new := by
      refine ⟨(newMessages (Framing.rest isCR isLF (arrived n.trace)) data).flatMap Link.ofMsg, ?_,
        ?_⟩
      · rw [welcomes, harrived, messages_append, List.flatMap_append, ← welcomes]
      · simp only [expected, hin, messages_append, hrest, List.flatMap_append, List.append_assoc]
    refine ⟨?_, fun _ => ?_, fun rc hrc => ?_⟩
    · have hwaits' : Waits ⟨{ n.conn with inb, outb, io },
          n.trace ++ recvCall n.conn.fd data ++ sendCall n.conn.fd sent⟩ := hwaits
      rw [OneWelcome, hwelcomes] at hone
      rw [List.append_nil] at hstatus
      rw [hevents, hwelcomes, hexpected, List.append_nil, ← List.append_assoc, linkStatus_append,
        hstatus, Option.bind_some]
      simp only [hwaits, hwaits', true_and]
      -- there is one 001 at most: it was there before, or it arrives now
      rcases hone with hnil | hconnect
      · obtain ⟨hw, rfl⟩ := List.append_eq_nil_iff.1 hnil
        simp [hw]
      · rcases List.append_eq_singleton_iff.1 hconnect with ⟨hw, rfl⟩ | ⟨hw, rfl⟩
        · simp [hw, linkStep]
        · simp [hw]
    · rw [harrived]
      simp only [hin]
      rw [rest_append, hrest, ← rest_append]
    · have hrc' : n.conn.ioCoro = some (.dial rc) := hrc
      rcases hwaits with hwaits | hwaits <;> simp [hwaits] at hrc'

/-- The first line of the buffer gives the same events when its message is pushed. -/
theorem expected_produce {len : ℕ} {msg : ConnMsg} (hstorage : n.conn.storage = none)
    (hline : n.conn.inb.findLine = some len)
    (hmsg : msg = if 0 < len ∧ len < messageLen then (ircConnMsgParse n.conn.inb.contents len).2
      else n.conn.msg)
    (hcond : ¬ (0 < len ∧ len < messageLen) → Link.ofMsg n.conn.msg = []) (again : Bool)
    (trace : List Call) :
    expected ⟨{ n.conn with
      msg
      storage := some msg
      again
      inb := n.conn.inb.shift (len + 2) }, trace⟩ = expected n := by
  have hlen : len ≤ n.conn.inb.contents.length := by
    have := InBuf.findLine_lt hline
    rw [InBuf.length_contents]
    omega
  rw [expected, expected, hstorage, messages_of_findLine hline]
  by_cases hproper : 0 < len ∧ len < messageLen
  · rw [if_pos hproper] at hmsg ⊢
    rw [hmsg, ircConnMsgParse_take _ hlen]
    simp
  · -- a line that is skipped pushes the previous message again, which gives no event
    rw [if_neg hproper] at hmsg ⊢
    simp [hmsg, hcond hproper]

/-- The connection is lost in `conn_ready`: the messages of the buffer are lost too, and the pseudo
message gives the DISCONNECT. -/
theorem lostReady {r : RecvResult} {rc : ℤ} {m : Net} (h : Waited n r rc m)
    (hout : Outstanding (linkEvents n.trace ++ (n.conn.storage.toList.flatMap Link.ofMsg))) :
    Linked [] (connReschedule
      (({ m with conn := { m.conn with inb := m.conn.inb.inject } } : Net).emit .inject)) := by
  have hm : linkEvents m.trace = linkEvents n.trace ∧ m.conn.storage = n.conn.storage := by
    cases h with
    | mk => simp
  refine of_not_waits (by simp [Waits, connReschedule]) (by simp [connReschedule]) ?_
  have hevents : linkEvents (m.trace ++ [.inject]) = linkEvents n.trace := by
    rw [linkEvents_append, hm.1]
    exact List.append_nil _
  have hdisconnect : (messages InBuf.internalLine).flatMap Link.ofMsg = [.disconnect] := by
    rw [messages_internalLine]
    decide
  simp only [connReschedule, expected, InBuf.contents_inject, List.flatMap_append, Net.emit_trace,
    Net.emit_conn, hevents, hm.2, hdisconnect]
  rw [← List.append_assoc, linkStatus_append, hout]
  rfl

/-- A line leaves the buffer, and its message is pushed. -/
theorem produce {len : ℕ} {msg : ConnMsg} (hn : Linked [] n) (hstorage : n.conn.storage = none)
    (hline : n.conn.inb.findLine = some len)
    (hmsg : msg = if 0 < len ∧ len < messageLen then (ircConnMsgParse n.conn.inb.contents len).2
      else n.conn.msg)
    (hcond : ¬ (0 < len ∧ len < messageLen) → Link.ofMsg n.conn.msg = []) (again : Bool) :
    Linked [] ⟨{ n.conn with
      msg
      storage := some msg
      again
      inb := n.conn.inb.shift (len + 2) },
      n.trace ++ [.next (n.conn.inb.contents.take (len + 2))]⟩ := by
  have hexpected := expected_produce hstorage hline hmsg hcond again
  have harrived : arrived (n.trace ++ [.next (n.conn.inb.contents.take (len + 2))]) =
      arrived n.trace := by simp [arrivedStep]
  have hevents : linkEvents (n.trace ++ [.next (n.conn.inb.contents.take (len + 2))]) =
      linkEvents n.trace := by
    rw [linkEvents_append]
    exact List.append_nil _
  refine ⟨?_, fun hwaits => ?_, fun rc hrc => harrived.trans (hn.dial rc hrc)⟩
  · rw [hevents, hexpected, hn.status, welcomes_congr harrived]
    rfl
  · rw [harrived, ← hn.rest hwaits, InBuf.contents_shift (InBuf.findLine_lt hline)]
    exact (rest_of_findPair hline).symm

/-- Every step that satisfies `ConnEventCond` keeps the invariant, if the IRC server does what it
should. -/
theorem trans {a : ConnAct} (hn : Linked [] n) (hcoh : Coherent n) (h : ConnTrans lines n a n')
    (hcond : ConnEventCond n a) (hone : OneWelcome n'.trace) : Linked [] n' := by
  cases h with
  | quiet => exact hn.congr Iff.rfl (fun _ => id) rfl rfl rfl rfl
  | redial hpoint _ _ h =>
    exact of_suspended h (hn.status_of_not_waits (by simp [Waits, hpoint]))
  | @identify _ _ _ _ soError _ hpoint hrevents hai ha hso h =>
    have hrest := (hcond hrevents).1 hpoint _ _ _ hai ha hso
    have hd := n.dialed_trace soError
    refine of_identified h ((arrived_dialed hd).elim (·.trans (hn.dial 0 hpoint)) id) hrest ?_
    rw [linkEvents_dialed hd]
    exact hn.status_of_not_waits (by simp [Waits, hpoint])
  | @waitIdent _ _ m hpoint _ h =>
    have hpoint' : m.conn.ioCoro = some .ident := by
      rw [h.frame]
      exact hpoint
    rcases connIdentLoop_cases m with ⟨-, timer, heq⟩ | ⟨-, heq⟩
    · rw [heq] at hone ⊢
      refine (of_waited h hn (.inl hpoint) hone).congr ?_ (by simp) rfl rfl rfl rfl
      simp [Waits, hpoint']
    · rw [heq] at hone ⊢
      refine (of_waited h hn (.inl hpoint) hone).congr ?_ (by simp) rfl rfl rfl rfl
      simp [Waits, hpoint']
  | waitReady hpoint _ h =>
    exact (of_waited h hn (.inr hpoint) hone).congr Iff.rfl (fun _ => id) rfl rfl rfl rfl
  | @lostIdent _ _ _ m hpoint hrevents hrc h hwait =>
    -- no event is injected, so the connection must not have given a CONNECT
    have hm := of_waited h hn (.inl hpoint) hone
    exact of_not_waits (by simp [Waits, connReschedule]) (by simp [connReschedule])
      (hm.status_of_not_outstanding ((hcond hrevents).2.1 hpoint _ hwait hrc))
  | lostReady hpoint hrevents hrc h hwait =>
    exact lostReady h ((hcond hrevents).2.2 hpoint _ hwait hrc)
  | teardown hrevents hpoint =>
    -- nothing is dispatched when the watchdog destroys the coroutine
    refine of_not_waits (by simp [Waits]) (by simp) ?_
    rw [linkEvents_append, linkEvents_closeCall, List.append_nil]
    exact hn.status_of_not_outstanding ((hcond hrevents).1 hpoint)
  | respawn _ hpoint _ _ h =>
    have hnone := hcoh.delay.1 hpoint
    exact of_suspended h (hn.status_of_not_waits (by simp [Waits, hnone]))
  | @respawnIdent _ _ ai fd _ hrevents hpoint honce h =>
    have hnone := hcoh.delay.1 hpoint
    refine of_identified h (by simp [Net.connected, connEstablished, arrivedStep])
      ((hcond hrevents).2 hpoint honce) ?_
    show linkStatus (linkEvents (n.connected ai fd).trace ++ expected n) = some false
    rw [linkEvents_dialed (n.connected_trace ai fd)]
    exact hn.status_of_not_waits (by simp [Waits, hnone])
  | @produce len msg again hstorage hline hmsg =>
    exact hn.produce hstorage hline hmsg (hcond hstorage len hline) again

/-- The message that the consumer pulls is going to give its event. -/
theorem pull (hn : Linked [] n) {msg : ConnMsg} (hstorage : n.conn.storage = some msg)
    (pulled : ConnMsg) :
    Linked (Link.ofMsg msg) ⟨{ n.conn with storage := none, msg := pulled }, n.trace⟩ := by
  refine ⟨?_, hn.rest, hn.dial⟩
  have hexpected : expected n =
      Link.ofMsg msg ++ expected ⟨{ n.conn with storage := none, msg := pulled }, n.trace⟩ := by
    simp [expected, hstorage]
  have hstatus := hn.status
  rw [hexpected, List.append_nil, ← List.append_assoc] at hstatus
  exact hstatus

/-- The event is dispatched. -/
theorem dispatch {e : Link} (hn : Linked [e] n) {ev : IrcEvent}
    (hev : Link.ofCall (.dispatch ev) = [e]) : Linked [] (n.emit (.dispatch ev)) := by
  have harrived : arrived (n.trace ++ [.dispatch ev]) = arrived n.trace := by simp [arrivedStep]
  have hevents : linkEvents (n.trace ++ [.dispatch ev]) = linkEvents n.trace ++ [e] := by
    rw [linkEvents_append]
    simp [linkEvents, hev]
  refine ⟨?_, fun hwaits => ?_, fun rc hrc => harrived.trans (hn.dial rc hrc)⟩
  · rw [Net.emit_trace, hevents, welcomes_congr harrived, List.append_nil]
    exact hn.status
  · rw [Net.emit_trace, harrived]
    exact hn.rest hwaits

theorem spawn (lines : List CStr) (ais : Option (List AddrInfo)) (uninit : ConnMsg)
    (stale : List ℤ) {trace : List Call} (hstatus : linkStatus (linkEvents trace) = some false) :
    Linked [] (ircConnSpawn lines ais uninit stale trace) := by
  have hevents : linkEvents (trace ++ [.spawn]) = linkEvents trace := by
    rw [linkEvents_append]
    exact List.append_nil _
  rcases connIoSpawn_cases false lines ais ⟨connAlloc uninit stale, trace ++ [.spawn]⟩ with
    ⟨-, state, timer, -, hsus⟩ | ⟨-, ai, fd, timer, hident⟩
  · refine of_suspended hsus ?_
    simp only [hevents]
    simpa [expected, connAlloc, messages, lineMessages] using hstatus
  · refine of_identified hident (by simp [Net.connected, connEstablished, arrivedStep])
      (by simp [Net.connected, connEstablished, connAlloc]) ?_
    rw [linkEvents_dialed (Net.connected_trace _ ai fd), hevents]
    simpa [expected, Net.connected, connEstablished, connAlloc, messages, lineMessages]
      using hstatus

end Linked

/-! ## Runs -/

theorem exists_linkStatus_of_append {es es' : List Link} {up : Bool}
    (h : linkStatus (es ++ es') = some up) : ∃ up', linkStatus es = some up' := by
  rw [linkStatus_append] at h
  obtain ⟨up', hup', -⟩ := Option.bind_eq_some_iff.1 h
  exact ⟨up', hup'⟩

/-- The events of the list `es` are dispatched before those expected. Without a connection they are
dispatched at the end. -/
def Sys.Linked (es : List Link) (s : Sys) : Prop :=
  s.Holds (fun n => Coherent n ∧ Irccd.Linked es n)
    fun trace => linkStatus (linkEvents trace ++ es) = some false

namespace Sys.Linked

variable {es : List Link} {s t : Sys}

/-- Lines and other events make no difference. -/
theorem talk (hs : s.Linked es) (h : Talk IrcEvent.Plain s t) : t.Linked es := by
  have hplain : ∀ {ev : IrcEvent}, ev.Plain → Link.ofCall (.dispatch ev) = [] := by
    intro ev hev
    obtain ⟨hconnect, hdisconnect⟩ := hev
    cases ev <;> first | rfl | exact absurd rfl hconnect | exact absurd rfl hdisconnect
  refine h.holds (fun n line hfits _ _ hn => ?_) (fun n ev hev hn => ?_)
    (fun trace ev hev htrace => ?_) hs
  · refine ⟨hn.1.append id rfl (.inl rfl), hn.2.congr Iff.rfl (fun _ => id) rfl rfl ?_ ?_⟩
    · rw [linkEvents_append]
      exact List.append_nil _
    · simp [arrivedStep]
  · refine ⟨hn.1.append id rfl (.inr rfl), hn.2.congr Iff.rfl (fun _ => id) rfl rfl ?_ ?_⟩
    · rw [Net.emit_trace, linkEvents_append]
      simp [linkEvents, hplain hev]
    · simp [arrivedStep]
  · rw [linkEvents_append]
    simpa [linkEvents, hplain hev] using htrace

theorem dispatch {e : Link} {ev : IrcEvent} (hs : s.Linked [e])
    (hev : Link.ofCall (.dispatch ev) = [e]) : (Irccd.dispatch s ev).Linked [] := by
  cases hco : s.server.coroutine with
  | none =>
    have htrace := (Sys.holds_iff_of_none hco).1 hs
    refine (Sys.holds_iff_of_none (s := Irccd.dispatch s ev) hco).2 ?_
    simpa [Irccd.dispatch, Sys.emit, linkEvents, hev] using htrace
  | some co =>
    have hn := (Sys.holds_iff_of_some hco).1 hs
    exact (Sys.holds_iff_of_some (s := Irccd.dispatch s ev) hco).2
      ⟨hn.1.append id rfl (.inr rfl), hn.2.dispatch hev⟩

theorem consumer (hs : s.Linked []) (h : resumeConsumer s = some t)
    (hcond : ∀ co ∈ s.server.coroutine, co.consumer.isSome = true → ∀ msg ∈ co.conn.storage,
      Link.ofMsg msg = []) : t.Linked [] := by
  rcases resumeConsumer_cases h with rfl | ⟨co, msg, u, k, hco, hstorage, hconsume, rfl⟩
  · exact hs
  have hn := (Sys.holds_iff_of_some hco).1 hs
  -- between the pull and the dispatch the event is neither expected nor dispatched
  have hpull : (s.setNet co ⟨{ co.conn with storage := none, msg := pulledMsg co.conn.msg },
      s.trace⟩).Linked (Link.ofMsg msg) := ⟨hn.1.pull _, hn.2.pull hstorage _⟩
  refine Sys.holds_setConsumer.2 ?_
  rcases consume_cases hconsume with ⟨-, hcmd, rfl⟩ | ⟨-, hcmd, rfl⟩ | ⟨hplain, hsaid⟩
  · have hmsg : Link.ofMsg msg = [.disconnect] := by
      rw [Link.ofMsg, hcmd]
      rfl
    exact (hmsg ▸ hpull).dispatch rfl
  · have hmsg : Link.ofMsg msg = [.connect] := by
      rw [Link.ofMsg, hcmd]
      rfl
    exact ((hmsg ▸ hpull).talk (says_rejoin _).talk).dispatch rfl
  · -- a message without an event, or one that the pending whois drops
    have hmsg : Link.ofMsg msg = [] := by
      cases hk : co.consumer with
      | none => exact ofMsg_eq_nil_iff.2 (hplain hk)
      | some ev => exact hcond co hco (by rw [hk]; rfl) msg hstorage
    exact (hmsg ▸ hpull).talk hsaid.talk

theorem connect (hs : s.Linked []) (ais : Option (List AddrInfo)) (uninit : ConnMsg) :
    (ircServerConnect s ais uninit).Linked [] := by
  rcases ircServerConnect_cases s ais uninit with heq | ⟨hco, -, n, co, rfl, heq⟩
  · rwa [heq]
  · have htrace := (Sys.holds_iff_of_none hco).1 hs
    rw [List.append_nil] at htrace
    rw [heq]
    exact Sys.holds_setNet.2 ⟨.spawn _ _ _ _ _, .spawn _ _ _ _ htrace⟩

/-- What is dispatched alternates. -/
theorem exists_status (hs : s.Linked []) : ∃ up, linkStatus (linkEvents s.trace) = some up := by
  cases hco : s.server.coroutine with
  | none => exact exists_linkStatus_of_append ((Sys.holds_iff_of_none hco).1 hs)
  | some co =>
    have hstatus := ((Sys.holds_iff_of_some hco).1 hs).2.status
    rw [List.append_assoc] at hstatus
    exact exists_linkStatus_of_append hstatus

theorem alternating (hs : s.Linked []) : Alternating s := by
  obtain ⟨up, hup⟩ := hs.exists_status
  refine ⟨alternates_of_linkStatus hup, fun hlast => ?_⟩
  obtain rfl := linkStatus_of_getLast? hup hlast
  cases hco : s.server.coroutine with
  | none =>
    have htrace := (Sys.holds_iff_of_none hco).1 hs
    rw [List.append_nil, hup] at htrace
    cases htrace
  | some co =>
    refine (Sys.holds_iff_of_some hco).2 ?_
    have hstatus := ((Sys.holds_iff_of_some hco).1 hs).2.status
    rw [List.append_nil, linkStatus_append, hup, Option.bind_some] at hstatus
    -- the first of the events expected is a DISCONNECT, if there is one
    cases hexpected : expected ⟨co.conn, s.trace⟩ with
    | nil =>
      rw [hexpected, List.foldlM_nil] at hstatus
      exact .inl (of_decide_eq_true (Option.some.inj hstatus).symm).1
    | cons e es =>
      rw [hexpected, List.foldlM_cons] at hstatus
      obtain ⟨up', hstep, -⟩ := Option.bind_eq_some_iff.1 hstatus
      rcases linkStep_eq_some_iff.1 hstep with ⟨h, -, -⟩ | ⟨-, rfl, -⟩
      · cases h
      · exact .inr (by simp)

end Sys.Linked

/-- `irc_server_disconnect` dispatches nothing. -/
theorem linkEvents_disconnect (s : Sys) :
    linkEvents (ircServerDisconnect s).trace = linkEvents s.trace := by
  unfold ircServerDisconnect
  cases s.server.coroutine with
  | none => rfl
  | some co =>
    simp only [ircConnDestroy, connIoDestroy]
    split
    · rfl
    · split
      · rfl
      · simp only [connClose, Net.emit_trace, linkEvents_append]
        exact List.append_nil _

theorem linked_disconnect {s : Sys} {es : List Link}
    (h : linkStatus (linkEvents s.trace ++ es) = some false) :
    (ircServerDisconnect s).Linked es := by
  refine (Sys.holds_iff_of_none (s := ircServerDisconnect s) rfl).2 ?_
  rwa [linkEvents_disconnect]

/-- Every step that satisfies `EventCond` keeps the invariant, if the IRC server does what it
should. -/
theorem linked_step {s s' : Sys} {a : Act} (hs : s.Linked []) (h : step s a = some s')
    (hcond : EventCond s a s') (hone : OneWelcome s'.trace) : s'.Linked [] := by
  have hdown : ¬ Outstanding (linkEvents s.trace) →
      linkStatus (linkEvents s.trace ++ []) = some false := by
    intro hnot
    obtain ⟨up, hup⟩ := hs.exists_status
    rw [List.append_nil]
    cases up with
    | false => exact hup
    | true => exact absurd hup hnot
  have hperform := (step_eq_some_iff.1 h).1
  -- only the connection, the consumer and the ways to end a connection matter
  cases a with
  | conn c =>
    obtain ⟨co, n, hco, hn, rfl⟩ := exists_of_step_conn h
    obtain ⟨hcoh, hlinked⟩ := (Sys.holds_iff_of_some hco).1 hs
    have htrans := connStep_cases hcoh hn
    exact Sys.holds_setNet.2 ⟨hcoh.trans htrans, hlinked.trans hcoh htrans (hcond co hco).1 hone⟩
  | resumeConsumer => exact hs.consumer hperform hcond
  | serverConnect ais uninit =>
    cases hperform
    exact hs.connect ais uninit
  | serverDisconnect =>
    cases hperform
    exact linked_disconnect (hdown hcond)
  | serverReconnect ais uninit =>
    cases hperform
    exact (linked_disconnect (hdown hcond)).connect ais uninit
  | botServerAdd ais uninit =>
    cases hperform
    unfold ircBotServerAdd
    split
    · exact hs
    · exact (hs.connect ais uninit).congr rfl rfl
  | botServerRemove =>
    cases hperform
    unfold ircBotServerRemove
    by_cases hlisted : s.listed = true
    · rw [if_pos hlisted]
      have hout : linkStatus (linkEvents s.trace) = some true := hcond hlisted
      -- the DISCONNECT is dispatched once the coroutines are destroyed
      have hlinked : (ircServerDisconnect s).Linked [.disconnect] := by
        refine linked_disconnect ?_
        rw [linkStatus_append, hout]
        rfl
      exact (hlinked.dispatch rfl).congr rfl rfl
    · rw [if_neg hlisted]
      exact hs
  | join name pass =>
    cases hperform
    exact hs.talk (says_ircServerJoin s name pass).talk
  | send text =>
    cases hperform
    exact hs.talk (.send text .refl)
  | setNickname nickname =>
    cases hperform
    exact hs.talk (ircServerSetNickname_talk s nickname)
  | set v =>
    simp only [perform, Option.map_eq_some_iff] at hperform
    obtain ⟨server, hserver, rfl⟩ := hperform
    exact hs.talk (.update .refl (ircServerSet_update hserver))
  | tick clock =>
    cases hperform
    exact hs.congr rfl rfl

/-- If the IRC server sends at most one 001 on each connection and no 000, and the steps of the run
satisfy `EventCond`, then CONNECT and DISCONNECT alternate, and a connection that gave CONNECT gives
DISCONNECT when it ends. -/
theorem alternating_of_allSteps (name nickname username realname : CStr) (as : List Act)
    (hone : Runs.AllStates step (fun s => OneWelcome s.trace)
      (Sys.start (ircServerNew name nickname username realname)) as)
    (h : Runs.AllSteps step EventCond
      (Sys.start (ircServerNew name nickname username realname)) as) :
    Runs.AllStates step Alternating
      (Sys.start (ircServerNew name nickname username realname)) as := by
  have hstart : (Sys.start (ircServerNew name nickname username realname)).Linked [] :=
    show linkStatus [] = some false from rfl
  have hlinked := Runs.AllStates.of_allSteps
    (fun _ _ _ hs hstep hcond => linked_step hs hstep hcond.1 hcond.2) hstart (h.and_allStates hone)
  exact hlinked.mono fun _ hs => hs.alternating

/-- The theorem on a run with a loss, a second connection, and the removal of the server. -/
theorem alternating_reconnect :
    Runs.AllStates step Alternating (Sys.start localServer)
      [.botServerAdd (some [⟨3, .done, .inProgress 0⟩]) ⟨none, [], []⟩,
        .conn (.ioEvent .evWrite), .conn (.resumeIo .again []),
        .conn (.ioEvent .evWrite), .conn (.resumeIo .again [.sent 100]),
        .conn (.ioEvent .evRead), .conn (.resumeIo (.data (cstr "001 bot :Hi\r\nPI")) []),
        .conn .resumeProducer, .resumeConsumer,
        .conn (.ioEvent .evRead), .conn (.resumeIo .failed []),
        .conn .resumeProducer, .resumeConsumer,
        .conn .timerCallback, .conn (.resumeTimer none),
        .conn .timerExpire, .conn .timerCallback,
        .conn (.resumeTimer (some [⟨3, .done, .inProgress 0⟩])),
        .conn (.ioEvent .evWrite), .conn (.resumeIo .again []),
        .conn (.ioEvent .evWrite), .conn (.resumeIo .again [.sent 100]),
        .conn (.ioEvent .evRead), .conn (.resumeIo (.data (cstr "001 bot :Hi\r\n")) []),
        .conn .resumeProducer, .resumeConsumer,
        .botServerRemove] :=
  alternating_of_allSteps _ _ _ _ _ (by decide +kernel) (by decide +kernel)

/-- `irc_server_reconnect` on a connection that is established: there are two CONNECT events in a
row. -/
theorem not_alternating_reconnect :
    ¬ ∀ as, Runs.AllStates step (fun s => OneWelcome s.trace) (Sys.start localServer) as →
      Runs.AllStates step Alternating (Sys.start localServer) as := by
  intro h
  have hrun : (Runs.exec step (Sys.start localServer)
      [.serverConnect (some [⟨3, .done, .inProgress 0⟩]) ⟨none, [], []⟩,
        .conn (.ioEvent .evWrite), .conn (.resumeIo .again []),
        .conn (.ioEvent .evRead), .conn (.resumeIo (.data (cstr "001 bot :Hi\r\n")) []),
        .conn .resumeProducer, .resumeConsumer,
        .serverReconnect (some [⟨4, .done, .inProgress 0⟩]) ⟨none, [], []⟩,
        .conn (.ioEvent .evWrite), .conn (.resumeIo .again []),
        .conn (.ioEvent .evRead), .conn (.resumeIo (.data (cstr "001 bot :Hi\r\n")) []),
        .conn .resumeProducer, .resumeConsumer]).map (fun t => linkEvents t.trace) =
      some [.connect, .connect] := by decide +kernel
  obtain ⟨t, ht, heq⟩ := Option.map_eq_some_iff.1 hrun
  have halternates := ((h _ (by decide +kernel)).last ht).1
  rw [heq] at halternates
  exact absurd halternates.2 (by simp)

end Irccd
