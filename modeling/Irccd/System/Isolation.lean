import Irccd.Conn.Traffic
import Irccd.System.Coherent

/-!
# Connections that do not mix

Do the buffers, which outlive a socket, carry anything from one connection to the next?

* `FreshCond`: when a connection is established the buffers hold nothing of an earlier one: no byte
  to be sent, and no unfinished line;
* `Tags`, `Apart`: the invariant of the buffers;
* `isolated_of_allSteps`: a run whose steps satisfy `FreshCond` stays in `Isolated`.
-/

namespace Irccd

open Framing

/-- Nothing is left to be sent, and no line is unfinished in the input buffer. -/
def Fresh (n : Net) : Prop := n.conn.outb.outsz = 0 ∧ rest isCR isLF n.conn.inb.contents = []

instance (n : Net) : Decidable (Fresh n) := inferInstanceAs (Decidable (_ ∧ _))

/-- The buffers are `Fresh` when `conn_connect` succeeds. -/
def FreshCond (_ : List CStr) (n : Net) : ConnAct → Prop
  | .resumeIo _ _ =>
    n.conn.ioCoro = some (.dial 0) → n.conn.io.revents ≠ .none →
      ∀ a rest soError, n.conn.ai = a :: rest → a.connect = .inProgress soError → 0 ≤ soError →
        Fresh n
  | .resumeTimer ais =>
    n.conn.timer.revents = true → n.conn.timerCoro = .delay → connectsAtOnce ais = true → Fresh n
  | _ => True

instance (lines : List CStr) (n : Net) : (a : ConnAct) → Decidable (FreshCond lines n a)
  | .resumeIo _ _ => inferInstanceAs (Decidable (_ → _ → _))
  | .resumeTimer _ => inferInstanceAs (Decidable (_ → _ → _ → Fresh n))
  | .ioEvent _ | .timerExpire | .timerCallback | .resumeProducer => isTrue trivial

/-! ## The input buffer -/

/-- The bytes `bs` are those of the buffer: complete lines of one connection each, then bytes of
a single connection, which is the present one if `open` holds. -/
structure Tags (m : Inflow) (present : Prop) (bs : List UInt8) : Prop where
  contents : m.buf.map Prod.fst = bs
  lines : ∃ old new number, m.buf = old ++ new ∧
    Complete (isCR ∘ Prod.fst) (isLF ∘ Prod.fst) OneConn old ∧ (∀ x ∈ new, x.2 = number) ∧
    (present → number = m.number)

theorem oneConn_of_forall {bs : List Tagged} {number : ℕ} (h : ∀ x ∈ bs, x.2 = number) :
    OneConn bs :=
  fun x hx y hy => (h x hx).trans (h y hy).symm

namespace Tags

variable {m : Inflow} {present present' : Prop} {bs : List UInt8}

theorem mono (h : Tags m present bs) (hpresent : present' → present) : Tags m present' bs := by
  obtain ⟨old, new, number, hbuf, hold, hnew, hnumber⟩ := h.lines
  exact ⟨h.contents, old, new, number, hbuf, hold, hnew, fun h => hnumber (hpresent h)⟩

theorem recv (h : Tags m present bs) (hpresent : present) (data : List UInt8) :
    Tags { m with buf := m.buf ++ data.map (·, m.number) } present (bs ++ data) := by
  obtain ⟨old, new, number, hbuf, hold, hnew, hnumber⟩ := h.lines
  have hdata : (data.map (·, m.number)).map Prod.fst = data := by simp [Function.comp_def]
  refine ⟨by rw [List.map_append, h.contents, hdata], old, new ++ data.map (·, m.number), number,
    ?_, hold, ?_, hnumber⟩
  · simp only [hbuf, List.append_assoc]
  · intro x hx
    rcases List.mem_append.1 hx with hx | hx
    · exact hnew x hx
    · obtain ⟨b, -, rfl⟩ := List.mem_map.1 hx
      exact (hnumber hpresent).symm

/-- A coroutine that does not wait receives nothing. -/
theorem leave (h : Tags m present bs) (number : ℕ) (hpresent : ¬ present') :
    Tags { m with number } present' bs := by
  obtain ⟨old, new, k, hbuf, hold, hnew, -⟩ := h.lines
  exact ⟨h.contents, old, new, k, hbuf, hold, hnew, fun h => absurd h hpresent⟩

/-- A new connection may begin after complete lines. -/
theorem enter (h : Tags m present bs) (hrest : rest isCR isLF bs = []) (number : ℕ) :
    Tags { m with number } present' bs := by
  obtain ⟨old, new, k, hbuf, hold, hnew, -⟩ := h.lines
  -- the last bytes are complete lines too, so they join the old ones
  have hnil : rest (isCR ∘ Prod.fst) (isLF ∘ Prod.fst) m.buf = [] := by
    have hmap := congrArg Prod.snd (frame_map Prod.fst isCR isLF m.buf)
    rw [h.contents, ← rest, hrest] at hmap
    exact List.map_eq_nil_iff.1 hmap.symm
  rw [hbuf, hold.rest_append] at hnil
  have hlines : Complete (isCR ∘ Prod.fst) (isLF ∘ Prod.fst) OneConn new :=
    .of_rest_nil hnil fun l hl => oneConn_of_forall fun x hx => hnew x (hl.subset hx)
  exact ⟨h.contents, old ++ new, [], number, by simp [hbuf], hold.append hlines, by simp,
    fun _ => rfl⟩

/-- The first line is made of bytes of one connection. -/
theorem next (h : Tags m present bs) {len : ℕ} (hline : findPair isCR isLF bs = some len)
    (joined : Bool) :
    OneConn (m.buf.take (len + 2)) ∧
      Tags { m with buf := m.buf.drop (len + 2), joined } present (bs.drop (len + 2)) := by
  obtain ⟨old, new, number, hbuf, hold, hnew, hnumber⟩ := h.lines
  have hcontents : (m.buf.drop (len + 2)).map Prod.fst = bs.drop (len + 2) := by
    rw [List.map_drop, h.contents]
  rw [← h.contents, findPair_map, hbuf] at hline
  by_cases hnil : old = []
  · -- the line comes from the last connection
    subst hnil
    rw [List.nil_append] at hbuf
    refine ⟨oneConn_of_forall fun x hx => hnew x (hbuf ▸ List.mem_of_mem_take hx), hcontents, [],
      m.buf.drop (len + 2), number, rfl, .nil, fun x hx => ?_, hnumber⟩
    exact hnew x (hbuf ▸ List.mem_of_mem_drop hx)
  · -- the line is the first of the old ones
    obtain ⟨hone, old', hdrop, hold'⟩ := hold.take_drop hnil hline
    rw [← hbuf] at hone hdrop
    exact ⟨hone, hcontents, old', new, number, hdrop, hold', hnew, hnumber⟩

/-- The buffer is filled at once. -/
theorem fill (number : ℕ) (joined : Bool) (data : List UInt8) :
    Tags ⟨number, data.map (·, number), joined⟩ present data := by
  refine ⟨by simp [Function.comp_def], [], data.map (·, number), number, rfl, .nil, ?_,
    fun _ => rfl⟩
  intro x hx
  obtain ⟨b, -, rfl⟩ := List.mem_map.1 hx
  rfl

end Tags

/-! ## The invariant -/

/-- The output buffer holds what is pushed for this connection and not sent yet, and the input
buffer holds lines of earlier connections and bytes of this one. -/
structure Apart (n : Net) : Prop where
  isolated : Isolated n.trace
  dial : ∀ rc, n.conn.ioCoro = some (.dial rc) → traffic n.conn.fd n.trace = ⟨[], []⟩
  sent : Waits n → (traffic n.conn.fd n.trace).sent ++ n.conn.outb.contents =
    wire (traffic n.conn.fd n.trace).pushed
  head : Waits n → (traffic n.conn.fd n.trace).pushed.head? = some capReq
  tags : Tags (inflow n.trace) (Waits n) n.conn.inb.contents

theorem Isolated.dialed {trace trace' : List Call} (h : Isolated trace) (hd : Dialed trace trace') :
    Isolated trace' := by
  refine ⟨fun fd => ?_, ?_⟩
  · rcases @traffic_dialed fd _ _ hd with heq | heq
    · exact heq ▸ h.1 fd
    · exact heq ▸ Traffic.clean_nil
  · obtain ⟨number, heq⟩ := inflow_dialed hd
    rw [heq]
    exact h.2

theorem Isolated.pushes {trace : List Call} (h : Isolated trace) (lines : List CStr) :
    Isolated (trace ++ lines.map .push) := by
  refine ⟨fun fd => ?_, ?_⟩
  · rw [traffic_append, traffic_pushes]
    exact (h.1 fd).push lines
  · rw [inflow_append, inflow_pushes]
    exact h.2

namespace Apart

variable {lines : List CStr} {n n' : Net}

theorem of_suspended (h : Suspended n n') (hiso : Isolated n.trace)
    (htags : Tags (inflow n.trace) False n.conn.inb.contents) : Apart n' := by
  cases h with
  | @idle _ _ _ _ trace hd =>
    obtain ⟨number, heq⟩ := inflow_dialed hd
    refine ⟨hiso.dialed hd, by simp, by simp [Waits], by simp [Waits], ?_⟩
    rw [heq]
    exact htags.leave number (by simp [Waits])
  | @dial _ _ fd _ _ _ before hd =>
    have hd' : Dialed n.trace (before ++ [.socket fd]) := hd.snoc trivial
    obtain ⟨number, heq⟩ := inflow_dialed hd'
    refine ⟨hiso.dialed hd', fun _ _ => ?_, by simp [Waits], by simp [Waits], ?_⟩
    · simp [trafficStep]
    · rw [heq]
      exact htags.leave number (by simp [Waits])

/-- A connection begins with the lines of `conn_ident`, if nothing is left of an earlier one. -/
theorem of_identified (h : Identified true lines n n') (hiso : Isolated n.trace)
    (htags : Tags (inflow n.trace) True n.conn.inb.contents)
    (htraffic : traffic n.conn.fd n.trace = ⟨[], []⟩) (hempty : n.conn.outb.outsz = 0)
    (hlines : lines.head? = some capReq) : Apart n' := by
  cases h with
  | @mk sent outb timer state point hout hpoint _ _ hhead =>
    -- the first line fits in an empty buffer, so it is the first one pushed
    have hfits : n.conn.outb.Fits (capReq.take (messageLen - 1)) := by
      rw [OutBuf.Fits, hempty]
      decide
    have hcap : capReq.take (messageLen - 1) = capReq := by decide
    have hcontents : n.conn.outb.contents = [] := OutBuf.contents_eq_nil_iff.2 hempty
    have htraffic' : traffic n.conn.fd (n.trace ++ sent.map .push) = ⟨[], sent⟩ := by
      rw [traffic_append, traffic_pushes, htraffic]
      rfl
    refine ⟨hiso.pushes sent, ?_, fun _ => ?_, fun _ => ?_, ?_⟩
    · rcases hpoint with ⟨-, rfl, -⟩ | ⟨-, rfl, -⟩ <;> simp
    · rw [htraffic', hout, hcontents]
      rfl
    · rw [htraffic', hhead rfl capReq hlines hfits, hcap]
    · rw [inflow_append, inflow_pushes]
      exact htags.mono fun _ => trivial

/-- What `conn_wait` sends and receives belongs to this connection. -/
theorem of_waited {r : RecvResult} {rc : ℤ} (h : Waited n r rc n') (hn : Apart n)
    (hwaits : Waits n) : Apart n' := by
  have hsent := hn.sent hwaits
  have hhead := hn.head hwaits
  cases h with
  | @mk inb outb io data sent hin hout =>
    have htraffic : ∀ fd, traffic fd (n.trace ++ recvCall n.conn.fd data ++
        sendCall n.conn.fd sent) = if n.conn.fd = fd then
          { traffic fd n.trace with sent := (traffic fd n.trace).sent ++ sent }
        else traffic fd n.trace := by
      intro fd
      rw [traffic_append, traffic_append, traffic_recvCall, traffic_sendCall]
    have hinflow : inflow (n.trace ++ recvCall n.conn.fd data ++ sendCall n.conn.fd sent) =
        { inflow n.trace with
          buf := (inflow n.trace).buf ++ data.map (·, (inflow n.trace).number) } := by
      rw [inflow_append, inflow_append, inflow_recvCall, inflow_sendCall]
    have hsent' : (traffic n.conn.fd n.trace).sent ++ sent ++ outb.contents =
        wire (traffic n.conn.fd n.trace).pushed := by
      rw [List.append_assoc, hout, hsent]
    refine ⟨⟨fun fd => ?_, ?_⟩, fun rc hrc => ?_, fun _ => ?_, fun _ => ?_, ?_⟩
    · -- what the other descriptors sent is not changed
      rw [htraffic]
      split
      · rename_i hfd
        subst hfd
        exact ⟨⟨_, hsent'⟩, fun _ => hhead⟩
      · exact hn.isolated.1 fd
    · rw [hinflow]
      exact hn.isolated.2
    · have hrc' : n.conn.ioCoro = some (.dial rc) := hrc
      rcases hwaits with hwaits | hwaits <;> simp [hwaits] at hrc'
    · simp only [htraffic, if_true]
      exact hsent'
    · simp only [htraffic, if_true]
      exact hhead
    · rw [hinflow]
      simp only [hin]
      exact hn.tags.recv hwaits data

/-- The coroutine is suspended in another place. -/
theorem suspend (hn : Apart n) {c : Conn} (hfd : c.fd = n.conn.fd)
    (hin : c.inb = n.conn.inb) (hout : c.outb = n.conn.outb)
    (hdial : ∀ rc, c.ioCoro ≠ some (.dial rc))
    (hwaits : Waits ⟨c, n.trace⟩ → Waits n) : Apart ⟨c, n.trace⟩ := by
  refine ⟨hn.isolated, fun rc hrc => absurd hrc (hdial rc), fun h => ?_, fun h => ?_, ?_⟩
  · simp only [hfd, hout]
    exact hn.sent (hwaits h)
  · simp only [hfd]
    exact hn.head (hwaits h)
  · rw [hin]
    exact hn.tags.mono hwaits

/-- The connection is lost in `conn_ready`: the pseudo message replaces whatever the buffer
holds. -/
theorem lostReady (hn : Apart n) :
    Apart (connReschedule (({ n with conn := { n.conn with inb := n.conn.inb.inject } } : Net).emit
      .inject)) := by
  refine ⟨⟨fun fd => ?_, ?_⟩, by simp [connReschedule], by simp [connReschedule, Waits],
    by simp [connReschedule, Waits], ?_⟩
  · simpa [connReschedule, trafficStep] using hn.isolated.1 fd
  · simpa [connReschedule, inflowStep] using hn.isolated.2
  · simp only [connReschedule, Net.emit_trace, Net.emit_conn, inflow_append, InBuf.contents_inject]
    exact Tags.fill _ _ _

/-- A line of one connection leaves the buffer. -/
theorem produce (hn : Apart n) {len : ℕ} {msg : ConnMsg} {again : Bool}
    (hline : n.conn.inb.findLine = some len) :
    Apart ⟨{ n.conn with
      msg
      storage := some msg
      again
      inb := n.conn.inb.shift (len + 2) },
      n.trace ++ [.next (n.conn.inb.contents.take (len + 2))]⟩ := by
  have hlen : (n.conn.inb.contents.take (len + 2)).length = len + 2 := by
    have := InBuf.findLine_lt hline
    rw [List.length_take, InBuf.length_contents]
    omega
  obtain ⟨hone, htags⟩ := hn.tags.next hline false
  have hinflow : inflow (n.trace ++ [.next (n.conn.inb.contents.take (len + 2))]) =
      { inflow n.trace with
        buf := (inflow n.trace).buf.drop (len + 2)
        joined := false } := by
    simp [inflowStep, hlen, hone, hn.isolated.2]
  refine ⟨⟨fun fd => ?_, ?_⟩, fun rc hrc => ?_, fun h => ?_, fun h => ?_, ?_⟩
  · simpa [trafficStep] using hn.isolated.1 fd
  · rw [hinflow]
  · simpa [trafficStep] using hn.dial rc hrc
  · simpa [trafficStep] using hn.sent h
  · simpa [trafficStep] using hn.head h
  · rw [InBuf.contents_shift (InBuf.findLine_lt hline), hinflow]
    exact htags

/-- Every step that satisfies `FreshCond` keeps the connections apart. -/
theorem trans {a : ConnAct} (hn : Apart n) (h : ConnTrans lines n a n')
    (hcond : FreshCond lines n a) (hlines : lines.head? = some capReq) : Apart n' := by
  cases h with
  | quiet => exact ⟨hn.isolated, hn.dial, hn.sent, hn.head, hn.tags⟩
  | redial hpoint _ _ h => exact of_suspended h hn.isolated (hn.tags.leave _ id)
  | @identify _ _ _ _ soError _ hpoint hrevents hai ha hso h =>
    -- the buffers have nothing of the connection before, by the condition
    obtain ⟨hempty, hrest⟩ := hcond hpoint hrevents _ _ _ hai ha hso
    have hd := n.dialed_trace soError
    refine of_identified h (hn.isolated.dialed hd) ?_ ?_ hempty hlines
    · obtain ⟨number, heq⟩ := inflow_dialed hd
      rw [heq]
      exact hn.tags.enter hrest number
    · exact (traffic_dialed hd).elim (·.trans (hn.dial 0 hpoint)) id
  | @waitIdent _ _ m hpoint _ h =>
    have hm := of_waited h hn (.inl hpoint)
    have hpoint' : m.conn.ioCoro = some .ident := by
      rw [h.frame]
      exact hpoint
    rcases connIdentLoop_cases m with ⟨-, timer, heq⟩ | ⟨-, heq⟩
    · rw [heq]
      exact hm.suspend rfl rfl rfl (by simp) fun _ => .inl hpoint'
    · rw [heq]
      exact hm.suspend rfl rfl rfl (by simp) fun _ => .inl hpoint'
  | @waitReady _ _ m hpoint _ h =>
    have hm := of_waited h hn (.inr hpoint)
    have hpoint' : m.conn.ioCoro = some .ready := by
      rw [h.frame]
      exact hpoint
    exact hm.suspend rfl rfl rfl (by simp [hpoint']) id
  | lostIdent hpoint _ _ h =>
    have hm := of_waited h hn (.inl hpoint)
    exact hm.suspend rfl rfl rfl (by simp) (by simp [Waits])
  | lostReady hpoint _ _ h => exact (of_waited h hn (.inr hpoint)).lostReady
  | teardown =>
    -- no coroutine waits for what is in the buffer any more
    have hd := dialed_closeCall n.trace n.conn.fd
    obtain ⟨number, heq⟩ := inflow_dialed hd
    refine ⟨hn.isolated.dialed hd, by simp, by simp [Waits], by simp [Waits], ?_⟩
    rw [heq]
    exact hn.tags.leave number (by simp [Waits])
  | respawn _ _ _ _ h => exact of_suspended h hn.isolated (hn.tags.leave _ id)
  | @respawnIdent _ _ ai fd _ hrevents hpoint honce h =>
    obtain ⟨hempty, hrest⟩ := hcond hrevents hpoint honce
    have hd := n.connected_trace ai fd
    refine of_identified h (hn.isolated.dialed hd) ?_ ?_ hempty hlines
    · obtain ⟨number, heq⟩ := inflow_dialed hd
      show Tags (inflow (n.connected ai fd).trace) True n.conn.inb.contents
      rw [heq]
      exact hn.tags.enter hrest number
    · simp [Net.connected, connEstablished, trafficStep]
  | produce _ hline => exact hn.produce hline

theorem push (hn : Apart n) (hcoh : Coherent n) (hready : ircConnReady n.conn = true) (line : CStr)
    (hfits : n.conn.outb.Fits line) :
    Apart ⟨{ n.conn with
      outb := n.conn.outb.append line hfits
      io := nceIoReset n.conn.io n.conn.fd .evReadWrite }, n.trace ++ [.push line]⟩ := by
  have htraffic : traffic n.conn.fd (n.trace ++ [.push line]) =
      { traffic n.conn.fd n.trace with
        pushed := (traffic n.conn.fd n.trace).pushed ++ [line] } := by
    rw [traffic_append]
    rfl
  refine ⟨hn.isolated.pushes [line], fun rc hrc => ?_, fun h => ?_, fun h => ?_, ?_⟩
  · simp [ircConnReady, (hcoh.dial rc hrc).1] at hready
  · rw [htraffic, OutBuf.contents_append, wire_append, ← hn.sent h]
    simp [wire]
  · rw [htraffic]
    simp [hn.head h]
  · rw [inflow_append]
    exact hn.tags.mono id

theorem dispatch (hn : Apart n) (ev : IrcEvent) : Apart (n.emit (.dispatch ev)) := by
  have htraffic : ∀ fd, traffic fd (n.trace ++ [.dispatch ev]) = traffic fd n.trace := by
    simp [trafficStep]
  have hinflow : inflow (n.trace ++ [.dispatch ev]) = inflow n.trace := by simp [inflowStep]
  refine ⟨⟨fun fd => htraffic fd ▸ hn.isolated.1 fd, hinflow ▸ hn.isolated.2⟩, fun rc hrc => ?_,
    fun h => ?_, fun h => ?_, ?_⟩
  · exact (htraffic _).trans (hn.dial rc hrc)
  · exact (htraffic _) ▸ hn.sent h
  · exact (htraffic _) ▸ hn.head h
  · exact hinflow ▸ hn.tags.mono id

/-- A connection of `irc_server_connect` that is not established at once. -/
theorem spawn {lines : List CStr} {ais : Option (List AddrInfo)} (uninit : ConnMsg)
    (stale : List ℤ) {trace : List Call} (hiso : Isolated trace)
    (honce : connectsAtOnce ais = false) :
    Apart (ircConnSpawn lines ais uninit stale trace) := by
  rcases connIoSpawn_cases false lines ais ⟨connAlloc uninit stale, trace ++ [.spawn]⟩ with
    ⟨-, state, timer, -, hsus⟩ | ⟨honce', -⟩
  · refine of_suspended hsus ⟨fun fd => ?_, ?_⟩ ?_
    · simpa [trafficStep] using hiso.1 fd
    · simpa [inflowStep] using hiso.2
    · rw [inflow_append]
      exact Tags.fill _ _ []
  · simp [honce] at honce'

theorem destroy (hn : Apart n) : Isolated (ircConnDestroy n) := by
  unfold ircConnDestroy connIoDestroy
  split
  · exact hn.isolated
  · dsimp only
    split
    · exact hn.isolated
    · exact hn.isolated.dialed ((Dialed.refl _).snoc trivial)

end Apart

theorem apart_kept : Kept (fun n => Coherent n ∧ Apart n) Isolated
    (fun lines n a => FreshCond lines n a ∧ lines.head? = some capReq)
    (fun ais => connectsAtOnce ais = false) := by
  refine Kept.of_trans (fun lines n a n' _ hn h hcond => hn.trans h hcond.1 hcond.2)
    (fun n line hfits hready _ hcoh hn => hn.push hcoh hready line hfits)
    (fun n ev hn => hn.dispatch ev)
    (fun n _ hn => ⟨hn.isolated, hn.dial, hn.sent, hn.head, hn.tags.mono id⟩)
    (fun lines ais uninit stale trace hiso honce => Apart.spawn uninit stale hiso honce)
    (fun n _ hn => hn.destroy) (fun trace ev hiso => ?_)
  refine ⟨fun fd => ?_, ?_⟩
  · simpa [trafficStep] using hiso.1 fd
  · simpa [inflowStep] using hiso.2

/-- If the buffers are `Fresh` whenever a connection is established, and no connection that
`irc_server_connect` starts is established at once, then the connections stay isolated. -/
theorem isolated_of_allSteps (name nickname username realname : CStr) (as : List Act)
    (h : Runs.AllSteps step (StepCond FreshCond fun ais => connectsAtOnce ais = false)
      (Sys.start (ircServerNew name nickname username realname)) as) :
    Runs.AllStates step (fun s => Isolated s.trace)
      (Sys.start (ircServerNew name nickname username realname)) as := by
  have hstart : (Sys.start (ircServerNew name nickname username realname)).Holds
      (fun n => Coherent n ∧ Apart n) Isolated :=
    ⟨fun _ => Traffic.clean_nil, rfl⟩
  refine (Runs.AllStates.of_allSteps (fun _ _ _ => apart_kept.step) hstart
    (h.mono fun s a s' hcond => ⟨fun co c hco ha => ⟨hcond.1 co c hco ha, rfl⟩, hcond.2⟩)).mono ?_
  intro s hs
  cases hco : s.server.coroutine with
  | none => exact (Sys.holds_iff_of_none hco).1 hs
  | some co => exact ((Sys.holds_iff_of_some hco).1 hs).2.isolated

/-- The theorem on a run with a loss and a second connection. -/
theorem isolated_reconnect :
    Runs.AllStates step (fun s => Isolated s.trace) (Sys.start localServer)
      [.serverConnect (some [⟨3, .done, .inProgress 0⟩]) ⟨none, [], []⟩,
        .conn (.ioEvent .evWrite), .conn (.resumeIo .again []),
        .conn (.ioEvent .evWrite), .conn (.resumeIo .again [.sent 30]),
        .conn (.ioEvent .evWrite), .conn (.resumeIo .again [.sent 100]),
        .conn (.ioEvent .evRead), .conn (.resumeIo (.data (cstr ":home 001 bot :Hi\r\nPI")) []),
        .conn (.ioEvent .evRead), .conn (.resumeIo .failed []),
        .conn .timerCallback, .conn (.resumeTimer none),
        .conn .timerExpire, .conn .timerCallback,
        .conn (.resumeTimer (some [⟨3, .done, .inProgress 0⟩])),
        .conn (.ioEvent .evWrite), .conn (.resumeIo .again []),
        .conn (.ioEvent .evWrite), .conn (.resumeIo .again [.sent 100])] :=
  isolated_of_allSteps _ _ _ _ _ (by decide +kernel)

/-- Silence before the lines of `conn_ident` are sent: they are sent on the next socket, before
those of this one. -/
theorem not_isolated_timeout :
    ¬ Runs.AllStates step (fun s => Isolated s.trace) (Sys.start localServer)
      [.serverConnect (some [⟨3, .done, .inProgress 0⟩]) ⟨none, [], []⟩,
        .conn (.ioEvent .evWrite), .conn (.resumeIo .again []),
        .conn .timerExpire, .conn .timerCallback, .conn (.resumeTimer none),
        .conn .timerExpire, .conn .timerCallback,
        .conn (.resumeTimer (some [⟨4, .done, .inProgress 0⟩])),
        .conn (.ioEvent .evWrite), .conn (.resumeIo .again []),
        .conn (.ioEvent .evWrite), .conn (.resumeIo .again [.sent 1000])] := by
  intro h
  have hrun : (Runs.exec step (Sys.start localServer)
      [.serverConnect (some [⟨3, .done, .inProgress 0⟩]) ⟨none, [], []⟩,
        .conn (.ioEvent .evWrite), .conn (.resumeIo .again []),
        .conn .timerExpire, .conn .timerCallback, .conn (.resumeTimer none),
        .conn .timerExpire, .conn .timerCallback,
        .conn (.resumeTimer (some [⟨4, .done, .inProgress 0⟩])),
        .conn (.ioEvent .evWrite), .conn (.resumeIo .again []),
        .conn (.ioEvent .evWrite), .conn (.resumeIo .again [.sent 1000])]).map
      (fun t => ((traffic 4 t.trace).sent.length, (wire (traffic 4 t.trace).pushed).length)) =
      some (130, 65) := by decide +kernel
  obtain ⟨t, ht, heq⟩ := Option.map_eq_some_iff.1 hrun
  rw [Prod.mk.injEq] at heq
  have hlen := ((h.last ht).1 4).1.length_le
  omega

end Irccd
