import Mathlib.Algebra.Group.Nat.Defs
import Irccd.Conn.Effects
import Irccd.Conn.Sends
import Irccd.Foundations.Fifo

/-!
# The order of the output (`conn.c`)

The output buffer is a queue of bytes: `irc__conn_push` puts a line at its end, and `conn_send`
takes from its front what the transport accepts.

* `connSendWith`: `conn_send` over any transport;
* `exists_connSendWith`: what `conn_tcp_send` answers, and the bytes that `send (2)` accepted
  before;
* `OutLog`: a connection, with the data that were pushed and the bytes that were accepted;
* `outputFifo`: no byte is lost, duplicated or reordered between them.
-/

namespace Irccd

/-- `conn_send`, where the transport `conn->send` answers `ns` for the bytes of the output
buffer. -/
def connSendWith (n : Net) (ns : ℤ) : ℤ × Net :=
  if n.conn.outb.outsz = 0 then (0, n)
  else if 0 < ns then
    (ns, ({ n with conn := { n.conn with outb := n.conn.outb.drain ns.toNat } } : Net).emit
      (.send n.conn.fd (n.conn.outb.contents.take ns.toNat)))
  else (ns, n)

/-- The number of bytes that a call of `send (2)` accepts. -/
def SendResult.accepts : SendResult → ℕ
  | .sent ns => ns
  | .failed _ => 0

/-- The bytes that the calls of `send (2)` of `conn_tcp_send` accept. Each is given the whole
buffer. -/
def tcpAccepted (bytes : List UInt8) (rs : List SendResult) : List UInt8 :=
  (rs.take (connTcpSendCalls rs)).flatMap fun r => bytes.take r.accepts

/-- Only the last call accepts anything. -/
theorem tcpAccepted_eq {rs : List SendResult} {r : SendResult} (h : connTcpSendLoop rs = some r)
    (bytes : List UInt8) : tcpAccepted bytes rs = bytes.take r.accepts := by
  obtain ⟨-, repeated, rest, rfl, hrepeats, hcalls⟩ := connTcpSendLoop_eq_some_iff.1 h
  have htake : (repeated ++ r :: rest).take (repeated.length + 1) = repeated ++ [r] := by
    rw [List.take_length_add_append]
    rfl
  have hnone : repeated.flatMap (fun r => bytes.take r.accepts) = [] := by
    refine List.flatMap_eq_nil_iff.2 fun x hx => ?_
    obtain ⟨errno, rfl, -⟩ := hrepeats x hx
    exact List.take_zero
  rw [tcpAccepted, hcalls, htake, List.flatMap_append, hnone]
  simp

/-- The transport of a connection without TLS is `conn_tcp_send`. It answers how many bytes
`send (2)` accepted, at most those that it is given, or an error. -/
theorem exists_connSendWith {n n' : Net} {rs : List SendResult} {events events' : Events} {rc : ℤ}
    (h : connSend n rs events = some (rc, n', events')) :
    ∃ ns ≤ (n.conn.outb.outsz : ℤ), connSendWith n ns = (rc, n') ∧
      tcpAccepted n.conn.outb.contents rs = n.conn.outb.contents.take ns.toNat := by
  unfold connSend at h
  unfold connSendWith
  by_cases hempty : n.conn.outb.outsz = 0
  · rw [if_pos hempty] at h
    cases h
    refine ⟨0, by omega, if_pos hempty, ?_⟩
    rw [OutBuf.contents_eq_nil_iff.2 hempty]
    simp [tcpAccepted]
  · rw [if_neg hempty, Option.map_eq_some_iff] at h
    obtain ⟨⟨ns, ev⟩, htcp, h⟩ := h
    -- the loop stops with a number of bytes, or with an interruption
    have hns : ns ≤ n.conn.outb.outsz ∧
        tcpAccepted n.conn.outb.contents rs = n.conn.outb.contents.take ns.toNat := by
      rcases connTcpSend_eq_some _ _ htcp with ⟨k, hloop, ho⟩ | ⟨hloop, ho⟩
      · obtain rfl : ns = (min k n.conn.outb.outsz : ℕ) := congrArg Prod.fst ho
        refine ⟨by omega, ?_⟩
        rw [tcpAccepted_eq hloop, SendResult.accepts, Int.toNat_natCast, ← OutBuf.length_contents,
          ← List.take_eq_take_min]
      · obtain rfl : ns = -1 := congrArg Prod.fst ho
        exact ⟨by omega, tcpAccepted_eq hloop _⟩
    refine ⟨ns, hns.1, ?_, hns.2⟩
    rw [if_neg hempty]
    by_cases hpos : 0 < ns
    · simp only [if_pos hpos, Prod.mk.injEq] at h ⊢
      exact ⟨h.1, h.2.1⟩
    · simp only [if_neg hpos, Prod.mk.injEq] at h ⊢
      exact ⟨h.1, h.2.1⟩

/-- What may happen to the output buffer. -/
inductive OutAct
  | push (data : CStr)
  /-- `conn_send`, where the transport answers `ns`. -/
  | send (ns : ℤ)
  /-- `conn_send`, where the transport is `conn_tcp_send` and `send (2)` answers `rs`. -/
  | tcpSend (rs : List SendResult) (events : Events)
  deriving DecidableEq

/-- A connection, the data of the calls of `irc__conn_push` that returned 0, and the bytes that the
transport said it accepted. -/
structure OutLog where
  net : Net
  pushed : List CStr
  accepted : List UInt8

namespace OutLog

/-- A call, with what its result or the answer of the transport tells. An empty buffer is not given
to the transport. -/
def step (l : OutLog) : OutAct → Option OutLog
  | .push data =>
    let r := ircConnPush l.net data
    some { l with net := r.2, pushed := if r.1 = 0 then l.pushed ++ [data] else l.pushed }
  | .send ns =>
    let accepted :=
      if l.net.conn.outb.outsz = 0 then [] else l.net.conn.outb.contents.take ns.toNat
    some { l with net := (connSendWith l.net ns).2, accepted := l.accepted ++ accepted }
  | .tcpSend rs events =>
    let accepted :=
      if l.net.conn.outb.outsz = 0 then [] else tcpAccepted l.net.conn.outb.contents rs
    (connSend l.net rs events).map fun r =>
      { l with net := r.2.1, accepted := l.accepted ++ accepted }

/-- The output buffer as a queue of bytes. -/
def queue (l : OutLog) : Fifo.Queue UInt8 where
  waiting := l.net.conn.outb.contents
  put := wire l.pushed
  taken := l.accepted

/-- The order is kept, the size stays below the capacity, and a push that fails does nothing. -/
structure InOrder (l : OutLog) : Prop where
  order : l.accepted ++ l.net.conn.outb.contents = wire l.pushed
  size : l.net.conn.outb.outsz ≤ connOutSize - 1
  /-- The `size_t` comparison `datasz + 2 >= sizeof (conn->out) - conn->outsz` does not wrap around
  for data of the size of a string in memory. -/
  room : ∀ data : CStr, data.length + 2 < 2 ^ 64 →
    (BitVec.ofNat 64 data.length + 2#64 ≥ BitVec.ofNat 64 connOutSize -
      BitVec.ofNat 64 l.net.conn.outb.outsz ↔ ¬ l.net.conn.outb.Fits data)
  refused : ∀ data, (ircConnPush l.net data).1 ≠ 0 →
    (ircConnPush l.net data).1 = -ENOBUFS ∧ (ircConnPush l.net data).2 = l.net

end OutLog

theorem ircConnPush_cases (n : Net) (data : CStr) :
    (∃ h : n.conn.outb.Fits data, (ircConnPush n data).1 = 0 ∧
      (ircConnPush n data).2.conn.outb = n.conn.outb.append data h) ∨
    (¬ n.conn.outb.Fits data ∧ ircConnPush n data = (-ENOBUFS, n)) := by
  unfold ircConnPush
  by_cases h : n.conn.outb.Fits data
  · rw [dif_pos h]
    exact .inl ⟨h, rfl, rfl⟩
  · rw [dif_neg h]
    exact .inr ⟨h, rfl⟩

/-- What the transport accepts leaves the buffer. -/
theorem contents_connSendWith (n : Net) (ns : ℤ) :
    (connSendWith n ns).2.conn.outb.contents = n.conn.outb.contents.drop ns.toNat := by
  unfold connSendWith
  split
  · rename_i hempty
    rw [OutBuf.contents_eq_nil_iff.2 hempty, List.drop_nil]
  · split
    · exact OutBuf.contents_drain _ _
    · -- an error takes nothing away
      rename_i hneg
      have hzero : ns.toNat = 0 := by omega
      rw [hzero, List.drop_zero]

namespace OutLog

/-- The bytes accepted leave the front of the queue. -/
theorem move_send (l : OutLog) (ns : ℤ) :
    l.queue.Move (queue ⟨(connSendWith l.net ns).2, l.pushed,
      l.accepted ++ l.net.conn.outb.contents.take ns.toNat⟩) := by
  have hqueue : queue ⟨(connSendWith l.net ns).2, l.pushed,
      l.accepted ++ l.net.conn.outb.contents.take ns.toNat⟩ =
      { l.queue with
        waiting := l.queue.waiting.drop ns.toNat
        taken := l.queue.taken ++ l.queue.waiting.take ns.toNat } := by
    simp [queue, contents_connSendWith]
  rw [hqueue]
  exact .take _

/-- A push puts a line at the end of the queue or does nothing, and a send takes the bytes that the
transport accepts from its front. -/
theorem move {l l' : OutLog} {a : OutAct} (h : l.step a = some l') : l.queue.Move l'.queue := by
  -- nothing of an empty buffer is accepted
  have hempty : ∀ bytes : List UInt8,
      (l.net.conn.outb.outsz = 0 → bytes = []) →
      (if l.net.conn.outb.outsz = 0 then [] else bytes) = bytes := by
    intro bytes hnil
    split
    · exact (hnil ‹_›).symm
    · rfl
  have hcontents : l.net.conn.outb.outsz = 0 → l.net.conn.outb.contents = [] :=
    OutBuf.contents_eq_nil_iff.2
  cases a with
  | push data =>
    obtain rfl := Option.some.inj h
    rcases ircConnPush_cases l.net data with ⟨hfits, hrc, hout⟩ | ⟨-, heq⟩
    · -- there is room, so the line and its CRLF are put at the end
      have hwire : wire (l.pushed ++ [data]) = wire l.pushed ++ (data ++ crlf) := by simp [wire]
      have hqueue : queue ⟨(ircConnPush l.net data).2, l.pushed ++ [data], l.accepted⟩ =
          { l.queue with
            waiting := l.queue.waiting ++ (data ++ crlf)
            put := l.queue.put ++ (data ++ crlf) } := by
        simp [queue, hout, hwire]
      rw [if_pos hrc, hqueue]
      exact .put _
    · -- there is none, so nothing happens
      have hrc : (-ENOBUFS, l.net).1 ≠ 0 := show -ENOBUFS ≠ 0 by decide
      simp only [heq, if_neg hrc]
      exact .refl _
  | send ns =>
    obtain rfl := Option.some.inj h
    rw [hempty _ fun hzero => by simp [hcontents hzero]]
    exact l.move_send ns
  | tcpSend rs events =>
    obtain ⟨⟨rc, n', events'⟩, hsend, rfl⟩ := Option.map_eq_some_iff.1 h
    -- `conn_tcp_send` is one of the transports
    obtain ⟨ns, -, hwith, haccepted⟩ := exists_connSendWith hsend
    obtain rfl : (connSendWith l.net ns).2 = n' := congrArg Prod.snd hwith
    rw [haccepted, hempty _ fun hzero => by simp [hcontents hzero]]
    exact l.move_send ns

end OutLog

theorem OutBuf.fits_iff (b : OutBuf) {data : CStr} (h : data.length + 2 < 2 ^ 64) :
    BitVec.ofNat 64 data.length + 2#64 ≥ BitVec.ofNat 64 connOutSize - BitVec.ofNat 64 b.outsz ↔
      ¬ b.Fits data := by
  have hlt := b.outsz_lt
  -- neither side wraps around
  have hdata : (BitVec.ofNat 64 data.length + 2#64).toNat = data.length + 2 := by
    rw [BitVec.toNat_add, BitVec.toNat_ofNat, BitVec.toNat_ofNat]
    omega
  have hroom : (BitVec.ofNat 64 connOutSize - BitVec.ofNat 64 b.outsz).toNat =
      connOutSize - b.outsz := by
    rw [BitVec.toNat_sub, BitVec.toNat_ofNat, BitVec.toNat_ofNat]
    unfold connOutSize at hlt ⊢
    omega
  rw [ge_iff_le, BitVec.le_def, hdata, hroom, Fits]
  omega

/-- In every interleaving of pushes and sends, from an empty output buffer on, the bytes accepted by
the transport followed by those in the buffer are the lines pushed. -/
theorem outputFifo (net : Net) (hempty : net.conn.outb.outsz = 0) (acts : List OutAct) :
    Runs.AllStates OutLog.step OutLog.InOrder ⟨net, [], []⟩ acts := by
  have hstart : (OutLog.queue ⟨net, [], []⟩).Conserved := by
    simp [Fifo.Queue.Conserved, OutLog.queue, OutBuf.contents_eq_nil_iff.2 hempty, wire]
  refine (Fifo.Queue.allStates_conserved (fun _ _ _ => OutLog.move) hstart acts).mono fun l hl => ?_
  refine ⟨hl, ?_, fun data => l.net.conn.outb.fits_iff, fun data hrc => ?_⟩
  · have := l.net.conn.outb.outsz_lt
    omega
  · rcases ircConnPush_cases l.net data with ⟨-, hzero, -⟩ | ⟨-, heq⟩
    · exact absurd hzero hrc
    · rw [heq]
      exact ⟨rfl, rfl⟩

/-- Two lines are pushed, and leave in four parts. -/
theorem outputFifo_alloc :
    Runs.AllStates OutLog.step OutLog.InOrder ⟨⟨connAlloc ⟨none, [], []⟩, []⟩, [], []⟩
      [.push (cstr "NICK bot"), .send 3, .push (cstr "CAP END"), .send (-1),
        .tcpSend [.failed .eagain, .sent 2] .evRead, .send 8, .send 6] :=
  outputFifo _ rfl _

end Irccd
