import Irccd.CString
import Irccd.Nce

/-!
# Buffered streams (`nce/stream.c`)

A stream has an input and an output buffer of a fixed size, and one watcher for both directions.
The watcher is set again whenever a buffer changes, to what the buffers allow: to read while there
is room, to write while something waits. When they allow nothing the watcher is stopped.

* `NceStream`: `struct nce_stream` over a socket, with the operations of `stream.c`;
* `NceStream.peerPush`: `peer_push`, a text and its newline;
* `NceStream.Wakeful`: the watcher is set to exactly what the buffers allow;
* `NceStream.Sound`: what every operation keeps;
* `NceStream.streamIo_cases`: all that the I/O of one turn can do.
-/

namespace Irccd

/-- `in_cap` and `out_cap` of the stream of a peer. -/
def streamCap : ℕ := 2048

/-- `struct nce_stream`, which owns its buffers: both are allocated, or none. -/
structure NceStream where
  io : NceIo
  fd : ℤ
  inb : CStr
  out : CStr
  allocated : Bool
  deriving DecidableEq

/-- What `recv` gives. -/
inductive RecvOutcome
  | received (bytes : CStr)
  | closed
  | again
  | failed
  deriving DecidableEq

/-- What `send` gives. -/
inductive SendOutcome
  | sent (n : ℕ)
  | again
  | failed
  deriving DecidableEq

/-- What a function that reads or writes leaves: whether its result is not negative, the stream, and
the bytes that went through the socket. -/
structure IoResult where
  ok : Bool
  stream : NceStream
  received : CStr
  sent : CStr

namespace NceStream

variable (s : NceStream)

/-- `NCE_STREAM_ROOM_IN` -/
def roomIn : ℕ := if s.allocated then streamCap - s.inb.length else 0

/-- `NCE_STREAM_ROOM_OUT` -/
def roomOut : ℕ := if s.allocated then streamCap - s.out.length else 0

/-- The events that the buffers allow. -/
def wanted : Events where
  read := s.allocated && decide (s.inb.length < streamCap)
  write := s.allocated && !s.out.isEmpty

/-- `nce_stream_io_set`. Without `enable` a watcher that has been stopped stays stopped. -/
def ioSet (enable : Bool) : NceStream :=
  if !enable && !s.io.active then s
  else if s.wanted = .none then { s with io := nceIoStop s.io }
  else { s with io := nceIoReset s.io s.fd s.wanted }

/-- `nce_stream_start`, on a stream whose buffers are still to be allocated. -/
def start : NceStream := { s with inb := [], out := [], allocated := true : NceStream }.ioSet true

/-- `nce_stream_stop`, with the descriptor that it closes. -/
def stop : Option ℤ × NceStream :=
  if s.io.active then
    (some s.fd, { s with io := nceIoStop s.io, inb := [], out := [], allocated := false })
  else (none, s)

/-- `nce_stream_push`. There is no result when there is no room. -/
def push (data : CStr) : Option NceStream :=
  if s.roomOut < data.length then none
  else some (({ s with out := s.out ++ data } : NceStream).ioSet false)

/-- `nce_stream_drain` -/
def drain (count : ℕ) : NceStream := ({ s with inb := s.inb.drop count } : NceStream).ioSet false

/-- `nce_stream_io_read`, over `nce_stream_socket_read`. -/
def ioRead (r : RecvOutcome) : Option IoResult :=
  if s.roomIn = 0 then some ⟨true, s, [], []⟩
  else
    match r with
    | .received bytes =>
      if bytes ≠ [] ∧ bytes.length ≤ s.roomIn then
        some ⟨true, ({ s with inb := s.inb ++ bytes } : NceStream).ioSet true, bytes, []⟩
      else none
    | .again => some ⟨true, s, [], []⟩
    | .closed | .failed => some ⟨false, s, [], []⟩

/-- `nce_stream_io_write`, over `nce_stream_socket_write`, which leaves the -1 of `send` as it is
when the socket has no room. -/
def ioWrite (r : SendOutcome) : Option IoResult :=
  if s.out = [] then some ⟨true, s, [], []⟩
  else
    match r with
    | .sent 0 => some ⟨true, s, [], []⟩
    | .sent n =>
      if n ≤ s.out.length then
        some ⟨true, ({ s with out := s.out.drop n } : NceStream).ioSet true, [], s.out.take n⟩
      else none
    | .again | .failed => some ⟨false, s, [], []⟩

/-- `nce_stream_io` -/
def streamIo (revents : Events) (recv : RecvOutcome) (send : SendOutcome) : Option IoResult :=
  (if revents.read then s.ioRead recv else some ⟨true, s, [], []⟩).bind fun r =>
    if r.ok && revents.write then
      (r.stream.ioWrite send).map fun w => { w with received := r.received }
    else some r

/-- `peer_push`: whether it returns 0, and the stream. -/
def peerPush (text : CStr) : Bool × NceStream :=
  match s.push text with
  | none => (false, s)
  | some s =>
    match s.push [LF] with
    | none => (false, s)
    | some s => (true, s)

/-! ## What the operations keep -/

/-- The watcher is set to what the buffers allow. -/
def Wakeful : Prop := s.io.active = true ∧ s.io.events = s.wanted

/-- The sizes are in bounds, and a watcher that is active is set to what the buffers allow, which is
something. A watcher that is not active has no events. -/
structure Sound : Prop where
  inb : s.inb.length ≤ streamCap
  out : s.out.length ≤ streamCap
  watched : s.io.active = true → s.io.events = s.wanted ∧ s.wanted ≠ .none
  quiet : s.io.active = false → s.io.revents = .none

instance : Decidable s.Wakeful := inferInstanceAs (Decidable (_ ∧ _))

end NceStream

namespace NceStream

variable {s : NceStream}

@[simp] theorem wanted_io (io : NceIo) : ({ s with io } : NceStream).wanted = s.wanted := rfl

@[simp] theorem ioSet_inb (enable : Bool) : (s.ioSet enable).inb = s.inb := by
  unfold ioSet
  split
  · rfl
  · split <;> rfl

@[simp] theorem ioSet_out (enable : Bool) : (s.ioSet enable).out = s.out := by
  unfold ioSet
  split
  · rfl
  · split <;> rfl

@[simp] theorem ioSet_fd (enable : Bool) : (s.ioSet enable).fd = s.fd := by
  unfold ioSet
  split
  · rfl
  · split <;> rfl

@[simp] theorem ioSet_allocated (enable : Bool) : (s.ioSet enable).allocated = s.allocated := by
  unfold ioSet
  split
  · rfl
  · split <;> rfl

/-- Setting the watcher enables it if and only if the buffers allow something, and if it was active
before or is to be started. -/
theorem ioSet_active (enable : Bool) :
    (s.ioSet enable).io.active = true ↔
      (enable = true ∨ s.io.active = true) ∧ s.wanted ≠ .none := by
  unfold ioSet
  by_cases hskip : (!enable && !s.io.active) = true
  · rw [if_pos hskip]
    simp only [Bool.and_eq_true, Bool.not_eq_true'] at hskip
    simp [hskip.1, hskip.2]
  · rw [if_neg hskip]
    have hset : enable = true ∨ s.io.active = true := by
      cases enable <;> cases hactive : s.io.active <;> simp [hactive] at hskip ⊢
    rw [and_iff_right hset]
    by_cases hnone : s.wanted = .none
    · simp [hnone, nceIoStop]
    · simp [hnone, nceIoReset]

/-- Whatever a buffer has become, setting the watcher makes the stream sound again. -/
theorem sound_ioSet (hin : s.inb.length ≤ streamCap) (hout : s.out.length ≤ streamCap)
    (hquiet : s.io.active = false → s.io.revents = .none) (enable : Bool) :
    (s.ioSet enable).Sound := by
  refine ⟨by simpa using hin, by simpa using hout, fun hactive => ?_, fun hidle => ?_⟩
  · obtain ⟨hset, hsome⟩ := (ioSet_active enable).1 hactive
    have hskip : ¬ (!enable && !s.io.active) = true := by
      rcases hset with h | h <;> simp [h]
    have heq : s.ioSet enable = { s with io := nceIoReset s.io s.fd s.wanted } := by
      rw [ioSet, if_neg hskip, if_neg hsome]
    rw [heq]
    exact ⟨rfl, hsome⟩
  · unfold ioSet at hidle ⊢
    split
    · rename_i hskip
      exact hquiet (by simpa using (Bool.and_eq_true_iff.1 hskip).2)
    · rename_i hskip
      rw [if_neg hskip] at hidle
      split
      · rfl
      · rename_i hsome
        rw [if_neg hsome] at hidle
        cases hidle

/-- A wakeful stream stays so when the watcher is set, unless the buffers allow nothing. -/
theorem Sound.wakeful_iff_active (h : s.Sound) : s.Wakeful ↔ s.io.active = true :=
  ⟨fun hw => hw.1, fun hactive => ⟨hactive, (h.watched hactive).1⟩⟩

theorem push_cases (s : NceStream) (data : CStr) :
    (s.roomOut < data.length ∧ s.push data = none) ∨
      (data.length ≤ s.roomOut ∧
        s.push data = some (({ s with out := s.out ++ data } : NceStream).ioSet false)) := by
  unfold push
  by_cases h : s.roomOut < data.length
  · exact .inl ⟨h, if_pos h⟩
  · exact .inr ⟨by omega, if_neg h⟩

/-- What is put into the output buffer fits. -/
theorem Sound.push {s' : NceStream} {data : CStr} (h : s.Sound) (hpush : s.push data = some s') :
    s'.Sound ∧ s'.out = s.out ++ data := by
  rcases push_cases s data with ⟨-, heq⟩ | ⟨hroom, heq⟩
  · rw [heq] at hpush
    cases hpush
  · rw [heq] at hpush
    obtain rfl := Option.some.inj hpush
    have hfits : (s.out ++ data).length ≤ streamCap := by
      have hout := h.out
      rw [List.length_append]
      unfold roomOut at hroom
      split at hroom <;> omega
    exact ⟨@sound_ioSet { s with out := s.out ++ data } h.inb hfits h.quiet false, ioSet_out false⟩

/-- Setting the watcher without starting it leaves an active one active, as long as the buffers
allow what they allowed before. -/
theorem Sound.active_ioSet {t : NceStream} (h : s.Sound) (hio : t.io = s.io)
    (hread : s.wanted.read = true → t.wanted.read = true)
    (hwrite : s.wanted.write = true → t.wanted.write = true) :
    (t.ioSet false).io.active = s.io.active := by
  rw [Bool.eq_iff_iff, ioSet_active, hio]
  refine ⟨fun hset => by simpa using hset.1, fun hactive => ⟨.inr hactive, fun hnone => ?_⟩⟩
  -- what the buffers allowed is not nothing
  refine (h.watched hactive).2 ?_
  rw [hnone] at hread hwrite
  cases hw : s.wanted with
  | mk read write =>
    rw [hw] at hread hwrite
    cases read <;> cases write <;> simp_all [Events.none]

theorem push_fields {s' : NceStream} {data : CStr} (hpush : s.push data = some s') :
    s'.inb = s.inb ∧ s'.fd = s.fd ∧ s'.allocated = s.allocated := by
  rcases push_cases s data with ⟨-, heq⟩ | ⟨-, heq⟩
  · rw [heq] at hpush
    cases hpush
  · rw [heq] at hpush
    obtain rfl := Option.some.inj hpush
    simp

theorem Sound.push_active {s' : NceStream} {data : CStr} (h : s.Sound)
    (hpush : s.push data = some s') : s'.io.active = s.io.active := by
  rcases push_cases s data with ⟨-, heq⟩ | ⟨-, heq⟩
  · rw [heq] at hpush
    cases hpush
  · rw [heq] at hpush
    obtain rfl := Option.some.inj hpush
    refine h.active_ioSet rfl id fun hwrite => ?_
    simp only [wanted, Bool.and_eq_true, Bool.not_eq_true', List.isEmpty_eq_false_iff] at hwrite ⊢
    exact ⟨hwrite.1, List.append_ne_nil_of_left_ne_nil hwrite.2 data⟩

theorem Sound.drain (h : s.Sound) (count : ℕ) :
    (s.drain count).Sound ∧ (s.drain count).io.active = s.io.active := by
  have hlen : (s.inb.drop count).length ≤ s.inb.length := by
    rw [List.length_drop]
    omega
  refine ⟨@sound_ioSet { s with inb := s.inb.drop count } (Nat.le_trans hlen h.inb) h.out h.quiet
    false,
    h.active_ioSet rfl (fun hread => ?_) id⟩
  simp only [wanted, Bool.and_eq_true, decide_eq_true_eq] at hread ⊢
  exact ⟨hread.1, Nat.lt_of_le_of_lt hlen hread.2⟩

@[simp] theorem drain_inb (count : ℕ) : (s.drain count).inb = s.inb.drop count := ioSet_inb false

@[simp] theorem drain_out (count : ℕ) : (s.drain count).out = s.out := ioSet_out false

@[simp] theorem drain_fd (count : ℕ) : (s.drain count).fd = s.fd := ioSet_fd false

@[simp] theorem drain_allocated (count : ℕ) : (s.drain count).allocated = s.allocated :=
  ioSet_allocated false

/-- What one turn of I/O leaves: the bytes read are behind the input, those written are gone from
the output. -/
structure IoLeaves (s : NceStream) (r : IoResult) : Prop where
  sound : r.stream.Sound
  inb : r.stream.inb = s.inb ++ r.received
  out : s.out = r.sent ++ r.stream.out
  fd : r.stream.fd = s.fd
  allocated : r.stream.allocated = s.allocated
  /-- The watcher is stopped only when the buffers allow nothing. -/
  active : s.io.active = true → (r.stream.io.active = true ↔ r.stream.wanted ≠ .none)
  failed : r.ok = false → s.io.active = true → r.stream.io.active = true

theorem Sound.ioLeaves_self (h : s.Sound) (ok : Bool) : s.IoLeaves ⟨ok, s, [], []⟩ where
  sound := h
  inb := (List.append_nil _).symm
  out := rfl
  fd := rfl
  allocated := rfl
  active hactive := iff_of_true hactive (h.watched hactive).2
  failed _ hactive := hactive

/-- A buffer has changed, and the watcher is started again. -/
theorem Sound.ioLeaves_ioSet {t : NceStream} {received sent : CStr} (h : s.Sound)
    (hio : t.io = s.io) (hin : t.inb = s.inb ++ received) (hout : s.out = sent ++ t.out)
    (hfd : t.fd = s.fd) (halloc : t.allocated = s.allocated) (hinlen : t.inb.length ≤ streamCap) :
    s.IoLeaves ⟨true, t.ioSet true, received, sent⟩ where
  sound := by
    refine sound_ioSet hinlen ?_ (by rw [hio]; exact h.quiet) true
    have hlen := h.out
    rw [hout, List.length_append] at hlen
    omega
  inb := (ioSet_inb true).trans hin
  out := by rw [ioSet_out, ← hout]
  fd := (ioSet_fd true).trans hfd
  allocated := (ioSet_allocated true).trans halloc
  active _ := by
    have hwanted : (t.ioSet true).wanted = t.wanted := by simp [wanted]
    rw [ioSet_active, hwanted]
    simp
  failed hok := by cases hok

theorem Sound.ioRead {r : IoResult} {recv : RecvOutcome} (h : s.Sound)
    (hr : s.ioRead recv = some r) : s.IoLeaves r := by
  unfold NceStream.ioRead at hr
  split at hr
  · obtain rfl := Option.some.inj hr
    exact h.ioLeaves_self true
  · cases recv with
    | received bytes =>
      simp only at hr
      split at hr
      · rename_i hbytes
        obtain rfl := Option.some.inj hr
        refine h.ioLeaves_ioSet rfl rfl rfl rfl rfl ?_
        have hin := h.inb
        have hroom := hbytes.2
        rw [List.length_append]
        unfold roomIn at hroom
        split at hroom <;> omega
      · cases hr
    | closed =>
      obtain rfl := Option.some.inj hr
      exact h.ioLeaves_self false
    | again =>
      obtain rfl := Option.some.inj hr
      exact h.ioLeaves_self true
    | failed =>
      obtain rfl := Option.some.inj hr
      exact h.ioLeaves_self false

theorem Sound.ioWrite {r : IoResult} {send : SendOutcome} (h : s.Sound)
    (hr : s.ioWrite send = some r) : s.IoLeaves r ∧ r.received = [] := by
  unfold NceStream.ioWrite at hr
  split at hr
  · obtain rfl := Option.some.inj hr
    exact ⟨h.ioLeaves_self true, rfl⟩
  · cases send with
    | sent n =>
      cases n with
      | zero =>
        obtain rfl := Option.some.inj hr
        exact ⟨h.ioLeaves_self true, rfl⟩
      | succ n =>
        simp only at hr
        split at hr
        · obtain rfl := Option.some.inj hr
          exact ⟨h.ioLeaves_ioSet rfl (List.append_nil _).symm (List.take_append_drop _ _).symm rfl
            rfl h.inb, rfl⟩
        · cases hr
    | again =>
      obtain rfl := Option.some.inj hr
      exact ⟨h.ioLeaves_self false, rfl⟩
    | failed =>
      obtain rfl := Option.some.inj hr
      exact ⟨h.ioLeaves_self false, rfl⟩

theorem Sound.allocated_of_active (h : s.Sound) (hactive : s.io.active = true) :
    s.allocated = true := by
  by_contra hfree
  exact (h.watched hactive).2 (by simp [wanted, hfree, Events.none])

/-- A watcher that reading has stopped has nothing to write. -/
theorem IoLeaves.ioWrite_of_idle {a w : IoResult} {send : SendOutcome} (ha : s.IoLeaves a)
    (h : s.Sound) (hactive : s.io.active = true) (hidle : ¬ a.stream.io.active = true)
    (hw : a.stream.ioWrite send = some w) : w = ⟨true, a.stream, [], []⟩ := by
  have hnone : a.stream.wanted = .none := by
    by_contra hsome
    exact hidle ((ha.active hactive).2 hsome)
  have hout : a.stream.out = [] := by
    have hwrite := congrArg Events.write hnone
    simpa [wanted, ha.allocated, h.allocated_of_active hactive, Events.none] using hwrite
  unfold NceStream.ioWrite at hw
  rw [if_pos hout] at hw
  exact (Option.some.inj hw).symm

/-- Reading, and writing after it. -/
theorem IoLeaves.ioWrite {a w : IoResult} {send : SendOutcome} (ha : s.IoLeaves a) (h : s.Sound)
    (hsent : a.sent = []) (hw : a.stream.ioWrite send = some w) :
    s.IoLeaves { w with received := a.received } := by
  obtain ⟨hwrite, hnothing⟩ := ha.sound.ioWrite hw
  refine ⟨hwrite.sound, ?_, ?_, hwrite.fd.trans ha.fd, hwrite.allocated.trans ha.allocated,
    fun hactive => ?_, fun hok hactive => ?_⟩
  · rw [hwrite.inb, hnothing, List.append_nil, ha.inb]
  · rw [ha.out, hsent, List.nil_append, hwrite.out]
  · by_cases hread : a.stream.io.active = true
    · exact hwrite.active hread
    · obtain rfl := ha.ioWrite_of_idle h hactive hread hw
      exact ha.active hactive
  · by_cases hread : a.stream.io.active = true
    · exact hwrite.failed hok hread
    · obtain rfl := ha.ioWrite_of_idle h hactive hread hw
      cases hok

theorem ioRead_sent {r : IoResult} {recv : RecvOutcome} (hr : s.ioRead recv = some r) :
    r.sent = [] := by
  unfold NceStream.ioRead at hr
  split at hr
  · obtain rfl := Option.some.inj hr
    rfl
  · cases recv with
    | received bytes =>
      simp only at hr
      split at hr
      · obtain rfl := Option.some.inj hr
        rfl
      · cases hr
    | closed | again | failed =>
      obtain rfl := Option.some.inj hr
      rfl

/-- All that the I/O of one turn can do. -/
theorem Sound.streamIo {r : IoResult} {revents : Events} {recv : RecvOutcome} {send : SendOutcome}
    (h : s.Sound) (hr : s.streamIo revents recv send = some r) : s.IoLeaves r := by
  obtain ⟨a, ha, hr⟩ := Option.bind_eq_some_iff.1 hr
  have hread : s.IoLeaves a ∧ a.sent = [] := by
    split at ha
    · exact ⟨h.ioRead ha, ioRead_sent ha⟩
    · obtain rfl := Option.some.inj ha
      exact ⟨h.ioLeaves_self true, rfl⟩
  split at hr
  · obtain ⟨w, hw, rfl⟩ := Option.map_eq_some_iff.1 hr
    exact hread.1.ioWrite h hread.2 hw
  · obtain rfl := Option.some.inj hr
    exact hread.1

end NceStream

end Irccd
