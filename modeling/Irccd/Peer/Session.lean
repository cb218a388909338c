import Irccd.Foundations.Lines
import Irccd.Peer.Handlers
import Irccd.Peer.Stream

/-!
# The coroutine of a peer (`peer.c`)

A peer first sends a hello and waits until it is gone. Then it cuts what it reads into lines, and
invokes each of them that is not empty. Others push events to it at any time.

* `Peer`: `struct peer`, with what has gone through it;
* `Peer.resume`: `peer_stream_entry`, from one wait to the next;
* `Peer.step`: the turns of the event loop, and the events of others;
* `Peer.Puts`, `Peer.Serves`: what a handler does to its peer, and what serving some lines does;
* `Peer.resume_cases`: all that one turn of the coroutine can do.
-/

namespace Irccd

open Readers (unlines)

/-- Where the coroutine waits: for the hello to go, for lines, or it has ended. -/
inductive PeerPhase
  | flushing
  | serving
  | ended
  deriving DecidableEq

/-- `struct peer`, with the bytes that have gone through the socket, the lines that were invoked,
the texts given to `peer_push`, each with the room that it found, and the descriptor that was
closed. -/
structure Peer where
  stream : NceStream
  isWatching : Bool
  phase : PeerPhase
  received : CStr
  sent : CStr
  invoked : List CStr
  pushes : List (CStr × ℕ)
  closed : Option ℤ

/-- What a handler leaves: the texts that it gave to `peer_push`, the daemon, and `is_watching`. -/
structure Answer (δ : Type) where
  texts : List CStr
  daemon : δ
  watching : Bool

/-- `invoke`, on the daemon and `is_watching`. There is no answer if the daemon does not survive. -/
abbrev Invoke (δ : Type) := δ → Bool → CStr → Option (Answer δ)

/-- `invoke` of `peer.c`, on the daemon without `is_watching`. -/
def daemonInvoke (env : PeerEnv) : Invoke Daemon := fun d watching line =>
  match Daemon.invoke env { d with watching } line with
  | .ok r => some ⟨r.out, r.daemon, r.daemon.watching⟩
  | .error _ => none

/-- The text of the hello. -/
def helloText : CStr := cstr "IRCCD 5.0.0"

namespace Peer

/-- `peer_push` -/
def push (p : Peer) (text : CStr) : Peer :=
  { p with
    stream := (p.stream.peerPush text).2
    pushes := p.pushes ++ [(text, p.stream.roomOut)] }

/-- The calls of `peer_push` that a handler makes. -/
def pushAll (p : Peer) (texts : List CStr) : Peer := texts.foldl push p

/-- The stream of a peer before `nce_stream_start`. -/
def closedStream (fd : ℤ) : NceStream :=
  { io := .zero, fd, inb := [], out := [], allocated := false }

/-- `peer_new`: the hello is put, and the coroutine waits for it to go. -/
def new (sockfd : ℤ) : Peer :=
  let stream := (closedStream sockfd).start
  { stream := (stream.push (helloText ++ [LF])).getD stream
    isWatching := false, phase := .flushing, received := [], sent := [], invoked := []
    pushes := [], closed := none }

/-- The end of `peer_stream_entry`. -/
def finish (p : Peer) : Peer :=
  { p with stream := p.stream.stop.2, phase := .ended, closed := p.stream.stop.1 }

/-- The I/O of `nce_stream_wait`, which takes the events. -/
def turnIo (p : Peer) (recv : RecvOutcome) (send : SendOutcome) : Option IoResult :=
  { p.stream with io := nceIoTake p.stream.io : NceStream }.streamIo p.stream.io.revents recv send

/-- The bytes that a turn of I/O has read and written. -/
def afterIo (p : Peer) (r : IoResult) : Peer :=
  { p with stream := r.stream, received := p.received ++ r.received, sent := p.sent ++ r.sent }

section Serving

variable {δ : Type} (invoke : Invoke δ)

/-- A line of the input buffer, without its newline: unless it is empty, the string at its start is
invoked. -/
def serveLine (p : Peer) (d : δ) (line : CStr) : Option (Peer × δ) :=
  if line = [] then some (p, d)
  else
    let text := line.takeWhile (· != 0)
    (invoke d p.isWatching text).map fun r =>
      ({ p.pushAll r.texts with
          isWatching := r.watching
          invoked := p.invoked ++ [text] }, r.daemon)

/-- A line that is no command of the daemon. -/
example (env : PeerEnv) (p : Peer) (d : Daemon) :
    (serveLine (daemonInvoke env) p d (cstr "QUIT")).map (·.1.pushes) =
      some (p.pushes ++ [(cstr "command not found", p.stream.roomOut)]) := rfl

/-- The loop over the lines of the input buffer, which are drained one by one. There are no more of
them than the buffer has bytes. -/
def serveLines : ℕ → Peer → δ → Option (Peer × δ)
  | 0, p, d => some (p, d)
  | n + 1, p, d =>
    if LF ∈ p.stream.inb then do
      let line := p.stream.inb.takeWhile (· != LF)
      let (p, d) ← serveLine invoke p d line
      serveLines n { p with stream := p.stream.drain (line.length + 1) } d
    else some (p, d)

/-- `peer_stream_entry`, from the events of one wait to the next wait. -/
def resume (p : Peer) (d : δ) (recv : RecvOutcome) (send : SendOutcome) : Option (Peer × δ) :=
  if p.stream.io.revents = .none then none
  else
    (p.turnIo recv send).bind fun r =>
      let p := p.afterIo r
      if r.ok = false then some (p.finish, d)
      else
        match p.phase with
        | .flushing =>
          some ({ p with phase := if p.stream.out = [] then .serving else .flushing }, d)
        | .serving => serveLines invoke p.stream.inb.length p d
        | .ended => none

/-- The event loop finds the watcher ready. -/
def fire (p : Peer) (revents : Events) : Option Peer :=
  let io := p.stream.io
  if io.active ∧ io.revents = .none ∧ revents ≠ .none ∧ revents.subset io.events then
    some { p with stream := { p.stream with io := { io with revents } } }
  else none

/-- What may happen to a peer: its watcher is ready, its coroutine is resumed, or an event of the
bot is broadcast. -/
inductive Act
  | fire (revents : Events)
  | resume (recv : RecvOutcome) (send : SendOutcome)
  | event (text : CStr)

/-- A step of the peer, on the daemon. -/
def step (s : Peer × δ) : Act → Option (Peer × δ)
  | .fire revents => (s.1.fire revents).map (·, s.2)
  | .resume recv send => s.1.resume invoke s.2 recv send
  | .event text =>
    if text = [] then none else some (if s.1.isWatching then s.1.push text else s.1, s.2)

end Serving

/-! ## What the client sees -/

/-- What a call of `peer_push` puts into the output: the text and its newline if there is room for
both, the text alone if there is room for nothing more. -/
def block (push : CStr × ℕ) : CStr :=
  if push.2 < push.1.length then []
  else if push.2 = push.1.length then push.1
  else push.1 ++ [LF]

/-- The strings that are invoked of some lines. -/
def texts (lines : List CStr) : List CStr :=
  (lines.filter (· ≠ [])).map (·.takeWhile (· != 0))

/-- Invoke some strings one after the other. -/
def replay {δ : Type} (invoke : Invoke δ) (w : δ × Bool) : List CStr → Option (δ × Bool)
  | [] => some w
  | text :: rest => (invoke w.1 w.2 text).bind fun r => replay invoke (r.daemon, r.watching) rest

@[simp] theorem texts_append (l l' : List CStr) : texts (l ++ l') = texts l ++ texts l' := by
  simp [texts]

theorem replay_append {δ : Type} (invoke : Invoke δ) (w : δ × Bool) (l l' : List CStr) :
    replay invoke w (l ++ l') = (replay invoke w l).bind fun v => replay invoke v l' := by
  induction l generalizing w with
  | nil => rfl
  | cons text l ih => simp [replay, ih, Option.bind_assoc]

variable {text : CStr} {room : ℕ}

theorem block_of_lt (h : room < text.length) : block (text, room) = [] := if_pos h

theorem block_of_eq (h : room = text.length) : block (text, room) = text := by
  have hle : ¬ room < text.length := by omega
  exact (if_neg hle).trans (if_pos h)

theorem block_of_gt (h : text.length < room) : block (text, room) = text ++ [LF] := by
  have hle : ¬ room < text.length := by omega
  have hne : ¬ room = text.length := by omega
  exact (if_neg hle).trans (if_neg hne)

end Peer

namespace NceStream

variable {s : NceStream} {text : CStr}

/-- A call of `peer_push`: what it puts, and when it returns 0. -/
theorem Sound.peerPush (h : s.Sound) (text : CStr) :
    (s.peerPush text).2.Sound ∧ (s.peerPush text).2.out = s.out ++ Peer.block (text, s.roomOut) ∧
      (s.peerPush text).2.io.active = s.io.active ∧ (s.peerPush text).2.inb = s.inb ∧
      (s.peerPush text).2.fd = s.fd ∧ (s.peerPush text).2.allocated = s.allocated ∧
      ((s.peerPush text).1 = true ↔ text.length < s.roomOut) := by
  unfold NceStream.peerPush
  rcases push_cases s text with ⟨hroom, hpush⟩ | ⟨hroom, hpush⟩
  · rw [hpush]
    exact ⟨h, by rw [Peer.block_of_lt hroom, List.append_nil], rfl, rfl, rfl, rfl, by simp; omega⟩
  · obtain ⟨hsound, hout⟩ := h.push hpush
    have hactive := h.push_active hpush
    obtain ⟨hin, hfd, halloc⟩ := push_fields hpush
    rw [hpush]
    dsimp only
    -- the newline fits if and only if there is room behind the text
    generalize ({ s with out := s.out ++ text } : NceStream).ioSet false = s' at *
    have hnext : s'.roomOut = s.roomOut - text.length := by
      unfold roomOut
      rw [halloc, hout, List.length_append]
      split <;> omega
    rcases push_cases s' [LF] with ⟨hfull, hnl⟩ | ⟨hfree, hnl⟩
    · have heq : s.roomOut = text.length := by
        rw [hnext, List.length_singleton] at hfull
        omega
      rw [hnl]
      refine ⟨hsound, ?_, hactive, hin, hfd, halloc, by simp; omega⟩
      rw [hout, Peer.block_of_eq heq]
    · obtain ⟨hsound', hout'⟩ := hsound.push hnl
      have hactive' := hsound.push_active hnl
      obtain ⟨hin', hfd', halloc'⟩ := push_fields hnl
      rw [hnext, List.length_singleton] at hfree
      have hgt : text.length < s.roomOut := by omega
      rw [hnl]
      refine ⟨hsound', ?_, hactive'.trans hactive, hin'.trans hin, hfd'.trans hfd,
        halloc'.trans halloc, by simp [hgt]⟩
      rw [hout', hout, Peer.block_of_gt hgt, List.append_assoc]

end NceStream

namespace Peer

variable {p q r : Peer}

/-- What may happen to a peer while its coroutine runs: texts are put into the output. -/
structure Puts (p q : Peer) : Prop where
  fd : q.stream.fd = p.stream.fd
  allocated : q.stream.allocated = p.stream.allocated
  phase : q.phase = p.phase
  received : q.received = p.received
  sent : q.sent = p.sent
  closed : q.closed = p.closed
  sound : q.stream.Sound
  active : q.stream.io.active = p.stream.io.active
  output : ∃ pushes, q.pushes = p.pushes ++ pushes ∧
    q.stream.out = p.stream.out ++ pushes.flatMap block

theorem Puts.refl (h : p.stream.Sound) : Puts p p where
  fd := rfl
  allocated := rfl
  phase := rfl
  received := rfl
  sent := rfl
  closed := rfl
  sound := h
  active := rfl
  output := ⟨[], by simp, by simp⟩

theorem Puts.trans (h : Puts p q) (h' : Puts q r) : Puts p r where
  fd := h'.fd.trans h.fd
  allocated := h'.allocated.trans h.allocated
  phase := h'.phase.trans h.phase
  received := h'.received.trans h.received
  sent := h'.sent.trans h.sent
  closed := h'.closed.trans h.closed
  sound := h'.sound
  active := h'.active.trans h.active
  output := by
    obtain ⟨pushes, hpushes, hout⟩ := h.output
    obtain ⟨pushes', hpushes', hout'⟩ := h'.output
    exact ⟨pushes ++ pushes', by rw [hpushes', hpushes, List.append_assoc],
      by rw [hout', hout, List.flatMap_append, List.append_assoc]⟩

theorem puts_push (h : p.stream.Sound) (text : CStr) :
    Puts p (p.push text) ∧ (p.push text).stream.inb = p.stream.inb := by
  obtain ⟨hsound, hout, hactive, hin, hfd, halloc, -⟩ := h.peerPush text
  exact ⟨⟨hfd, halloc, rfl, rfl, rfl, rfl, hsound, hactive, [(text, p.stream.roomOut)], rfl,
    by simpa [push] using hout⟩, hin⟩

theorem puts_pushAll (h : p.stream.Sound) (texts : List CStr) :
    Puts p (p.pushAll texts) ∧ (p.pushAll texts).stream.inb = p.stream.inb ∧
      (p.pushAll texts).invoked = p.invoked := by
  induction texts generalizing p with
  | nil => exact ⟨.refl h, rfl, rfl⟩
  | cons text texts ih =>
    obtain ⟨hput, hin⟩ := puts_push h text
    obtain ⟨hputs, hins, hinvoked⟩ := ih hput.sound
    exact ⟨hput.trans hputs, hins.trans hin, hinvoked⟩

theorem puts_drain (h : p.stream.Sound) (count : ℕ) :
    Puts p { p with stream := p.stream.drain count } where
  fd := NceStream.drain_fd count
  allocated := NceStream.drain_allocated count
  phase := rfl
  received := rfl
  sent := rfl
  closed := rfl
  sound := (h.drain count).1
  active := (h.drain count).2
  output := ⟨[], by simp, by simp⟩

/-! ## Lines -/

section Serving

variable {δ : Type} {invoke : Invoke δ} {d e : δ} {line : CStr}

/-- What serving some lines of the input does. -/
structure Serves (invoke : Invoke δ) (p : Peer) (d : δ) (q : Peer) (e : δ) (lines : List CStr) :
    Prop where
  puts : Puts p q
  complete : ∀ l ∈ lines, LF ∉ l
  inb : p.stream.inb = unlines LF lines ++ q.stream.inb
  invoked : q.invoked = p.invoked ++ texts lines
  replay : replay invoke (d, p.isWatching) (texts lines) = some (e, q.isWatching)

theorem Serves.nil (h : p.stream.Sound) : Serves invoke p d p d [] where
  puts := .refl h
  complete := nofun
  inb := rfl
  invoked := (List.append_nil _).symm
  replay := rfl

/-- One line, without draining it. -/
theorem serveLine_spec (h : p.stream.Sound) (hserve : serveLine invoke p d line = some (q, e)) :
    Puts p q ∧ q.stream.inb = p.stream.inb ∧ q.invoked = p.invoked ++ texts [line] ∧
      Peer.replay invoke (d, p.isWatching) (texts [line]) = some (e, q.isWatching) := by
  unfold serveLine at hserve
  by_cases hline : line = []
  · rw [if_pos hline] at hserve
    obtain ⟨rfl, rfl⟩ := Prod.mk.inj (Option.some.inj hserve)
    refine ⟨.refl h, rfl, ?_, ?_⟩
    · simp [texts, hline]
    · simp [texts, hline, Peer.replay]
  · rw [if_neg hline] at hserve
    obtain ⟨r, hr, hserve⟩ := Option.map_eq_some_iff.1 hserve
    obtain ⟨rfl, rfl⟩ := Prod.mk.inj hserve
    obtain ⟨hputs, hin, hinvoked⟩ := puts_pushAll h r.texts
    have htexts : texts [line] = [line.takeWhile (· != 0)] := by simp [texts, hline]
    refine ⟨⟨hputs.fd, hputs.allocated, hputs.phase, hputs.received, hputs.sent, hputs.closed,
      hputs.sound, hputs.active, hputs.output⟩, hin, by rw [htexts], ?_⟩
    rw [htexts, Peer.replay, hr]
    rfl

/-- The loop serves all lines of the input if it has as many rounds as the input has bytes. -/
theorem serveLines_spec {n : ℕ} (h : p.stream.Sound)
    (hserve : serveLines invoke n p d = some (q, e)) :
    ∃ lines, Serves invoke p d q e lines ∧ (p.stream.inb.length ≤ n → LF ∉ q.stream.inb) := by
  induction n generalizing p d with
  | zero =>
    obtain ⟨rfl, rfl⟩ := Prod.mk.inj (Option.some.inj hserve)
    refine ⟨[], .nil h, fun hlen => ?_⟩
    rw [List.eq_nil_of_length_eq_zero (Nat.le_zero.1 hlen)]
    exact List.not_mem_nil
  | succ n ih =>
    rw [serveLines] at hserve
    by_cases hnl : LF ∈ p.stream.inb
    · rw [if_pos hnl] at hserve
      obtain ⟨⟨p', d'⟩, hline, hserve⟩ := Option.bind_eq_some_iff.1 hserve
      obtain ⟨hputs, hin, hinvoked, hreplay⟩ := serveLine_spec h hline
      -- the first line, and what stands behind its newline
      obtain ⟨line, rest, hsplit, hfirst⟩ := List.eq_append_cons_of_mem hnl
      have htake : p.stream.inb.takeWhile (· != LF) = line := by
        rw [hsplit, Terminated.takeWhile_of_not_mem hfirst]
      rw [htake] at hserve hinvoked hreplay
      have hdrop : (p'.stream.drain (line.length + 1)).inb = rest := by
        rw [NceStream.drain_inb, hin, hsplit, ← List.singleton_append, ← List.append_assoc]
        exact List.drop_left' (by simp)
      obtain ⟨lines, hserves, hall⟩ := ih (puts_drain hputs.sound _).sound hserve
      refine ⟨line :: lines, ⟨hputs.trans ((puts_drain hputs.sound _).trans hserves.puts),
        List.forall_mem_cons.2 ⟨hfirst, hserves.complete⟩, ?_, ?_, ?_⟩, fun hlen => ?_⟩
      · have hrest : rest = unlines LF lines ++ q.stream.inb := hdrop.symm.trans hserves.inb
        rw [hsplit, hrest]
        simp [Readers.unlines]
      · rw [hserves.invoked, hinvoked, List.append_assoc, ← texts_append, List.singleton_append]
      · rw [← List.singleton_append, texts_append, replay_append, hreplay]
        exact hserves.replay
      · refine hall ?_
        have hlen' := congrArg List.length hsplit
        rw [List.length_append, List.length_cons] at hlen'
        rw [hdrop]
        omega
    · rw [if_neg hnl] at hserve
      obtain ⟨rfl, rfl⟩ := Prod.mk.inj (Option.some.inj hserve)
      exact ⟨[], .nil h, fun _ => hnl⟩

/-- What a turn of the coroutine does, after its I/O: it ends, waits for the hello to go, or serves
all lines that are complete. -/
inductive Turn (invoke : Invoke δ) (p : Peer) (d : δ) (r : IoResult) (q : Peer) (e : δ) : Prop
  | ends (hok : r.ok = false) (hq : q = (p.afterIo r).finish) (he : e = d)
  | flushes (hok : ¬ r.ok = false) (hphase : p.phase = .flushing)
      (hq : q = { p.afterIo r with phase := if r.stream.out = [] then .serving else .flushing })
      (he : e = d)
  | serves (hok : ¬ r.ok = false) (hphase : p.phase = .serving) (lines : List CStr)
      (hlines : Serves invoke (p.afterIo r) d q e lines) (hall : LF ∉ q.stream.inb)

/-- All that a resumption can do. The watcher has been active. -/
theorem resume_cases {recv : RecvOutcome} {send : SendOutcome} (h : p.stream.Sound)
    (hstep : resume invoke p d recv send = some (q, e)) :
    p.stream.io.active = true ∧ ∃ r, p.turnIo recv send = some r ∧
      NceStream.IoLeaves { p.stream with io := nceIoTake p.stream.io } r ∧
      Turn invoke p d r q e := by
  unfold resume at hstep
  by_cases hnone : p.stream.io.revents = .none
  · rw [if_pos hnone] at hstep
    cases hstep
  · rw [if_neg hnone] at hstep
    have hactive : p.stream.io.active = true := by
      by_contra hidle
      exact hnone (h.quiet (by simpa using hidle))
    have htaken : NceStream.Sound { p.stream with io := nceIoTake p.stream.io } :=
      ⟨h.inb, h.out, h.watched, fun _ => rfl⟩
    obtain ⟨r, hr, hstep⟩ := Option.bind_eq_some_iff.1 hstep
    have hleaves := htaken.streamIo hr
    refine ⟨hactive, r, hr, hleaves, ?_⟩
    dsimp only at hstep
    by_cases hok : r.ok = false
    · rw [if_pos hok] at hstep
      obtain ⟨rfl, rfl⟩ := Prod.mk.inj (Option.some.inj hstep)
      exact .ends hok rfl rfl
    · rw [if_neg hok] at hstep
      split at hstep
      · rename_i hphase
        obtain ⟨rfl, rfl⟩ := Prod.mk.inj (Option.some.inj hstep)
        exact .flushes hok hphase rfl rfl
      · rename_i hphase
        obtain ⟨lines, hlines, hall⟩ := serveLines_spec hleaves.sound hstep
        exact .serves hok hphase lines hlines (hall (Nat.le_refl _))
      · cases hstep

end Serving

end Peer

end Irccd
