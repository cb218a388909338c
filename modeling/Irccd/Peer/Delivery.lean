import Irccd.Foundations.Runs
import Irccd.Peer.Session

/-!
# What reaches a peer, and what reaches its client

A peer invokes the lines of its client in order, however they arrive, and its client gets what the
handlers put, however it leaves.

* `Peer.Kept`: what every step keeps;
* `Peer.prompt_iff`: exactly when no line that has arrived is left waiting;
* `Peer.goesOn_iff`: exactly when the peer goes on reading and writing;
* `Peer.legible_iff`: exactly when the client gets the texts of the handlers as lines.
-/

namespace Irccd

open Readers (unlines)

namespace Peer

variable {δ : Type} {invoke : Invoke δ} {p q : Peer} {d e : δ} {a : Act}

/-- What every step keeps. The lines that have arrived are invoked in order, as far as they have
been drained, and what was put leaves in order, as far as it has been sent. -/
structure Kept (p : Peer) : Prop where
  sound : p.stream.Sound
  allocated : p.stream.allocated = true ↔ p.phase ≠ .ended
  fresh : p.phase = .flushing → p.invoked = [] ∧ p.received = p.stream.inb
  order : ∃ lines rest, (∀ l ∈ lines, LF ∉ l) ∧ p.received = unlines LF lines ++ rest ∧
    p.invoked = texts lines ∧ (p.phase ≠ .ended → rest = p.stream.inb)
  output : ∃ rest, p.sent ++ rest = helloText ++ [LF] ++ p.pushes.flatMap block ∧
    (p.phase ≠ .ended → rest = p.stream.out)
  closed : p.closed = if p.phase = .ended then some p.stream.fd else none

/-! ## The first state -/

theorem sound_start (fd : ℤ) : (closedStream fd).start.Sound :=
  @NceStream.sound_ioSet { closedStream fd with allocated := true } (Nat.zero_le _) (Nat.zero_le _)
    (fun _ => rfl) true

/-- The hello has room. -/
theorem push_hello (fd : ℤ) :
    (closedStream fd).start.push (helloText ++ [LF]) = some (new fd).stream := by
  rcases NceStream.push_cases (closedStream fd).start (helloText ++ [LF]) with
    ⟨hroom, -⟩ | ⟨-, hpush⟩
  · have hfree : (closedStream fd).start.roomOut = streamCap := rfl
    rw [hfree] at hroom
    exact absurd hroom (by decide)
  · have hstream : (new fd).stream =
        ((closedStream fd).start.push (helloText ++ [LF])).getD (closedStream fd).start := rfl
    rw [hstream, hpush]
    rfl

theorem kept_new (fd : ℤ) : (new fd).Kept := by
  have hs := push_hello fd
  obtain ⟨hsound, hout⟩ := (sound_start fd).push hs
  obtain ⟨hin, -, halloc⟩ := NceStream.push_fields hs
  refine ⟨hsound, ?_, fun _ => ⟨rfl, ?_⟩, ⟨[], [], nofun, rfl, rfl, fun _ => ?_⟩,
    ⟨helloText ++ [LF], rfl, fun _ => ?_⟩, rfl⟩
  · rw [halloc]
    exact iff_of_true rfl nofun
  · rw [hin]
    rfl
  · rw [hin]
    rfl
  · rw [hout]
    rfl

/-! ## Steps -/

/-- Texts are put into the output of a peer whose coroutine has not ended. -/
theorem Kept.puts_output (h : p.Kept) (hputs : Puts p q) (hlive : p.phase ≠ .ended) :
    ∃ rest, q.sent ++ rest = helloText ++ [LF] ++ q.pushes.flatMap block ∧
      (q.phase ≠ .ended → rest = q.stream.out) := by
  obtain ⟨rest, hsent, hrest⟩ := h.output
  obtain ⟨pushes, hpushes, hout⟩ := hputs.output
  refine ⟨q.stream.out, ?_, fun _ => rfl⟩
  rw [hputs.sent, hout, ← hrest hlive, ← List.append_assoc, hsent, hpushes, List.flatMap_append,
    List.append_assoc _ (p.pushes.flatMap block)]

/-- An event is put into the output, unless the coroutine has ended and the buffer is gone. -/
theorem Kept.push (h : p.Kept) {text : CStr} (hne : text ≠ []) : (p.push text).Kept := by
  obtain ⟨hputs, hin⟩ := puts_push h.sound text
  refine ⟨hputs.sound, by rw [hputs.allocated, hputs.phase]; exact h.allocated,
    fun hphase => ?_, ?_, ?_, by rw [hputs.closed, hputs.phase, hputs.fd]; exact h.closed⟩
  · rw [hin]
    exact h.fresh hphase
  · obtain ⟨lines, rest, hlines, hreceived, hinvoked, hrest⟩ := h.order
    exact ⟨lines, rest, hlines, hreceived, hinvoked, fun hphase => by rw [hin]; exact hrest hphase⟩
  · by_cases hlive : p.phase = .ended
    · -- there is no room at all, so nothing is put
      obtain ⟨rest, hsent, -⟩ := h.output
      have hroom : p.stream.roomOut = 0 := if_neg fun halloc => h.allocated.1 halloc hlive
      have hblock : block (text, p.stream.roomOut) = [] :=
        block_of_lt (by rw [hroom]; exact List.length_pos_of_ne_nil hne)
      refine ⟨rest, ?_, fun hphase => absurd hlive hphase⟩
      have hpushes : (p.push text).pushes.flatMap block = p.pushes.flatMap block := by
        simp [Peer.push, hblock]
      rw [hpushes]
      exact hsent
    · exact h.puts_output hputs hlive

/-- The bytes of a turn of I/O, before anything is done with them. -/
theorem Kept.afterIo (h : p.Kept) {r : IoResult} (hactive : p.stream.io.active = true)
    (hr : NceStream.IoLeaves { p.stream with io := nceIoTake p.stream.io } r) :
    (p.afterIo r).Kept := by
  have hlive : p.phase ≠ .ended := h.allocated.1 (h.sound.allocated_of_active hactive)
  refine ⟨hr.sound, ?_, fun hphase => ?_, ?_, ?_, ?_⟩
  · show r.stream.allocated = true ↔ p.phase ≠ .ended
    rw [hr.allocated]
    exact h.allocated
  · obtain ⟨hinvoked, hreceived⟩ := h.fresh hphase
    refine ⟨hinvoked, ?_⟩
    show p.received ++ r.received = r.stream.inb
    rw [hreceived, hr.inb]
  · obtain ⟨lines, rest, hlines, hreceived, hinvoked, hrest⟩ := h.order
    refine ⟨lines, rest ++ r.received, hlines, ?_, hinvoked, fun _ => ?_⟩
    · show p.received ++ r.received = unlines LF lines ++ (rest ++ r.received)
      rw [hreceived, List.append_assoc]
    · show rest ++ r.received = r.stream.inb
      rw [hrest hlive, hr.inb]
  · obtain ⟨rest, hsent, hrest⟩ := h.output
    refine ⟨r.stream.out, ?_, fun _ => rfl⟩
    show p.sent ++ r.sent ++ r.stream.out = _
    have hout : rest = r.sent ++ r.stream.out := (hrest hlive).trans hr.out
    rw [List.append_assoc, ← hout]
    exact hsent
  · show p.closed = if p.phase = .ended then some r.stream.fd else none
    rw [hr.fd]
    exact h.closed

/-- The stream of a coroutine that ends is stopped, and its buffers are freed. -/
theorem Kept.finish (h : p.Kept) (hactive : p.stream.io.active = true) : p.finish.Kept := by
  have hstop : p.stream.stop.2 =
      { p.stream with io := nceIoStop p.stream.io, inb := [], out := [], allocated := false } := by
    rw [NceStream.stop, if_pos hactive]
  have hstream : p.finish.stream =
      { p.stream with io := nceIoStop p.stream.io, inb := [], out := [], allocated := false } :=
    hstop
  have hclosed : p.finish.closed = some p.stream.fd := by
    show p.stream.stop.1 = some p.stream.fd
    rw [NceStream.stop, if_pos hactive]
  refine ⟨?_, ?_, nofun, ?_, ?_, by rw [hclosed, hstream]; exact (if_pos rfl).symm⟩
  · rw [hstream]
    exact ⟨Nat.zero_le _, Nat.zero_le _, nofun, fun _ => rfl⟩
  · rw [hstream]
    exact iff_of_false nofun fun hphase => hphase rfl
  · obtain ⟨lines, rest, hlines, hreceived, hinvoked, -⟩ := h.order
    exact ⟨lines, rest, hlines, hreceived, hinvoked, fun hphase => absurd rfl hphase⟩
  · obtain ⟨rest, hsent, -⟩ := h.output
    exact ⟨rest, hsent, fun hphase => absurd rfl hphase⟩

/-- The hello is gone, or not. -/
theorem Kept.flush (h : p.Kept) {phase : PeerPhase} (hphase : p.phase = .flushing)
    (hnew : phase ≠ .ended) : ({ p with phase } : Peer).Kept := by
  have hlive : p.phase ≠ .ended := by rw [hphase]; nofun
  have hclosed : p.closed = none := h.closed.trans (if_neg hlive)
  refine ⟨h.sound, iff_of_true (h.allocated.2 hlive) hnew, fun _ => h.fresh hphase, ?_, ?_,
    hclosed.trans (if_neg hnew).symm⟩
  · obtain ⟨lines, rest, hlines, hreceived, hinvoked, hrest⟩ := h.order
    exact ⟨lines, rest, hlines, hreceived, hinvoked, fun _ => hrest hlive⟩
  · obtain ⟨rest, hsent, hrest⟩ := h.output
    exact ⟨rest, hsent, fun _ => hrest hlive⟩

/-- Lines are drained, and invoked. -/
theorem Kept.serves (h : p.Kept) (hphase : p.phase = .serving) {lines : List CStr}
    (hserves : Serves invoke p d q e lines) : q.Kept := by
  have hputs := hserves.puts
  have hlive : p.phase ≠ .ended := by rw [hphase]; nofun
  refine ⟨hputs.sound, by rw [hputs.allocated, hputs.phase]; exact h.allocated, fun hq => ?_, ?_,
    h.puts_output hputs hlive, by rw [hputs.closed, hputs.phase, hputs.fd]; exact h.closed⟩
  · rw [hputs.phase, hphase] at hq
    cases hq
  · obtain ⟨before, rest, hbefore, hreceived, hinvoked, hrest⟩ := h.order
    refine ⟨before ++ lines, q.stream.inb, ?_, ?_, ?_, fun _ => rfl⟩
    · exact fun l hl => (List.mem_append.1 hl).elim (hbefore l) (hserves.complete l)
    · have hjoin : unlines LF (before ++ lines) = unlines LF before ++ unlines LF lines := by
        simp [Readers.unlines]
      rw [hputs.received, hreceived, hrest hlive, hserves.inb, hjoin, List.append_assoc]
    · rw [hserves.invoked, hinvoked, texts_append]

/-- What a step does that is not a turn of the coroutine: nothing but the output and the events of
the watcher may change. -/
structure Stays (p q : Peer) : Prop where
  phase : q.phase = p.phase
  received : q.received = p.received
  sent : q.sent = p.sent
  invoked : q.invoked = p.invoked
  isWatching : q.isWatching = p.isWatching
  closed : q.closed = p.closed
  fd : q.stream.fd = p.stream.fd
  inb : q.stream.inb = p.stream.inb
  active : q.stream.io.active = p.stream.io.active

/-- All that a step can do. -/
theorem step_cases (h : p.stream.Sound) (hstep : step invoke (p, d) a = some (q, e)) :
    (Stays p q ∧ e = d ∧ ∀ recv send, a ≠ .resume recv send) ∨
    ∃ recv send r, a = .resume recv send ∧ p.stream.io.active = true ∧
      p.turnIo recv send = some r ∧
      NceStream.IoLeaves { p.stream with io := nceIoTake p.stream.io } r ∧
      Turn invoke p d r q e := by
  cases a with
  | fire revents =>
    obtain ⟨q', hfire, hq⟩ := Option.map_eq_some_iff.1 hstep
    obtain ⟨rfl, rfl⟩ := Prod.mk.inj hq
    unfold Peer.fire at hfire
    dsimp only at hfire
    split at hfire
    · obtain rfl := Option.some.inj hfire
      exact .inl ⟨⟨rfl, rfl, rfl, rfl, rfl, rfl, rfl, rfl, rfl⟩, rfl, nofun⟩
    · cases hfire
  | resume recv send =>
    obtain ⟨hactive, r, hr, hleaves, hturn⟩ := resume_cases h hstep
    exact .inr ⟨recv, send, r, rfl, hactive, hr, hleaves, hturn⟩
  | event text =>
    unfold Peer.step at hstep
    dsimp only at hstep
    split at hstep
    · cases hstep
    · obtain ⟨rfl, rfl⟩ := Prod.mk.inj (Option.some.inj hstep)
      refine .inl ⟨?_, rfl, nofun⟩
      split
      · obtain ⟨hputs, hin⟩ := puts_push h text
        exact ⟨rfl, rfl, rfl, rfl, rfl, rfl, hputs.fd, hin, hputs.active⟩
      · exact ⟨rfl, rfl, rfl, rfl, rfl, rfl, rfl, rfl, rfl⟩

/-- Every step keeps what is kept. -/
theorem Kept.step (h : p.Kept) (hstep : step invoke (p, d) a = some (q, e)) : q.Kept := by
  cases a with
  | fire revents =>
    obtain ⟨q', hfire, hq⟩ := Option.map_eq_some_iff.1 hstep
    obtain ⟨rfl, rfl⟩ := Prod.mk.inj hq
    unfold Peer.fire at hfire
    dsimp only at hfire
    split at hfire
    · rename_i hready
      obtain rfl := Option.some.inj hfire
      obtain ⟨hin, hout, hwatched, -⟩ := h.sound
      refine ⟨⟨hin, hout, hwatched, fun hidle => ?_⟩, h.allocated, h.fresh, h.order, h.output,
        h.closed⟩
      rw [show p.stream.io.active = false from hidle] at hready
      exact absurd hready.1 nofun
    · cases hfire
  | resume recv send =>
    obtain ⟨hactive, r, -, hleaves, hturn⟩ := resume_cases h.sound hstep
    have hio := h.afterIo hactive hleaves
    cases hturn with
    | ends hok hq _ =>
      rw [hq]
      exact hio.finish (hleaves.failed hok hactive)
    | flushes _ hphase hq _ =>
      rw [hq]
      exact hio.flush hphase (by split <;> nofun)
    | serves _ hphase lines hlines _ => exact hio.serves hphase hlines
  | event text =>
    unfold Peer.step at hstep
    dsimp only at hstep
    split at hstep
    · cases hstep
    · rename_i hne
      obtain ⟨rfl, rfl⟩ := Prod.mk.inj (Option.some.inj hstep)
      split
      · exact h.push hne
      · exact h

/-- A step invokes some lines, one after the other, on the same descriptor. -/
theorem step_replay (h : p.stream.Sound) (hstep : Peer.step invoke (p, d) a = some (q, e)) :
    q.stream.fd = p.stream.fd ∧ ∃ new, q.invoked = p.invoked ++ new ∧
      replay invoke (d, p.isWatching) new = some (e, q.isWatching) := by
  rcases step_cases h hstep with ⟨hstays, rfl, -⟩ | ⟨recv, send, r, -, -, -, hleaves, hturn⟩
  · refine ⟨hstays.fd, [], by rw [hstays.invoked, List.append_nil], ?_⟩
    rw [hstays.isWatching]
    rfl
  · cases hturn with
    | ends _ hq he =>
      rw [hq, he]
      refine ⟨?_, [], (List.append_nil _).symm, rfl⟩
      show r.stream.stop.2.fd = p.stream.fd
      rw [← show r.stream.fd = p.stream.fd from hleaves.fd, NceStream.stop]
      split <;> rfl
    | flushes _ _ hq he =>
      rw [hq, he]
      exact ⟨hleaves.fd, [], (List.append_nil _).symm, rfl⟩
    | serves _ _ lines hlines _ =>
      exact ⟨hlines.puts.fd.trans hleaves.fd, texts lines, hlines.invoked, hlines.replay⟩

/-! ## No line is left waiting -/

/-- Every non-empty line that has arrived is invoked. -/
def Prompt (s : Peer × δ) : Prop :=
  s.1.phase = .serving → s.1.invoked = texts (Lines.cut LF s.1.received).1

/-- When the hello is gone, no non-empty line has arrived yet. -/
def HelloFirst (s : Peer × δ) (_ : Act) (s' : Peer × δ) : Prop :=
  s.1.phase = .flushing → s'.1.phase = .serving → texts (Lines.cut LF s'.1.received).1 = []

/-- The lines that have arrived are those that were drained and those in the input buffer. -/
theorem Kept.texts_received (h : p.Kept) (hlive : p.phase ≠ .ended) :
    texts (Lines.cut LF p.received).1 = p.invoked ++ texts (Lines.cut LF p.stream.inb).1 := by
  obtain ⟨lines, rest, hlines, hreceived, hinvoked, hrest⟩ := h.order
  rw [hreceived, Lines.cut_unlines hlines, hrest hlive, hinvoked, texts_append]

/-- A turn that serves leaves no line waiting. -/
theorem Kept.prompt_of_not_mem (h : p.Kept) (hnl : LF ∉ p.stream.inb) : Prompt (p, d) := by
  intro hphase
  have hlive : p.phase ≠ .ended := by rw [show p.phase = .serving from hphase]; nofun
  show p.invoked = texts (Lines.cut LF p.received).1
  rw [h.texts_received hlive, Lines.cut_of_not_mem hnl]
  simp [texts]

/-- A step leaves no line waiting exactly when it does not let the hello go behind one. -/
theorem Kept.prompt_step (h : p.Kept) (hprompt : Prompt (p, d))
    (hstep : Peer.step invoke (p, d) a = some (q, e)) :
    Prompt (q, e) ↔ HelloFirst (p, d) a (q, e) := by
  have hq := h.step hstep
  rcases step_cases h.sound hstep with ⟨hstays, -, -⟩ | ⟨recv, send, r, -, -, -, -, hturn⟩
  · refine iff_of_true (fun hserving => ?_) fun hflushing hserving => ?_
    · show q.invoked = texts (Lines.cut LF q.received).1
      rw [hstays.invoked, hstays.received]
      exact hprompt (hstays.phase.symm.trans hserving)
    · cases (hstays.phase.symm.trans hserving).symm.trans hflushing
  · cases hturn with
    | ends _ heq _ =>
      refine iff_of_true (fun hserving => ?_) fun _ hserving => ?_ <;>
      · rw [heq] at hserving
        cases hserving
    | flushes _ hphase heq _ =>
      -- nothing has been invoked so far
      have hnone : q.invoked = [] := by
        rw [heq]
        exact (h.fresh hphase).1
      constructor
      · intro hafter _ hserving
        exact (hafter hserving).symm.trans hnone
      · intro hfirst hserving
        exact hnone.trans (hfirst hphase hserving).symm
    | serves _ hphase _ _ hall =>
      refine iff_of_true (hq.prompt_of_not_mem hall) fun hflushing _ => ?_
      cases hphase.symm.trans hflushing

/-- In every run of a peer, each non-empty line is invoked as soon as it has arrived, if and only if
none arrives before the hello is gone. -/
theorem prompt_iff (invoke : Invoke δ) (fd : ℤ) (d : δ) (as : List Act) :
    Runs.AllStates (Peer.step invoke) Prompt (new fd, d) as ↔
      Runs.AllSteps (Peer.step invoke) HelloFirst (new fd, d) as := by
  refine Runs.allStates_iff_allSteps (I := fun s => s.1.Kept ∧ Prompt s) ?_ (fun _ h => h.2) ?_
    ⟨kept_new fd, nofun⟩
  · rintro ⟨p, d⟩ a ⟨q, e⟩ ⟨hkept, hprompt⟩ hstep hfirst
    exact ⟨hkept.step hstep, (hkept.prompt_step hprompt hstep).2 hfirst⟩
  · rintro ⟨p, d⟩ a ⟨q, e⟩ ⟨hkept, hprompt⟩ hstep hfirst hafter
    exact hfirst ((hkept.prompt_step hprompt hstep).1 hafter)

/-! ## The peer goes on -/

/-- The coroutine has ended, or its watcher is set to read while there is room, and to write while
something waits. -/
def GoesOn (s : Peer × δ) : Prop := s.1.phase ≠ .ended → s.1.stream.Wakeful

/-- The I/O of the turn fills the input buffer while nothing waits in the output. -/
def Chokes (s : Peer × δ) : Act → Prop
  | .resume recv send => ∃ r, s.1.turnIo recv send = some r ∧ r.ok = true ∧
      r.stream.inb.length = streamCap ∧ r.stream.out = []
  | _ => False

/-- The buffers allow nothing when the input is full and the output empty. -/
theorem wanted_eq_none_iff {s : NceStream} (h : s.Sound) (halloc : s.allocated = true) :
    s.wanted = .none ↔ s.inb.length = streamCap ∧ s.out = [] := by
  have hin := h.inb
  have hread : decide (s.inb.length < streamCap) = false ↔ s.inb.length = streamCap := by
    rw [decide_eq_false_iff_not]
    omega
  rw [NceStream.wanted, Events.none, halloc]
  simp [hread]

/-- A turn that does not end the coroutine leaves the watcher set, unless it chokes. -/
theorem Kept.wakeful_iff_of_turn (h : p.Kept) {recv : RecvOutcome} {send : SendOutcome}
    {r : IoResult} (hactive : p.stream.io.active = true) (hr : p.turnIo recv send = some r)
    (hleaves : NceStream.IoLeaves { p.stream with io := nceIoTake p.stream.io } r)
    (hok : ¬ r.ok = false) (hq : q.stream.Sound)
    (hsame : q.stream.io.active = r.stream.io.active) :
    q.stream.Wakeful ↔ ¬ Chokes (p, d) (.resume recv send) := by
  have halloc : r.stream.allocated = true :=
    hleaves.allocated.trans (h.sound.allocated_of_active hactive)
  have hchokes : Chokes (p, d) (.resume recv send) ↔ r.stream.wanted = .none := by
    rw [wanted_eq_none_iff hleaves.sound halloc]
    constructor
    · rintro ⟨r', hr', -, hfull⟩
      obtain rfl := Option.some.inj (hr.symm.trans hr')
      exact hfull
    · exact fun hfull => ⟨r, hr, by simpa using hok, hfull⟩
  rw [hq.wakeful_iff_active, hsame, hleaves.active hactive, hchokes]

/-- A step leaves the watcher set, unless it chokes. -/
theorem Kept.goesOn_step (h : p.Kept) (hgoes : GoesOn (p, d))
    (hstep : Peer.step invoke (p, d) a = some (q, e)) :
    GoesOn (q, e) ↔ ¬ Chokes (p, d) a := by
  have hq := h.step hstep
  rcases step_cases h.sound hstep with
    ⟨hstays, -, hother⟩ | ⟨recv, send, r, rfl, hactive, hr, hleaves, hturn⟩
  · have hchokes : ¬ Chokes (p, d) a := by
      cases a with
      | fire revents => exact id
      | resume recv send => exact absurd rfl (hother recv send)
      | event text => exact id
    refine iff_of_true (fun hlive => ?_) hchokes
    have hawake := hgoes (hstays.phase ▸ hlive)
    exact hq.sound.wakeful_iff_active.2 (hstays.active.trans hawake.1)
  · have hlive : p.phase ≠ .ended := h.allocated.1 (h.sound.allocated_of_active hactive)
    cases hturn with
    | ends hok heq _ =>
      refine iff_of_true (fun hphase => ?_) ?_
      · rw [heq] at hphase
        exact absurd rfl hphase
      · rintro ⟨r', hr', hok', -⟩
        obtain rfl := Option.some.inj (hr.symm.trans hr')
        cases hok.symm.trans hok'
    | flushes hok hphase heq _ =>
      have hgone : q.phase ≠ .ended := by
        rw [heq]
        show (if r.stream.out = [] then PeerPhase.serving else .flushing) ≠ .ended
        split <;> nofun
      rw [← h.wakeful_iff_of_turn hactive hr hleaves hok hq.sound (by rw [heq]; rfl)]
      exact ⟨fun hgoes => hgoes hgone, fun hawake _ => hawake⟩
    | serves hok hphase lines hlines hall =>
      have hgone : q.phase ≠ .ended := by
        rw [hlines.puts.phase]
        exact hlive
      rw [← h.wakeful_iff_of_turn hactive hr hleaves hok hq.sound hlines.puts.active]
      exact ⟨fun hgoes => hgoes hgone, fun hawake _ => hawake⟩

theorem goesOn_new (fd : ℤ) (d : δ) : GoesOn (new fd, d) := by
  intro _
  show (new fd).stream.Wakeful
  rw [(kept_new fd).sound.wakeful_iff_active, (sound_start fd).push_active (push_hello fd)]
  rfl

/-- In every run of a peer, its watcher is always set to read while there is room and to write while
something waits, if and only if no turn fills the input buffer while nothing waits. -/
theorem goesOn_iff (invoke : Invoke δ) (fd : ℤ) (d : δ) (as : List Act) :
    Runs.AllStates (Peer.step invoke) GoesOn (new fd, d) as ↔
      Runs.AllSteps (Peer.step invoke) (fun s a _ => ¬ Chokes s a) (new fd, d) as := by
  refine Runs.allStates_iff_allSteps (I := fun s => s.1.Kept ∧ GoesOn s) ?_ (fun _ h => h.2) ?_
    ⟨kept_new fd, goesOn_new fd d⟩
  · rintro ⟨p, d⟩ a ⟨q, e⟩ ⟨hkept, hgoes⟩ hstep hfree
    exact ⟨hkept.step hstep, (hkept.goesOn_step hgoes hstep).2 hfree⟩
  · rintro ⟨p, d⟩ a ⟨q, e⟩ ⟨hkept, hgoes⟩ hstep hchokes hafter
    exact hchokes ((hkept.goesOn_step hgoes hstep).1 hafter)

/-! ## What the client gets -/

/-- The texts of the calls of `peer_push` that returned 0. -/
def delivered (p : Peer) : List CStr :=
  (p.pushes.filter fun push => push.1.length < push.2).map (·.1)

/-- The client gets the hello and those texts, each as a line of its own. -/
def Legible (p : Peer) : Prop :=
  p.sent ++ p.stream.out = unlines LF (helloText :: p.delivered)

/-- No text has met a buffer that has room for the text but not for its newline. -/
def Untorn (p : Peer) : Prop := ∀ push ∈ p.pushes, push.1.length = push.2 → push.1 = []

/-- The texts that are torn. -/
def torn (pushes : List (CStr × ℕ)) : List CStr :=
  (pushes.filter fun push => push.1.length = push.2).map (·.1)

/-- The blocks are longer than the lines by the texts that are torn. -/
theorem length_flatMap_block (pushes : List (CStr × ℕ)) :
    (pushes.flatMap block).length =
      (unlines LF ((pushes.filter fun push => push.1.length < push.2).map (·.1))).length +
        (torn pushes).flatten.length := by
  induction pushes with
  | nil => rfl
  | cons push pushes ih =>
    obtain ⟨text, room⟩ := push
    rw [List.flatMap_cons, List.length_append, ih]
    rcases Nat.lt_trichotomy room text.length with hlt | heq | hgt
    · have hne : ¬ text.length = room := by omega
      have hle : ¬ text.length < room := by omega
      rw [block_of_lt hlt]
      simp [torn, hne, hle]
    · have hle : ¬ text.length < room := by omega
      rw [block_of_eq heq]
      simp [torn, heq]
      omega
    · have hne : ¬ text.length = room := by omega
      rw [block_of_gt hgt]
      simp [torn, hne, hgt, Readers.unlines]
      omega

/-- Without torn texts the blocks are lines. -/
theorem flatMap_block_of_untorn {pushes : List (CStr × ℕ)}
    (h : ∀ push ∈ pushes, push.1.length = push.2 → push.1 = []) :
    pushes.flatMap block =
      unlines LF ((pushes.filter fun push => push.1.length < push.2).map (·.1)) := by
  induction pushes with
  | nil => rfl
  | cons push pushes ih =>
    obtain ⟨hpush, hrest⟩ := List.forall_mem_cons.1 h
    obtain ⟨text, room⟩ := push
    rw [List.flatMap_cons, ih hrest]
    by_cases hgt : text.length < room
    · rw [block_of_gt hgt]
      simp [hgt, Readers.unlines]
    · have hnone : block (text, room) = [] := by
        by_cases heq : text.length = room
        · rw [block_of_eq heq.symm]
          exact hpush heq
        · exact block_of_lt (by omega)
      rw [hnone]
      simp [hgt]

theorem Kept.legible_iff_untorn (h : p.Kept) (hlive : p.phase ≠ .ended) : p.Legible ↔ p.Untorn := by
  obtain ⟨rest, hsent, hrest⟩ := h.output
  have hlines : unlines LF (helloText :: p.delivered) =
      helloText ++ [LF] ++ unlines LF p.delivered := rfl
  rw [Legible, ← hrest hlive, hsent, hlines, List.append_cancel_left_eq]
  refine ⟨fun heq push hpush htorn => ?_, flatMap_block_of_untorn⟩
  -- otherwise the blocks are too long
  have hlen := length_flatMap_block p.pushes
  rw [heq] at hlen
  have hnone : (torn p.pushes).flatten = [] := List.eq_nil_of_length_eq_zero (by
    rw [delivered] at hlen
    omega)
  exact List.flatten_eq_nil_iff.1 hnone push.1
    (List.mem_map_of_mem (List.mem_filter.2 ⟨hpush, by simpa using htorn⟩))

/-- In every run of a peer, as long as its coroutine has not ended, what has been sent and what
waits to be sent are the hello and the texts of the calls of `peer_push` that returned 0, in order
and each a line of its own, if and only if no text that is not empty has met a buffer with room for
exactly the text. -/
theorem legible_iff (invoke : Invoke δ) (fd : ℤ) (d : δ) (as : List Act) :
    Runs.AllStates (Peer.step invoke)
      (fun s => s.1.phase ≠ .ended → (s.1.Legible ↔ s.1.Untorn)) (new fd, d) as := by
  have hkept : Runs.AllStates (Peer.step invoke) (fun s => s.1.Kept) (new fd, d) as :=
    Runs.AllStates.of_keeps (fun s a s' h hstep => h.step hstep) (kept_new fd)
  exact hkept.mono fun s h hlive => h.legible_iff_untorn hlive

end Peer

end Irccd
