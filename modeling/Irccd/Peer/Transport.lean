import Mathlib.Data.Finset.Basic
import Mathlib.Data.List.Basic
import Irccd.Foundations.Counted
import Irccd.Peer.Delivery

/-!
# The peers of the daemon (`transport.c`)

The listening socket accepts clients, each of which becomes a peer. Whenever the socket is ready the
peers whose stream is not active any more are taken off the list. All peers share one daemon.

* `Transport`: the peers, the daemon, the descriptors of the clients, and the lines that were
  invoked;
* `Transport.step`: the coroutines of the peers, that of the listening socket, and the broadcasts;
* `Transport.sequential`: the daemon is what the lines make of it one by one, and each peer
  contributes its own lines in order;
* `Transport.tidy_iff`: exactly when every descriptor that is open belongs to a peer on the list.
-/

namespace Irccd

/-- The peers that were ever accepted, those of them that are on the list `peers`, the daemon, the
descriptors of clients that are open, and the lines that were invoked, each with its peer. -/
structure Transport (δ : Type) where
  all : List Peer
  peers : List ℕ
  daemon : δ
  opened : Finset ℤ
  log : List (ℕ × CStr)

namespace Transport

section Steps

variable {δ : Type} (invoke : Invoke δ) (t : Transport δ)

/-- The daemon before the first client. -/
def start (d : δ) : Transport δ := { all := [], peers := [], daemon := d, opened := ∅, log := [] }

/-- `nce_stream_active`, for a peer. -/
def isActive (i : ℕ) : Bool := ((t.all[i]?).map (·.stream.io.active)).getD false

/-- The end of a turn of `transport_entry`. `peer_free` does nothing to a stream that is not
active. -/
def reap : Transport δ := { t with peers := t.peers.filter t.isActive }

/-- A turn of `transport_entry`: a client is accepted, unless `accept` fails. Its descriptor is a
new one. -/
def accept : Option ℤ → Option (Transport δ)
  | none => some t.reap
  | some clt =>
    if clt ∈ t.opened then none
    else
      some ({ t with
        all := t.all ++ [Peer.new clt], peers := t.peers ++ [t.all.length]
        opened := insert clt t.opened } : Transport δ).reap

/-- `transport_broadcast` -/
def broadcast (text : CStr) : Transport δ :=
  { t with all := t.all.mapIdx fun i p =>
      if t.peers.contains i && p.isWatching then p.push text else p }

/-- The descriptor that a step of a peer closes. -/
def closing (p q : Peer) : Option ℤ := if p.closed = none then q.closed else none

/-- A step of a peer on the list. -/
def stepPeer (i : ℕ) (a : Peer.Act) : Option (Transport δ) :=
  if t.peers.contains i then
    (t.all[i]?).bind fun p =>
      (Peer.step invoke (p, t.daemon) a).map fun s =>
        { t with
          all := t.all.set i s.1
          daemon := s.2
          opened := (closing p s.1).elim t.opened t.opened.erase
          log := t.log ++ (s.1.invoked.drop p.invoked.length).map (i, ·) }
  else none

/-- What may happen. -/
inductive Act
  | accept (clt : Option ℤ)
  | fire (i : ℕ) (revents : Events)
  | resume (i : ℕ) (recv : RecvOutcome) (send : SendOutcome)
  | broadcast (text : CStr)

/-- A step. -/
def step : Act → Option (Transport δ)
  | .accept clt => t.accept clt
  | .fire i revents => t.stepPeer invoke i (.fire revents)
  | .resume i recv send => t.stepPeer invoke i (.resume recv send)
  | .broadcast text => if text = [] then none else some (t.broadcast text)

/-- `is_watching` of the peers. -/
def watchers (i : ℕ) : Bool := ((t.all[i]?).map (·.isWatching)).getD false

/-- What a peer has invoked. -/
def invokedBy (i : ℕ) : List CStr := ((t.all[i]?).map (·.invoked)).getD []

/-- Invoke the lines of several peers one after the other. -/
def replayAll (w : δ × (ℕ → Bool)) : List (ℕ × CStr) → Option (δ × (ℕ → Bool))
  | [] => some w
  | (i, text) :: rest => (invoke w.1 (w.2 i) text).bind fun r =>
      replayAll (r.daemon, Function.update w.2 i r.watching) rest

end Steps

section Replay

variable {δ : Type} {invoke : Invoke δ} {w : δ × (ℕ → Bool)} {d e : δ} {watchers : ℕ → Bool}

theorem replayAll_append (log log' : List (ℕ × CStr)) :
    replayAll invoke w (log ++ log') =
      (replayAll invoke w log).bind fun v => replayAll invoke v log' := by
  induction log generalizing w with
  | nil => rfl
  | cons entry log ih =>
    obtain ⟨i, text⟩ := entry
    simp [replayAll, ih, Option.bind_assoc]

/-- The lines of one peer. -/
theorem replayAll_map {i : ℕ} {watching : Bool} {texts : List CStr}
    (h : Peer.replay invoke (d, watchers i) texts = some (e, watching)) :
    replayAll invoke (d, watchers) (texts.map (i, ·)) =
      some (e, Function.update watchers i watching) := by
  induction texts generalizing d watchers with
  | nil =>
    obtain ⟨rfl, rfl⟩ := Prod.mk.inj (Option.some.inj h)
    rw [Function.update_eq_self]
    rfl
  | cons text texts ih =>
    obtain ⟨r, hr, h⟩ := Option.bind_eq_some_iff.1 h
    rw [List.map_cons, replayAll, hr, Option.bind_some]
    have hself : Function.update watchers i r.watching i = r.watching := Function.update_self ..
    have hrest : replayAll invoke (r.daemon, Function.update watchers i r.watching)
        (texts.map (i, ·)) = _ := ih (by rw [hself]; exact h)
    rw [hrest, Function.update_idem]

end Replay

/-! ## What every step keeps -/

section Invariants

variable {δ : Type} {invoke : Invoke δ} {d₀ : δ} {t t' : Transport δ}

/-- Every peer is kept, those on the list were accepted, and the others are not active. -/
structure Wellformed (t : Transport δ) : Prop where
  kept : ∀ p ∈ t.all, p.Kept
  linked : ∀ i ∈ t.peers, i < t.all.length
  idle : ∀ i p, t.all[i]? = some p → i ∉ t.peers → p.stream.io.active = false

/-- A step of the peers: one of them takes a step, or some of them get an event. -/
theorem stepPeer_cases {i : ℕ} {a : Peer.Act} (hstep : t.stepPeer invoke i a = some t') :
    ∃ p q e, t.all[i]? = some p ∧ i ∈ t.peers ∧ Peer.step invoke (p, t.daemon) a = some (q, e) ∧
      t' = { t with
        all := t.all.set i q
        daemon := e
        opened := (closing p q).elim t.opened t.opened.erase
        log := t.log ++ (q.invoked.drop p.invoked.length).map (i, ·) } := by
  unfold stepPeer at hstep
  split at hstep
  · rename_i hlinked
    obtain ⟨p, hp, hstep⟩ := Option.bind_eq_some_iff.1 hstep
    obtain ⟨⟨q, e⟩, hq, rfl⟩ := Option.map_eq_some_iff.1 hstep
    exact ⟨p, q, e, hp, by simpa using hlinked, hq, rfl⟩
  · cases hstep

theorem Wellformed.stepPeer (h : t.Wellformed) {i : ℕ} {a : Peer.Act}
    (hstep : t.stepPeer invoke i a = some t') : t'.Wellformed := by
  obtain ⟨p, q, e, hp, hi, hq, rfl⟩ := stepPeer_cases hstep
  have hkept := (h.kept p (List.mem_of_getElem? hp)).step hq
  refine ⟨fun r hr => ?_, fun j hj => ?_, fun j r hr hj => ?_⟩
  · rcases List.mem_or_eq_of_mem_set hr with hr | rfl
    · exact h.kept r hr
    · exact hkept
  · rw [List.length_set]
    exact h.linked j hj
  · rcases Counted.getElem?_set_cases hr with ⟨rfl, -⟩ | ⟨-, hr⟩
    · exact absurd hi hj
    · exact h.idle j r hr hj

/-- Reaping takes the peers off the list that are not active. -/
theorem Wellformed.reap (h : t.Wellformed) : t.reap.Wellformed := by
  refine ⟨h.kept, fun i hi => h.linked i (List.mem_filter.1 hi).1, fun i p hp hi => ?_⟩
  by_cases hlinked : i ∈ t.peers
  · have hidle : ¬ t.isActive i = true := fun hactive =>
      hi (List.mem_filter.2 ⟨hlinked, hactive⟩)
    simpa [isActive, show t.all[i]? = some p from hp] using hidle
  · exact h.idle i p hp hlinked

theorem Wellformed.accept (h : t.Wellformed) {clt : Option ℤ} (hstep : t.accept clt = some t') :
    t'.Wellformed := by
  cases clt with
  | none =>
    obtain rfl := Option.some.inj hstep
    exact h.reap
  | some clt =>
    unfold Transport.accept at hstep
    dsimp only at hstep
    split at hstep
    · cases hstep
    · obtain rfl := Option.some.inj hstep
      refine Wellformed.reap ⟨fun p hp => ?_, fun i hi => ?_, fun i p hp hi => ?_⟩
      · rcases List.mem_append.1 hp with hp | hp
        · exact h.kept p hp
        · rw [List.mem_singleton.1 hp]
          exact Peer.kept_new clt
      · rw [List.length_append, List.length_singleton]
        rcases List.mem_append.1 hi with hi | hi
        · have := h.linked i hi
          omega
        · rw [List.mem_singleton.1 hi]
          omega
      · simp only [List.mem_append, List.mem_singleton, not_or] at hi
        -- it is not the new one
        have hp : (t.all ++ [Peer.new clt])[i]? = some p := hp
        have hlt : i < t.all.length := by
          have hlen := (List.getElem?_eq_some_iff.1 hp).1
          rw [List.length_append, List.length_singleton] at hlen
          omega
        rw [List.getElem?_append_left hlt] at hp
        exact h.idle i p hp hi.1

theorem getElem?_broadcast {text : CStr} {i : ℕ} {q : Peer}
    (h : (t.broadcast text).all[i]? = some q) :
    ∃ p, t.all[i]? = some p ∧
      q = if t.peers.contains i && p.isWatching then p.push text else p := by
  have h : (t.all.mapIdx _)[i]? = some q := h
  rw [List.getElem?_mapIdx] at h
  obtain ⟨p, hp, rfl⟩ := Option.map_eq_some_iff.1 h
  exact ⟨p, hp, rfl⟩

/-- An event changes nothing but the output of a peer. -/
theorem stays_broadcast {text : CStr} {p q : Peer} (hp : p.Kept) (hne : text ≠ []) {b : Bool}
    (hq : q = if b = true then p.push text else p) : q.Kept ∧ Peer.Stays p q := by
  rw [hq]
  split
  · obtain ⟨hputs, hin⟩ := Peer.puts_push hp.sound text
    exact ⟨hp.push hne, rfl, rfl, rfl, rfl, rfl, rfl, hputs.fd, hin, hputs.active⟩
  · exact ⟨hp, rfl, rfl, rfl, rfl, rfl, rfl, rfl, rfl, rfl⟩

theorem Wellformed.broadcast (h : t.Wellformed) {text : CStr} (hne : text ≠ []) :
    (t.broadcast text).Wellformed := by
  have hold (i : ℕ) (q : Peer) (hq : (t.broadcast text).all[i]? = some q) :
      ∃ p, t.all[i]? = some p ∧ q.Kept ∧ Peer.Stays p q := by
    obtain ⟨p, hp, hpq⟩ := getElem?_broadcast hq
    exact ⟨p, hp, stays_broadcast (h.kept p (List.mem_of_getElem? hp)) hne hpq⟩
  refine ⟨fun q hq => ?_, fun i hi => ?_, fun i q hq hi => ?_⟩
  · obtain ⟨i, hi⟩ := List.mem_iff_getElem?.1 hq
    obtain ⟨p, -, hkept, -⟩ := hold i q hi
    exact hkept
  · have hlen : (t.broadcast text).all.length = t.all.length := List.length_mapIdx
    rw [hlen]
    exact h.linked i hi
  · obtain ⟨p, hp, -, hstays⟩ := hold i q hq
    exact hstays.active.trans (h.idle i p hp hi)

theorem Wellformed.step (h : t.Wellformed) {a : Act} (hstep : t.step invoke a = some t') :
    t'.Wellformed := by
  cases a with
  | accept clt => exact h.accept hstep
  | fire i revents => exact h.stepPeer hstep
  | resume i recv send => exact h.stepPeer hstep
  | broadcast text =>
    unfold Transport.step at hstep
    dsimp only at hstep
    split at hstep
    · cases hstep
    · rename_i hne
      obtain rfl := Option.some.inj hstep
      exact h.broadcast hne

/-! ## One line at a time -/

/-- Each peer contributes the lines that it has invoked, and the daemon is what the lines make of it
one by one. -/
structure Logged (invoke : Invoke δ) (d₀ : δ) (t : Transport δ) : Prop where
  lines : ∀ i, (t.log.filter (·.1 = i)).map (·.2) = t.invokedBy i
  replay : replayAll invoke (d₀, fun _ => false) t.log = some (t.daemon, t.watchers)

/-- The lines of one peer, when others are appended. -/
theorem lines_append (log : List (ℕ × CStr)) (i j : ℕ) (texts : List CStr) :
    ((log ++ texts.map (j, ·)).filter (·.1 = i)).map (·.2) =
      (log.filter (·.1 = i)).map (·.2) ++ if j = i then texts else [] := by
  rw [List.filter_append, List.map_append]
  congr 1
  by_cases hj : j = i
  · simp [hj, List.filter_map, Function.comp_def]
  · simp [hj, List.filter_map, Function.comp_def]

theorem logged_start (d₀ : δ) : (start d₀).Logged invoke d₀ where
  lines _ := rfl
  replay := rfl

/-- Only the fields of the peers that a client sees have to be the same. -/
theorem Logged.of_eq (h : t.Logged invoke d₀) (hlog : t'.log = t.log)
    (hdaemon : t'.daemon = t.daemon) (hinvoked : t'.invokedBy = t.invokedBy)
    (hwatchers : t'.watchers = t.watchers) :
    t'.Logged invoke d₀ where
  lines i := by rw [hlog, hinvoked, h.lines]
  replay := by rw [hlog, hdaemon, hwatchers, h.replay]

theorem Logged.stepPeer (h : t.Logged invoke d₀) (hwf : t.Wellformed) {i : ℕ} {a : Peer.Act}
    (hstep : t.stepPeer invoke i a = some t') : t'.Logged invoke d₀ := by
  obtain ⟨p, q, e, hp, -, hq, rfl⟩ := stepPeer_cases hstep
  have hlt : i < t.all.length := (List.getElem?_eq_some_iff.1 hp).1
  have hset : (t.all.set i q)[i]? = some q := List.getElem?_set_self hlt
  obtain ⟨-, new, hinvoked, hreplay⟩ :=
    Peer.step_replay (hwf.kept p (List.mem_of_getElem? hp)).sound hq
  have hdrop : q.invoked.drop p.invoked.length = new := by rw [hinvoked, List.drop_left]
  refine ⟨fun j => ?_, ?_⟩
  · dsimp only
    rw [hdrop, lines_append, h.lines, invokedBy, invokedBy]
    by_cases hj : i = j
    · subst hj
      rw [if_pos rfl, hset, hp]
      exact hinvoked.symm
    · rw [if_neg hj, List.append_nil, List.getElem?_set_ne hj]
  · dsimp only
    -- the watchers are those from before, but for this peer
    have hwatching : t.watchers i = p.isWatching := by
      rw [watchers, hp]
      rfl
    rw [hdrop, replayAll_append, h.replay, Option.bind_some,
      replayAll_map (by rw [hwatching]; exact hreplay)]
    congr 2
    funext j
    by_cases hj : j = i
    · rw [hj, Function.update_self, watchers, hset]
      rfl
    · rw [Function.update_of_ne hj, watchers, watchers, List.getElem?_set_ne (Ne.symm hj)]

theorem Logged.accept (h : t.Logged invoke d₀) {clt : Option ℤ} (hstep : t.accept clt = some t') :
    t'.Logged invoke d₀ := by
  cases clt with
  | none =>
    obtain rfl := Option.some.inj hstep
    exact h.of_eq rfl rfl rfl rfl
  | some clt =>
    unfold Transport.accept at hstep
    dsimp only at hstep
    split at hstep
    · cases hstep
    · obtain rfl := Option.some.inj hstep
      -- a new peer has invoked nothing, and does not watch
      have hsame {β : Type} (f : Peer → β) (i : ℕ) :
          (((t.all ++ [Peer.new clt])[i]?).map f).getD (f (Peer.new clt)) =
            ((t.all[i]?).map f).getD (f (Peer.new clt)) := by
        rcases Nat.lt_trichotomy i t.all.length with hlt | heq | hgt
        · rw [List.getElem?_append_left hlt]
        · simp [heq]
        · simp [List.getElem?_append_right hgt.le, List.getElem?_eq_none hgt.le,
            Nat.sub_ne_zero_of_lt hgt]
      exact h.of_eq rfl rfl (funext (hsame (·.invoked))) (funext (hsame (·.isWatching)))

theorem Logged.broadcast (h : t.Logged invoke d₀) (hwf : t.Wellformed) {text : CStr}
    (hne : text ≠ []) : (t.broadcast text).Logged invoke d₀ := by
  have hsame {β : Type} (f : Peer → β) (hf : ∀ p q, Peer.Stays p q → f q = f p) (i : ℕ) :
      ((t.broadcast text).all[i]?).map f = (t.all[i]?).map f := by
    show ((t.all.mapIdx _)[i]?).map f = _
    rw [List.getElem?_mapIdx, Option.map_map]
    cases hp : t.all[i]? with
    | none => rfl
    | some p =>
      exact congrArg some
        (hf p _ (stays_broadcast (hwf.kept p (List.mem_of_getElem? hp)) hne rfl).2)
  refine h.of_eq rfl rfl (funext fun i => ?_) (funext fun i => ?_)
  · exact congrArg (·.getD []) (hsame (·.invoked) (fun p q hpq => hpq.invoked) i)
  · exact congrArg (·.getD false) (hsame (·.isWatching) (fun p q hpq => hpq.isWatching) i)

theorem Logged.step (h : t.Logged invoke d₀) (hwf : t.Wellformed) {a : Act}
    (hstep : t.step invoke a = some t') : t'.Logged invoke d₀ := by
  cases a with
  | accept clt => exact h.accept hstep
  | fire i revents => exact h.stepPeer hwf hstep
  | resume i recv send => exact h.stepPeer hwf hstep
  | broadcast text =>
    unfold Transport.step at hstep
    dsimp only at hstep
    split at hstep
    · cases hstep
    · rename_i hne
      obtain rfl := Option.some.inj hstep
      exact h.broadcast hwf hne

theorem wellformed_start (d₀ : δ) : (start d₀).Wellformed where
  kept _ hp := absurd hp List.not_mem_nil
  linked _ hi := absurd hi List.not_mem_nil
  idle _ _ hp _ := nomatch hp

/-- However the peers are interleaved, there is one order of all lines that were invoked in which
the daemon and the watchers are what the lines make of them one by one, and in which the lines of
each peer are lines that it has received, in the order in which they were sent. -/
theorem sequential (invoke : Invoke δ) (d₀ : δ) (as : List Act) :
    Runs.AllStates (step invoke) (fun t =>
      replayAll invoke (d₀, fun _ => false) t.log = some (t.daemon, t.watchers) ∧
      ∀ i p, t.all[i]? = some p → ∃ lines rest, (∀ l ∈ lines, LF ∉ l) ∧
        p.received = Readers.unlines LF lines ++ rest ∧
        (t.log.filter (·.1 = i)).map (·.2) = Peer.texts lines) (start d₀) as := by
  have hrun : Runs.AllStates (step invoke) (fun t => t.Wellformed ∧ t.Logged invoke d₀)
      (start d₀) as :=
    Runs.AllStates.of_keeps (fun t a t' h hstep => ⟨h.1.step hstep, h.2.step h.1 hstep⟩)
      ⟨wellformed_start d₀, logged_start d₀⟩
  refine hrun.mono fun t h => ⟨h.2.replay, fun i p hp => ?_⟩
  obtain ⟨lines, rest, hlines, hreceived, hinvoked, -⟩ :=
    (h.1.kept p (List.mem_of_getElem? hp)).order
  refine ⟨lines, rest, hlines, hreceived, ?_⟩
  rw [h.2.lines, invokedBy, hp]
  exact hinvoked

/-! ## Descriptors -/

/-- A peer whose coroutine has not ended. -/
def Live (t : Transport δ) (i : ℕ) (p : Peer) : Prop := t.all[i]? = some p ∧ p.phase ≠ .ended

/-- The open descriptors are those of the peers that have not ended, each of which has its own. -/
structure Owned (t : Transport δ) : Prop where
  mem : ∀ fd, fd ∈ t.opened ↔ ∃ i p, t.Live i p ∧ p.stream.fd = fd
  inj : ∀ i j p q, t.Live i p → t.Live j q → p.stream.fd = q.stream.fd → i = j

/-- Every open descriptor is the one of a peer on the list. -/
def Tidy (t : Transport δ) : Prop :=
  ∀ fd ∈ t.opened, ∃ i ∈ t.peers, ∃ p, t.Live i p ∧ p.stream.fd = fd

/-- When the listening socket is served, every peer on the list that has not ended has a watcher
that is active. -/
def NoneStalled (t : Transport δ) : Act → Transport δ → Prop
  | .accept _, _ => ∀ i ∈ t.peers, ∀ p, t.Live i p → p.stream.io.active = true
  | _, _ => True

theorem owned_start (d₀ : δ) : (start d₀).Owned where
  mem _ := ⟨nofun, fun ⟨_, _, h, _⟩ => nomatch h.1⟩
  inj _ _ _ _ h _ _ := nomatch h.1

/-- The descriptors are tidy if the peers that have not ended are on the list. -/
theorem Owned.tidy_iff_linked (h : t.Owned) : t.Tidy ↔ ∀ i p, t.Live i p → i ∈ t.peers := by
  constructor
  · intro htidy i p hp
    obtain ⟨j, hj, q, hq, hfd⟩ := htidy p.stream.fd ((h.mem _).2 ⟨i, p, hp, rfl⟩)
    rw [← h.inj j i q p hq hp hfd]
    exact hj
  · intro hlinked fd hfd
    obtain ⟨i, p, hp, rfl⟩ := (h.mem fd).1 hfd
    exact ⟨i, hlinked i p hp, p, hp, rfl⟩

/-- What a step of a peer does to the descriptors: it closes its own when it ends. -/
theorem closing_eq {p q : Peer} {d e : δ} {a : Peer.Act} (hp : p.Kept)
    (hq : Peer.step invoke (p, d) a = some (q, e)) :
    closing p q = if p.phase ≠ .ended ∧ q.phase = .ended then some p.stream.fd else none := by
  have hkept := hp.step hq
  obtain ⟨hfd, -⟩ := Peer.step_replay hp.sound hq
  rw [closing, hp.closed, hkept.closed, hfd]
  by_cases hended : p.phase = .ended <;> simp [hended]

/-- A peer that has ended stays so. -/
theorem ended_of_step {p q : Peer} {d e : δ} {a : Peer.Act} (hp : p.Kept)
    (hq : Peer.step invoke (p, d) a = some (q, e)) (hended : p.phase = .ended) :
    q.phase = .ended := by
  rcases Peer.step_cases hp.sound hq with ⟨hstays, -⟩ | ⟨-, -, -, -, hactive, -⟩
  · exact hstays.phase.trans hended
  · exact absurd hended (hp.allocated.1 (hp.sound.allocated_of_active hactive))

/-- The peers that have not ended after a step: the same ones, but for one that ends. -/
theorem live_set {i j : ℕ} {p q r : Peer} {u : Transport δ} (hu : u.all = t.all.set i q)
    (hp : t.all[i]? = some p) :
    u.Live j r ↔ (j = i ∧ r = q ∧ q.phase ≠ .ended) ∨ (j ≠ i ∧ t.Live j r) := by
  have hlt : i < t.all.length := (List.getElem?_eq_some_iff.1 hp).1
  unfold Live
  rw [hu]
  by_cases hj : j = i
  · rw [hj, List.getElem?_set_self hlt]
    constructor
    · rintro ⟨hr, hlive⟩
      obtain rfl := Option.some.inj hr
      exact .inl ⟨rfl, rfl, hlive⟩
    · rintro (⟨-, rfl, hlive⟩ | ⟨hne, -⟩)
      · exact ⟨rfl, hlive⟩
      · exact absurd rfl hne
  · rw [List.getElem?_set_ne (Ne.symm hj)]
    simp [hj]

theorem Owned.stepPeer (h : t.Owned) (hwf : t.Wellformed) {i : ℕ} {a : Peer.Act}
    (hstep : t.stepPeer invoke i a = some t') : t'.Owned := by
  obtain ⟨p, q, e, hp, -, hq, ht'⟩ := stepPeer_cases hstep
  have hkept := hwf.kept p (List.mem_of_getElem? hp)
  have hfd : q.stream.fd = p.stream.fd := (Peer.step_replay hkept.sound hq).1
  have hlive (j : ℕ) (r : Peer) := live_set (j := j) (r := r) (show t'.all = _ by rw [ht']) hp
  have hopened : t'.opened =
      (if p.phase ≠ .ended ∧ q.phase = .ended then some p.stream.fd else none).elim t.opened
        t.opened.erase := by rw [ht', ← closing_eq hkept hq]
  -- a peer that has not ended after the step had not ended before, with the same descriptor
  have hbefore (j : ℕ) (r : Peer) (hr : t'.Live j r) :
      ∃ r', t.Live j r' ∧ r'.stream.fd = r.stream.fd := by
    rcases (hlive j r).1 hr with ⟨rfl, rfl, hgoes⟩ | ⟨-, hr⟩
    · exact ⟨p, ⟨hp, fun hended => hgoes (ended_of_step hkept hq hended)⟩, hfd.symm⟩
    · exact ⟨r, hr, rfl⟩
  refine ⟨fun fd => ?_, fun j k r r' hr hr' hsame => ?_⟩
  · by_cases hcloses : p.phase ≠ .ended ∧ q.phase = .ended
    · rw [if_pos hcloses] at hopened
      have hpi : t.Live i p := ⟨hp, hcloses.1⟩
      rw [hopened, Option.elim_some, Finset.mem_erase, h.mem]
      constructor
      · rintro ⟨hne, j, r, hr, rfl⟩
        have hj : j ≠ i := by
          rintro rfl
          exact hne (congrArg (·.stream.fd) (Option.some.inj (hr.1.symm.trans hp)))
        exact ⟨j, r, (hlive j r).2 (.inr ⟨hj, hr⟩), rfl⟩
      · rintro ⟨j, r, hr, rfl⟩
        rcases (hlive j r).1 hr with ⟨-, rfl, hgoes⟩ | ⟨hj, hr⟩
        · exact absurd hcloses.2 hgoes
        · exact ⟨fun heq => hj (h.inj j i r p hr hpi heq), j, r, hr, rfl⟩
    · rw [if_neg hcloses] at hopened
      rw [hopened, Option.elim_none, h.mem]
      constructor
      · rintro ⟨j, r, hr, rfl⟩
        by_cases hj : j = i
        · have hrp : r = p := Option.some.inj (hr.1.symm.trans (hj ▸ hp))
          have hgoes : q.phase ≠ .ended := fun hended => hcloses ⟨hrp ▸ hr.2, hended⟩
          exact ⟨i, q, (hlive i q).2 (.inl ⟨rfl, rfl, hgoes⟩), by rw [hfd, hrp]⟩
        · exact ⟨j, r, (hlive j r).2 (.inr ⟨hj, hr⟩), rfl⟩
      · rintro ⟨j, r, hr, rfl⟩
        obtain ⟨r', hr', hsame⟩ := hbefore j r hr
        exact ⟨j, r', hr', hsame⟩
  · obtain ⟨s, hs, hfds⟩ := hbefore j r hr
    obtain ⟨s', hs', hfds'⟩ := hbefore k r' hr'
    exact h.inj j k s s' hs hs' (by rw [hfds, hfds', hsame])

/-- The peers that have not ended when a client has been accepted: there is one more. -/
theorem live_accept {clt : ℤ} {i : ℕ} {p : Peer} {u : Transport δ}
    (hu : u.all = t.all ++ [Peer.new clt]) :
    u.Live i p ↔ t.Live i p ∨ i = t.all.length ∧ p = Peer.new clt := by
  unfold Live
  rw [hu]
  rcases Nat.lt_trichotomy i t.all.length with hlt | heq | hgt
  · have hne : i ≠ t.all.length := by omega
    rw [List.getElem?_append_left hlt]
    simp [hne]
  · have hnone : t.all[i]? = none := List.getElem?_eq_none heq.ge
    rw [hnone, heq, List.getElem?_concat_length]
    constructor
    · rintro ⟨hp, -⟩
      exact .inr ⟨rfl, (Option.some.inj hp).symm⟩
    · rintro (⟨hp, -⟩ | ⟨-, rfl⟩)
      · cases hp
      · exact ⟨rfl, nofun⟩
  · have hnone : t.all[i]? = none := List.getElem?_eq_none hgt.le
    have hbeyond : (t.all ++ [Peer.new clt])[i]? = none := List.getElem?_eq_none (by simp; omega)
    rw [hnone, hbeyond]
    simp [hgt.ne']

theorem fd_new (clt : ℤ) : (Peer.new clt).stream.fd = clt :=
  (NceStream.push_fields (Peer.push_hello clt)).2.1

theorem Owned.accept (h : t.Owned) {clt : Option ℤ} (hstep : t.accept clt = some t') :
    t'.Owned := by
  cases clt with
  | none =>
    obtain rfl := Option.some.inj hstep
    exact ⟨h.mem, h.inj⟩
  | some clt =>
    unfold Transport.accept at hstep
    dsimp only at hstep
    split at hstep
    · cases hstep
    · rename_i hfresh
      obtain rfl := Option.some.inj hstep
      generalize hu : ({ t with
          all := t.all ++ [Peer.new clt], peers := t.peers ++ [t.all.length]
          opened := insert clt t.opened } : Transport δ).reap = u
      have hall : u.all = t.all ++ [Peer.new clt] := by rw [← hu]; rfl
      have hopened : u.opened = insert clt t.opened := by rw [← hu]; rfl
      have hlive (i : ℕ) (p : Peer) := live_accept (i := i) (p := p) hall
      -- the descriptor is not that of another peer
      have hother (i : ℕ) (p : Peer) (hp : t.Live i p) : p.stream.fd ≠ clt := fun heq =>
        hfresh ((h.mem clt).2 ⟨i, p, hp, heq⟩)
      refine ⟨fun fd => ?_, fun i j p q hp hq hsame => ?_⟩
      · rw [hopened, Finset.mem_insert, h.mem]
        constructor
        · rintro (rfl | ⟨i, p, hp, rfl⟩)
          · exact ⟨_, _, (hlive _ _).2 (.inr ⟨rfl, rfl⟩), fd_new fd⟩
          · exact ⟨i, p, (hlive i p).2 (.inl hp), rfl⟩
        · rintro ⟨i, p, hp, rfl⟩
          rcases (hlive i p).1 hp with hp | ⟨-, rfl⟩
          · exact .inr ⟨i, p, hp, rfl⟩
          · exact .inl (fd_new clt)
      · rcases (hlive i p).1 hp with hp | ⟨rfl, rfl⟩ <;>
          rcases (hlive j q).1 hq with hq | ⟨rfl, rfl⟩
        · exact h.inj i j p q hp hq hsame
        · exact absurd (hsame.trans (fd_new clt)) (hother i p hp)
        · exact absurd (hsame.symm.trans (fd_new clt)) (hother j q hq)
        · rfl

/-- An event ends no peer, and changes no descriptor. -/
theorem Owned.broadcast (h : t.Owned) (hwf : t.Wellformed) {text : CStr} (hne : text ≠ []) :
    (t.broadcast text).Owned ∧ ∀ i q, (t.broadcast text).Live i q → ∃ p, t.Live i p := by
  have hback (i : ℕ) (q : Peer) (hq : (t.broadcast text).Live i q) :
      ∃ p, t.Live i p ∧ q.stream.fd = p.stream.fd := by
    obtain ⟨p, hp, hpq⟩ := getElem?_broadcast hq.1
    have hstays := (stays_broadcast (hwf.kept p (List.mem_of_getElem? hp)) hne hpq).2
    exact ⟨p, ⟨hp, hstays.phase ▸ hq.2⟩, hstays.fd⟩
  have hforth (i : ℕ) (p : Peer) (hp : t.Live i p) :
      ∃ q, (t.broadcast text).Live i q ∧ q.stream.fd = p.stream.fd := by
    obtain ⟨-, hstays⟩ := stays_broadcast (b := t.peers.contains i && p.isWatching)
      (hwf.kept p (List.mem_of_getElem? hp.1)) hne rfl
    refine ⟨_, ⟨?_, hstays.phase.symm ▸ hp.2⟩, hstays.fd⟩
    show (t.all.mapIdx _)[i]? = _
    rw [List.getElem?_mapIdx, hp.1]
    rfl
  refine ⟨⟨fun fd => ?_, fun i j p q hp hq hsame => ?_⟩, fun i q hq => ?_⟩
  · refine (h.mem fd).trans ⟨?_, ?_⟩
    · rintro ⟨i, p, hp, rfl⟩
      obtain ⟨q, hq, hfd⟩ := hforth i p hp
      exact ⟨i, q, hq, hfd⟩
    · rintro ⟨i, q, hq, rfl⟩
      obtain ⟨p, hp, hfd⟩ := hback i q hq
      exact ⟨i, p, hp, hfd.symm⟩
  · obtain ⟨p', hp', hfdp⟩ := hback i p hp
    obtain ⟨q', hq', hfdq⟩ := hback j q hq
    exact h.inj i j p' q' hp' hq' (by rw [← hfdp, hsame, hfdq])
  · obtain ⟨p, hp, -⟩ := hback i q hq
    exact ⟨p, hp⟩

/-- Reaping leaves the descriptors tidy exactly when no peer on the list is stalled. -/
theorem Owned.tidy_reap_iff (h : t.reap.Owned) (htidy : ∀ i p, t.Live i p → i ∈ t.peers) :
    t.reap.Tidy ↔ ∀ i ∈ t.peers, ∀ p, t.Live i p → p.stream.io.active = true := by
  have hactive {i : ℕ} {p : Peer} (hp : t.Live i p) : t.isActive i = p.stream.io.active := by
    rw [isActive, hp.1]
    rfl
  rw [h.tidy_iff_linked]
  constructor
  · intro hlinked i _ p hp
    exact (hactive hp).symm.trans (List.mem_filter.1 (hlinked i p hp)).2
  · intro hawake i p hp
    have hi := htidy i p hp
    exact List.mem_filter.2 ⟨hi, (hactive hp).trans (hawake i hi p hp)⟩

/-- A step leaves the descriptors tidy exactly when it does not reap a peer that is stalled. -/
theorem Owned.tidy_step (h : t.Owned) (hwf : t.Wellformed) (htidy : t.Tidy) {a : Act}
    (hstep : t.step invoke a = some t') : t'.Owned ∧ (t'.Tidy ↔ NoneStalled t a t') := by
  have hlinked := h.tidy_iff_linked.1 htidy
  -- a step of a peer takes none off the list
  have hpeer {i : ℕ} {b : Peer.Act} (hstep : t.stepPeer invoke i b = some t') :
      t'.Owned ∧ t'.Tidy := by
    have howned := h.stepPeer hwf hstep
    obtain ⟨p, q, e, hp, hi, -, ht'⟩ := stepPeer_cases hstep
    refine ⟨howned, howned.tidy_iff_linked.2 fun j r hr => ?_⟩
    have hpeers : t'.peers = t.peers := by rw [ht']
    rw [hpeers]
    rcases (live_set (by rw [ht']) hp).1 hr with ⟨rfl, -⟩ | ⟨-, hr⟩
    · exact hi
    · exact hlinked j r hr
  cases a with
  | accept clt =>
    have howned := h.accept hstep
    refine ⟨howned, ?_⟩
    cases clt with
    | none =>
      obtain rfl := Option.some.inj hstep
      exact howned.tidy_reap_iff hlinked
    | some clt =>
      have hstep : t.accept (some clt) = some t' := hstep
      unfold Transport.accept at hstep
      dsimp only at hstep
      split at hstep
      · cases hstep
      · obtain rfl := Option.some.inj hstep
        rw [howned.tidy_reap_iff]
        · constructor
          · intro hawake i hi p hp
            exact hawake i (List.mem_append_left _ hi) p ((live_accept rfl).2 (.inl hp))
          · intro hawake i _ p hp
            rcases (live_accept rfl).1 hp with hp | ⟨-, rfl⟩
            · exact hawake i (hlinked i p hp) p hp
            · -- the watcher of a new peer is active
              exact ((Peer.goesOn_new clt ()) nofun).1
        · intro i p hp
          rcases (live_accept rfl).1 hp with hp | ⟨rfl, -⟩
          · exact List.mem_append_left _ (hlinked i p hp)
          · exact List.mem_append_right _ (List.mem_singleton_self _)
  | fire i revents =>
    obtain ⟨howned, htidy'⟩ := hpeer hstep
    exact ⟨howned, iff_of_true htidy' trivial⟩
  | resume i recv send =>
    obtain ⟨howned, htidy'⟩ := hpeer hstep
    exact ⟨howned, iff_of_true htidy' trivial⟩
  | broadcast text =>
    unfold Transport.step at hstep
    dsimp only at hstep
    split at hstep
    · cases hstep
    · rename_i hne
      obtain rfl := Option.some.inj hstep
      obtain ⟨howned, hback⟩ := h.broadcast hwf hne
      refine ⟨howned, iff_of_true (howned.tidy_iff_linked.2 fun i q hq => ?_) trivial⟩
      obtain ⟨p, hp⟩ := hback i q hq
      exact hlinked i p hp

/-- In every run, every descriptor of a client that is open is that of a peer on the list that has
not ended, if and only if the listening socket is never served while a peer on the list is stalled.
Such a peer is taken off the list with its descriptor open, and nothing closes it. -/
theorem tidy_iff (invoke : Invoke δ) (d₀ : δ) (as : List Act) :
    Runs.AllStates (step invoke) Tidy (start d₀) as ↔
      Runs.AllSteps (step invoke) NoneStalled (start d₀) as := by
  refine Runs.allStates_iff_allSteps (I := fun t => t.Wellformed ∧ t.Owned ∧ t.Tidy) ?_
    (fun _ h => h.2.2) ?_ ⟨wellformed_start d₀, owned_start d₀, nofun⟩
  · rintro t a t' ⟨hwf, howned, htidy⟩ hstep hnone
    obtain ⟨howned', htidy'⟩ := howned.tidy_step hwf htidy hstep
    exact ⟨hwf.step hstep, howned', htidy'.2 hnone⟩
  · rintro t a t' ⟨hwf, howned, htidy⟩ hstep hstalled htidy'
    exact hstalled ((howned.tidy_step hwf htidy hstep).2.1 htidy')

end Invariants

end Transport

end Irccd
