import Irccd.Conn.Descriptors
import Irccd.System.Coherent

/-!
# Who closes what

In which runs does the connection close its own descriptors only, each of them once, and never own
more than `conn->fd`?

* `OwnCond`, `Closable`: what is required of a step of the connection, and of its destruction;
* `Owning`: the invariant;
* `owns_iff`: a run keeps `Owns` exactly when its steps satisfy the conditions.
-/

namespace Irccd

/-- The finalizer runs after a call of `conn_socket`: `getaddrinfo` has found an address since the
connection was spawned. -/
def Closable (n : Net) : Prop := n.conn.ioCoro ≠ none → socketCalled n.trace = true

/-- When the wait of `conn_dial` is over, `conn_connect` succeeds or goes on without losing a
socket, and so it does when the coroutine is spawned again. The watchdog destroys what is
`Closable`. -/
def OwnCond (_ : List CStr) (n : Net) : ConnAct → Prop
  | .resumeIo _ _ => ∀ rc, n.conn.ioCoro = some (.dial rc) → n.conn.io.revents ≠ .none →
    ∀ a rest soError, n.conn.ai = a :: rest → a.connect = .inProgress soError →
      if soError < 0 then LeakFree (-1) rest else rc = 0 ∨ rest = []
  | .resumeTimer ais => n.conn.timer.revents = true →
    (n.conn.timerCoro = .watch → Closable n) ∧ (n.conn.timerCoro = .delay → SpawnCond ais)
  | _ => True

/-- The conditions on a step of a run: those on the connection, on the endpoints of a connection
that starts, and on the destruction of a connection. -/
def OwnStep (s : Sys) (a : Act) (s' : Sys) : Prop :=
  StepCond OwnCond SpawnCond s a s' ∧
    ∀ co, s.server.coroutine = some co → destroys s a → Closable ⟨co.conn, s.trace⟩

/-- The invariant of a connection between two steps. -/
structure Owning (n : Net) : Prop where
  coherent : Coherent n
  tidy : Tidy n
  gone : n.conn.ioCoro = none → n.conn.fd = -1

namespace Owning

variable {lines : List CStr} {n n' : Net} {a : ConnAct}

theorem vacant (hn : Owning n) (hnone : n.conn.ioCoro = none) : Vacant n.trace n.conn.fd := by
  refine hn.tidy.holds.resolve_right fun honly => ?_
  have hnonneg := honly.nonneg
  have hfd := hn.gone hnone
  omega

/-- A coroutine that is destroyed leaves nothing open, unless `conn->fd` is still the 0 of the
allocation: then it closes a descriptor that is not its own. -/
theorem closeCall (hn : Owning n) (hcoro : n.conn.ioCoro ≠ none) :
    (Closable n → Vacant (n.trace ++ Irccd.closeCall n.conn.fd) (-1)) ∧
      (¬ Closable n → ¬ ClosesOwn (n.trace ++ Irccd.closeCall n.conn.fd)) := by
  have hclosable : Closable n ↔ socketCalled n.trace = true := ⟨fun h => h hcoro, fun h _ => h⟩
  rw [hclosable, Irccd.closeCall]
  rcases hn.tidy.holds with hvacant | honly
  · have hfd := hvacant.fd_eq
    cases hcalled : socketCalled n.trace with
    | true =>
      rw [hcalled, if_pos rfl] at hfd
      rw [hfd, if_pos rfl, List.append_nil]
      exact ⟨fun _ => hfd ▸ hvacant, fun h => absurd rfl h⟩
    | false =>
      rw [hcalled, if_neg (by simp)] at hfd
      rw [hfd, if_neg (by decide)]
      refine ⟨fun h => absurd h (by simp), fun _ hcloses => ?_⟩
      -- nothing is open, and 0 is closed
      have hopen := (closesOwn_close.1 hcloses).2
      simp [hvacant.clear.none] at hopen
  · have hne : n.conn.fd ≠ -1 := by
      have hnonneg := honly.nonneg
      omega
    rw [if_neg hne]
    exact ⟨fun _ => honly.close, fun h => absurd honly.called h⟩

theorem ircConnDestroy (hn : Owning n) :
    (Closable n → Clear (Irccd.ircConnDestroy n)) ∧
      (¬ Closable n → ¬ ClosesOwn (Irccd.ircConnDestroy n)) := by
  by_cases hcoro : n.conn.ioCoro = none
  · rw [Irccd.ircConnDestroy, connIoDestroy, if_pos hcoro]
    exact ⟨fun _ => (hn.vacant hcoro).clear, fun h => absurd (fun hne => absurd hcoro hne) h⟩
  · rw [Irccd.ircConnDestroy, connIoDestroy_eq hcoro]
    exact (hn.closeCall hcoro).imp_left fun hclear h => (hclear h).clear

theorem of_sameFd (hn : Owning n) (hcoh : Coherent n') (hsame : SameFd n n')
    (hgone : n'.conn.ioCoro = none → n'.conn.fd = -1)
    (hdial : ∀ rc, n'.conn.ioCoro = some (.dial rc) → n.conn.ioCoro = some (.dial rc)) :
    Owning n' :=
  ⟨hcoh, hn.tidy.of_sameFd hsame hdial, hgone⟩

theorem gone_trans (hn : Owning n) (h : ConnTrans lines n a n') :
    n'.conn.ioCoro = none → n'.conn.fd = -1 := by
  intro hnone
  rcases h.gone hnone with hfd | ⟨hnone', hfd⟩
  · exact hfd
  · exact hfd.trans (hn.gone hnone')

/-- A step of the connection that neither opens nor closes anything. -/
theorem trans_of_sameFd (hn : Owning n) (h : ConnTrans lines n a n')
    (hdial : ∀ r rs rc, a = .resumeIo r rs → n.conn.ioCoro = some (.dial rc) →
      n.conn.io.revents = .none)
    (htimer : ∀ ais, a = .resumeTimer ais → n.conn.timer.revents = false) : Owning n' := by
  obtain ⟨hsame, hpoint⟩ := h.sameFd hdial htimer
  exact hn.of_sameFd (hn.coherent.trans h) hsame (hn.gone_trans h) hpoint

/-- The end of a wait in `conn_dial`. -/
theorem redial (hn : Owning n) {r : RecvResult} {rs : List SendResult} {rc : ℤ}
    (h : connStep lines n (.resumeIo r rs) = some n') (hpoint : n.conn.ioCoro = some (.dial rc))
    (hrevents : n.conn.io.revents ≠ .none) :
    (OwnCond lines n (.resumeIo r rs) → Owning n') ∧
      (¬ OwnCond lines n (.resumeIo r rs) → ¬ Owns n') := by
  have htrans := connStep_cases hn.coherent h
  -- the endpoint that `conn_dial` waits for, and those after it
  obtain ⟨-, -, a, rest, soError, hai, ha⟩ := hn.coherent.dial rc hpoint
  have hcond : OwnCond lines n (.resumeIo r rs) ↔
      if soError < 0 then LeakFree (-1) rest else rc = 0 ∨ rest = [] := by
    refine ⟨fun hown => hown rc hpoint hrevents a rest soError hai ha, ?_⟩
    rintro hleak rc' hpoint' - a' rest' soError' hai' ha'
    obtain ⟨rfl, rfl⟩ := List.cons.inj (hai.symm.trans hai')
    obtain rfl := ConnectResult.inProgress.inj (ha.symm.trans ha')
    obtain rfl := IoPoint.dial.inj (Option.some.inj (hpoint.symm.trans hpoint'))
    exact hleak
  have hn' : connConnected true lines (connDialResume rc n) = n' := by
    simpa [connStep, connIoResume, hpoint, hrevents] using h
  obtain ⟨htidy, hlost⟩ := connDialResume_tidy rc (hn.tidy.dial rc hpoint) hai ha
  rw [hcond]
  constructor
  · intro hleak
    exact ⟨hn.coherent.trans htrans, hn' ▸ connConnected_tidy (htidy hleak), hn.gone_trans htrans⟩
  · intro hleak
    exact hn' ▸ (connConnected_lost (hlost hleak)).not_owns

/-- The timer destroys the coroutine, or spawns it again. -/
theorem resumeTimer (hn : Owning n) {ais : Option (List AddrInfo)}
    (h : connStep lines n (.resumeTimer ais) = some n') (hrevents : n.conn.timer.revents = true) :
    (OwnCond lines n (.resumeTimer ais) → Owning n') ∧
      (¬ OwnCond lines n (.resumeTimer ais) → ¬ Owns n') := by
  have htrans := connStep_cases hn.coherent h
  have hcoh := hn.coherent.trans htrans
  have hgone := hn.gone_trans htrans
  cases hpoint : n.conn.timerCoro with
  | watch =>
    have hcond : OwnCond lines n (.resumeTimer ais) ↔ Closable n := by
      simp [OwnCond, hrevents, hpoint]
    -- the watchdog waits while there is a coroutine
    have hcoro : n.conn.ioCoro ≠ none := fun hnone => by
      simpa [hpoint] using hn.coherent.delay.2 hnone
    obtain ⟨hclear, hforeign⟩ := hn.closeCall hcoro
    rw [hcond]
    cases htrans with
    | quiet hquiet => simp [Quiet, hrevents] at hquiet
    | teardown =>
      refine ⟨fun hclosable => ?_, fun hclosable howns => hforeign hclosable howns.closes⟩
      exact ⟨hcoh, ⟨.inl (hclear hclosable), by simp⟩, hgone⟩
    | respawn _ hdelay => simp [hpoint] at hdelay
    | respawnIdent _ hdelay => simp [hpoint] at hdelay
  | delay =>
    have hcond : OwnCond lines n (.resumeTimer ais) ↔ SpawnCond ais := by
      simp [OwnCond, hrevents, hpoint]
    have hn' : connIoSpawn true lines ais ⟨{ n.conn with
        timer := nceTimerStop (nceTimerTake n.conn.timer)
        timerCoro := .watch }, n.trace⟩ = n' :=
      (connTimerResume_of_delay hrevents hpoint).symm.trans (Option.some.inj h)
    obtain ⟨htidy, hlost⟩ := connIoSpawn_vacant true lines ais (n := ⟨{ n.conn with
        timer := nceTimerStop (nceTimerTake n.conn.timer)
        timerCoro := .watch }, n.trace⟩) (hn.vacant (hn.coherent.delay.1 hpoint))
    rw [hcond]
    exact ⟨fun hleak => ⟨hcoh, hn' ▸ htidy hleak, hgone⟩,
      fun hleak => hn' ▸ (hlost hleak).not_owns⟩

/-- A step that satisfies `OwnCond` keeps the invariant, and any other one breaks the property. -/
theorem connStep (hn : Owning n) (h : Irccd.connStep lines n a = some n') :
    (OwnCond lines n a → Owning n') ∧ (¬ OwnCond lines n a → ¬ Owns n') := by
  have htrans := connStep_cases hn.coherent h
  cases a with
  | resumeIo r rs =>
    by_cases hdial : ∃ rc, n.conn.ioCoro = some (.dial rc) ∧ n.conn.io.revents ≠ .none
    · -- `conn_dial` has waited long enough
      obtain ⟨rc, hpoint, hrevents⟩ := hdial
      exact hn.redial h hpoint hrevents
    · -- nothing happens to the descriptors anywhere else
      simp only [not_exists, not_and, not_not] at hdial
      refine ⟨fun _ => hn.trans_of_sameFd htrans (fun _ _ rc _ hpoint => hdial rc hpoint) (by simp),
        fun hcond => absurd (fun rc hpoint hrevents => absurd (hdial rc hpoint) hrevents) hcond⟩
  | resumeTimer ais =>
    cases hrevents : n.conn.timer.revents with
    | true => exact hn.resumeTimer h hrevents
    | false =>
      refine ⟨fun _ => hn.trans_of_sameFd htrans (by simp) (fun _ _ => hrevents), fun hcond => ?_⟩
      exact absurd (fun h => by simp [hrevents] at h) hcond
  | ioEvent | timerExpire | timerCallback | resumeProducer =>
    exact ⟨fun _ => hn.trans_of_sameFd htrans (by simp) (by simp),
      fun hcond => absurd trivial hcond⟩

/-- A connection that is spawned when nothing is open. -/
theorem spawn (lines : List CStr) {ais : Option (List AddrInfo)} (uninit : ConnMsg)
    (stale : List ℤ) {trace : List Call} (h : Clear trace) :
    (SpawnCond ais → Owning (ircConnSpawn lines ais uninit stale trace)) ∧
      (¬ SpawnCond ais → Lost (ircConnSpawn lines ais uninit stale trace)) := by
  have hvacant : Vacant (trace ++ [.spawn]) 0 :=
    ⟨h.append (by simp [Call.Neutral, Call.obtains, Call.closes]), by
      simp [socketCalled, socketStep]⟩
  -- the coroutine waits somewhere, or has given up
  have hcoro : (ircConnSpawn lines ais uninit stale trace).conn.ioCoro ≠ none := by
    rcases connIoSpawn_cases false lines ais ⟨connAlloc uninit stale, trace ++ [.spawn]⟩ with
      ⟨-, _, _, -, hsus⟩ | ⟨-, _, _, _, hident⟩
    · exact hsus.ioCoro_ne_none
    · exact hident.ioCoro_ne_none
  obtain ⟨htidy, hlost⟩ := connIoSpawn_vacant false lines ais
    (n := ⟨connAlloc uninit stale, trace ++ [.spawn]⟩) hvacant
  exact ⟨fun hcond =>
    ⟨.spawn lines ais uninit stale trace, htidy hcond, fun hnone => absurd hnone hcoro⟩, hlost⟩

end Owning

/-- What holds without a connection. -/
theorem owning_kept : KeptIf Owning Clear OwnCond SpawnCond Closable where
  conn lines n a n' hn h hcond := (hn.connStep h).1 hcond
  push n line hfits _ _ hn :=
    have hpush : Call.Still (.push line) := Call.still_of_not_isDial id (by simp)
    hn.of_sameFd (hn.coherent.append id rfl (.inl rfl)) ⟨[_], by simpa using hpush, rfl, rfl⟩
      hn.gone fun _ => id
  dispatch n ev hn :=
    have hdispatch : Call.Still (.dispatch ev) := Call.still_of_not_isDial id (by simp)
    hn.of_sameFd (hn.coherent.append id rfl (.inr rfl)) ⟨[_], by simpa using hdispatch, rfl, rfl⟩
      hn.gone fun _ => id
  pull n msg hn := ⟨hn.coherent.pull msg, ⟨hn.tidy.holds, hn.tidy.dial⟩, hn.gone⟩
  spawn lines ais uninit stale trace htrace hcond :=
    (Owning.spawn lines uninit stale htrace).1 hcond
  destroy n hn hclosable := hn.ircConnDestroy.1 hclosable
  idle trace ev htrace := htrace.append (by simp [Call.Neutral, Call.obtains, Call.closes])

/-! ## Runs -/

section Runs

variable {s s' : Sys} {a : Act}

theorem closesOwn_of_holds (h : s.Holds Owns Clear) : ClosesOwn s.trace := by
  unfold Sys.Holds at h
  split at h
  · exact h.closes
  · exact h.closes

/-- The calls of a connection that is spawned come after those made before. -/
theorem closesOwn_of_ircServerConnect {ais : Option (List AddrInfo)} {uninit : ConnMsg}
    (h : ClosesOwn (ircServerConnect s ais uninit).trace) : ClosesOwn s.trace := by
  rcases ircServerConnect_cases s ais uninit with heq | ⟨-, -, n, co, rfl, heq⟩
  · rwa [heq] at h
  · rw [heq] at h
    obtain ⟨cs, hcs⟩ : s.trace <+:
        (ircConnSpawn (identLines s.server) ais uninit s.stale s.trace).trace :=
      (List.prefix_append _ [.spawn]).trans (connIoSpawn_isPrefix false (identLines s.server) ais
        ⟨connAlloc uninit s.stale, s.trace ++ [.spawn]⟩)
    have happend : ClosesOwn (s.trace ++ cs) := hcs ▸ h
    exact Handles.ReleasesHeld.of_append happend

/-- A connection that is destroyed although it is not `Closable` closes a foreign descriptor. -/
theorem not_closesOwn_ircServerDisconnect {co : IrcServerCoro} (hs : s.Holds Owning Clear)
    (hco : s.server.coroutine = some co) (hclosable : ¬ Closable ⟨co.conn, s.trace⟩) :
    ¬ ClosesOwn (ircServerDisconnect s).trace := by
  have hn := (Sys.holds_iff_of_some hco).1 hs
  have htrace : (ircServerDisconnect s).trace = ircConnDestroy ⟨co.conn, s.trace⟩ := by
    simp only [ircServerDisconnect, hco]
  rw [htrace]
  exact hn.ircConnDestroy.2 hclosable

/-- A connection that is spawned with a list that is not leak-free loses a socket. -/
theorem not_holds_ircServerConnect {ais : Option (List AddrInfo)} {uninit : ConnMsg}
    (hs : s.Holds Owning Clear) (hco : s.server.coroutine = none)
    (hssl : s.server.flags.ssl = false) (hcond : ¬ SpawnCond ais) :
    ¬ (ircServerConnect s ais uninit).Holds Owns Clear := by
  have hclear := (Sys.holds_iff_of_none hco).1 hs
  have hconnect : ircServerConnect s ais uninit = s.setNet
      ⟨(ircConnSpawn (identLines s.server) ais uninit s.stale s.trace).conn, none⟩
      (ircConnSpawn (identLines s.server) ais uninit s.stale s.trace) := by
    simp [ircServerConnect, hco, hssl]
  rw [hconnect, Sys.holds_setNet]
  exact ((Owning.spawn (identLines s.server) uninit s.stale hclear).2 hcond).not_owns

/-- A step that does not satisfy the conditions breaks the property. -/
theorem not_holds_of_not_ownStep (hs : s.Holds Owning Clear) (h : step s a = some s')
    (hcond : ¬ OwnStep s a s') : ¬ s'.Holds Owns Clear := by
  -- what is destroyed is `Closable`, or a foreign descriptor is closed
  have hdestroy : ∀ {t : Sys}, t.Holds Owns Clear →
      (ClosesOwn t.trace → ClosesOwn (ircServerDisconnect s).trace) →
      ∀ co, s.server.coroutine = some co → Closable ⟨co.conn, s.trace⟩ := by
    intro t ht htrace co hco
    by_contra hclosable
    exact not_closesOwn_ircServerDisconnect hs hco hclosable (htrace (closesOwn_of_holds ht))
  intro hholds
  apply hcond
  have hperform := (step_eq_some_iff.1 h).1
  cases a with
  | conn c =>
    obtain ⟨co, n, hco, hn, rfl⟩ := exists_of_step_conn h
    refine ⟨⟨fun co' c' hco' hc => ?_, by simp [spawns]⟩, by simp [destroys]⟩
    obtain rfl : co = co' := Option.some.inj (hco.symm.trans hco')
    obtain rfl := Act.conn.inj hc
    by_contra hown
    exact (((Sys.holds_iff_of_some hco).1 hs).connStep hn).2 hown hholds
  | serverConnect ais uninit =>
    cases hperform
    refine ⟨⟨by simp, fun ais' hais => ?_⟩, by simp [destroys]⟩
    obtain ⟨hco, hssl, rfl⟩ :
        s.server.coroutine = none ∧ s.server.flags.ssl = false ∧ ais = ais' := by
      simpa [spawns, and_assoc] using hais
    by_contra hloses
    exact not_holds_ircServerConnect hs hco hssl hloses hholds
  | serverDisconnect =>
    cases hperform
    exact ⟨⟨by simp, by simp [spawns]⟩, fun co hco _ => hdestroy hholds id co hco⟩
  | serverReconnect ais uninit =>
    cases hperform
    -- `irc_server_reconnect` destroys the connection before it spawns another
    have hclosable := hdestroy hholds closesOwn_of_ircServerConnect
    refine ⟨⟨by simp, fun ais' hais => ?_⟩, fun co hco _ => hclosable co hco⟩
    obtain ⟨hssl, rfl⟩ : s.server.flags.ssl = false ∧ ais = ais' := by
      simpa [spawns] using hais
    by_contra hloses
    exact not_holds_ircServerConnect (owning_kept.disconnect hclosable hs) rfl hssl hloses hholds
  | botServerAdd ais uninit =>
    cases hperform
    refine ⟨⟨by simp, fun ais' hais => ?_⟩, by simp [destroys]⟩
    obtain ⟨hlisted, hco, hssl, rfl⟩ : s.listed = false ∧ s.server.coroutine = none ∧
        s.server.flags.ssl = false ∧ ais = ais' := by
      simpa [spawns, and_assoc] using hais
    by_contra hloses
    have hadd : ircBotServerAdd s ais uninit =
        { ircServerConnect s ais uninit with listed := true } := by
      simp [ircBotServerAdd, hlisted]
    have hholds' : (ircServerConnect s ais uninit).Holds Owns Clear := by
      rw [hadd] at hholds
      exact hholds.congr rfl rfl
    exact not_holds_ircServerConnect hs hco hssl hloses hholds'
  | botServerRemove =>
    cases hperform
    refine ⟨⟨by simp, by simp [spawns]⟩, fun co hco hlisted => ?_⟩
    refine hdestroy hholds (fun hcloses => ?_) co hco
    have hlisted' : s.listed = true := hlisted
    have htrace : (ircBotServerRemove s).trace =
        (ircServerDisconnect s).trace ++ [.dispatch .disconnect] := by
      simp [ircBotServerRemove, hlisted', dispatch, Sys.emit]
    rw [htrace] at hcloses
    exact Handles.ReleasesHeld.of_append hcloses
  | _ => exact ⟨⟨by simp, by simp [spawns]⟩, by simp [destroys]⟩

end Runs

/-- Only open descriptors of the connection have been closed, at most `conn->fd` is open (and
nothing without a connection), and each descriptor was closed as often as it was obtained, once less
if it is open. -/
def ClosesOnce (s : Sys) : Prop :=
  s.Holds Owns Clear ∧
    ∀ fd, s.trace.count (.socket fd) = s.trace.count (.close fd) + (openFds s.trace).count fd

theorem closesOnce_of_holds (h : s.Holds Owns Clear) : ClosesOnce s :=
  ⟨h, (closesOwn_of_holds h).count_socket⟩

/-- In a run the connection closes its own descriptors only, each of them once, and owns no other
than `conn->fd`, exactly when the steps of the run satisfy `OwnStep`. -/
theorem owns_iff (name nickname username realname : CStr) (as : List Act) :
    Runs.AllStates step ClosesOnce
        (Sys.start (ircServerNew name nickname username realname)) as ↔
      Runs.AllSteps step OwnStep
        (Sys.start (ircServerNew name nickname username realname)) as := by
  refine Runs.allStates_iff_allSteps (I := Sys.Holds Owning Clear)
    (fun _ _ _ hs h hcond => owning_kept.step hs h hcond.1 hcond.2)
    (fun s hs => closesOnce_of_holds (hs.mono (fun _ hn => hn.tidy.owns) fun _ => id))
    (fun _ _ _ hs h hcond honce => not_holds_of_not_ownStep hs h hcond honce.1) ?_
  exact ⟨Handles.releasesHeld_nil, rfl⟩

/-- No address is found, and the watchdog closes the descriptor 0 of a connection that has not
called `conn_socket`. -/
theorem not_owns_of_resolution :
    ¬ Runs.AllStates step ClosesOnce (Sys.start localServer)
      [.serverConnect none ⟨none, [], []⟩, .conn .timerCallback, .conn (.resumeTimer none)] := by
  intro h
  have hrun : (Runs.exec step (Sys.start localServer)
      [.serverConnect none ⟨none, [], []⟩, .conn .timerCallback, .conn (.resumeTimer none)]).map
      (fun s => s.trace) = some ([.spawn] ++ [.close 0]) := by decide +kernel
  obtain ⟨s, hexec, htrace⟩ := Option.map_eq_some_iff.1 hrun
  have hcloses := closesOwn_of_holds (h.last hexec).1
  rw [htrace, closesOwn_close] at hcloses
  exact absurd hcloses.2 (by decide)

end Irccd
