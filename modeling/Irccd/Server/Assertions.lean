import Irccd.Conn.Descriptors
import Irccd.Server.Sending

/-!
# Where an assertion of `libev` fails (`server.c`, `conn.c`)

`irc__conn_push` and `conn_connect` start the watcher of the connection. The process ends when the
descriptor is -1, or when its list in `libev` has a watcher that was not stopped.

* `CanSend`, `CanJoin`: what `irc_server_send` and `irc_server_join` need;
* `watchedFd`: the descriptor that `conn_connect` watches first;
* `CanStart`: what a new connection needs.
-/

namespace Irccd

/-! ## Lines -/

/-- If the text is accepted, the connection has a descriptor whose watcher can be started. -/
def CanSend (s : Sys) (text : CStr) : Prop :=
  s.aborted = false ∧ (Accepts s.server text →
    ∀ co ∈ s.server.coroutine, 0 ≤ co.conn.fd ∧ co.conn.fd ∉ co.conn.io.stale)

instance (s : Sys) (text : CStr) : Decidable (CanSend s text) :=
  inferInstanceAs (Decidable (_ ∧ (_ → _)))

/-- A server that is ready can send the line for a channel that is not joined. -/
def CanJoin (s : Sys) (name : CStr) (pass : Option CStr) : Prop :=
  s.aborted = false ∧ (ircServerReady s.server = true →
    (∀ ch ∈ ircServerChannelsFind s.server.channels name, ch.joined = false) →
    CanSend s (joinText name pass))

instance (s : Sys) (name : CStr) (pass : Option CStr) : Decidable (CanJoin s name pass) :=
  inferInstanceAs (Decidable (_ ∧ (_ → _ → _)))

section Lines

variable {s : Sys} {co : IrcServerCoro} {text name : CStr} {pass : Option CStr}

theorem aborted_eq (hco : s.server.coroutine = some co) : s.aborted = co.conn.io.aborted := by
  rw [Sys.aborted, hco, Option.any_some]

@[simp] theorem aborted_setNet (s : Sys) (co : IrcServerCoro) (n : Net) :
    (s.setNet co n).aborted = n.conn.io.aborted := rfl

theorem nceIoReset_aborted_iff {io : NceIo} {fd : ℤ} {events : Events} :
    (nceIoReset io fd events).aborted = false ↔ io.aborted = false ∧ 0 ≤ fd ∧ fd ∉ io.stale := by
  simp [nceIoReset]

/-- No assertion fails in `irc_server_send`. -/
theorem aborted_ircServerSend_iff : (ircServerSend s text).2.aborted = false ↔ CanSend s text := by
  rw [CanSend, ircServerSend]
  cases hco : s.server.coroutine with
  | none => simp [Accepts, hco]
  | some co =>
    dsimp only
    rw [aborted_setNet, aborted_eq hco]
    simp only [Option.mem_some_iff, forall_eq']
    cases hready : ircConnReady co.conn with
    | false => simp [Accepts, hco, hready, connSendLine]
    | true =>
      have hready' : ircConnReady (⟨co.conn, s.trace⟩ : Net).conn = true := hready
      have haccepts : Accepts s.server text ↔ co.conn.outb.Fits (sentLine text) := by
        simp [Accepts, hco, hready]
      rw [haccepts]
      -- a text that does not fit is refused before the watcher is touched
      rcases connSendLine_cases hready' text with ⟨hfits, heq⟩ | ⟨hfits, heq⟩
      · have hfits' : co.conn.outb.Fits (sentLine text) := hfits
        rw [heq, nceIoReset_aborted_iff, forall_prop_of_true hfits']
      · have hfits' : ¬ co.conn.outb.Fits (sentLine text) := hfits
        rw [heq, forall_prop_of_false hfits']
        simp

/-- No assertion fails in `irc_server_join`. -/
theorem aborted_ircServerJoin_iff :
    (ircServerJoin s name pass).2.aborted = false ↔ CanJoin s name pass := by
  rw [CanJoin, ircServerJoin, joinChannel]
  cases hfind : ircServerChannelsFind s.server.channels name with
  | some ch =>
    simp only [Option.isSome_some, if_true, hfind, Option.mem_some_iff, forall_eq']
    by_cases hsend : ch.joined = false ∧ ircServerReady s.server = true
    · rw [if_pos (by simp [hsend]), aborted_ircServerSend_iff]
      simp only [hsend, forall_const]
      exact (and_iff_right_of_imp fun h => h.1).symm
    · rw [if_neg (by simpa using hsend)]
      exact (and_iff_left fun hready hjoined => absurd ⟨hjoined, hready⟩ hsend).symm
  | none =>
    -- the channel is put in front of the others, and is not joined yet
    have hadd : ircServerChannelsAdd s.server.channels name pass false =
        ircChannelNew name pass false :: s.server.channels := by
      simp [ircServerChannelsAdd, hfind]
    have hnew : ircServerChannelsFind (ircChannelNew name pass false :: s.server.channels) name =
        some (ircChannelNew name pass false) := by
      rw [ircServerChannelsFind, List.find?_cons_of_pos]
      simp [ircChannelNew]
    simp only [Option.isSome_none, Bool.false_eq_true, if_false, hadd, Sys.setChannels, hnew]
    by_cases hready : ircServerReady s.server = true
    · have hready' : (!(ircChannelNew name pass false).joined && ircServerReady
          { s.server with channels := ircChannelNew name pass false :: s.server.channels }) =
          true := hready
      rw [if_pos hready', aborted_ircServerSend_iff]
      simp only [hready, Option.not_mem_none, false_implies, implies_true, forall_const]
      exact (and_iff_right_of_imp fun h => h.1).symm
    · have hready' : ¬ (!(ircChannelNew name pass false).joined && ircServerReady
          { s.server with channels := ircChannelNew name pass false :: s.server.channels }) =
          true := hready
      rw [if_neg hready']
      exact (and_iff_left fun h => absurd h hready).symm

end Lines

/-! ## Connections -/

/-- The descriptor that `conn_connect` watches first, after these calls: that of the first endpoint
whose connection is pending, or is made when `rc` is zero. -/
def watchedFd : List Call → List AddrInfo → ℤ → Option ℤ
  | _, [], _ => none
  | trace, ai :: rest, rc =>
    let fd := freshFd trace ai.fd
    match ai.socket, ai.connect with
    | .socketFailed, _ => watchedFd (trace ++ [.socketFailed]) rest (-1)
    | .fcntlFailed, _ | .done, .failed => watchedFd (trace ++ [.socket fd, .close fd]) rest (-1)
    | .done, .inProgress _ => some fd
    | .done, .done =>
      if rc = 0 then some fd else watchedFd (trace ++ [.socket fd, .connected fd]) rest rc

/-- The list of the descriptor that a connection watches first has no watcher that was left
there. -/
def CanStart (stale : List ℤ) (trace : List Call) (ais : Option (List AddrInfo)) : Prop :=
  ∀ l ∈ ais, ∀ fd ∈ watchedFd trace l 0, fd ∉ stale

instance (stale : List ℤ) (trace : List Call) (ais : Option (List AddrInfo)) :
    Decidable (CanStart stale trace ais) :=
  inferInstanceAs (Decidable (∀ l ∈ ais, ∀ fd ∈ _, _))

section Connections

/-- No assertion fails in `conn_connect` before it is suspended, or where it succeeds. -/
theorem connConnectLoop_aborted_iff (ais : List AddrInfo) (rc : ℤ) (n : Net) :
    (connConnectLoop ais rc n).2.conn.io.aborted = false ↔
      n.conn.io.aborted = false ∧ ∀ fd ∈ watchedFd n.trace ais rc, fd ∉ n.conn.io.stale := by
  -- on the endpoints; a round that does not end leaves the watcher alone
  induction ais generalizing rc n with
  | nil => simp [connConnectLoop, connReschedule, nceIoStop, watchedFd]
  | cons a rest ih =>
    have hnonneg := freshFd_nonneg n.trace a.fd
    rw [connConnectLoop, watchedFd]
    cases hsocket : a.socket with
    | socketFailed =>
      simp only [connSocket, hsocket]
      exact ih (-1) _
    | fcntlFailed =>
      simp only [connSocket, hsocket]
      refine (ih (-1) _).trans ?_
      simp [connClose, Net.emit]
    | done =>
      simp only [connSocket, hsocket]
      cases hconnect : a.connect with
      | failed =>
        refine (ih (-1) _).trans ?_
        simp [connClose, Net.emit]
      | inProgress e =>
        dsimp only
        rw [nceIoReset_aborted_iff]
        simp [Net.emit, hnonneg]
      | done =>
        dsimp only
        by_cases hrc : rc = 0
        · rw [if_pos hrc, if_pos hrc, connEstablished, nceIoReset_aborted_iff]
          simp [Net.emit, hnonneg]
        · rw [if_neg hrc, if_neg hrc]
          refine (ih rc _).trans ?_
          simp [Net.emit]

/-- Nothing is sent before `server->coroutine` is set. -/
theorem connIdent_unlinked_io (lines : List CStr) (n : Net) :
    (connIdent false lines n).conn.io = n.conn.io := by
  have hsend : ∀ n : Net, connIdentSend false lines n = n := fun n => by
    rw [connIdentSend]
    exact List.foldl_fixed' (fun line => rfl) lines
  rw [connIdent, hsend, connIdentLoop]
  split <;> rfl

/-- No assertion fails when a connection is made. -/
theorem aborted_ircConnSpawn_iff {lines : List CStr} {ais : Option (List AddrInfo)}
    {uninit : ConnMsg} {stale : List ℤ} {trace : List Call} :
    (ircConnSpawn lines ais uninit stale trace).conn.io.aborted = false ↔
      CanStart stale (trace ++ [.spawn]) ais := by
  rw [ircConnSpawn, connIoSpawn, CanStart]
  cases ais with
  | none =>
    simp [connIoEntry, connReschedule, nceIoStop, connTimerAgain, nceIoInit, connAlloc, NceIo.zero]
  | some ais =>
    simp only [connIoEntry, Option.mem_some_iff, forall_eq']
    -- nothing has been watched before the loop over the endpoints
    generalize hm : connTimerAgain _ = m
    have hio : m.conn.io.aborted = false ∧ m.conn.io.stale = stale ∧
        m.trace = trace ++ [.spawn] := by
      rw [← hm]
      exact ⟨rfl, rfl, rfl⟩
    have hloop := connConnectLoop_aborted_iff ais 0 m
    rw [hio.1, hio.2.1, hio.2.2, and_iff_right rfl] at hloop
    rw [← hloop]
    obtain ⟨connected, n⟩ := connConnectLoop ais 0 m
    cases connected with
    | false => rfl
    | true => rw [connConnected, connIdent_unlinked_io]

/-- No assertion fails in `irc_server_connect`. -/
theorem aborted_ircServerConnect_iff {s : Sys} {ais : Option (List AddrInfo)} {uninit : ConnMsg}
    (hs : s.server.coroutine = none) :
    (ircServerConnect s ais uninit).aborted = false ↔
      (s.server.flags.ssl = false → CanStart s.stale (s.trace ++ [.spawn]) ais) := by
  rw [ircServerConnect, hs]
  cases hssl : s.server.flags.ssl with
  | true => simp [Sys.aborted, hs]
  | false =>
    rw [if_neg (by simp), aborted_setNet, aborted_ircConnSpawn_iff]
    simp

end Connections

end Irccd
