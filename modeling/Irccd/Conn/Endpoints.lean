import Irccd.Conn.Effects

/-!
# The endpoints of a server

`conn_connect` from its first call to its end, when each wait of `conn_dial` ends.

* `connConnectRest_cons_refused`, `connConnectRest_cons_accepted`: what the outcome of one endpoint
  leads to;
* `connConnectRest_rescheduled`: once an endpoint has failed, none is accepted any more;
* `connConnect_fallsBack_iff`: exactly when the connection ends up on the first endpoint that
  succeeds, or is rescheduled if none does.
-/

namespace Irccd

/-- `conn_connect` after it has been suspended or has succeeded, when the waits of `conn_dial` end
one after the other. There are at most `k` of them. -/
def connConnectRest : ℕ → Bool × Net → Bool × Net
  | k + 1, (false, n) =>
    match n.conn.ioCoro with
    | some (.dial rc) => connConnectRest k (connDialResume rc n)
    | _ => (false, n)
  | _, o => o

/-- `conn_connect`, as `conn_io_entry` calls it. It waits at most once for each endpoint. -/
def connConnect (ais : List AddrInfo) (n : Net) : Bool × Net :=
  connConnectRest ais.length (connConnectLoop ais 0
    (connTimerAgain { n with conn := { n.conn with state := .connect, ai := ais } }))

namespace AddrInfo

/-- The connection to the endpoint is established, at once or in the background. -/
def Succeeds (a : AddrInfo) : Prop :=
  a.socket = .done ∧ (a.connect = .done ∨ a.connect = .inProgress 0)

/-- A function called for the endpoint returns a negative value. -/
def Fails (a : AddrInfo) : Prop :=
  a.socket ≠ .done ∨ a.connect = .failed ∨ ∃ e < 0, a.connect = .inProgress e

/-- `socket (2)` gives a descriptor. -/
def hasSocket (a : AddrInfo) : Bool := a.socket != .socketFailed

instance (a : AddrInfo) : Decidable a.Succeeds := inferInstanceAs (Decidable (_ ∧ _))

theorem Fails.not_succeeds {a : AddrInfo} (h : a.Fails) : ¬ a.Succeeds := by
  rintro ⟨hsocket, hconnect⟩
  rcases h with h | h | ⟨e, he, h⟩
  · exact h hsocket
  · simp [h] at hconnect
  · obtain rfl : e = 0 := by simpa [h] using hconnect
    exact absurd he (by decide)

end AddrInfo

/-- The number of descriptors that `socket (2)` has returned. -/
def socketCalls (trace : List Call) : ℕ := trace.countP fun c => c matches .socket _

@[simp] theorem socketCalls_append (trace trace' : List Call) :
    socketCalls (trace ++ trace') = socketCalls trace + socketCalls trace' := List.countP_append

/-! ## What the fallback is for -/

/-- The connection is on the endpoint `a`, once each endpoint of `before` has been tried: the state
is `STATE_IDENT`, and the descriptor is the one of the last call of `socket (2)`. -/
def ConnectedTo (before : List AddrInfo) (a : AddrInfo) (rest : List AddrInfo) (n : Net) :
    Bool × Net → Prop
  | (connected, n') => connected = true ∧ n'.conn.state = .ident ∧ n'.conn.ai = a :: rest ∧
    ∃ calls, n'.trace = n.trace ++ calls ++ [.socket n'.conn.fd, .connected n'.conn.fd] ∧
      socketCalls calls = before.countP AddrInfo.hasSocket

/-- The connection ends in `conn_reschedule` in the state `STATE_CONNECT`, once each endpoint has
been tried. -/
def RescheduledAfter (ais : List AddrInfo) (n : Net) : Bool × Net → Prop
  | (connected, n') => connected = false ∧ ∃ m, n' = connReschedule m ∧ m.conn.ai = [] ∧
    m.conn.state = .connect ∧
      ∃ calls, n'.trace = n.trace ++ calls ∧ socketCalls calls = ais.countP AddrInfo.hasSocket

/-- The connection ends up on the first endpoint that succeeds, and is rescheduled when there is
none. -/
structure FallsBack (ais : List AddrInfo) (n : Net) (o : Bool × Net) : Prop where
  connected : ∀ {before a rest}, ais = before ++ a :: rest → (∀ b ∈ before, ¬ b.Succeeds) →
    a.Succeeds → ConnectedTo before a rest n o
  rescheduled : (∀ a ∈ ais, ¬ a.Succeeds) → RescheduledAfter ais n o

theorem FallsBack.of_succeeds {ais : List AddrInfo} {n : Net} {o : Bool × Net}
    (h : FallsBack ais n o) (hsome : ¬ ∀ a ∈ ais, ¬ a.Succeeds) :
    o.1 = true ∧ ∃ a rest, a.Succeeds ∧ o.2.conn.ai = a :: rest := by
  obtain ⟨x, hx, hsucceeds⟩ : ∃ x ∈ ais, x.Succeeds := by simpa using hsome
  -- the first of the endpoints that succeed
  have hfind : (ais.find? fun a => decide a.Succeeds).isSome :=
    List.find?_isSome.2 ⟨x, hx, by simpa using hsucceeds⟩
  obtain ⟨a, ha⟩ := Option.isSome_iff_exists.1 hfind
  obtain ⟨hsucc, before, rest, hais, hbefore⟩ := List.find?_eq_some_iff_append.1 ha
  obtain ⟨hconnected, -, hai, -⟩ :=
    h.connected hais (fun b hb => by simpa using hbefore b hb) (by simpa using hsucc)
  exact ⟨hconnected, a, rest, by simpa using hsucc, hai⟩

/-! ## One endpoint -/

/-- What an endpoint that is not accepted changes. -/
structure Tried (a : AddrInfo) (n n' : Net) : Prop where
  state : n'.conn.state = n.conn.state
  trace : ∃ calls, n'.trace = n.trace ++ calls ∧ socketCalls calls = [a].countP AddrInfo.hasSocket

theorem RescheduledAfter.after {a : AddrInfo} {rest : List AddrInfo} {n n' : Net}
    {o : Bool × Net} (h : RescheduledAfter rest n' o) (htried : ∃ calls,
      n'.trace = n.trace ++ calls ∧ socketCalls calls = [a].countP AddrInfo.hasSocket) :
    RescheduledAfter (a :: rest) n o := by
  obtain ⟨hfalse, m, hm, hai, hstate, calls, htrace, hcalls⟩ := h
  obtain ⟨before, hbefore, hcount⟩ := htried
  refine ⟨hfalse, m, hm, hai, hstate, before ++ calls, ?_, ?_⟩
  · rw [htrace, hbefore, List.append_assoc]
  · rw [socketCalls_append, hcount, hcalls, ← List.countP_append, List.singleton_append]

/-- The connection to the endpoint is taken for established. -/
structure Accepted (a : AddrInfo) (rest : List AddrInfo) (n : Net) (o : Bool × Net) : Prop where
  connected : o.1 = true
  state : o.2.conn.state = .ident
  ai : o.2.conn.ai = a :: rest
  trace : a.Succeeds → o.2.trace = n.trace ++ [.socket o.2.conn.fd, .connected o.2.conn.fd]

section Run

variable {a : AddrInfo} {rest : List AddrInfo} {k : ℕ}

theorem connConnectRest_dial {n : Net} {rc : ℤ} (h : n.conn.ioCoro = some (.dial rc)) :
    connConnectRest (k + 1) (false, n) = connConnectRest k (connDialResume rc n) := by
  simp [connConnectRest, h]

theorem connConnectRest_true (n : Net) : connConnectRest k (true, n) = (true, n) := by
  cases k <;> rfl

theorem connConnectRest_reschedule (n : Net) :
    connConnectRest k (false, connReschedule n) = (false, connReschedule n) := by
  cases k <;> rfl

/-- `conn_connect` from the end of the wait for the endpoint `a`. -/
theorem connDialResume_eq {n : Net} {rc e : ℤ} (hai : n.conn.ai = a :: rest)
    (ha : a.connect = .inProgress e) :
    connDialResume rc n =
      let n : Net := { n with conn := { n.conn with io := nceIoStop n.conn.io } }
      if e < 0 then connConnectLoop rest (-1) (connClose n)
      else
        let n := if e = 0 then n.emit (.connected n.conn.fd) else n
        if rc = 0 then (true, connEstablished n) else connConnectLoop rest rc n := by
  obtain ⟨fd, socket, connect⟩ := a
  obtain rfl : connect = .inProgress e := ha
  simp only [connDialResume, hai]

/-- An endpoint that fails, or any after another has failed, leaves the outcome to those after it.
The failure stays in `rc`. -/
theorem connConnectRest_cons_refused {rc : ℤ} (n : Net) (h : a.Fails ∨ rc ≠ 0)
    (hk : rest.length < k) :
    ∃ k' rc' n', rest.length ≤ k' ∧ rc' ≠ 0 ∧ Tried a n n' ∧
      connConnectRest k (connConnectLoop (a :: rest) rc n) =
        connConnectRest k' (connConnectLoop rest rc' n') := by
  obtain ⟨k, rfl⟩ : ∃ j, k = j + 1 := ⟨k - 1, by omega⟩
  obtain ⟨afd, socket, connect⟩ := a
  let fd := freshFd n.trace afd
  cases socket with
  | socketFailed =>
    refine ⟨k + 1, -1, _, by omega, by decide, ?_, rfl⟩
    exact ⟨rfl, [.socketFailed], by simp, rfl⟩
  | fcntlFailed =>
    refine ⟨k + 1, -1, _, by omega, by decide, ?_, rfl⟩
    exact ⟨rfl, [.socket fd, .close fd], by simp [connClose, fd], rfl⟩
  | done =>
    cases connect with
    | failed =>
      refine ⟨k + 1, -1, _, by omega, by decide, ?_, rfl⟩
      exact ⟨rfl, [.socket fd, .close fd], by simp [connClose, fd], rfl⟩
    | done =>
      have hrc : rc ≠ 0 := by simpa [AddrInfo.Fails] using h
      simp only [connConnectLoop, connSocket, if_neg hrc]
      refine ⟨k + 1, rc, _, by omega, hrc, ?_, rfl⟩
      exact ⟨rfl, [.socket fd, .connected fd], by simp [fd], rfl⟩
    | inProgress e =>
      -- the coroutine waits, and goes on with the status of the socket
      simp only [connConnectLoop, connSocket]
      rw [connConnectRest_dial rfl, connDialResume_eq rfl rfl]
      by_cases he : e < 0
      · simp only [if_pos he]
        refine ⟨k, -1, _, by omega, by decide, ?_, rfl⟩
        exact ⟨rfl, [.socket fd, .close fd], by simp [connClose, fd], rfl⟩
      · have hrc : rc ≠ 0 := h.resolve_left (by simpa [AddrInfo.Fails] using he)
        simp only [if_neg he, if_neg hrc]
        refine ⟨k, rc, _, by omega, hrc, ?_, rfl⟩
        split
        · exact ⟨rfl, [.socket fd, .connected fd], by simp [fd], rfl⟩
        · exact ⟨rfl, [.socket fd], by simp [fd], rfl⟩

/-- The first endpoint is accepted unless it fails. -/
theorem connConnectRest_cons_accepted (n : Net) (h : ¬ a.Fails) :
    Accepted a rest n (connConnectRest (k + 1) (connConnectLoop (a :: rest) 0 n)) := by
  obtain ⟨afd, socket, connect⟩ := a
  simp only [AddrInfo.Fails, not_or, not_not] at h
  obtain ⟨rfl, hfailed, hnonneg⟩ := h
  cases connect with
  | failed => exact absurd rfl hfailed
  | done =>
    simp only [connConnectLoop, connSocket, if_pos]
    exact ⟨rfl, rfl, rfl, fun _ => by simp [connConnectRest, connEstablished]⟩
  | inProgress e =>
    have he : ¬ e < 0 := fun he => hnonneg ⟨e, he, rfl⟩
    simp only [connConnectLoop, connSocket]
    rw [connConnectRest_dial rfl, connDialResume_eq rfl rfl]
    simp only [if_neg he, if_pos, connConnectRest_true]
    refine ⟨rfl, rfl, ?_, fun h => ?_⟩
    · split <;> rfl
    · obtain rfl : e = 0 := by simpa [AddrInfo.Succeeds] using h
      simp [connEstablished]

/-- Once an endpoint has failed every other one is tried, whatever its outcome, and the connection
is rescheduled. -/
theorem connConnectRest_rescheduled {ais : List AddrInfo} {rc : ℤ} (hrc : rc ≠ 0) {n : Net}
    (hstate : n.conn.state = .connect) (hk : ais.length ≤ k) :
    RescheduledAfter ais n (connConnectRest k (connConnectLoop ais rc n)) := by
  induction ais generalizing rc n k with
  | nil =>
    rw [connConnectLoop, connConnectRest_reschedule]
    exact ⟨rfl, _, rfl, rfl, hstate, [], by simp [connReschedule], rfl⟩
  | cons a rest ih =>
    obtain ⟨k', rc', n', hk', hrc', htried, heq⟩ := connConnectRest_cons_refused n (.inr hrc) hk
    rw [heq]
    exact (ih hrc' (htried.state.trans hstate) hk').after htried.trace

/-- When the first endpoint fails, `conn_connect` tries them all and reschedules. -/
theorem connConnect_rescheduled (rest : List AddrInfo) (n : Net) (h : a.Fails) :
    RescheduledAfter (a :: rest) n (connConnect (a :: rest) n) := by
  obtain ⟨k, rc, n', hk, hrc, htried, heq⟩ := @connConnectRest_cons_refused a rest _ 0
    (connTimerAgain { n with conn := { n.conn with state := .connect, ai := a :: rest } })
    (.inl h) (Nat.lt_succ_self rest.length)
  rw [connConnect, List.length_cons, heq]
  exact (connConnectRest_rescheduled hrc htried.state hk).after htried.trace

/-- Otherwise it takes the first endpoint. -/
theorem connConnect_accepted (rest : List AddrInfo) (n : Net) (h : ¬ a.Fails) :
    Accepted a rest n (connConnect (a :: rest) n) := by
  obtain ⟨hconnected, hstate, hai, htrace⟩ := connConnectRest_cons_accepted (k := rest.length)
    (connTimerAgain { n with conn := { n.conn with state := .connect, ai := a :: rest } }) h
  exact ⟨hconnected, hstate, hai, htrace⟩

/-- The connection falls back on the first endpoint that succeeds if and only if this is the first
of the list, or the first fails outright and no other succeeds. An endpoint that fails in the
background is accepted, and none is after one that fails outright. -/
theorem connConnect_fallsBack_iff (a : AddrInfo) (rest : List AddrInfo) (n : Net) :
    FallsBack (a :: rest) n (connConnect (a :: rest) n) ↔
      a.Succeeds ∨ a.Fails ∧ ∀ b ∈ rest, ¬ b.Succeeds := by
  refine ⟨fun h => ?_, ?_⟩
  · by_cases ha : a.Succeeds
    · exact .inl ha
    by_cases hfails : a.Fails
    · refine .inr ⟨hfails, ?_⟩
      by_contra hsome
      -- the endpoint that succeeds is not taken any more
      have hfalse := (connConnect_rescheduled rest n hfails).1
      have htrue := (h.of_succeeds fun hnone => hsome (List.forall_mem_cons.1 hnone).2).1
      exact absurd (hfalse.symm.trans htrue) (by decide)
    · -- the first endpoint is taken though it does not succeed
      obtain ⟨htrue, -, hai, -⟩ := connConnect_accepted rest n hfails
      by_cases hnone : ∀ x ∈ a :: rest, ¬ x.Succeeds
      · exact absurd (htrue.symm.trans (h.rescheduled hnone).1) (by decide)
      · obtain ⟨-, x, rest', hx, hai'⟩ := h.of_succeeds hnone
        exact .inl ((List.cons.inj (hai.symm.trans hai')).1 ▸ hx)
  · rintro (ha | ⟨hfails, hrest⟩)
    · obtain ⟨htrue, hstate, hai, htrace⟩ :=
        connConnect_accepted rest n fun h => h.not_succeeds ha
      refine ⟨fun {before x rest'} heq hbefore _ => ?_,
        fun hnone => absurd ha (hnone a List.mem_cons_self)⟩
      cases before with
      | nil =>
        obtain ⟨rfl, rfl⟩ := List.cons.inj heq
        exact ⟨htrue, hstate, hai, [], (List.append_nil n.trace).symm ▸ htrace ha, rfl⟩
      | cons b before =>
        exact absurd ha ((List.cons.inj heq).1 ▸ hbefore b List.mem_cons_self)
    · have hnone : ∀ x ∈ a :: rest, ¬ x.Succeeds :=
        List.forall_mem_cons.2 ⟨hfails.not_succeeds, hrest⟩
      refine ⟨fun {before x rest'} heq _ hx => ?_, fun _ => connConnect_rescheduled rest n hfails⟩
      exact absurd hx (hnone x (heq ▸ by simp))

/-- The second endpoint accepts the connection that the first refuses: it is not used. -/
theorem not_forall_fallsBack :
    ¬ ∀ (a : AddrInfo) (rest : List AddrInfo) (n : Net),
      FallsBack (a :: rest) n (connConnect (a :: rest) n) := by
  intro h
  have := (h ⟨3, .done, .failed⟩ [⟨4, .done, .inProgress 0⟩]
    ⟨connAlloc ⟨none, cstr "", []⟩, []⟩).of_succeeds (by simp [AddrInfo.Succeeds])
  exact absurd this.1 (by decide)

end Run

end Irccd
