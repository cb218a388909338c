import Irccd.Conn.Steps
import Irccd.Foundations.Handles

/-!
# The descriptors of a connection (`conn.c`)

A descriptor is obtained by `conn_socket`, and closed by `conn_socket`, by `conn_dial` or by the
finalizer of the `io_fd` coroutine.

* `Owns`: only open descriptors are closed, and at most `conn->fd` is open;
* `socketCalled`: `conn->fd` has been written, and is no longer the 0 of the allocation;
* `LeakFree`: `conn_connect` loses no socket. It loses that of an endpoint which answers after an
  earlier one failed, unless it is the last one;
* `SameFd`: nothing is opened or closed from one state to the other;
* `connConnectLoop_vacant`, `connDialResume_tidy`: `conn_connect` owns what it should exactly when
  it is leak-free.
-/

namespace Irccd

/-- The descriptor that the call obtains. -/
def Call.obtains : Call → Option ℤ
  | .socket fd => some fd
  | _ => none

/-- The descriptor that the call closes. -/
def Call.closes : Call → Option ℤ
  | .close fd => some fd
  | _ => none

/-- Every descriptor is open when it is closed. -/
def ClosesOwn (trace : List Call) : Prop := Handles.ReleasesHeld Call.obtains Call.closes trace

/-- How a call changes whether `conn_socket` has been called. -/
def socketStep (called : Bool) : Call → Bool
  | .spawn => false
  | .socket _ | .socketFailed => true
  | _ => called

/-- `conn_socket` has been called since `irc__conn_spawn`. -/
def socketCalled (trace : List Call) : Bool := trace.foldl socketStep false

/-- Only open descriptors are closed, and at most one is open, which is `conn->fd`. -/
structure Owns (n : Net) : Prop where
  closes : ClosesOwn n.trace
  holds : openFds n.trace = [] ∨ openFds n.trace = [n.conn.fd]

/-! ## Calls -/

section Calls

variable {trace cs : List Call} {fd : ℤ}

theorem openFds_eq_held (trace : List Call) :
    openFds trace = Handles.held Call.obtains Call.closes trace := by
  unfold openFds Handles.held
  congr 1
  funext fds c
  cases c <;> rfl

@[simp] theorem openFds_nil : openFds [] = [] := rfl

@[simp] theorem openFds_socket : openFds (trace ++ [.socket fd]) = fd :: openFds trace := by
  simp [openFds]

@[simp] theorem openFds_close : openFds (trace ++ [.close fd]) = (openFds trace).erase fd := by
  simp [openFds]

/-- Neither `socket (2)` nor `close (2)`. -/
def Call.Neutral (c : Call) : Prop := c.obtains = none ∧ c.closes = none

theorem Call.neutral_of_not_isDial {c : Call} (h : ¬ c.IsDial) : c.Neutral := by
  cases c <;> simp_all [Call.IsDial, Call.Neutral, Call.obtains, Call.closes]

theorem openFds_append_of_neutral (h : ∀ c ∈ cs, c.Neutral) :
    openFds (trace ++ cs) = openFds trace := by
  rw [openFds_eq_held, openFds_eq_held, Handles.held_append_of_neutral h]

theorem closesOwn_append_of_neutral (h : ∀ c ∈ cs, c.Neutral) :
    ClosesOwn (trace ++ cs) ↔ ClosesOwn trace :=
  Handles.releasesHeld_append_of_neutral fun c hc => (h c hc).2

theorem closesOwn_socket : ClosesOwn (trace ++ [.socket fd]) ↔ ClosesOwn trace := by
  rw [ClosesOwn, Handles.releasesHeld_snoc]
  exact and_iff_left (by simp [Call.closes])

theorem closesOwn_close :
    ClosesOwn (trace ++ [.close fd]) ↔ ClosesOwn trace ∧ fd ∈ openFds trace := by
  rw [ClosesOwn, Handles.releasesHeld_snoc, openFds_eq_held]
  simp [Call.closes, ClosesOwn]

/-- Each descriptor was obtained as often as it was closed, and once more if it is open. -/
theorem ClosesOwn.count_socket (h : ClosesOwn trace) (fd : ℤ) :
    trace.count (.socket fd) = trace.count (.close fd) + (openFds trace).count fd := by
  have hcount := Handles.ReleasesHeld.count_acquired h fd
  rw [← openFds_eq_held] at hcount
  -- only `socket (2)` obtains a descriptor, and only `close (2)` gives one back
  have hobtains : (trace.filterMap Call.obtains).count fd = trace.count (.socket fd) := by
    rw [List.count_filterMap, List.count_eq_countP]
    congr 1
    funext c
    cases c <;> simp [Call.obtains]
  have hcloses : (trace.filterMap Call.closes).count fd = trace.count (.close fd) := by
    rw [List.count_filterMap, List.count_eq_countP]
    congr 1
    funext c
    cases c <;> simp [Call.closes]
  omega

theorem foldr_max_nonneg (fds : List ℤ) : 0 ≤ fds.foldr max 0 := by
  induction fds with
  | nil => simp
  | cons f fds ih =>
    rw [List.foldr_cons]
    omega

theorem le_foldr_max {fds : List ℤ} {f : ℤ} (h : f ∈ fds) : f ≤ fds.foldr max 0 := by
  induction fds with
  | nil => cases h
  | cons f' fds ih =>
    rw [List.foldr_cons]
    rcases List.mem_cons.1 h with rfl | h
    · omega
    · have := ih h
      omega

theorem freshFd_not_mem (trace : List Call) (fd : ℕ) : freshFd trace fd ∉ openFds trace := by
  unfold freshFd
  split
  · intro h
    have := le_foldr_max h
    omega
  · assumption

theorem freshFd_nonneg (trace : List Call) (fd : ℕ) : 0 ≤ freshFd trace fd := by
  unfold freshFd
  split
  · have := foldr_max_nonneg (openFds trace)
    omega
  · omega

end Calls

/-! ## What neither opens nor closes -/

/-- The call has nothing to do with descriptors. -/
def Call.Still (c : Call) : Prop := c.Neutral ∧ ∀ called, socketStep called c = called

theorem Call.still_of_not_isDial {c : Call} (h : ¬ c.IsDial) (hspawn : c ≠ .spawn) : c.Still := by
  refine ⟨neutral_of_not_isDial h, fun called => ?_⟩
  cases c <;> first | rfl | exact absurd rfl hspawn | exact absurd trivial h

theorem socketCalled_append_of_still {trace cs : List Call} (h : ∀ c ∈ cs, c.Still) :
    socketCalled (trace ++ cs) = socketCalled trace := by
  induction cs generalizing trace with
  | nil => rw [List.append_nil]
  | cons c cs ih =>
    obtain ⟨hc, hcs⟩ := List.forall_mem_cons.1 h
    rw [List.append_cons, ih hcs, socketCalled, List.foldl_append, ← socketCalled]
    exact hc.2 _

/-- From `n` to `n'` nothing is opened or closed, and `conn->fd` stays. -/
def SameFd (n n' : Net) : Prop :=
  ∃ cs, (∀ c ∈ cs, c.Still) ∧ n'.trace = n.trace ++ cs ∧ n'.conn.fd = n.conn.fd

section SameFd

variable {n n' n'' : Net} {linked : Bool} {lines : List CStr}

theorem SameFd.of_trace (htrace : n'.trace = n.trace) (hfd : n'.conn.fd = n.conn.fd) :
    SameFd n n' :=
  ⟨[], by simp, by simpa using htrace, hfd⟩

theorem SameFd.emit {c : Call} (hc : c.Still) : SameFd n (n.emit c) :=
  ⟨[c], by simpa using hc, rfl, rfl⟩

theorem SameFd.trans (h : SameFd n n') (h' : SameFd n' n'') : SameFd n n'' := by
  obtain ⟨cs, hcs, htrace, hfd⟩ := h
  obtain ⟨cs', hcs', htrace', hfd'⟩ := h'
  refine ⟨cs ++ cs', fun c hc => ?_, ?_, hfd'.trans hfd⟩
  · exact (List.mem_append.1 hc).elim (hcs c) (hcs' c)
  · rw [htrace', htrace, List.append_assoc]

theorem SameFd.fd_eq (h : SameFd n n') : n'.conn.fd = n.conn.fd := by
  obtain ⟨-, -, -, hfd⟩ := h
  exact hfd

theorem SameFd.openFds_eq (h : SameFd n n') : openFds n'.trace = openFds n.trace := by
  obtain ⟨cs, hcs, htrace, -⟩ := h
  rw [htrace, openFds_append_of_neutral fun c hc => (hcs c hc).1]

theorem SameFd.socketCalled_eq (h : SameFd n n') :
    socketCalled n'.trace = socketCalled n.trace := by
  obtain ⟨cs, hcs, htrace, -⟩ := h
  rw [htrace, socketCalled_append_of_still hcs]

theorem SameFd.closesOwn_iff (h : SameFd n n') : ClosesOwn n'.trace ↔ ClosesOwn n.trace := by
  obtain ⟨cs, hcs, htrace, -⟩ := h
  rw [htrace, closesOwn_append_of_neutral fun c hc => (hcs c hc).1]

theorem ircConnPush_sameFd (n : Net) (data : CStr) : SameFd n (ircConnPush n data).2 := by
  unfold ircConnPush
  split
  · have hpush : Call.Still (.push data) := Call.still_of_not_isDial id (by simp)
    exact ⟨[.push data], by simpa using hpush, rfl, rfl⟩
  · exact .of_trace rfl rfl

theorem connIdentSend_sameFd (n : Net) : SameFd n (connIdentSend linked lines n) := by
  induction lines generalizing n with
  | nil => exact .of_trace rfl rfl
  | cons line lines ih =>
    have hline : SameFd n (connSendLine linked n line).2 := by
      unfold connSendLine
      split
      · exact ircConnPush_sameFd n _
      · exact .of_trace rfl rfl
    exact hline.trans (ih _)

theorem connIdentLoop_sameFd (n : Net) :
    SameFd n (connIdentLoop n) ∧ ∀ rc, (connIdentLoop n).conn.ioCoro ≠ some (.dial rc) := by
  rcases connIdentLoop_cases n with ⟨-, timer, heq⟩ | ⟨-, heq⟩
  · rw [heq]
    exact ⟨.of_trace rfl rfl, by simp⟩
  · rw [heq]
    exact ⟨.of_trace rfl rfl, by simp⟩

theorem connIdent_sameFd (linked : Bool) (lines : List CStr) (n : Net) :
    SameFd n (connIdent linked lines n) ∧
      ∀ rc, (connIdent linked lines n).conn.ioCoro ≠ some (.dial rc) := by
  obtain ⟨hloop, hpoint⟩ := connIdentLoop_sameFd (connIdentSend linked lines (connTimerAgain n))
  -- `conn_ident` arms the timer, sends the lines and waits
  have hagain : SameFd n (connTimerAgain n) := .of_trace rfl rfl
  exact ⟨hagain.trans ((connIdentSend_sameFd _).trans hloop), hpoint⟩

theorem Waited.sameFd {r : RecvResult} {rc : ℤ} (h : Waited n r rc n') : SameFd n n' := by
  cases h
  refine ⟨_, fun c hc => ?_, List.append_assoc _ _ _, rfl⟩
  rcases List.mem_append.1 hc with hc | hc
  · refine Call.still_of_not_isDial (not_isDial_recvCall c hc) ?_
    rintro rfl
    simp [recvCall] at hc
  · refine Call.still_of_not_isDial (not_isDial_sendCall c hc) ?_
    rintro rfl
    simp [sendCall] at hc

end SameFd

/-! ## Connecting -/

/-- `conn_connect` loses no socket, on the endpoints that are left and with the `rc` that it has: an
endpoint that answers at once ends the loop, because none failed before or none is left. -/
def LeakFree : ℤ → List AddrInfo → Prop
  | _, [] => True
  | rc, ai :: rest =>
    match ai.socket, ai.connect with
    | .done, .done => rc = 0 ∨ rest = []
    | .done, .inProgress _ => True
    | _, _ => LeakFree (-1) rest

instance decidableLeakFree : (rc : ℤ) → (ais : List AddrInfo) → Decidable (LeakFree rc ais)
  | _, [] => isTrue trivial
  | rc, ⟨_, .done, .done⟩ :: rest => inferInstanceAs (Decidable (rc = 0 ∨ rest = []))
  | _, ⟨_, .done, .inProgress _⟩ :: _ => isTrue trivial
  | _, ⟨_, .done, .failed⟩ :: rest => decidableLeakFree (-1) rest
  | _, ⟨_, .socketFailed, _⟩ :: rest => decidableLeakFree (-1) rest
  | _, ⟨_, .fcntlFailed, _⟩ :: rest => decidableLeakFree (-1) rest

/-- Nothing is open. -/
structure Clear (trace : List Call) : Prop where
  closes : ClosesOwn trace
  none : openFds trace = []

/-- The descriptor `fd` is open, and no other. -/
structure Only (trace : List Call) (fd : ℤ) : Prop where
  closes : ClosesOwn trace
  one : openFds trace = [fd]
  nonneg : 0 ≤ fd
  called : socketCalled trace = true

/-- Nothing is open, and `conn->fd` says so if it has been written. -/
structure Vacant (trace : List Call) (fd : ℤ) : Prop where
  clear : Clear trace
  fd_eq : fd = if socketCalled trace then -1 else 0

theorem Clear.socket {trace : List Call} (h : Clear trace) (fd : ℕ) :
    Only (trace ++ [.socket (freshFd trace fd)]) (freshFd trace fd) :=
  ⟨closesOwn_socket.2 h.closes, by rw [openFds_socket, h.none], freshFd_nonneg trace fd,
    by simp [socketCalled, socketStep]⟩

theorem Only.close {trace : List Call} {fd : ℤ} (h : Only trace fd) :
    Vacant (trace ++ [.close fd]) (-1) := by
  have hcalled : socketCalled (trace ++ [.close fd]) = true := by
    simpa [socketCalled, socketStep] using h.called
  exact ⟨⟨closesOwn_close.2 ⟨h.closes, by simp [h.one]⟩, by simp [h.one]⟩, by rw [hcalled]; rfl⟩

theorem Clear.append {trace cs : List Call} (h : Clear trace) (hcs : ∀ c ∈ cs, c.Neutral) :
    Clear (trace ++ cs) :=
  ⟨(closesOwn_append_of_neutral hcs).2 h.closes, (openFds_append_of_neutral hcs).trans h.none⟩

theorem Only.connected {trace : List Call} {fd : ℤ} (h : Only trace fd) :
    Only (trace ++ [.connected fd]) fd := by
  have hneutral : ∀ c ∈ [Call.connected fd], c.Neutral := by
    simp [Call.Neutral, Call.obtains, Call.closes]
  exact ⟨(closesOwn_append_of_neutral hneutral).2 h.closes,
    (openFds_append_of_neutral hneutral).trans h.one, h.nonneg,
    by simpa [socketCalled, socketStep] using h.called⟩

/-- Between two steps: nothing is open, or `conn->fd` is, and it is while `conn_dial` waits. -/
structure Tidy (n : Net) : Prop where
  holds : Vacant n.trace n.conn.fd ∨ Only n.trace n.conn.fd
  dial : ∀ rc, n.conn.ioCoro = some (.dial rc) → Only n.trace n.conn.fd

theorem Only.tidy {n : Net} (h : Only n.trace n.conn.fd) : Tidy n := ⟨.inr h, fun _ _ => h⟩

theorem Tidy.closes {n : Net} (h : Tidy n) : ClosesOwn n.trace :=
  h.holds.elim (fun hn => hn.clear.closes) Only.closes

/-- A descriptor is open that the connection does not know any more. -/
def Lost (n : Net) : Prop := ∃ fd ∈ openFds n.trace, fd ≠ n.conn.fd

theorem Tidy.of_sameFd {n n' : Net} (h : Tidy n) (hsame : SameFd n n')
    (hpoint : ∀ rc, n'.conn.ioCoro = some (.dial rc) → n.conn.ioCoro = some (.dial rc)) :
    Tidy n' := by
  have honly : Only n.trace n.conn.fd → Only n'.trace n'.conn.fd := by
    intro h
    exact ⟨hsame.closesOwn_iff.2 h.closes, by rw [hsame.openFds_eq, hsame.fd_eq, h.one],
      hsame.fd_eq ▸ h.nonneg, hsame.socketCalled_eq.trans h.called⟩
  refine ⟨h.holds.imp (fun hn => ?_) honly, fun rc hrc => honly (h.dial rc (hpoint rc hrc))⟩
  refine ⟨⟨hsame.closesOwn_iff.2 hn.clear.closes, hsame.openFds_eq.trans hn.clear.none⟩, ?_⟩
  rw [hsame.fd_eq, hsame.socketCalled_eq]
  exact hn.fd_eq

theorem Lost.of_sameFd {n n' : Net} (h : Lost n) (hsame : SameFd n n') : Lost n' := by
  rw [Lost, hsame.openFds_eq, hsame.fd_eq]
  exact h

theorem Tidy.owns {n : Net} (h : Tidy n) : Owns n :=
  ⟨h.closes, h.holds.imp (fun hn => hn.clear.none) Only.one⟩

theorem Lost.not_owns {n : Net} (h : Lost n) : ¬ Owns n := by
  obtain ⟨fd, hfd, hne⟩ := h
  rintro ⟨-, hnone | hone⟩
  · simp [hnone] at hfd
  · exact hne (by simpa [hone] using hfd)

/-- A descriptor that is open stays so when `conn_connect` goes on with other endpoints, and
`conn->fd` is overwritten. -/
theorem connConnectLoop_lost {ais : List AddrInfo} {rc : ℤ} {n : Net} (fd : ℤ)
    (hopen : fd ∈ openFds n.trace) (hfd : 0 ≤ fd) (hne : fd ≠ n.conn.fd ∨ ais ≠ []) :
    Lost (connConnectLoop ais rc n).2 := by
  have hnone : fd ≠ -1 := by omega
  induction ais generalizing rc n with
  | nil => exact ⟨fd, hopen, by simpa [connConnectLoop, connReschedule] using hne⟩
  | cons a rest ih =>
    -- the kernel does not give a descriptor that is open
    have hother : freshFd n.trace a.fd ≠ fd := fun h => freshFd_not_mem n.trace a.fd (h ▸ hopen)
    have hsocket : fd ∈ openFds (n.trace ++ [.socket (freshFd n.trace a.fd)]) := by
      rw [openFds_socket]
      exact List.mem_cons_of_mem _ hopen
    have hfailed : fd ∈ openFds (n.trace ++ [.socketFailed]) := by
      rwa [openFds_append_of_neutral (by simp [Call.Neutral, Call.obtains, Call.closes])]
    have hclose : fd ∈ openFds (n.trace ++ [.socket (freshFd n.trace a.fd)] ++
        [.close (freshFd n.trace a.fd)]) := by
      rw [openFds_close]
      exact (List.mem_erase_of_ne hother.symm).2 hsocket
    have hconnected : fd ∈ openFds (n.trace ++ [.socket (freshFd n.trace a.fd)] ++
        [.connected (freshFd n.trace a.fd)]) := by
      rwa [openFds_append_of_neutral (by simp [Call.Neutral, Call.obtains, Call.closes])]
    rw [connConnectLoop]
    obtain ⟨afd, asocket, aconnect⟩ := a
    cases asocket with
    | socketFailed => exact ih hfailed (.inl hnone)
    | fcntlFailed => exact ih hclose (.inl hnone)
    | done =>
      cases aconnect with
      | failed => exact ih hclose (.inl hnone)
      -- the loop ends with the new socket in `conn->fd`
      | inProgress e => exact ⟨fd, hsocket, hother.symm⟩
      | done =>
        simp only [connSocket]
        split
        · exact ⟨fd, hconnected, hother.symm⟩
        · exact ih hconnected (.inl hother.symm)

/-- `conn_connect`, from a state where nothing is open, is tidy if it is leak-free, and loses a
socket otherwise. -/
theorem connConnectLoop_vacant {ais : List AddrInfo} {rc : ℤ} {n : Net}
    (hn : Vacant n.trace n.conn.fd) :
    (LeakFree rc ais → Tidy (connConnectLoop ais rc n).2) ∧
      (¬ LeakFree rc ais → Lost (connConnectLoop ais rc n).2) := by
  induction ais generalizing rc n with
  | nil => exact ⟨fun _ => ⟨.inl hn, by simp [connConnectLoop, connReschedule]⟩,
      fun h => absurd trivial h⟩
  | cons a rest ih =>
    have hsocket := hn.clear.socket a.fd
    have hfailed : Vacant (n.trace ++ [.socketFailed]) (-1) :=
      ⟨hn.clear.append (by simp [Call.Neutral, Call.obtains, Call.closes]),
        by simp [socketCalled, socketStep]⟩
    rw [connConnectLoop]
    obtain ⟨afd, asocket, aconnect⟩ := a
    cases asocket with
    | socketFailed => exact ih hfailed
    -- a socket that fails is closed, and the loop goes on with the next endpoint
    | fcntlFailed => exact ih hsocket.close
    | done =>
      cases aconnect with
      | failed => exact ih hsocket.close
      | inProgress e => exact ⟨fun _ => hsocket.tidy, fun h => absurd trivial h⟩
      | done =>
        simp only [connSocket, LeakFree]
        by_cases hrc : rc = 0
        · rw [if_pos hrc]
          exact ⟨fun _ => hsocket.connected.tidy, fun h => absurd (.inl hrc) h⟩
        · rw [if_neg hrc]
          refine ⟨fun h => ?_, fun h => ?_⟩
          · obtain rfl := h.resolve_left hrc
            exact hsocket.connected.tidy
          · -- the next `conn_socket` overwrites `conn->fd`
            refine connConnectLoop_lost (freshFd n.trace afd) ?_ hsocket.nonneg
              (.inr fun hnil => h (.inr hnil))
            exact hsocket.connected.one.symm ▸ List.mem_singleton_self _

/-! ## Spawning -/

theorem connConnected_tidy {linked : Bool} {lines : List CStr} {r : Bool × Net} (h : Tidy r.2) :
    Tidy (connConnected linked lines r) := by
  obtain ⟨_ | _, n⟩ := r
  · exact h
  · obtain ⟨hsame, hpoint⟩ := connIdent_sameFd linked lines n
    exact h.of_sameFd hsame fun rc hrc => absurd hrc (hpoint rc)

theorem connConnected_lost {linked : Bool} {lines : List CStr} {r : Bool × Net} (h : Lost r.2) :
    Lost (connConnected linked lines r) := by
  obtain ⟨_ | _, n⟩ := r
  · exact h
  · exact h.of_sameFd (connIdent_sameFd linked lines n).1

/-- `conn_connect` loses no socket of the endpoints that `getaddrinfo` gives, if it gives any. -/
def SpawnCond (ais : Option (List AddrInfo)) : Prop := ∀ l ∈ ais, LeakFree 0 l

instance : DecidablePred SpawnCond := fun ais => inferInstanceAs (Decidable (∀ l ∈ ais, _))

theorem connIoSpawn_vacant (linked : Bool) (lines : List CStr) (ais : Option (List AddrInfo))
    {n : Net} (hn : Vacant n.trace n.conn.fd) :
    (SpawnCond ais → Tidy (connIoSpawn linked lines ais n)) ∧
      (¬ SpawnCond ais → Lost (connIoSpawn linked lines ais n)) := by
  cases ais with
  | none =>
    refine ⟨fun _ => ⟨.inl hn, ?_⟩, fun h => absurd (by simp [SpawnCond]) h⟩
    simp [connIoSpawn, connIoEntry, connReschedule]
  | some ais =>
    obtain ⟨htidy, hlost⟩ := @connConnectLoop_vacant ais 0 (connTimerAgain { n with
      conn := { n.conn with
        io := nceIoInit n.conn.io
        state := .connect
        ai := ais
        timer := nceTimerAgain n.conn.timer } }) hn
    -- the loop starts with `rc = 0`
    have hcond : SpawnCond (some ais) ↔ LeakFree 0 ais := by simp [SpawnCond]
    rw [hcond]
    exact ⟨fun h => connConnected_tidy (htidy h), fun h => connConnected_lost (hlost h)⟩

/-! ## Steps -/

theorem connDialResume_tidy {n : Net} {a : AddrInfo} {rest : List AddrInfo} {soError : ℤ} (rc : ℤ)
    (hn : Only n.trace n.conn.fd) (hai : n.conn.ai = a :: rest)
    (ha : a.connect = .inProgress soError) :
    ((if soError < 0 then LeakFree (-1) rest else rc = 0 ∨ rest = []) →
        Tidy (connDialResume rc n).2) ∧
      (¬ (if soError < 0 then LeakFree (-1) rest else rc = 0 ∨ rest = []) →
        Lost (connDialResume rc n).2) := by
  obtain ⟨⟨state, ai, inb, outb, fd, io, point, timer, timerPoint, msg, storage, again⟩,
    trace⟩ := n
  obtain ⟨afd, asocket, aconnect⟩ := a
  obtain rfl : aconnect = .inProgress soError := ha
  obtain rfl : ai = ⟨afd, asocket, .inProgress soError⟩ :: rest := hai
  simp only [connDialResume]
  by_cases hneg : soError < 0
  · rw [if_pos hneg, if_pos hneg]
    exact connConnectLoop_vacant hn.close
  · rw [if_neg hneg, if_neg hneg]
    -- a positive `SO_ERROR` leaves the socket open, as a success does
    generalize hm : (if soError = 0 then _ else _ : Net) = m
    have hfd : m.conn.fd = fd := by
      rw [← hm]
      split <;> rfl
    have honly : Only m.trace m.conn.fd := by
      rw [hfd, ← hm]
      split
      · exact hn.connected
      · exact hn
    by_cases hrc : rc = 0
    · rw [if_pos hrc]
      exact ⟨fun _ => Only.tidy honly, fun h => absurd (.inl hrc) h⟩
    · rw [if_neg hrc]
      refine ⟨fun h => ?_, fun h => ?_⟩
      · obtain rfl := h.resolve_left hrc
        exact Only.tidy honly
      · exact connConnectLoop_lost m.conn.fd (honly.one.symm ▸ List.mem_singleton_self _)
          honly.nonneg (.inr fun hnil => h (.inr hnil))

/-- A step that is not the end of a wait in `conn_dial`, nor made by the timer, neither opens nor
closes anything. -/
theorem ConnTrans.sameFd {lines : List CStr} {n n' : Net} {a : ConnAct}
    (h : ConnTrans lines n a n')
    (hdial : ∀ r rs rc, a = .resumeIo r rs → n.conn.ioCoro = some (.dial rc) →
      n.conn.io.revents = .none)
    (htimer : ∀ ais, a = .resumeTimer ais → n.conn.timer.revents = false) :
    SameFd n n' ∧
      ∀ rc, n'.conn.ioCoro = some (.dial rc) → n.conn.ioCoro = some (.dial rc) := by
  cases h with
  | quiet => exact ⟨.of_trace rfl rfl, fun _ => id⟩
  | redial hpoint hrevents => exact absurd (hdial _ _ _ rfl hpoint) hrevents
  | identify hpoint hrevents => exact absurd (hdial _ _ _ rfl hpoint) hrevents
  | @waitIdent _ _ m _ _ h =>
    obtain ⟨hloop, hpoint⟩ := connIdentLoop_sameFd m
    exact ⟨h.sameFd.trans hloop, fun rc hrc => absurd hrc (hpoint rc)⟩
  | waitReady _ _ h =>
    refine ⟨h.sameFd.trans (.of_trace rfl rfl), ?_⟩
    cases h
    exact fun _ => id
  | lostIdent _ _ _ h =>
    exact ⟨h.sameFd.trans (.of_trace rfl rfl), by simp [connReschedule]⟩
  | lostReady _ _ _ h =>
    -- the message that is put in the input has nothing to do with descriptors
    have hinject : Call.Still .inject := ⟨⟨rfl, rfl⟩, fun _ => rfl⟩
    exact ⟨h.sameFd.trans (.trans (.emit hinject) (.of_trace rfl rfl)), by simp [connReschedule]⟩
  | teardown hrevents => exact absurd (htimer _ rfl) (by simp [hrevents])
  | respawn hrevents => exact absurd (htimer _ rfl) (by simp [hrevents])
  | respawnIdent hrevents => exact absurd (htimer _ rfl) (by simp [hrevents])
  | @produce len =>
    have hnext : Call.Still (.next (n.conn.inb.contents.take (len + 2))) :=
      Call.still_of_not_isDial id (by simp)
    exact ⟨⟨[_], by simpa using hnext, rfl, rfl⟩, fun _ => id⟩

/-- A coroutine that is gone was destroyed before, or is destroyed by the step. -/
theorem ConnTrans.gone {lines : List CStr} {n n' : Net} {a : ConnAct} (h : ConnTrans lines n a n')
    (hnone : n'.conn.ioCoro = none) :
    n'.conn.fd = -1 ∨ (n.conn.ioCoro = none ∧ n'.conn.fd = n.conn.fd) := by
  cases h with
  | quiet => exact .inr ⟨hnone, rfl⟩
  | redial _ _ _ h => exact absurd hnone h.ioCoro_ne_none
  | identify _ _ _ _ _ h => exact absurd hnone h.ioCoro_ne_none
  | @waitIdent _ _ m =>
    rcases connIdentLoop_cases m with ⟨-, timer, heq⟩ | ⟨-, heq⟩ <;> simp [heq] at hnone
  | waitReady hpoint _ h =>
    cases h
    simp [connTimerAgain, hpoint] at hnone
  | lostIdent => simp [connReschedule] at hnone
  | lostReady => simp [connReschedule] at hnone
  | teardown => exact .inl rfl
  | respawn _ _ _ _ h => exact absurd hnone h.ioCoro_ne_none
  | respawnIdent _ _ _ h => exact absurd hnone h.ioCoro_ne_none
  | produce => exact .inr ⟨hnone, rfl⟩

end Irccd
