import Irccd.Conn.Io

/-!
# What the pieces of the coroutines change (`conn.c`)

One lemma for each function of `Irccd.Conn.Io` that the steps of a connection are made of. It says
all that the function may change, so that nothing after it has to look at the function itself.

* `Suspended`: `conn_connect` until it is suspended;
* `Pushes`: lines accepted by `irc__conn_push`;
* `Waited`: `conn_wait`.
-/

namespace Irccd

/-! ## Connecting -/

/-- The calls of `conn_connect`. -/
def Call.IsDial : Call → Prop
  | .socket _ | .socketFailed | .connected _ | .close _ => True
  | _ => False

/-- Other calls do not change the state of a descriptor. -/
theorem sockState_append_of_not_dial {fd : ℤ} {trace cs : List Call} (h : ∀ c ∈ cs, ¬ c.IsDial) :
    sockState fd (trace ++ cs) = sockState fd trace := by
  induction cs generalizing trace with
  | nil => rw [List.append_nil]
  | cons c cs ih =>
    obtain ⟨hc, hcs⟩ := List.forall_mem_cons.1 h
    rw [List.append_cons, ih hcs, sockState_append]
    cases c <;> first | rfl | exact absurd trivial hc

theorem not_isDial_push {lines : List CStr} : ∀ c ∈ lines.map Call.push, ¬ c.IsDial := by
  intro c hc
  obtain ⟨line, -, rfl⟩ := List.mem_map.1 hc
  exact id

/-- From one trace to the other there are only calls of `conn_connect`. -/
def Dialed (trace trace' : List Call) : Prop := ∃ cs, trace' = trace ++ cs ∧ ∀ c ∈ cs, c.IsDial

theorem Dialed.refl (trace : List Call) : Dialed trace trace := ⟨[], by simp⟩

theorem Dialed.snoc {trace trace' : List Call} {c : Call} (h : Dialed trace trace')
    (hc : c.IsDial) : Dialed trace (trace' ++ [c]) := by
  obtain ⟨cs, rfl, hcs⟩ := h
  refine ⟨cs ++ [c], by simp, ?_⟩
  intro c' hc'
  rcases List.mem_append.1 hc' with h | h
  · exact hcs c' h
  · obtain rfl := List.mem_singleton.1 h
    exact hc

theorem Dialed.trans {trace₁ trace₂ trace₃ : List Call} (h : Dialed trace₁ trace₂)
    (h' : Dialed trace₂ trace₃) : Dialed trace₁ trace₃ := by
  obtain ⟨cs, rfl, hcs⟩ := h
  obtain ⟨cs', rfl, hcs'⟩ := h'
  refine ⟨cs ++ cs', by simp, ?_⟩
  intro c hc
  exact (List.mem_append.1 hc).elim (hcs c) (hcs' c)

theorem Dialed.isPrefix {trace trace' : List Call} (h : Dialed trace trace') :
    trace <+: trace' := by
  obtain ⟨cs, rfl, -⟩ := h
  exact List.prefix_append _ _

/-- What every call of `conn_connect` keeps. -/
theorem Dialed.foldl {β : Type*} {f : β → Call → β} {M : β → Prop} {trace trace' : List Call}
    (h : Dialed trace trace') {init : β} (hM : ∀ b c, c.IsDial → M b → M (f b c))
    (hinit : M (trace.foldl f init)) : M (trace'.foldl f init) := by
  obtain ⟨cs, rfl, hcs⟩ := h
  rw [List.foldl_append]
  -- induction on the new calls, from whatever value the old ones leave
  revert hinit
  generalize trace.foldl f init = b
  intro hb
  induction cs generalizing b with
  | nil => exact hb
  | cons c cs ih =>
    obtain ⟨hc, hcs⟩ := List.forall_mem_cons.1 hcs
    exact ih hcs _ (hM b c hc hb)

/-- What changes in `conn_connect` until it is suspended, in `conn_reschedule` or in `conn_dial`. -/
inductive Suspended (n : Net) : Net → Prop
  | idle {ai : List AddrInfo} {fd : ℤ} {io : NceIo} {timer : NceTimer} {trace : List Call}
      (h : Dialed n.trace trace) :
      Suspended n ⟨{ n.conn with ai, fd, io, timer, ioCoro := some .idle }, trace⟩
  | dial {a : AddrInfo} {rest : List AddrInfo} {fd rc e : ℤ} {io : NceIo} {before : List Call}
      (h : Dialed n.trace before) (he : a.connect = .inProgress e) :
      Suspended n ⟨{ n.conn with
        ai := a :: rest
        fd
        io := nceIoReset io fd .evWrite
        ioCoro := some (.dial rc) }, before ++ [.socket fd]⟩

/-- What is tried before the endpoint that the coroutine waits for makes no difference. -/
theorem Suspended.after {n n' : Net} {ai : List AddrInfo} {fd : ℤ} {io : NceIo}
    {trace : List Call} (htrace : Dialed n.trace trace)
    (h : Suspended ⟨{ n.conn with ai, fd, io }, trace⟩ n') : Suspended n n' := by
  cases h with
  | idle h' => exact .idle (htrace.trans h')
  | dial h' he => exact .dial (htrace.trans h') he

theorem Suspended.ioCoro_ne_none {n n' : Net} (h : Suspended n n') : n'.conn.ioCoro ≠ none := by
  cases h <;> simp

/-- The calls made before stay. -/
theorem Suspended.isPrefix {n n' : Net} (h : Suspended n n') : n.trace <+: n'.trace := by
  cases h with
  | idle h => exact h.isPrefix
  | dial h _ => exact h.isPrefix.trans (List.prefix_append _ _)

theorem Suspended.state_eq {n n' : Net} (h : Suspended n n') : n'.conn.state = n.conn.state := by
  cases h <;> rfl

/-- The calls made for an endpoint that is not tried any further. -/
theorem connSocket_false {n n' : Net} {a : AddrInfo} (h : connSocket n a = (false, n')) :
    ∃ fd trace, n' = ⟨{ n.conn with fd }, trace⟩ ∧ Dialed n.trace trace := by
  unfold connSocket at h
  cases hs : a.socket with
  | done => simp [hs] at h
  | socketFailed =>
    simp only [hs, Prod.mk.injEq, true_and] at h
    exact ⟨-1, _, h.symm, (Dialed.refl _).snoc trivial⟩
  | fcntlFailed =>
    simp only [hs, Prod.mk.injEq, true_and] at h
    have hsocket : Dialed n.trace (n.trace ++ [.socket (freshFd n.trace a.fd)]) :=
      (Dialed.refl _).snoc trivial
    exact ⟨-1, _, h.symm, hsocket.snoc trivial⟩

theorem connSocket_true {n n' : Net} {a : AddrInfo} (h : connSocket n a = (true, n')) :
    a.socket = .done ∧
      n' = ⟨{ n.conn with fd := freshFd n.trace a.fd },
        n.trace ++ [.socket (freshFd n.trace a.fd)]⟩ := by
  unfold connSocket at h
  cases hs : a.socket with
  | done =>
    simp only [hs, Prod.mk.injEq, true_and] at h
    exact ⟨rfl, h.symm⟩
  | socketFailed => simp [hs] at h
  | fcntlFailed => simp [hs] at h

/-- `conn_connect` is suspended, unless its first endpoint answers at once: the failure of an
endpoint stays in `rc`. -/
theorem connConnectLoop_cases (ais : List AddrInfo) (rc : ℤ) (n : Net) :
    (∃ n', connConnectLoop ais rc n = (false, n') ∧ Suspended n n') ∨
    (rc = 0 ∧ ∃ fd rest, ais = ⟨fd, .done, .done⟩ :: rest ∧
      connConnectLoop ais rc n =
        (true, connEstablished ⟨{ n.conn with ai := ais, fd := freshFd n.trace fd },
          n.trace ++ [.socket (freshFd n.trace fd), .connected (freshFd n.trace fd)]⟩)) := by
  -- the endpoint before may have failed, so `rc` is arbitrary in the induction
  induction ais generalizing rc n with
  | nil => exact .inl ⟨_, rfl, .idle (.refl _)⟩
  | cons a rest ih =>
    -- an endpoint that fails, and one that succeeds after a failure, leave `rc` non-zero
    have hnext : ∀ {rc' : ℤ} {fd : ℤ} {trace : List Call}, rc' ≠ 0 → Dialed n.trace trace →
        ∃ n', connConnectLoop rest rc' ⟨{ n.conn with ai := a :: rest, fd }, trace⟩ =
          (false, n') ∧ Suspended n n' := by
      intro rc' fd trace hrc' htrace
      rcases ih rc' ⟨{ n.conn with ai := a :: rest, fd }, trace⟩ with ⟨n', hn', hsus⟩ | ⟨h, -⟩
      · exact ⟨n', hn', hsus.after htrace⟩
      · exact absurd h hrc'
    rw [connConnectLoop]
    rcases hsock : connSocket { n with conn := { n.conn with ai := a :: rest } } a with ⟨_ | _, m⟩
    · obtain ⟨fd, trace, rfl, htrace⟩ := connSocket_false hsock
      exact .inl (hnext (by decide) htrace)
    · obtain ⟨hdone, rfl⟩ := connSocket_true hsock
      have htrace : Dialed n.trace (n.trace ++ [.socket (freshFd n.trace a.fd)]) :=
        (Dialed.refl _).snoc trivial
      obtain ⟨afd, asocket, aconnect⟩ := a
      obtain rfl : asocket = .done := hdone
      cases aconnect with
      | failed => exact .inl (hnext (by decide) (htrace.snoc trivial))
      | inProgress e => exact .inl ⟨_, rfl, .dial (.refl _) rfl⟩
      | done =>
        by_cases hrc : rc = 0
        · refine .inr ⟨hrc, afd, rest, rfl, ?_⟩
          simp [hrc, Net.emit]
        · simp only [if_neg hrc]
          exact .inl (hnext hrc (htrace.snoc trivial))

/-- The connection of `conn_dial` is established, as far as the program can tell. -/
def Net.dialed (n : Net) (soError : ℤ) : Net :=
  connEstablished ⟨{ n.conn with io := nceIoStop n.conn.io },
    n.trace ++ if soError = 0 then [.connected n.conn.fd] else []⟩

theorem Net.dialed_trace (n : Net) (soError : ℤ) : Dialed n.trace (n.dialed soError).trace := by
  simp only [Net.dialed, connEstablished]
  split
  · exact (Dialed.refl _).snoc trivial
  · simpa using Dialed.refl n.trace

/-- Only a `SO_ERROR` of 0 makes the socket a connected one. -/
theorem Net.sockState_dialed (n : Net) (soError : ℤ) :
    sockState n.conn.fd (n.dialed soError).trace =
      if soError = 0 then .connected else sockState n.conn.fd n.trace := by
  simp only [Net.dialed, connEstablished]
  split <;> simp [sockStep]

/-- After `conn_dial`, `conn_connect` is suspended again unless no endpoint failed before and
`SO_ERROR` is not negative. -/
theorem connDialResume_cases {n : Net} {a : AddrInfo} {rest : List AddrInfo} {soError : ℤ} (rc : ℤ)
    (hai : n.conn.ai = a :: rest) (ha : a.connect = .inProgress soError) :
    ((rc = 0 → soError < 0) ∧ ∃ n', connDialResume rc n = (false, n') ∧ Suspended n n') ∨
    (rc = 0 ∧ 0 ≤ soError ∧ connDialResume rc n = (true, n.dialed soError)) := by
  -- the loop cannot succeed any more once `rc` is not 0
  have hnext : ∀ {rc' : ℤ} {fd : ℤ} {trace : List Call}, rc' ≠ 0 → Dialed n.trace trace →
      ∃ n', connConnectLoop rest rc'
          ⟨{ n.conn with fd, io := nceIoStop n.conn.io }, trace⟩ = (false, n') ∧
        Suspended n n' := by
    intro rc' fd trace hrc' htrace
    rcases connConnectLoop_cases rest rc' ⟨{ n.conn with fd, io := nceIoStop n.conn.io }, trace⟩
      with ⟨n', hn', hsus⟩ | ⟨h, -⟩
    · exact ⟨n', hn', hsus.after htrace⟩
    · exact absurd h hrc'
  have htrace : ∀ c : Call, c.IsDial → Dialed n.trace (n.trace ++ [c]) :=
    fun c hc => (Dialed.refl _).snoc hc
  obtain ⟨⟨state, ai, inb, outb, fd, io, point, timer, timerPoint, msg, storage, again⟩, trace⟩ := n
  obtain ⟨afd, asocket, aconnect⟩ := a
  obtain rfl : aconnect = .inProgress soError := ha
  obtain rfl : ai = ⟨afd, asocket, .inProgress soError⟩ :: rest := hai
  simp only [connDialResume]
  by_cases hneg : soError < 0
  · rw [if_pos hneg]
    exact .inl ⟨fun _ => hneg, hnext (by decide) (htrace (.close fd) trivial)⟩
  · rw [if_neg hneg]
    by_cases hrc : rc = 0
    · refine .inr ⟨hrc, by omega, ?_⟩
      rw [if_pos hrc, Net.dialed]
      split <;> simp [Net.emit]
    · rw [if_neg hrc]
      refine .inl ⟨fun h => absurd h hrc, ?_⟩
      split
      · exact hnext hrc (htrace (.connected fd) trivial)
      · exact hnext hrc (.refl _)

/-! ## Sending the first lines -/

/-- `Pushes n lines n'`: from `n` to `n'` the lines are accepted by `irc__conn_push`. -/
inductive Pushes : Net → List CStr → Net → Prop
  | nil (n : Net) : Pushes n [] n
  | cons {n n' : Net} {line : CStr} {lines : List CStr} (h : n.conn.outb.Fits line)
      (hrest : Pushes ⟨{ n.conn with
        outb := n.conn.outb.append line h
        io := nceIoReset n.conn.io n.conn.fd .evReadWrite }, n.trace ++ [.push line]⟩ lines n') :
      Pushes n (line :: lines) n'

theorem Pushes.frame {n n' : Net} {lines : List CStr} (h : Pushes n lines n') :
    n'.conn = { n.conn with outb := n'.conn.outb, io := n'.conn.io } := by
  induction h with
  | nil => rfl
  | cons _ _ ih => rw [ih]

theorem Pushes.trace_eq {n n' : Net} {lines : List CStr} (h : Pushes n lines n') :
    n'.trace = n.trace ++ lines.map .push := by
  induction h with
  | nil => simp
  | cons _ _ ih => rw [ih, List.append_assoc]; rfl

/-- What the lines are in the output buffer. -/
def wire (lines : List CStr) : List UInt8 := lines.flatMap (· ++ crlf)

theorem Pushes.contents_eq {n n' : Net} {lines : List CStr} (h : Pushes n lines n') :
    n'.conn.outb.contents = n.conn.outb.contents ++ wire lines := by
  induction h with
  | nil => simp [wire]
  | cons _ _ ih => rw [ih]; simp [wire]

/-- The last of the pushes leaves both events watched. -/
theorem Pushes.io_eq {n n' : Net} {lines : List CStr} (h : Pushes n lines n') (hne : lines ≠ []) :
    n'.conn.io = nceIoReset n.conn.io n.conn.fd .evReadWrite := by
  induction h with
  | nil => exact absurd rfl hne
  | @cons n n' line lines hfits hrest ih =>
    cases hrest with
    | nil => rfl
    | cons hfits' hrest' => exact (ih (by simp)).trans (nceIoReset_nceIoReset _ _ _ _)

theorem Pushes.eq_of_nil {n n' : Net} (h : Pushes n [] n') : n' = n := by
  cases h; rfl

/-- `irc_server_send` on a connection that is ready. -/
theorem connSendLine_cases {n : Net} (hready : ircConnReady n.conn = true) (text : CStr) :
    (∃ h : n.conn.outb.Fits (text.take (messageLen - 1)),
      (connSendLine true n text).2 = ⟨{ n.conn with
        outb := n.conn.outb.append (text.take (messageLen - 1)) h
        io := nceIoReset n.conn.io n.conn.fd .evReadWrite },
        n.trace ++ [.push (text.take (messageLen - 1))]⟩) ∨
    (¬ n.conn.outb.Fits (text.take (messageLen - 1)) ∧ (connSendLine true n text).2 = n) := by
  rw [connSendLine, hready, Bool.and_self, if_pos rfl, ircConnPush]
  by_cases h : n.conn.outb.Fits (text.take (messageLen - 1))
  · rw [dif_pos h]
    exact .inl ⟨h, rfl⟩
  · rw [dif_neg h]
    exact .inr ⟨h, rfl⟩

/-- The lines of `conn_ident` that there is room for are pushed, in order. -/
theorem connIdentSend_cases (lines : List CStr) {n : Net} (hready : ircConnReady n.conn = true) :
    ∃ sent, Pushes n sent (connIdentSend true lines n) ∧
      (sent = [] ↔ ∀ line ∈ lines, ¬ n.conn.outb.Fits (line.take (messageLen - 1))) ∧
      ∀ line, lines.head? = some line → n.conn.outb.Fits (line.take (messageLen - 1)) →
        sent.head? = some (line.take (messageLen - 1)) := by
  induction lines generalizing n with
  | nil => exact ⟨[], .nil n, by simp, by simp⟩
  | cons line lines ih =>
    rw [connIdentSend, List.foldl_cons, ← connIdentSend]
    rcases connSendLine_cases hready line with ⟨hfits, heq⟩ | ⟨hfits, heq⟩
    · -- the line is the first of those pushed, whatever happens to the others
      rw [heq]
      obtain ⟨sent, hsent, -, -⟩ := ih (n := ⟨{ n.conn with
        outb := n.conn.outb.append (line.take (messageLen - 1)) hfits
        io := nceIoReset n.conn.io n.conn.fd .evReadWrite },
        n.trace ++ [.push (line.take (messageLen - 1))]⟩) hready
      refine ⟨_ :: sent, .cons hfits hsent, ?_, ?_⟩
      · exact iff_of_false (by simp) fun h => h line (by simp) hfits
      · rintro _ ⟨⟩ _
        rfl
    · -- a line that does not fit changes nothing, so a shorter one may still fit after it
      rw [heq]
      obtain ⟨sent, hsent, hnil, -⟩ := ih hready
      refine ⟨sent, hsent, ?_, ?_⟩
      · rw [hnil, List.forall_mem_cons]
        exact (and_iff_right hfits).symm
      · rintro _ ⟨⟩ h
        exact absurd h hfits

/-- Before `server->coroutine` is set the lines of `conn_ident` are refused. -/
theorem connIdentSend_false (lines : List CStr) (n : Net) : connIdentSend false lines n = n := by
  induction lines with
  | nil => rfl
  | cons line lines ih => rwa [connIdentSend, List.foldl_cons, ← connIdentSend]

/-- `conn_ident` ends when everything is sent. -/
theorem connIdentLoop_cases (n : Net) :
    (n.conn.outb.outsz = 0 ∧ ∃ timer, connIdentLoop n =
      ⟨{ n.conn with state := .ready, timer, ioCoro := some .ready }, n.trace⟩) ∨
    (0 < n.conn.outb.outsz ∧
      connIdentLoop n = ⟨{ n.conn with ioCoro := some .ident }, n.trace⟩) := by
  unfold connIdentLoop
  by_cases h : n.conn.outb.outsz = 0
  · rw [if_pos h]
    exact .inl ⟨h, _, rfl⟩
  · rw [if_neg h]
    exact .inr ⟨by omega, rfl⟩

/-- What changes in `conn_ident` until it is suspended, in its own loop or in that of `conn_ready`.
Its lines are pushed as far as there is room for them, if `server->coroutine` is set. -/
inductive Identified (linked : Bool) (lines : List CStr) (n : Net) : Net → Prop
  | mk {sent : List CStr} {outb : OutBuf} {timer : NceTimer} {state : ConnState} {point : IoPoint}
      (hout : outb.contents = n.conn.outb.contents ++ wire sent)
      (hpoint : (state = .ready ∧ point = .ready ∧ outb.outsz = 0) ∨
        (state = .ident ∧ point = .ident ∧ 0 < outb.outsz))
      (hunlinked : linked = false → sent = [])
      (hnil : linked = true → (sent = [] ↔
        ∀ line ∈ lines, ¬ n.conn.outb.Fits (line.take (messageLen - 1))))
      (hhead : linked = true → ∀ line, lines.head? = some line →
        n.conn.outb.Fits (line.take (messageLen - 1)) →
        sent.head? = some (line.take (messageLen - 1))) :
      Identified linked lines n ⟨{ n.conn with
        state
        outb
        io := if sent = [] then n.conn.io else nceIoReset n.conn.io n.conn.fd .evReadWrite
        timer
        ioCoro := some point }, n.trace ++ sent.map .push⟩

theorem Identified.ioCoro_ne_none {linked : Bool} {lines : List CStr} {n n' : Net}
    (h : Identified linked lines n n') : n'.conn.ioCoro ≠ none := by
  cases h
  simp

theorem Identified.isPrefix {linked : Bool} {lines : List CStr} {n n' : Net}
    (h : Identified linked lines n n') : n.trace <+: n'.trace := by
  cases h
  exact List.prefix_append _ _

theorem connIdent_identified (linked : Bool) (lines : List CStr) {n : Net}
    (hstate : n.conn.state = .ident) : Identified linked lines n (connIdent linked lines n) := by
  -- what `conn_ident` pushes
  obtain ⟨sent, m, hpush, heq, hunlinked, hnil, hhead⟩ :
      ∃ sent m, Pushes (connTimerAgain n) sent m ∧ connIdent linked lines n = connIdentLoop m ∧
        (linked = false → sent = []) ∧
        (linked = true → (sent = [] ↔
          ∀ line ∈ lines, ¬ n.conn.outb.Fits (line.take (messageLen - 1)))) ∧
        (linked = true → ∀ line, lines.head? = some line →
          n.conn.outb.Fits (line.take (messageLen - 1)) →
          sent.head? = some (line.take (messageLen - 1))) := by
    cases linked with
    | false =>
      refine ⟨[], _, .nil _, ?_, by simp, by simp, by simp⟩
      rw [connIdent, connIdentSend_false]
    | true =>
      have hready : ircConnReady (connTimerAgain n).conn = true := by
        simp [ircConnReady, connTimerAgain, hstate]
      obtain ⟨sent, hsent, hnil, hhead⟩ := connIdentSend_cases lines hready
      exact ⟨sent, _, hsent, rfl, by simp, fun _ => hnil, fun _ => hhead⟩
  have hio : m.conn.io =
      if sent = [] then n.conn.io else nceIoReset n.conn.io n.conn.fd .evReadWrite := by
    by_cases hsent : sent = []
    · subst hsent
      rw [hpush.eq_of_nil, if_pos rfl]
      rfl
    · rw [hpush.io_eq hsent, if_neg hsent]
      rfl
  -- nothing else has changed before the loop of `conn_ident`
  have hm : m = ⟨{ n.conn with
      timer := nceTimerAgain n.conn.timer
      outb := m.conn.outb
      io := if sent = [] then n.conn.io else nceIoReset n.conn.io n.conn.fd .evReadWrite },
      n.trace ++ sent.map .push⟩ := by
    have hframe := hpush.frame
    rw [hio] at hframe
    have htrace := hpush.trace_eq
    cases m
    simp only [Net.mk.injEq]
    exact ⟨hframe, htrace⟩
  rw [heq]
  rcases connIdentLoop_cases m with ⟨hempty, timer, hloop⟩ | ⟨hleft, hloop⟩
  · rw [hloop, hm]
    exact .mk hpush.contents_eq (.inl ⟨rfl, rfl, hempty⟩) hunlinked hnil hhead
  · rw [hloop, hm]
    have hres : Identified linked lines n ⟨{ n.conn with
        state := .ident
        outb := m.conn.outb
        io := if sent = [] then n.conn.io else nceIoReset n.conn.io n.conn.fd .evReadWrite
        timer := nceTimerAgain n.conn.timer
        ioCoro := some .ident }, n.trace ++ sent.map .push⟩ :=
      .mk hpush.contents_eq (.inr ⟨rfl, rfl, hleft⟩) hunlinked hnil hhead
    simpa [hstate] using hres

/-! ## Waiting -/

def recvCall (fd : ℤ) (data : List UInt8) : List Call := if data = [] then [] else [.recv fd data]

def sendCall (fd : ℤ) (data : List UInt8) : List Call := if data = [] then [] else [.send fd data]

theorem not_isDial_recvCall {fd : ℤ} {data : List UInt8} :
    ∀ c ∈ recvCall fd data, ¬ c.IsDial := by
  unfold recvCall
  split <;> simp [Call.IsDial]

theorem not_isDial_sendCall {fd : ℤ} {data : List UInt8} :
    ∀ c ∈ sendCall fd data, ¬ c.IsDial := by
  unfold sendCall
  split <;> simp [Call.IsDial]

/-- `conn_recv` stores the data that `recv (2)` gives after what the buffer holds. -/
theorem connRecv_cases (n : Net) (r : RecvResult) (events : Events) :
    (connRecv n r events).1 = (connTcpRecv n.conn.inb.limit r events).1 ∧
    (connRecv n r events).2.2 = (connTcpRecv n.conn.inb.limit r events).2 ∧
    ∃ inb data, inb.contents = n.conn.inb.contents ++ data ∧
      (connRecv n r events).2.1 =
        ⟨{ n.conn with inb }, n.trace ++ recvCall n.conn.fd data⟩ := by
  have hsame : ∃ inb data, inb.contents = n.conn.inb.contents ++ data ∧
      n = ⟨{ n.conn with inb }, n.trace ++ recvCall n.conn.fd data⟩ :=
    ⟨n.conn.inb, [], by simp [recvCall]⟩
  cases r with
  | again => exact ⟨rfl, rfl, hsame⟩
  | failed => exact ⟨rfl, rfl, hsame⟩
  | data bytes =>
    by_cases hnil : bytes.take n.conn.inb.limit = []
    · -- the remote closed the connection, or the buffer is full
      simp only [connRecv, connTcpRecv, hnil]
      exact ⟨rfl, rfl, hsame⟩
    · have hlen : (bytes.take n.conn.inb.limit).length ≠ 0 := by
        rwa [ne_eq, List.length_eq_zero_iff]
      have hpos : (0 : ℤ) < (bytes.take n.conn.inb.limit).length := by omega
      simp only [connRecv, connTcpRecv, if_neg hlen, if_pos hpos]
      refine ⟨trivial, trivial, n.conn.inb.store bytes, bytes.take n.conn.inb.limit, ?_, ?_⟩
      · exact InBuf.contents_store _ _
      · rw [recvCall, if_neg hnil]
        rfl

/-- `conn_tcp_send` asks to be woken up again when it did not send everything. -/
theorem connTcpSend_write {bufsz : ℕ} {rs : List SendResult} {events events' : Events} {ns : ℤ}
    (h : connTcpSend bufsz rs events = some (ns, events')) (hns : 0 ≤ ns)
    (hlt : ns.toNat < bufsz) : events'.write = true := by
  rw [connTcpSend, Option.map_eq_some_iff] at h
  obtain ⟨answer, -, h⟩ := h
  cases answer with
  | sent k =>
    rw [Prod.mk.injEq] at h
    obtain ⟨rfl, rfl⟩ := h
    rw [Int.toNat_natCast] at hlt
    rw [if_pos hlt]
    rfl
  | failed errno =>
    by_cases hagain : errno = .ewouldblock ∨ errno = .eagain
    · -- nothing was sent, and `EV_WRITE` is added
      simp only [if_pos hagain, Prod.mk.injEq] at h
      rw [← h.2]
      rfl
    · simp only [if_neg hagain, Prod.mk.injEq] at h
      omega

/-- `conn_send` removes from the output buffer what the transport accepts, and asks to be woken up
again when something is left. -/
theorem connSend_cases {n n' : Net} {rs : List SendResult} {rc : ℤ} {events events' : Events}
    (h : connSend n rs events = some (rc, n', events')) :
    ∃ outb sent, n' = ⟨{ n.conn with outb }, n.trace ++ sendCall n.conn.fd sent⟩ ∧
      sent ++ outb.contents = n.conn.outb.contents ∧
      (0 ≤ rc → 0 < outb.outsz → events'.write = true) := by
  unfold connSend at h
  by_cases hempty : n.conn.outb.outsz = 0
  · rw [if_pos hempty, Option.some.injEq, Prod.mk.injEq, Prod.mk.injEq] at h
    obtain ⟨-, rfl, -⟩ := h
    exact ⟨n.conn.outb, [], by simp [sendCall], rfl, fun _ hpos => absurd hempty (by omega)⟩
  · rw [if_neg hempty, Option.map_eq_some_iff] at h
    obtain ⟨⟨ns, ev⟩, htcp, h⟩ := h
    have hlen := n.conn.outb.length_contents
    by_cases hpos : 0 < ns
    · simp only [if_pos hpos, Prod.mk.injEq] at h
      obtain ⟨rfl, rfl, rfl⟩ := h
      have hsent : n.conn.outb.contents.take ns.toNat ≠ [] := by
        rw [ne_eq, ← List.length_eq_zero_iff, List.length_take]
        omega
      refine ⟨n.conn.outb.drain ns.toNat, n.conn.outb.contents.take ns.toNat, ?_, ?_, ?_⟩
      · rw [sendCall, if_neg hsent]
        rfl
      · rw [OutBuf.contents_drain, List.take_append_drop]
      · intro _ hleft
        rw [← OutBuf.length_contents, OutBuf.contents_drain, List.length_drop] at hleft
        exact connTcpSend_write htcp (by omega) (by omega)
    · -- `send (2)` answered 0 or failed: the buffer is as it was
      simp only [if_neg hpos, Prod.mk.injEq] at h
      obtain ⟨rfl, rfl, rfl⟩ := h
      refine ⟨n.conn.outb, [], by simp [sendCall], rfl, fun hns _ => ?_⟩
      exact connTcpSend_write htcp hns (by omega)

/-- The answer of `recv (2)` makes `conn_recv` fail. -/
def RecvFails (n : Net) (r : RecvResult) : Prop := (connTcpRecv n.conn.inb.limit r .evRead).1 < 0

instance (n : Net) (r : RecvResult) : Decidable (RecvFails n r) :=
  inferInstanceAs (Decidable (_ < _))

/-- What changes in `conn_wait`: the buffers and the events that are watched. It fails or returns
0. Without a write event it watches for reading only, with one it goes on watching for writing as
long as there is something to send. -/
inductive Waited (n : Net) (r : RecvResult) : ℤ → Net → Prop
  | mk {rc : ℤ} {inb : InBuf} {outb : OutBuf} {io : NceIo} {data sent : List UInt8}
      (hin : inb.contents = n.conn.inb.contents ++ data)
      (hout : sent ++ outb.contents = n.conn.outb.contents)
      (hrc : rc ≤ 0)
      (hactive : n.conn.io.active = true → io.active = true)
      (hread : n.conn.io.revents.write = false → n.conn.io.revents.read = true →
        (rc < 0 ↔ RecvFails n r))
      (hwrite : rc = 0 → n.conn.io.revents.write = true → 0 < outb.outsz →
        io.events.write = true)
      (hmask : rc = 0 → n.conn.io.revents.write = false →
        sent = [] ∧ io.events.write = false) :
      Waited n r rc ⟨{ n.conn with inb, outb, io },
        n.trace ++ recvCall n.conn.fd data ++ sendCall n.conn.fd sent⟩

theorem Waited.frame {n n' : Net} {r : RecvResult} {rc : ℤ} (h : Waited n r rc n') :
    n'.conn = { n.conn with inb := n'.conn.inb, outb := n'.conn.outb, io := n'.conn.io } := by
  cases h with
  | mk => rfl

theorem Waited.sockState_eq {n n' : Net} {r : RecvResult} {rc : ℤ} (h : Waited n r rc n')
    (fd : ℤ) : sockState fd n'.trace = sockState fd n.trace := by
  cases h with
  | mk =>
    rw [sockState_append_of_not_dial not_isDial_sendCall,
      sockState_append_of_not_dial not_isDial_recvCall]

theorem Waited.nonpos {n n' : Net} {r : RecvResult} {rc : ℤ} (h : Waited n r rc n') : rc ≤ 0 := by
  cases h with
  | mk _ _ hrc => exact hrc

/-- `conn_recv` called for reading only watches for reading only. -/
theorem connTcpRecv_events (limit : ℕ) (r : RecvResult) :
    (connTcpRecv limit r .evRead).2 = .evRead := by
  cases r <;> rfl

theorem connWatch_eq (n : Net) (events : Events) :
    ∃ io, connWatch n events = ⟨{ n.conn with io }, n.trace⟩ ∧ io.events = events ∧
      (n.conn.io.active = true → io.active = true) := by
  unfold connWatch
  by_cases h : events = n.conn.io.events
  · rw [if_pos h]
    exact ⟨n.conn.io, rfl, h.symm, id⟩
  · rw [if_neg h]
    exact ⟨_, rfl, rfl, fun _ => rfl⟩

/-- The first half of `conn_wait`: `conn_recv`, on a read event. -/
theorem connWait_recv (n : Net) (r : RecvResult) :
    ∃ rc inb data, inb.contents = n.conn.inb.contents ++ data ∧
      (n.conn.io.revents.read = true → (rc < 0 ↔ RecvFails n r)) ∧
      (if n.conn.io.revents.read then
          connRecv { n with conn := { n.conn with io := nceIoTake n.conn.io } } r .evRead
        else (0, { n with conn := { n.conn with io := nceIoTake n.conn.io } }, .evRead)) =
      (rc, ⟨{ n.conn with inb, io := nceIoTake n.conn.io },
        n.trace ++ recvCall n.conn.fd data⟩, .evRead) := by
  cases n.conn.io.revents.read with
  | false => exact ⟨0, n.conn.inb, [], by simp, by simp, by simp [recvCall]⟩
  | true =>
    obtain ⟨hrc, hev, inb, data, hin, hnet⟩ :=
      connRecv_cases { n with conn := { n.conn with io := nceIoTake n.conn.io } } r .evRead
    refine ⟨_, inb, data, hin, fun _ => Iff.rfl, ?_⟩
    rw [if_pos rfl]
    -- `conn_recv` never asks for more than `EV_READ` here
    exact Prod.ext hrc (Prod.ext hnet (hev.trans (connTcpRecv_events _ _)))

/-- The second half of `conn_wait`: `conn_send`, on a write event. -/
theorem connWait_send {m n' : Net} {rs : List SendResult} {rc : ℤ} {write : Bool} {ev : Events}
    (h : (if write then connSend m rs .evRead else some (0, m, .evRead)) = some (rc, n', ev)) :
    ∃ outb sent, n' = ⟨{ m.conn with outb }, m.trace ++ sendCall m.conn.fd sent⟩ ∧
      sent ++ outb.contents = m.conn.outb.contents ∧
      (write = true → 0 ≤ rc → 0 < outb.outsz → ev.write = true) ∧
      (write = false → rc = 0 ∧ sent = [] ∧ ev.write = false) := by
  cases write with
  | false =>
    rw [if_neg (by simp), Option.some.injEq, Prod.mk.injEq, Prod.mk.injEq] at h
    obtain ⟨rfl, rfl, rfl⟩ := h
    exact ⟨m.conn.outb, [], by simp [sendCall], by simp, by simp, by simp [Events.evRead]⟩
  | true =>
    rw [if_pos rfl] at h
    obtain ⟨outb, sent, hm, hout, hev⟩ := connSend_cases h
    exact ⟨outb, sent, hm, hout, fun _ => hev, by simp⟩

theorem connWait_cases {n n' : Net} {r : RecvResult} {rs : List SendResult} {rc : ℤ}
    (h : connWait n r rs = some (rc, n')) : Waited n r rc n' := by
  obtain ⟨rc₁, inb, data, hin, hfails, hrecv⟩ := connWait_recv n r
  simp only [connWait, hrecv] at h
  by_cases hneg : rc₁ < 0
  · -- `recv (2)` failed: nothing is sent
    rw [if_pos hneg, Option.some.injEq, Prod.mk.injEq] at h
    obtain ⟨rfl, rfl⟩ := h
    have hres : Waited n r rc₁ ⟨{ n.conn with inb, io := nceIoTake n.conn.io },
        n.trace ++ recvCall n.conn.fd data ++ sendCall n.conn.fd []⟩ :=
      .mk hin (List.nil_append _) (by omega) id (fun _ hread => hfails hread)
        (fun h => absurd h (by omega)) (fun h => absurd h (by omega))
    simpa [sendCall] using hres
  · rw [if_neg hneg, Option.map_eq_some_iff] at h
    obtain ⟨⟨rc₂, n₂, ev⟩, hsend, h⟩ := h
    obtain ⟨outb, sent, rfl, hout, hwrite, hmask⟩ := connWait_send hsend
    by_cases hneg₂ : rc₂ < 0
    · -- `send (2)` failed, which it can do on a write event only
      simp only [if_pos hneg₂, Prod.mk.injEq] at h
      obtain ⟨rfl, rfl⟩ := h
      refine .mk hin hout (by omega) id (fun hw => ?_) (fun h => absurd h (by omega))
        (fun h => absurd h (by omega))
      have := (hmask hw).1
      omega
    · -- the watcher is set to what `conn_send` asks for
      simp only [if_neg hneg₂, Prod.mk.injEq] at h
      obtain ⟨rfl, rfl⟩ := h
      obtain ⟨io, heq, hio, hactive⟩ := connWatch_eq
        ⟨{ n.conn with inb, outb, io := nceIoTake n.conn.io },
          n.trace ++ recvCall n.conn.fd data ++ sendCall n.conn.fd sent⟩ ev
      rw [heq]
      refine .mk hin hout (Int.le_refl 0) hactive (fun _ hread => ?_) (fun _ hw hleft => ?_)
        (fun _ hw => ?_)
      · exact iff_of_false (by omega) fun hf => hneg ((hfails hread).2 hf)
      · rw [hio]
        exact hwrite hw (by omega) hleft
      · rw [hio]
        exact (hmask hw).2

/-! ## Destroying -/

def closeCall (fd : ℤ) : List Call := if fd = -1 then [] else [.close fd]

theorem dialed_closeCall (trace : List Call) (fd : ℤ) :
    Dialed trace (trace ++ closeCall fd) := by
  unfold closeCall
  split
  · simpa using Dialed.refl trace
  · exact (Dialed.refl _).snoc trivial

/-- `conn_io_finalizer` closes the socket, if there is one. -/
theorem connIoDestroy_eq {n : Net} (h : n.conn.ioCoro ≠ none) :
    connIoDestroy n = ⟨{ n.conn with ai := [], ioCoro := none, fd := -1 },
      n.trace ++ closeCall n.conn.fd⟩ := by
  obtain ⟨⟨state, ai, inb, outb, fd, io, point, timer, timerPoint, msg, storage, again⟩, trace⟩ := n
  rw [connIoDestroy, if_neg h]
  by_cases hfd : fd = -1
  · subst hfd
    simp [closeCall]
  · simp [closeCall, hfd, connClose, Net.emit]

end Irccd
