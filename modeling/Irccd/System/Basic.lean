import Irccd.Conn.Steps
import Irccd.Foundations.Runs
import Irccd.Server.Effects

/-!
# Runs of the program

A run interleaves the coroutines of the connection, the consumer coroutine of the server, the event
loop, and calls of the API by plugins, hooks and the control socket.

* `Act`, `perform`: what may happen, and what it does;
* `step`: the steps of a run, after which the process is still there. A run is a list of acts, from
  `Sys.start`;
* `Sys.Holds P Q`: `P` holds of the connection, or `Q` of the calls made when there is none;
* `Kept`: what has to be proved of `P` and `Q` in order that they hold in a whole run, and `KeptIf`
  where that also depends on when the connection is destroyed.
-/

namespace Irccd

/-- A step of a run, with what the outside world answers. -/
inductive Act
  /-- A step of the connection. -/
  | conn (a : ConnAct)
  | resumeConsumer
  | serverConnect (ais : Option (List AddrInfo)) (uninit : ConnMsg)
  | serverDisconnect
  | serverReconnect (ais : Option (List AddrInfo)) (uninit : ConnMsg)
  | botServerAdd (ais : Option (List AddrInfo)) (uninit : ConnMsg)
  | botServerRemove
  | join (name : CStr) (pass : Option CStr)
  /-- Any other function that sends a line. -/
  | send (text : CStr)
  | setNickname (nickname : CStr)
  | set (v : Setter)
  /-- The time passes. -/
  | tick (clock : CStr)
  deriving DecidableEq

/-- The first word of a text, with the blanks before it: what `strtok_r (text, " ", &p)` leaves. -/
def firstToken (text : CStr) : CStr :=
  text.takeWhile (· == SP) ++ (text.dropWhile (· == SP)).takeWhile (· != SP)

/-- The strings of a message after a round of the loop of `irc_server_handle_whoisuser`, which does
not free them: `irc_server_handle_whoischannels` has cut the channels of a 319. -/
def pulledMsg (msg : ConnMsg) : ConnMsg :=
  if msg.cmd = cstr "319" then { msg with args := msg.args.modify 2 firstToken } else msg

/-- Resume the consumer coroutine, which waits for a message. Outside of a whois it frees the
strings of a message once it is handled, so that a message that is pushed again has none. -/
def resumeConsumer (s : Sys) : Option Sys :=
  match s.server.coroutine with
  | none => none
  | some co =>
    match co.conn.storage with
    | none => some s
    | some msg =>
      if co.conn.again && co.consumer.isNone then none
      else
        -- `irc__conn_pull` empties the storage, so the producer may go on
        let conn := { co.conn with storage := none, msg := pulledMsg co.conn.msg }
        match consume (s.setNet co ⟨conn, s.trace⟩) co.consumer msg with
        | .ok (s, consumer) => some (s.setConsumer consumer)
        | .error _ => none

/-- What an act does. It is `none` when the act is not possible, and when the source has no defined
result. -/
def perform (s : Sys) : Act → Option Sys
  | .conn a =>
    match s.server.coroutine with
    | none => none
    | some co => (connStep (identLines s.server) ⟨co.conn, s.trace⟩ a).map (s.setNet co)
  | .resumeConsumer => resumeConsumer s
  | .serverConnect ais uninit => some (ircServerConnect s ais uninit)
  | .serverDisconnect => some (ircServerDisconnect s)
  | .serverReconnect ais uninit => some (ircServerReconnect s ais uninit)
  | .botServerAdd ais uninit => some (ircBotServerAdd s ais uninit)
  | .botServerRemove => some (ircBotServerRemove s)
  | .join name pass => some (ircServerJoin s name pass).2
  | .send text => some (ircServerSend s text).2
  | .setNickname nickname => some (ircServerSetNickname s nickname)
  | .set v => (ircServerSet s.server v).map fun server => { s with server }
  | .tick clock => some { s with clock }

/-- A step of a run. The process ends when an assertion of `libev` fails. -/
def step (s : Sys) (a : Act) : Option Sys := (perform s a).filter fun s' => !s'.aborted

theorem step_eq_some_iff {s s' : Sys} {a : Act} :
    step s a = some s' ↔ perform s a = some s' ∧ s'.aborted = false := by
  simp [step, Option.filter_eq_some_iff]

/-- A step of the connection. -/
theorem exists_of_step_conn {s s' : Sys} {c : ConnAct} (h : step s (.conn c) = some s') :
    ∃ co n, s.server.coroutine = some co ∧
      connStep (identLines s.server) ⟨co.conn, s.trace⟩ c = some n ∧ s' = s.setNet co n := by
  replace h := (step_eq_some_iff.1 h).1
  unfold perform at h
  cases hco : s.server.coroutine with
  | none => simp [hco] at h
  | some co =>
    simp only [hco, Option.map_eq_some_iff] at h
    obtain ⟨n, hn, rfl⟩ := h
    exact ⟨co, n, rfl, hn, rfl⟩

/-- The consumer has nothing to pull, or takes the message that the producer pushed. -/
theorem resumeConsumer_cases {s s' : Sys} (h : resumeConsumer s = some s') :
    s' = s ∨ ∃ co msg t k, s.server.coroutine = some co ∧ co.conn.storage = some msg ∧
      consume (s.setNet co ⟨{ co.conn with storage := none, msg := pulledMsg co.conn.msg },
        s.trace⟩) co.consumer msg = .ok (t, k) ∧
      s' = t.setConsumer k := by
  unfold resumeConsumer at h
  cases hco : s.server.coroutine with
  | none => simp [hco] at h
  | some co =>
    cases hstorage : co.conn.storage with
    | none =>
      simp only [hco, hstorage, Option.some.injEq] at h
      exact .inl h.symm
    | some msg =>
      simp only [hco, hstorage] at h
      split at h
      · cases h
      · split at h
        · rename_i t k hconsume
          exact .inr ⟨co, msg, t, k, rfl, hstorage, hconsume, (Option.some.inj h).symm⟩
        · cases h

/-- `irc_server_connect` does nothing, or starts a connection. -/
theorem ircServerConnect_cases (s : Sys) (ais : Option (List AddrInfo)) (uninit : ConnMsg) :
    ircServerConnect s ais uninit = s ∨
      (s.server.coroutine = none ∧ s.server.flags.ssl = false ∧
        ∃ n co, n = ircConnSpawn (identLines s.server) ais uninit s.stale s.trace ∧
          ircServerConnect s ais uninit = s.setNet co n) := by
  unfold ircServerConnect
  by_cases hrefuse : s.server.coroutine.isSome ∨ s.server.flags.ssl
  · rw [if_pos hrefuse]
    exact .inl rfl
  · rw [if_neg hrefuse]
    rw [not_or, Bool.not_eq_true, Bool.not_eq_true, Option.isSome_eq_false_iff,
      Option.isNone_iff_eq_none] at hrefuse
    exact .inr ⟨hrefuse.1, hrefuse.2, _, _, rfl, rfl⟩

/-! ## Properties of the connection -/

/-- `P` holds of the connection. Without a connection `Q` holds of the calls made so far. -/
def Sys.Holds (P : Net → Prop) (Q : List Call → Prop) (s : Sys) : Prop :=
  match s.server.coroutine with
  | some co => P ⟨co.conn, s.trace⟩
  | none => Q s.trace

section Holds

variable {P : Net → Prop} {Q : List Call → Prop} {s : Sys}

theorem Sys.holds_iff_of_some {co : IrcServerCoro} (hco : s.server.coroutine = some co) :
    s.Holds P Q ↔ P ⟨co.conn, s.trace⟩ := by
  rw [Sys.Holds, hco]

theorem Sys.holds_iff_of_none (hco : s.server.coroutine = none) : s.Holds P Q ↔ Q s.trace := by
  rw [Sys.Holds, hco]

theorem Sys.holds_iff_of_net {n : Net} (hn : s.net = some n) : s.Holds P Q ↔ P n := by
  obtain ⟨co, hco, rfl⟩ := Option.map_eq_some_iff.1 hn
  exact Sys.holds_iff_of_some hco

theorem Sys.Holds.mono {P' : Net → Prop} {Q' : List Call → Prop} (hs : s.Holds P Q)
    (hP : ∀ n, P n → P' n) (hQ : ∀ trace, Q trace → Q' trace) : s.Holds P' Q' := by
  unfold Sys.Holds at hs ⊢
  cases hco : s.server.coroutine with
  | none =>
    rw [hco] at hs
    exact hQ _ hs
  | some co =>
    rw [hco] at hs
    exact hP _ hs

@[simp] theorem Sys.holds_setNet {co : IrcServerCoro} {n : Net} :
    (s.setNet co n).Holds P Q ↔ P n := Iff.rfl

/-- Only the coroutines and the calls matter. -/
theorem Sys.Holds.congr {t : Sys} (hs : s.Holds P Q) (hco : t.server.coroutine = s.server.coroutine)
    (htrace : t.trace = s.trace) : t.Holds P Q := by
  unfold Sys.Holds at hs ⊢
  rwa [hco, htrace]

theorem Sys.holds_setConsumer {k : Option IrcEventWhois} :
    (s.setConsumer k).Holds P Q ↔ s.Holds P Q := by
  unfold Sys.Holds Sys.setConsumer
  cases s.server.coroutine <;> rfl

/-- What pushes and dispatched events keep, every `Talk` keeps. -/
theorem Talk.holds {E : IrcEvent → Prop} {t : Sys} (h : Talk E s t)
    (hpush : ∀ (n : Net) (line : CStr) (hfits : n.conn.outb.Fits line),
      ircConnReady n.conn = true → line.length < messageLen → P n →
      P ⟨{ n.conn with
        outb := n.conn.outb.append line hfits
        io := nceIoReset n.conn.io n.conn.fd .evReadWrite }, n.trace ++ [.push line]⟩)
    (hdispatch : ∀ (n : Net) (ev : IrcEvent), E ev → P n → P (n.emit (.dispatch ev)))
    (hidle : ∀ (trace : List Call) (ev : IrcEvent), E ev → Q trace → Q (trace ++ [.dispatch ev]))
    (hs : s.Holds P Q) : t.Holds P Q := by
  refine h.keeps (fun u text hu => ?_) (fun u ev hev hu => ?_) (fun u server hserver hu => ?_) hs
  · -- a line is pushed, or refused without any effect
    unfold ircServerSend
    cases hco : u.server.coroutine with
    | none => exact hu
    | some co =>
      rw [Sys.holds_iff_of_some hco] at hu
      have hlen : (text.take (messageLen - 1)).length < messageLen := by
        rw [List.length_take, messageLen]
        omega
      cases hready : ircConnReady co.conn with
      | false => simpa [connSendLine, hready] using hu
      | true =>
        have hready' : ircConnReady (⟨co.conn, u.trace⟩ : Net).conn = true := hready
        rcases connSendLine_cases hready' text with ⟨hfits, heq⟩ | ⟨-, heq⟩
        · rw [Sys.holds_setNet, heq]
          exact hpush _ _ hfits hready hlen hu
        · rw [Sys.holds_setNet, heq]
          exact hu
  · cases hco : u.server.coroutine with
    | none =>
      rw [Sys.holds_iff_of_none hco] at hu
      exact (Sys.holds_iff_of_none (s := Irccd.dispatch u ev) hco).2 (hidle _ ev hev hu)
    | some co =>
      rw [Sys.holds_iff_of_some hco] at hu
      exact (Sys.holds_iff_of_some (s := Irccd.dispatch u ev) hco).2 (hdispatch _ ev hev hu)
  · exact hu.congr hserver.coroutine rfl

end Holds

/-! ## Invariants of the connection -/

/-- The endpoints of the connection that the act starts, if it starts one. -/
def spawns (s : Sys) : Act → Option (Option (List AddrInfo))
  | .serverConnect ais _ =>
    if s.server.coroutine.isSome ∨ s.server.flags.ssl then none else some ais
  | .serverReconnect ais _ => if s.server.flags.ssl then none else some ais
  | .botServerAdd ais _ =>
    if s.listed ∨ s.server.coroutine.isSome ∨ s.server.flags.ssl then none else some ais
  | _ => none

/-- The steps of the connection satisfy `C`, and the endpoints of the connections that are started
satisfy `B`. -/
def StepCond (C : List CStr → Net → ConnAct → Prop) (B : Option (List AddrInfo) → Prop)
    (s : Sys) (a : Act) (_ : Sys) : Prop :=
  (∀ co c, s.server.coroutine = some co → a = .conn c →
    C (identLines s.server) ⟨co.conn, s.trace⟩ c) ∧
  ∀ ais, spawns s a = some ais → B ais

/-- The step of the connection, if the act is one. -/
def Act.connAct : Act → Option ConnAct
  | .conn c => some c
  | _ => none

instance {C : List CStr → Net → ConnAct → Prop} {B : Option (List AddrInfo) → Prop}
    [∀ lines n c, Decidable (C lines n c)] [DecidablePred B] (s : Sys) (a : Act) (s' : Sys) :
    Decidable (StepCond C B s a s') :=
  decidable_of_iff
    ((∀ co ∈ s.server.coroutine, ∀ c ∈ a.connAct, C (identLines s.server) ⟨co.conn, s.trace⟩ c) ∧
      ∀ ais ∈ spawns s a, B ais)
    (and_congr
      ⟨fun h co c hco ha => h co hco c (by rw [ha]; rfl), fun h co hco c hc => h co c hco (by
        cases a <;> simp_all [Act.connAct])⟩ Iff.rfl)

/-- The act destroys the connection, if there is one. -/
def destroys (s : Sys) : Act → Prop
  | .serverDisconnect => True
  | .serverReconnect _ _ => True
  | .botServerRemove => s.listed = true
  | _ => False

/-- What keeps `P` and `Q` in a run whose steps satisfy `StepCond C B`. -/
structure Kept (P : Net → Prop) (Q : List Call → Prop) (C : List CStr → Net → ConnAct → Prop)
    (B : Option (List AddrInfo) → Prop) : Prop where
  conn : ∀ lines n a n', P n → connStep lines n a = some n' → C lines n a → P n'
  push : ∀ (n : Net) (line : CStr) (hfits : n.conn.outb.Fits line),
    ircConnReady n.conn = true → line.length < messageLen → P n →
    P ⟨{ n.conn with
      outb := n.conn.outb.append line hfits
      io := nceIoReset n.conn.io n.conn.fd .evReadWrite }, n.trace ++ [.push line]⟩
  dispatch : ∀ (n : Net) (ev : IrcEvent), P n → P (n.emit (.dispatch ev))
  pull : ∀ (n : Net) (msg : ConnMsg), P n → P ⟨{ n.conn with storage := none, msg }, n.trace⟩
  spawn : ∀ lines ais uninit stale trace, Q trace → B ais →
    P (ircConnSpawn lines ais uninit stale trace)
  destroy : ∀ n, P n → Q (ircConnDestroy n)
  idle : ∀ (trace : List Call) (ev : IrcEvent), Q trace → Q (trace ++ [.dispatch ev])

/-- What keeps `P` and `Q` in a run whose steps satisfy `StepCond C B`, and which destroys the
connection only where it satisfies `D`. -/
structure KeptIf (P : Net → Prop) (Q : List Call → Prop) (C : List CStr → Net → ConnAct → Prop)
    (B : Option (List AddrInfo) → Prop) (D : Net → Prop) : Prop where
  conn : ∀ lines n a n', P n → connStep lines n a = some n' → C lines n a → P n'
  push : ∀ (n : Net) (line : CStr) (hfits : n.conn.outb.Fits line),
    ircConnReady n.conn = true → line.length < messageLen → P n →
    P ⟨{ n.conn with
      outb := n.conn.outb.append line hfits
      io := nceIoReset n.conn.io n.conn.fd .evReadWrite }, n.trace ++ [.push line]⟩
  dispatch : ∀ (n : Net) (ev : IrcEvent), P n → P (n.emit (.dispatch ev))
  pull : ∀ (n : Net) (msg : ConnMsg), P n → P ⟨{ n.conn with storage := none, msg }, n.trace⟩
  spawn : ∀ lines ais uninit stale trace, Q trace → B ais →
    P (ircConnSpawn lines ais uninit stale trace)
  destroy : ∀ n, P n → D n → Q (ircConnDestroy n)
  idle : ∀ (trace : List Call) (ev : IrcEvent), Q trace → Q (trace ++ [.dispatch ev])

namespace KeptIf

variable {P : Net → Prop} {Q : List Call → Prop} {C : List CStr → Net → ConnAct → Prop}
  {B : Option (List AddrInfo) → Prop} {D : Net → Prop} {s s' : Sys}

theorem talk (hk : KeptIf P Q C B D) {E : IrcEvent → Prop} (h : Talk E s s') (hs : s.Holds P Q) :
    s'.Holds P Q :=
  h.holds hk.push (fun n ev _ => hk.dispatch n ev) (fun trace ev _ => hk.idle trace ev) hs

theorem disconnect (hk : KeptIf P Q C B D)
    (hD : ∀ co, s.server.coroutine = some co → D ⟨co.conn, s.trace⟩) (hs : s.Holds P Q) :
    (ircServerDisconnect s).Holds P Q := by
  have hnone : (ircServerDisconnect s).server.coroutine = none := rfl
  rw [Sys.holds_iff_of_none hnone]
  unfold ircServerDisconnect
  cases hco : s.server.coroutine with
  | none => exact (Sys.holds_iff_of_none hco).1 hs
  | some co => exact hk.destroy _ ((Sys.holds_iff_of_some hco).1 hs) (hD co hco)

theorem connect (hk : KeptIf P Q C B D) {ais : Option (List AddrInfo)} (uninit : ConnMsg)
    (hB : s.server.coroutine = none → s.server.flags.ssl = false → B ais) (hs : s.Holds P Q) :
    (ircServerConnect s ais uninit).Holds P Q := by
  rcases ircServerConnect_cases s ais uninit with heq | ⟨hco, hssl, n, co, rfl, heq⟩
  · rwa [heq]
  · rw [heq, Sys.holds_setNet]
    exact hk.spawn _ _ _ _ _ ((Sys.holds_iff_of_none hco).1 hs) (hB hco hssl)

theorem consumer (hk : KeptIf P Q C B D) (h : resumeConsumer s = some s') (hs : s.Holds P Q) :
    s'.Holds P Q := by
  rcases resumeConsumer_cases h with rfl | ⟨co, msg, t, k, hco, -, hconsume, rfl⟩
  · exact hs
  · have hpull : (s.setNet co ⟨{ co.conn with storage := none, msg := pulledMsg co.conn.msg },
        s.trace⟩).Holds P Q :=
      hk.pull ⟨co.conn, s.trace⟩ _ ((Sys.holds_iff_of_some hco).1 hs)
    exact Sys.holds_setConsumer.2 (hk.talk (says_consume hconsume).talk hpull)

/-- Every step of a run keeps `P` and `Q`. -/
theorem step (hk : KeptIf P Q C B D) {a : Act} (hs : s.Holds P Q) (h : step s a = some s')
    (hcond : StepCond C B s a s')
    (hD : ∀ co, s.server.coroutine = some co → destroys s a → D ⟨co.conn, s.trace⟩) :
    s'.Holds P Q := by
  obtain ⟨hconn, hspawn⟩ := hcond
  have hperform := (step_eq_some_iff.1 h).1
  cases a with
  | conn c =>
    obtain ⟨co, n, hco, hn, rfl⟩ := exists_of_step_conn h
    rw [Sys.holds_setNet]
    exact hk.conn _ _ _ _ ((Sys.holds_iff_of_some hco).1 hs) hn (hconn co c hco rfl)
  | resumeConsumer => exact hk.consumer hperform hs
  | serverConnect ais uninit =>
    cases hperform
    refine hk.connect uninit (fun hco hssl => hspawn ais ?_) hs
    simp [spawns, hco, hssl]
  | serverDisconnect =>
    cases hperform
    exact hk.disconnect (fun co hco => hD co hco trivial) hs
  | serverReconnect ais uninit =>
    cases hperform
    -- `irc_server_disconnect` keeps the flags
    refine hk.connect uninit (fun hco hssl => hspawn ais ?_)
      (hk.disconnect (fun co hco => hD co hco trivial) hs)
    have hssl' : s.server.flags.ssl = false := hssl
    simp [spawns, hssl']
  | botServerAdd ais uninit =>
    cases hperform
    unfold ircBotServerAdd
    split
    · exact hs
    · rename_i hlisted
      refine (hk.connect uninit (fun hco hssl => hspawn ais ?_) hs).congr rfl rfl
      simp [spawns, hco, hssl, hlisted]
  | botServerRemove =>
    cases hperform
    unfold ircBotServerRemove
    split
    · rename_i hlisted
      have hdispatch : (Irccd.dispatch (ircServerDisconnect s) .disconnect).Holds P Q :=
        hk.talk (E := fun _ => True) (Talk.refl.dispatch trivial)
          (hk.disconnect (fun co hco => hD co hco hlisted) hs)
      exact hdispatch.congr rfl rfl
    · exact hs
  | join name pass =>
    cases hperform
    exact hk.talk (E := fun _ => True) (says_ircServerJoin s name pass).talk hs
  | send text =>
    cases hperform
    exact hk.talk (E := fun _ => True) (.send text .refl) hs
  | setNickname nickname =>
    cases hperform
    exact hk.talk (E := fun _ => True) (ircServerSetNickname_talk s nickname) hs
  | set v =>
    simp only [perform, Option.map_eq_some_iff] at hperform
    obtain ⟨server, hserver, rfl⟩ := hperform
    exact hk.talk (E := fun _ => True) (.update .refl (ircServerSet_update hserver)) hs
  | tick clock =>
    cases hperform
    exact hs.congr rfl rfl

end KeptIf

/-- Every step of a run keeps `P` and `Q`. -/
theorem Kept.step {P : Net → Prop} {Q : List Call → Prop} {C : List CStr → Net → ConnAct → Prop}
    {B : Option (List AddrInfo) → Prop} (hk : Kept P Q C B) {s s' : Sys} {a : Act}
    (hs : s.Holds P Q) (h : Irccd.step s a = some s') (hcond : StepCond C B s a s') :
    s'.Holds P Q :=
  have hkept : KeptIf P Q C B fun _ => True :=
    ⟨hk.conn, hk.push, hk.dispatch, hk.pull, hk.spawn, fun n hn _ => hk.destroy n hn, hk.idle⟩
  hkept.step hs h hcond fun _ _ _ => trivial

end Irccd
