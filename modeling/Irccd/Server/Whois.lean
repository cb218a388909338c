import Irccd.Server.Handlers

/-!
# Messages around a WHOIS reply

`irc_server_handle_whoisuser` pulls messages itself until it sees a 318. This module compares what
the consumer does with the messages it pulls with what it does when no whois is pending.

* `Pull`, `Pulls`: the consumer pulls messages one after the other, while the rest of the program
  does what it likes with the server in between;
* `Pull.Handled`: the message has the effect that it has when no whois is pending;
* `Undisturbed`: a message between a 311 and its 318 has no handler, or one that has nothing to do;
* `Pulls.handled_iff`: no message is lost exactly when the WHOIS replies are undisturbed.
-/

namespace Irccd

/-- Suspended in `k`, the consumer pulls `msg` when the program is in the state `before`. It leaves
the state `after`, and is suspended in `k'`. -/
structure Pull where
  before : Sys
  k : Option IrcEventWhois
  msg : ConnMsg
  after : Sys
  k' : Option IrcEventWhois
  consumes : consume before k msg = .ok (after, k')

namespace Pull

/-- The message is a numeric of the whois that is pending. -/
def Belongs (p : Pull) : Prop :=
  p.k.isSome = true ∧ (p.msg.cmd = cstr "319" ∨ p.msg.cmd = cstr "318")

/-- The message has the effect that it has when no whois is pending. If that is to begin a whois,
this one is pending afterwards. -/
def Handled (p : Pull) : Prop :=
  ∃ k, consume p.before none p.msg = .ok (p.after, k) ∧ ∀ ev, k = some ev → p.k' = some ev

/-- The message has no handler, or the handler would change nothing, send nothing, dispatch nothing
and begin no other whois. -/
def Idle (p : Pull) : Prop :=
  ∀ h, handlers.find? (·.1 == p.msg.cmd) = some h →
    ∃ k, h.2 p.before p.msg = .ok (p.before, k) ∧ ∀ ev, k = some ev → p.k = some ev

end Pull

/-- Suspended in `k`, the consumer pulls one message after the other. The server may be in any state
each time. -/
def Pulls : Option IrcEventWhois → List Pull → Prop
  | _, [] => True
  | k, p :: ps => p.k = k ∧ Pulls p.k' ps

/-- A whois is pending after the message `msg`, if `pending` tells whether one was before. -/
def whoisAfter (pending : Bool) (msg : ConnMsg) : Bool :=
  if pending then msg.cmd != cstr "318" else msg.cmd == cstr "311"

/-- No message with something to do comes between a 311 and its 318. -/
def Undisturbed : Bool → List Pull → Prop
  | _, [] => True
  | pending, p :: ps => (pending = true → p.Idle) ∧ Undisturbed (whoisAfter pending p.msg) ps

/-! ## The pending whois -/

theorem isSome_of_returns {h : Sys → ConnMsg → Except Fault Sys} {s s' : Sys} {msg : ConnMsg}
    {k : Option IrcEventWhois} (hret : returns h s msg = .ok (s', k)) : k.isSome = false := by
  unfold returns at hret
  cases hs : h s msg with
  | error e => rw [hs] at hret; cases hret
  | ok t =>
    rw [hs] at hret
    cases hret
    rfl

/-- All handlers but one return before the next message. -/
theorem handlers_return : ∀ h ∈ handlers, h.1 = cstr "311" ∨ ∃ f, h.2 = returns f := by
  simp only [handlers, List.forall_mem_cons, List.not_mem_nil, false_imp_iff, implies_true,
    and_true]
  exact ⟨.inr ⟨_, rfl⟩, .inr ⟨_, rfl⟩, .inr ⟨_, rfl⟩, .inl trivial, .inr ⟨_, rfl⟩, .inr ⟨_, rfl⟩,
    .inr ⟨_, rfl⟩, .inr ⟨_, rfl⟩, .inr ⟨_, rfl⟩, .inr ⟨_, rfl⟩, .inr ⟨_, rfl⟩, .inr ⟨_, rfl⟩,
    .inr ⟨_, rfl⟩, .inr ⟨_, rfl⟩, .inr ⟨_, rfl⟩, .inr ⟨_, rfl⟩, .inr ⟨_, rfl⟩, .inr ⟨_, rfl⟩⟩

theorem find?_handlers_311 : (handlers.find? (·.1 == cstr "311")) =
    some (cstr "311", fun s msg => (ircServerHandleWhoisuser msg).map (s, some ·)) := rfl

/-- A 311 starts a whois, and no other message does. -/
theorem isSome_of_ircServerHandle {s s' : Sys} {msg : ConnMsg} {k : Option IrcEventWhois}
    (h : ircServerHandle s msg = .ok (s', k)) : k.isSome = (msg.cmd == cstr "311") := by
  unfold ircServerHandle at h
  by_cases h311 : msg.cmd = cstr "311"
  · -- the handler goes on in its loop
    rw [h311, find?_handlers_311] at h
    cases hw : ircServerHandleWhoisuser msg with
    | error e => simp only [hw] at h; cases h
    | ok ev =>
      simp only [hw] at h
      cases h
      simp [h311]
  · rw [beq_false_of_ne h311]
    cases hf : handlers.find? (·.1 == msg.cmd) with
    | none =>
      rw [hf] at h
      cases h
      rfl
    | some f =>
      rw [hf] at h
      have hkey : f.1 = msg.cmd := by simpa using List.find?_some hf
      obtain ⟨g, hg⟩ := (handlers_return f (List.mem_of_find?_eq_some hf)).resolve_left
        (hkey ▸ h311)
      simp only [hg] at h
      exact isSome_of_returns h

theorem isSome_of_consume {s s' : Sys} {msg : ConnMsg} {k k' : Option IrcEventWhois}
    (h : consume s k msg = .ok (s', k')) : k'.isSome = whoisAfter k.isSome msg := by
  cases k with
  | none => exact isSome_of_ircServerHandle h
  | some ev =>
    simp only [consume, whoisPull] at h
    generalize (if msg.cmd = cstr "319" then _ else _ : Except Fault IrcEventWhois) = x at h
    cases x with
    | error e => cases h
    | ok ev' =>
      simp only [Except.map, Except.ok.injEq] at h
      by_cases h318 : msg.cmd = cstr "318"
      · rw [if_pos h318] at h
        cases h
        simp [whoisAfter, h318]
      · rw [if_neg h318] at h
        cases h
        simp [whoisAfter, h318]

/-! ## Lost messages -/

/-- The numerics that the loop of a pending whois looks at have no handler. -/
theorem find?_handlers_eq_none {msg : ConnMsg}
    (h : msg.cmd = cstr "319" ∨ msg.cmd = cstr "318") :
    handlers.find? (·.1 == msg.cmd) = none := by
  rw [List.find?_eq_none]
  have hkeys : cstr "319" ∉ handlers.map Prod.fst ∧ cstr "318" ∉ handlers.map Prod.fst := by
    decide +kernel
  intro entry hentry hkey
  have hmem : msg.cmd ∈ handlers.map Prod.fst :=
    (beq_iff_eq.1 hkey) ▸ List.mem_map_of_mem hentry
  rcases h with h | h
  · exact hkeys.1 (h ▸ hmem)
  · exact hkeys.2 (h ▸ hmem)

/-- The loop of a pending whois does nothing with the other messages. -/
theorem whoisPull_of_ne {s : Sys} {ev : IrcEventWhois} {msg : ConnMsg}
    (h : ¬ (msg.cmd = cstr "319" ∨ msg.cmd = cstr "318")) :
    whoisPull s ev msg = .ok (s, some ev) := by
  obtain ⟨h319, h318⟩ := not_or.1 h
  rw [whoisPull, if_neg h319]
  simp only [Except.map, if_neg h318]

namespace Pull

/-- When no whois is pending the consumer gives the message to its handler. -/
theorem handled_of_none {p : Pull} (hk : p.k = none) : p.Handled :=
  ⟨p.k', hk ▸ p.consumes, fun _ h => h⟩

/-- A message pulled by the loop of a pending whois is lost, unless there is nothing to do. -/
theorem handled_iff_idle {p : Pull} (hk : p.k.isSome = true) :
    (¬ p.Belongs → p.Handled) ↔ p.Idle := by
  obtain ⟨ev, hev⟩ := Option.isSome_iff_exists.1 hk
  by_cases hnumeric : p.msg.cmd = cstr "319" ∨ p.msg.cmd = cstr "318"
  · refine iff_of_true (fun h => absurd ⟨hk, hnumeric⟩ h) fun h hh => ?_
    rw [find?_handlers_eq_none hnumeric] at hh
    cases hh
  -- the loop leaves the state and the whois as they are
  have hconsumes := p.consumes
  rw [hev, consume, whoisPull_of_ne hnumeric, Except.ok.injEq, Prod.mk.injEq] at hconsumes
  obtain ⟨hafter, hk'⟩ := hconsumes
  have hhandled : p.Handled ↔ p.Idle := by
    unfold Handled Idle consume ircServerHandle
    rw [← hafter, ← hk', ← hev]
    cases handlers.find? (·.1 == p.msg.cmd) with
    | none => simp
    | some h => simp
  rw [← hhandled]
  exact forall_prop_of_true fun h => hnumeric h.2

end Pull

theorem Pulls.handled_iff_undisturbed {k : Option IrcEventWhois} {ps : List Pull}
    (h : Pulls k ps) : (∀ p ∈ ps, ¬ p.Belongs → p.Handled) ↔ Undisturbed k.isSome ps := by
  induction ps generalizing k with
  | nil => exact iff_of_true (by simp) trivial
  | cons p ps ih =>
    obtain ⟨rfl, hps⟩ := h
    rw [List.forall_mem_cons, Undisturbed, ih hps, isSome_of_consume p.consumes]
    refine and_congr_left fun _ => ?_
    by_cases hk : p.k.isSome = true
    · rw [Pull.handled_iff_idle hk, forall_prop_of_true hk]
    · have hnone : p.k = none := by simpa using hk
      exact iff_of_true (fun _ => Pull.handled_of_none hnone) fun h => absurd h hk

/-- Of the messages that the consumer pulls, all those that do not belong to the pending whois have
the effect that they have when none is pending, exactly when none of them that has something to do
comes between a 311 and its 318. -/
theorem Pulls.handled_iff {ps : List Pull} (h : Pulls none ps) :
    (∀ p ∈ ps, ¬ p.Belongs → p.Handled) ↔ Undisturbed false ps :=
  h.handled_iff_undisturbed

/-- A message of the concrete sequences. -/
def parsed (line : CStr) : ConnMsg := (ircConnMsgParse line line.length).2

/-- The whois of the concrete sequences. -/
def jean : IrcEventWhois where
  nickname := cstr "jean"
  username := cstr "j"
  hostname := cstr "home"
  realname := cstr "Jean"
  channels := []

/-- A server whose connection is established. -/
def identified : Sys :=
  .start { localServer with
    coroutine := some ⟨{ connAlloc ⟨none, [], []⟩ with state := .ready, fd := 3 }, none⟩ }

/-- A WHOIS reply, and a PING after it. -/
def whoisThenPing : List Pull := [
  ⟨identified, none, parsed (cstr "311 bot jean j home * :Jean"), identified, some jean, rfl⟩,
  ⟨identified, some jean, parsed (cstr "319 bot jean :#staff"), identified,
    some { jean with channels := [(cstr "#staff", 0)] }, rfl⟩,
  ⟨identified, some { jean with channels := [(cstr "#staff", 0)] }, parsed (cstr "318 bot jean"),
    dispatch identified (.whois { jean with channels := [(cstr "#staff", 0)] }), none, rfl⟩,
  ⟨identified, none, parsed (cstr "PING :home"),
    (ircServerSend identified (cstr "PONG :home")).2, none, rfl⟩]

/-- The theorem on a WHOIS reply without anything in between. -/
theorem handled_iff_whoisThenPing :
    (∀ p ∈ whoisThenPing, ¬ p.Belongs → p.Handled) ↔ Undisturbed false whoisThenPing :=
  Pulls.handled_iff (show Pulls none whoisThenPing from ⟨rfl, rfl, rfl, rfl, trivial⟩)

/-- A PING between a 311 and its 318. -/
def whoisAndPing : List Pull := [
  ⟨identified, none, parsed (cstr "311 bot jean j home * :Jean"), identified, some jean, rfl⟩,
  ⟨identified, some jean, parsed (cstr "PING :home"), identified, some jean, rfl⟩]

/-- A PING between a 311 and its 318 is not answered, although the connection is established. -/
theorem ping_lost :
    Pulls none whoisAndPing ∧ ¬ ∀ p ∈ whoisAndPing, ¬ p.Belongs → p.Handled := by
  have hpulls : Pulls none whoisAndPing := ⟨rfl, rfl, trivial⟩
  refine ⟨hpulls, fun h => ?_⟩
  obtain ⟨k, hidle, -⟩ := (hpulls.handled_iff_undisturbed.1 h).2.1 rfl _ rfl
  have hping : returns ircServerHandlePing identified (parsed (cstr "PING :home")) =
      .ok (identified, k) := hidle
  -- the handler would have pushed a PONG
  have hpushed : (returns ircServerHandlePing identified
      (parsed (cstr "PING :home"))).toOption.map (·.1.trace) =
        some [.push (cstr "PONG :home")] := by
    decide +kernel
  rw [hping] at hpushed
  cases hpushed

end Irccd
