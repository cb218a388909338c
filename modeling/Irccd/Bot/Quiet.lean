import Irccd.Bot.Reentrant

/-!
# Handlers that only return

Where no plugin calls the bot, a dispatch makes the calls that `ircBotDispatch` lists.

* `exec_quiet`: the consumer coroutine dispatches an event, and each plugin returns at once.
-/

namespace Irccd

section Quiet

variable {m : Machine} {d : Dispatch} {rest : List IrcPlugin} {calls command : List Delivery}
  {plgcmd : Option IrcPlugin} {s : Except Stop Machine}

/-- After some returns the dispatch is over: it has made these calls and changed nothing else. -/
def Returns (m : Machine) (calls : List Delivery) (s : Except Stop Machine) : Prop :=
  ∃ n t, Runs.exec botStep s (List.replicate n .ret) = some (.ok t) ∧
    t.bot = m.bot ∧ t.servers = m.servers ∧ t.stack = [] ∧ t.calls = m.calls ++ calls

/-- The last of the calls returns. -/
theorem Returns.ret {f : Frame} {call : Delivery}
    (h : Returns { m with calls := m.calls ++ [call] } calls
      ({ m with calls := m.calls ++ [call] }.resume f)) :
    Returns m (call :: calls) (.ok (m.push f [call])) := by
  obtain ⟨n, t, hexec, hbot, hservers, hnil, hcalls⟩ := h
  refine ⟨n + 1, t, ?_, hbot, hservers, hnil, by simpa using hcalls⟩
  rw [List.replicate_succ, Runs.exec_cons]
  have hstep : botStep (.ok (m.push f [call])) .ret =
      some ({ m with calls := m.calls ++ [call] }.resume f) := by
    simp [botStep, Machine.push]
  rw [hstep]
  exact hexec

theorem invokable_of_ok {p : IrcPlugin} {b : Bool}
    (h : Irccd.invokable m.bot.rules d.server p d.ev = .ok b) : m.invokable d p = .ok b := by
  rw [Machine.invokable, h]
  rfl

/-- The loop goes on with what is left of the plugins, the next of which was cached. -/
theorem resume_loop {p : IrcPlugin} (hrest : Traversal.pending m.bot.plugins rest.head? = rest) :
    m.resume (.loop d p rest.head?) = m.dispatchLoop d rest := by
  cases rest with
  | nil => rfl
  | cons q rest =>
    have hq : q ∈ m.bot.plugins := Traversal.pending_subset (hrest.symm ▸ List.mem_cons_self :
      q ∈ Traversal.pending m.bot.plugins (q :: rest).head?)
    have hpending : Traversal.pending m.bot.plugins (some q) = q :: rest := hrest
    simp only [Machine.resume, List.head?_cons, touchPlugin_of_mem hq, hpending, bind, Except.bind]

/-- What `irc_bot_dispatch` calls at its end. -/
theorem returns_dispatchReturn (hstack : m.stack = []) (hremoving : d.removing = false)
    (hserver : d.server.name ∈ m.servers.map IrcServer.name) :
    Returns m (if m.bot.observer then [.observer d.ev] else []) (m.dispatchReturn d) := by
  -- nobody has removed the server
  have htouch : m.touchObserved d = .ok () := by
    rw [Machine.touchObserved, touchServer_of_mem hserver, ite_self]
  refine ⟨0, { m with
    calls := m.calls ++ (if m.bot.observer then [.observer d.ev] else [])
    finished := m.finished ++ [⟨d, m.bot.plugins⟩] }, ?_, rfl, rfl, hstack, rfl⟩
  simp [Machine.dispatchReturn, Machine.finish, htouch, hremoving, bind, Except.bind, pure,
    Except.pure]

/-- What `irc_bot_dispatch` calls after its loop. -/
theorem returns_dispatchEnd (hstack : m.stack = []) (hremoving : d.removing = false)
    (hserver : d.server.name ∈ m.servers.map IrcServer.name)
    (hplgcmd : ∀ p, d.plgcmd = some p → p ∈ m.bot.plugins)
    (hcommand : dispatchCommand m.bot.rules d.server d.ev d.plgcmd = .ok command) :
    Returns m (command ++ if m.bot.observer then [.observer d.ev] else []) (m.dispatchEnd d) := by
  unfold Machine.dispatchEnd
  cases hcmd : d.plgcmd with
  | none =>
    simp only [dispatchCommand, hcmd, Except.ok.injEq] at hcommand
    subst hcommand
    exact returns_dispatchReturn hstack hremoving hserver
  | some p =>
    rw [hcmd, dispatchCommand, bind_eq_ok_iff] at hcommand
    obtain ⟨b, hinvokable, hcommand⟩ := hcommand
    simp only [touchPlugin_of_mem (hplgcmd p hcmd), touchEvent_of_mem hserver,
      invokable_of_ok hinvokable, bind, Except.bind]
    cases b with
    | true =>
      obtain rfl := Except.ok.inj hcommand
      refine .ret ?_
      exact returns_dispatchReturn (m := { m with calls := _ }) (d := d.hand p) hstack hremoving
        hserver
    | false =>
      obtain rfl := Except.ok.inj hcommand
      exact returns_dispatchReturn (d := d.refuse p) hstack hremoving hserver

/-- What the loop of `irc_bot_dispatch` calls. -/
theorem returns_dispatchLoop (hps : m.bot.plugins.Nodup) (hstack : m.stack = [])
    (hremoving : d.removing = false)
    (hserver : d.server.name ∈ m.servers.map IrcServer.name)
    (hplgcmd : ∀ p, d.plgcmd = some p → p ∈ m.bot.plugins)
    (hrest : Traversal.pending m.bot.plugins rest.head? = rest)
    (hloop : dispatchLoop m.bot.rules d.server d.ev rest d.plgcmd = .ok (calls, plgcmd))
    (hcommand : dispatchCommand m.bot.rules d.server d.ev plgcmd = .ok command) :
    Returns m (calls ++ command ++ if m.bot.observer then [.observer d.ev] else [])
      (m.dispatchLoop d rest) := by
  induction rest generalizing m d calls with
  | nil =>
    simp only [dispatchLoop, Except.ok.injEq, Prod.mk.injEq] at hloop
    obtain ⟨rfl, rfl⟩ := hloop
    exact returns_dispatchEnd hstack hremoving hserver hplgcmd hcommand
  | cons p rest ih =>
    -- nobody has unloaded the plugin
    have hp : p ∈ m.bot.plugins := Traversal.pending_subset (hrest.symm ▸ List.mem_cons_self :
      p ∈ Traversal.pending m.bot.plugins (p :: rest).head?)
    have hnext := Traversal.pending_rest hps hrest
    simp only [Machine.dispatchLoop, touchEvent_of_mem hserver, bind, Except.bind]
    rw [dispatchLoop] at hloop
    by_cases hcmd : isCommand d.server p d.ev
    · rw [if_pos hcmd] at hloop ⊢
      refine ih (d := (d.visit p).address p) hps hstack hremoving hserver ?_ hnext hloop hcommand
      rintro q ⟨⟩
      exact hp
    · rw [if_neg hcmd] at hloop ⊢
      obtain ⟨b, hinvokable, hloop⟩ := bind_eq_ok_iff.1 hloop
      obtain ⟨⟨calls', plgcmd'⟩, htail, heq⟩ := bind_eq_ok_iff.1 hloop
      obtain ⟨rfl, rfl⟩ := Prod.mk.inj (Except.ok.inj heq)
      simp only [invokable_of_ok hinvokable]
      cases b with
      | true =>
        refine .ret ?_
        rw [resume_loop (m := { m with calls := m.calls ++ [.plugin p d.ev] }) hnext]
        exact ih (m := { m with calls := m.calls ++ [.plugin p d.ev] }) (d := (d.visit p).hand p)
          hps hstack hremoving hserver hplgcmd hnext htail hcommand
      | false =>
        exact ih (d := (d.visit p).refuse p) hps hstack hremoving hserver hplgcmd hnext htail
          hcommand

/-- The consumer coroutine dispatches an event, and the plugins only return. The calls are those of
`ircBotDispatch`. -/
theorem exec_quiet {server : IrcServer} {name : CStr} {ev : IrcEvent} (hps : m.bot.plugins.Nodup)
    (hstack : m.stack = []) (hfind : m.servers.find? (·.name == name) = some server)
    (hcalls : ircBotDispatch m.bot server ev = .ok calls) :
    ∃ n t, Runs.exec botStep (.ok m) (.event name ev :: List.replicate n .ret) = some (.ok t) ∧
      t.bot = m.bot ∧ t.servers = m.servers ∧ t.stack = [] ∧ t.calls = m.calls ++ calls := by
  obtain ⟨⟨loop, plgcmd⟩, hloop, hrest⟩ := bind_eq_ok_iff.1 hcalls
  obtain ⟨command, hcommand, heq⟩ := bind_eq_ok_iff.1 hrest
  have hserver : server.name ∈ m.servers.map IrcServer.name :=
    List.mem_map_of_mem (List.mem_of_find?_eq_some hfind)
  have hstep : botStep (.ok m) (.event name ev) = some (m.dispatch server ev false) := by
    simp [botStep, hstack, hfind]
  obtain ⟨n, t, hexec, hbot, hservers, hnil, htcalls⟩ := returns_dispatchLoop
    (m := { m with calls := m.calls ++ m.bot.hooks.map (Delivery.hook · ev) })
    (d := ⟨server, ev, false, none, [], [], []⟩) hps hstack rfl hserver (by simp)
    Traversal.pending_head? hloop hcommand
  refine ⟨n, t, ?_, hbot, hservers, hnil, ?_⟩
  · rw [Runs.exec_cons, hstep]
    exact hexec
  · rw [htcalls, ← Except.ok.inj heq]
    simp [List.append_assoc]

end Quiet

end Irccd
