import Irccd.Bot.Reentry

/-!
# What handlers must not do

Which calls of the bot may a plugin make while an event is dispatched?

* `Reentrant`: nothing that was removed is accessed, nothing that is running is destroyed, and each
  plugin that is still loaded receives the event once, unless the rules refuse it;
* `Spares`: no plugin is unloaded that is running, or that a dispatch will access when it goes on,
  and no server is removed whose event is dispatched; a plugin that is unloaded or reloaded is
  there;
* `Careful`: moreover, a message addresses one plugin at most;
* `Good`: the invariant that `Careful` steps keep.
-/

namespace Irccd

/-- No plugin has received the event twice, and of the given ones each has, unless the rules refused
it. -/
structure Dispatch.Served (d : Dispatch) (ps : List IrcPlugin) : Prop where
  once : d.handed.Nodup
  served : ∀ p ∈ ps, p ∈ d.handed ∨ p ∈ d.refused

/-- Nothing that was removed is accessed and nothing that is running is destroyed. A dispatch has
handed the event once at most to each plugin, and, when it has returned, to each plugin loaded. -/
def Reentrant : Except Stop Machine → Prop
  | .ok m => (∀ f ∈ m.finished, f.dispatch.Served f.loaded) ∧
      ∀ f ∈ m.stack, ∀ d ∈ f.dispatch, d.handed.Nodup
  | .error (.undefined _) => True
  | .error _ => False

/-- The message addresses one plugin at most. -/
def AddressesOne (server : IrcServer) (ev : IrcEvent) (ps : List IrcPlugin) : Prop :=
  ∀ p ∈ ps, ∀ q ∈ ps, isCommand server p ev = true → isCommand server q ev = true → p = q

/-- A message that is dispatched addresses one plugin at most. -/
def Addressed : Except Stop Machine → BotAct → Except Stop Machine → Prop
  | .ok m, .event name ev, _ =>
    ∀ s, m.servers.find? (·.name == name) = some s → AddressesOne s ev m.bot.plugins
  | _, _, _ => True

/-- A plugin only names plugins that are loaded. -/
def Names (m : Machine) (name : CStr) : Prop :=
  m.scripted = true → name ∈ m.bot.plugins.map IrcPlugin.name

instance (m : Machine) (name : CStr) : Decidable (Names m name) :=
  inferInstanceAs (Decidable (_ → _))

/-- A plugin that calls the bot does not unload one that is running or that a dispatch in progress
has cached, and does not remove a server whose event is dispatched. -/
def Spares : Except Stop Machine → BotAct → Except Stop Machine → Prop
  | .ok m, .call (.pluginUnload name), _ => Names m name ∧
    ∀ p ∈ m.bot.plugins, p.name = name → ∀ f ∈ m.stack, f.plugin ≠ some p ∧ p ∉ f.awaits
  | .ok m, .call (.pluginReload name), _ => Names m name
  | .ok m, .call (.serverRemove name), _ =>
    ∀ f ∈ m.stack, ∀ d ∈ f.dispatch, d.server.name ≠ name
  | _, _, _ => True

/-- The conditions on a step of the bot. -/
def Careful (s : Except Stop Machine) (a : BotAct) (s' : Except Stop Machine) : Prop :=
  Addressed s a s' ∧ Spares s a s'

instance (server : IrcServer) (ev : IrcEvent) (ps : List IrcPlugin) :
    Decidable (AddressesOne server ev ps) :=
  inferInstanceAs (Decidable (∀ p ∈ ps, ∀ q ∈ ps, _))

instance decidableAddressed : (s : Except Stop Machine) → (a : BotAct) →
    (s' : Except Stop Machine) → Decidable (Addressed s a s')
  | .ok m, .event name ev, _ =>
    inferInstanceAs
      (Decidable (∀ s ∈ m.servers.find? (·.name == name), AddressesOne s ev m.bot.plugins))
  | .ok _, .callback _, _ | .ok _, .peer, _ | .ok _, .call _, _ | .ok _, .ret, _ | .error _, _, _ =>
    isTrue trivial

instance decidableSpares : (s : Except Stop Machine) → (a : BotAct) → (s' : Except Stop Machine) →
    Decidable (Spares s a s')
  | .ok m, .call (.pluginUnload name), _ => inferInstanceAs
      (Decidable (Names m name ∧ ∀ p ∈ m.bot.plugins, p.name = name → ∀ f ∈ m.stack, _))
  | .ok m, .call (.pluginReload name), _ => inferInstanceAs (Decidable (Names m name))
  | .ok m, .call (.serverRemove _), _ =>
    inferInstanceAs (Decidable (∀ f ∈ m.stack, ∀ d ∈ f.dispatch, _))
  | .ok _, .call (.hookRemove _), _ | .ok _, .call (.rules _), _ | .ok _, .event _ _, _
  | .ok _, .callback _, _ | .ok _, .peer, _ | .ok _, .ret, _ | .error _, _, _ => isTrue trivial

instance (s : Except Stop Machine) (a : BotAct) (s' : Except Stop Machine) :
    Decidable (Careful s a s') :=
  inferInstanceAs (Decidable (_ ∧ _))

/-! ## The invariant -/

/-- A dispatch that is in its loop. -/
structure Dispatch.Ok (d : Dispatch) (ps : List IrcPlugin) (next : Option IrcPlugin) : Prop where
  cursor : Traversal.Cursor ps next d.visited
  once : d.handed.Nodup
  handed : ∀ p ∈ d.handed, p ∈ d.visited ∧ isCommand d.server p d.ev = false
  command : ∀ p, d.plgcmd = some p →
    p ∈ ps ∧ p ∈ d.visited ∧ isCommand d.server p d.ev = true
  served : ∀ p ∈ d.visited, p ∈ d.handed ∨ p ∈ d.refused ∨ d.plgcmd = some p
  addresses : AddressesOne d.server d.ev ps

def Frame.Ok (ps : List IrcPlugin) : Frame → Prop
  | .loop d _ next => d.Ok ps next
  | .command d _ => d.Served ps
  | _ => True

/-- The server is one of the bot, and no other dispatch is about it. -/
def IrcServer.Apart (server : IrcServer) (names : List CStr) (stack : List Frame) : Prop :=
  server.name ∈ names ∧ ∀ f ∈ stack, ∀ d ∈ f.dispatch, d.server.name ≠ server.name

/-- Each call of the stack is as it should be, with respect to those below it. -/
def StackOk (ps : List IrcPlugin) (names : List CStr) : List Frame → Prop
  | [] => True
  | f :: below =>
    (f.Ok ps ∧ (∀ d ∈ f.dispatch, d.server.Apart names below) ∧
      ∀ p, f = .unload p → ∀ g ∈ below, g.plugin ≠ some p) ∧ StackOk ps names below

structure Machine.Good (m : Machine) : Prop where
  plugins : m.bot.plugins.Nodup
  stack : StackOk m.bot.plugins (m.servers.map IrcServer.name) m.stack
  finished : ∀ f ∈ m.finished, f.dispatch.Served f.loaded

def Good : Except Stop Machine → Prop
  | .ok m => m.Good
  | .error (.undefined _) => True
  | .error _ => False

namespace Dispatch.Ok

variable {d : Dispatch} {ps rest : List IrcPlugin} {next : Option IrcPlugin} {p : IrcPlugin}

theorem start (server : IrcServer) (ev : IrcEvent) (removing : Bool) (hps : ps.Nodup)
    (haddr : AddressesOne server ev ps) :
    Dispatch.Ok ⟨server, ev, removing, none, [], [], []⟩ ps ps.head? where
  cursor := .start hps
  once := List.nodup_nil
  handed := by simp
  command := by simp
  served := by simp
  addresses := haddr

/-- The loop meets the plugin that the message addresses. -/
theorem visit_command (h : d.Ok ps next) (hrest : Traversal.pending ps next = p :: rest)
    (hcmd : isCommand d.server p d.ev = true) :
    ((d.visit p).address p).Ok ps rest.head? := by
  have hmem : p ∈ Traversal.pending ps next := hrest ▸ List.mem_cons_self
  have hp : p ∈ ps := Traversal.pending_subset hmem
  -- no other plugin was addressed before
  have hnone : d.plgcmd = none := by
    by_contra hne
    obtain ⟨q, hq⟩ := Option.ne_none_iff_exists'.1 hne
    obtain ⟨hqps, hqvisited, hqcmd⟩ := h.command q hq
    exact h.cursor.ahead p hmem (h.addresses q hqps p hp hqcmd hcmd ▸ hqvisited)
  refine ⟨h.cursor.visit hrest, h.once, fun q hq => ?_, fun q hq => ?_, fun q hq => ?_, h.addresses⟩
  · exact ⟨List.mem_append_left _ (h.handed q hq).1, (h.handed q hq).2⟩
  · obtain rfl := Option.some.inj hq
    exact ⟨hp, List.mem_append_right _ (List.mem_singleton_self p), hcmd⟩
  · rcases List.mem_append.1 hq with hq | hq
    · have hserved := h.served q hq
      rw [hnone] at hserved
      exact hserved.imp_right fun h => h.elim .inl (by simp)
    · exact .inr (.inr (congrArg some (List.mem_singleton.1 hq).symm))

/-- The loop meets a plugin and hands it the event. -/
theorem visit_handed (h : d.Ok ps next) (hrest : Traversal.pending ps next = p :: rest)
    (hcmd : isCommand d.server p d.ev = false) :
    ((d.visit p).hand p).Ok ps rest.head? := by
  -- what was handed was visited, and the loop is past it
  have hnew : p ∉ d.visited := h.cursor.ahead p (hrest ▸ List.mem_cons_self)
  refine ⟨h.cursor.visit hrest, ?_, fun q hq => ?_, fun q hq => ?_, fun q hq => ?_, h.addresses⟩
  · refine List.Nodup.append h.once (List.nodup_singleton p) ?_
    exact List.disjoint_singleton.2 fun hp => hnew (h.handed p hp).1
  · rcases List.mem_append.1 hq with hq | hq
    · exact ⟨List.mem_append_left _ (h.handed q hq).1, (h.handed q hq).2⟩
    · rw [List.mem_singleton.1 hq]
      exact ⟨List.mem_append_right _ (List.mem_singleton_self p), hcmd⟩
  · obtain ⟨hqps, hqvisited, hqcmd⟩ := h.command q hq
    exact ⟨hqps, List.mem_append_left _ hqvisited, hqcmd⟩
  · rcases List.mem_append.1 hq with hq | hq
    · exact (h.served q hq).imp_left (List.mem_append_left _)
    · exact .inl (List.mem_append_right _ hq)

/-- The loop meets a plugin that the rules refuse. -/
theorem visit_refused (h : d.Ok ps next) (hrest : Traversal.pending ps next = p :: rest) :
    ((d.visit p).refuse p).Ok ps rest.head? := by
  refine ⟨h.cursor.visit hrest, h.once, fun q hq => ?_, fun q hq => ?_, fun q hq => ?_, h.addresses⟩
  · exact ⟨List.mem_append_left _ (h.handed q hq).1, (h.handed q hq).2⟩
  · obtain ⟨hqps, hqvisited, hqcmd⟩ := h.command q hq
    exact ⟨hqps, List.mem_append_left _ hqvisited, hqcmd⟩
  · rcases List.mem_append.1 hq with hq | hq
    · exact (h.served q hq).imp_right fun h => h.imp_left (List.mem_append_left _)
    · exact .inr (.inl (List.mem_append_right _ hq))

/-- A plugin is unloaded that the loop will not access. -/
theorem remove (h : d.Ok ps next) (hnext : next ≠ some p) (hcmd : d.plgcmd ≠ some p) :
    d.Ok (ps.erase p) next := by
  refine ⟨h.cursor.remove hnext, h.once, h.handed, fun q hq => ?_, h.served, fun q hq r hr => ?_⟩
  · have hqp : q ≠ p := fun hqp => hcmd (hqp ▸ hq)
    exact ⟨(List.mem_erase_of_ne hqp).2 (h.command q hq).1, (h.command q hq).2⟩
  · exact h.addresses q (List.mem_of_mem_erase hq) r (List.mem_of_mem_erase hr)

/-- The loop is over and no plugin was addressed. -/
theorem served_of_none (h : d.Ok ps none) (hcmd : d.plgcmd = none) : d.Served ps := by
  refine ⟨h.once, fun p hp => ?_⟩
  have hserved := h.served p (h.cursor.complete hp)
  rw [hcmd] at hserved
  exact hserved.imp_right fun h => h.elim id (by simp)

/-- The loop is over and the plugin that was addressed receives the command. -/
theorem served_of_command (h : d.Ok ps none) (hcmd : d.plgcmd = some p) :
    (d.hand p).Served ps := by
  obtain ⟨-, -, hpcmd⟩ := h.command p hcmd
  refine ⟨List.Nodup.append h.once (List.nodup_singleton p) ?_, fun q hq => ?_⟩
  · have hnot : p ∉ d.handed := fun hp => by simp [(h.handed p hp).2] at hpcmd
    simpa using hnot
  · rcases h.served q (h.cursor.complete hq) with hq | hq | hq
    · exact .inl (List.mem_append_left _ hq)
    · exact .inr hq
    · obtain rfl := Option.some.inj (hcmd.symm.trans hq)
      exact .inl (List.mem_append_right _ (List.mem_singleton_self p))

/-- The loop is over and the rules refuse the plugin that was addressed. -/
theorem served_of_refused (h : d.Ok ps none) (hcmd : d.plgcmd = some p) :
    (d.refuse p).Served ps := by
  refine ⟨h.once, fun q hq => ?_⟩
  rcases h.served q (h.cursor.complete hq) with hq | hq | hq
  · exact .inl hq
  · exact .inr (List.mem_append_left _ hq)
  · obtain rfl := Option.some.inj (hcmd.symm.trans hq)
    exact .inr (List.mem_append_right _ (List.mem_singleton_self p))

end Dispatch.Ok

/-! ## One step -/

section Step

variable {m : Machine} {d : Dispatch} {ps : List IrcPlugin} {names : List CStr} {stack : List Frame}
  {p : IrcPlugin} {server : IrcServer}

theorem touchPlugin_of_mem (h : p ∈ m.bot.plugins) : m.touchPlugin p = .ok () := if_pos h

theorem touchServer_of_mem (h : server.name ∈ m.servers.map IrcServer.name) :
    m.touchServer server = .ok () :=
  if_pos h

theorem touchEvent_of_mem (h : d.server.name ∈ m.servers.map IrcServer.name) :
    m.touchEvent d = .ok () := by
  rw [Machine.touchEvent, touchServer_of_mem h, ite_self]

/-- The rules have a verdict, or the dispatch stops for another reason. -/
theorem invokable_cases (m : Machine) (d : Dispatch) (p : IrcPlugin) :
    (∃ b, m.invokable d p = .ok b) ∨ ∃ f, m.invokable d p = .error (.undefined f) := by
  unfold Machine.invokable
  cases Irccd.invokable m.bot.rules d.server p d.ev with
  | ok b => exact .inl ⟨b, rfl⟩
  | error f => exact .inr ⟨f, rfl⟩

/-- Another server is removed than those whose events are dispatched. -/
theorem StackOk.filter (h : StackOk ps names stack) {name : CStr}
    (hapart : ∀ f ∈ stack, ∀ d ∈ f.dispatch, d.server.name ≠ name) :
    StackOk ps (names.filter (· != name)) stack := by
  induction stack with
  | nil => trivial
  | cons f below ih =>
    obtain ⟨⟨hf, hserver, hunload⟩, hbelow⟩ := h
    obtain ⟨hhead, htail⟩ := List.forall_mem_cons.1 hapart
    refine ⟨⟨hf, fun d hd => ⟨?_, (hserver d hd).2⟩, hunload⟩, ih hbelow htail⟩
    exact List.mem_filter.2 ⟨(hserver d hd).1, by simpa using hhead d hd⟩

/-- A plugin is unloaded that no dispatch will access. -/
theorem StackOk.erase (h : StackOk ps names stack)
    (hawaits : ∀ f ∈ stack, f.plugin ≠ some p ∧ p ∉ f.awaits) :
    StackOk (ps.erase p) names stack := by
  induction stack with
  | nil => trivial
  | cons f below ih =>
    obtain ⟨⟨hf, hserver, hunload⟩, hbelow⟩ := h
    obtain ⟨⟨-, hhead⟩, htail⟩ := List.forall_mem_cons.1 hawaits
    refine ⟨⟨?_, hserver, hunload⟩, ih hbelow htail⟩
    cases f with
    | loop d q next =>
      simp only [Frame.awaits, List.mem_append, Option.mem_toList, not_or] at hhead
      exact Dispatch.Ok.remove hf hhead.1 hhead.2
    | command d q => exact ⟨hf.once, fun r hr => hf.served r (List.mem_of_mem_erase hr)⟩
    | _ => trivial

/-- A plugin is called. -/
theorem Machine.Good.push (hm : m.Good) {f : Frame} (calls : List Delivery)
    (hf : f.Ok m.bot.plugins)
    (hserver : ∀ d, f.dispatch = some d → d.server.Apart (m.servers.map IrcServer.name) m.stack)
    (hunload : ∀ p, f = .unload p → ∀ g ∈ m.stack, g.plugin ≠ some p) :
    (m.push f calls).Good :=
  ⟨hm.plugins, ⟨⟨hf, hserver, hunload⟩, hm.stack⟩, hm.finished⟩

/-- The observer is called. -/
theorem finish_eq (hserver : d.server.name ∈ m.servers.map IrcServer.name) :
    ∃ calls, m.finish d =
      .ok { m with calls := calls, finished := m.finished ++ [⟨d, m.bot.plugins⟩] } := by
  rw [Machine.finish, Machine.touchObserved, touchServer_of_mem hserver, ite_self]
  exact ⟨_, rfl⟩

/-- The server is removed whose `IRC_EVENT_DISCONNECT` was dispatched. -/
theorem good_serverDelete (hm : m.Good)
    (hserver : server.Apart (m.servers.map IrcServer.name) m.stack) :
    Good (m.serverDelete server) := by
  -- the names that are left
  have hfilter : (m.servers.filter (·.name != server.name)).map IrcServer.name =
      (m.servers.map IrcServer.name).filter (· != server.name) := by
    rw [List.filter_map]
    rfl
  rw [Machine.serverDelete, touchServer_of_mem hserver.1]
  refine ⟨hm.plugins, ?_, hm.finished⟩
  exact (congrArg (StackOk m.bot.plugins · m.stack) hfilter).mpr (hm.stack.filter hserver.2)

/-- The dispatch returns. -/
theorem good_dispatchReturn (hm : m.Good)
    (hserver : d.server.Apart (m.servers.map IrcServer.name) m.stack)
    (hserved : d.Served m.bot.plugins) : Good (m.dispatchReturn d) := by
  obtain ⟨calls, hfinish⟩ := finish_eq hserver.1
  have hgood : Machine.Good
      { m with calls := calls, finished := m.finished ++ [⟨d, m.bot.plugins⟩] } := by
    refine ⟨hm.plugins, hm.stack, fun f hf => ?_⟩
    rcases List.mem_append.1 hf with hf | hf
    · exact hm.finished f hf
    · rw [List.mem_singleton.1 hf]
      exact hserved
  simp only [Machine.dispatchReturn, hfinish, bind, Except.bind]
  split
  · exact good_serverDelete hgood hserver
  · exact hgood

/-- The loop is over. -/
theorem good_dispatchEnd (hm : m.Good)
    (hserver : d.server.Apart (m.servers.map IrcServer.name) m.stack)
    (hd : d.Ok m.bot.plugins none) : Good (m.dispatchEnd d) := by
  unfold Machine.dispatchEnd
  cases hcmd : d.plgcmd with
  | none => exact good_dispatchReturn hm hserver (hd.served_of_none hcmd)
  | some p =>
    rcases invokable_cases m d p with ⟨b, hinvokable⟩ | ⟨f, hinvokable⟩
    · simp only [touchPlugin_of_mem (hd.command p hcmd).1, touchEvent_of_mem hserver.1, hinvokable,
        bind, Except.bind]
      cases b with
      | true =>
        refine hm.push _ (hd.served_of_command hcmd) ?_ (by simp)
        rintro _ ⟨⟩
        exact hserver
      | false => exact good_dispatchReturn hm hserver (hd.served_of_refused hcmd)
    · simp only [touchPlugin_of_mem (hd.command p hcmd).1, touchEvent_of_mem hserver.1, hinvokable,
        bind, Except.bind]
      trivial

/-- The loop goes on. -/
theorem good_dispatchLoop (hm : m.Good) {rest : List IrcPlugin}
    (hserver : d.server.Apart (m.servers.map IrcServer.name) m.stack)
    (hrest : Traversal.pending m.bot.plugins rest.head? = rest)
    (hd : d.Ok m.bot.plugins rest.head?) : Good (m.dispatchLoop d rest) := by
  induction rest generalizing d with
  | nil => exact good_dispatchEnd hm hserver hd
  | cons p rest ih =>
    have hnext := Traversal.pending_rest hm.plugins hrest
    simp only [Machine.dispatchLoop, touchEvent_of_mem hserver.1, bind, Except.bind]
    cases hcmd : isCommand d.server p d.ev with
    | true =>
      exact ih hserver hnext (hd.visit_command hrest hcmd)
    | false =>
      rcases invokable_cases m d p with ⟨b, hinvokable⟩ | ⟨f, hinvokable⟩
      · simp only [hinvokable]
        cases b with
        | true =>
          refine hm.push _ (hd.visit_handed hrest hcmd) ?_ (by simp)
          rintro _ ⟨⟩
          exact hserver
        | false => exact ih hserver hnext (hd.visit_refused hrest)
      · simp only [hinvokable]
        trivial

/-- An event is dispatched. -/
theorem good_dispatch (hm : m.Good) {ev : IrcEvent} {removing : Bool}
    (hserver : server.Apart (m.servers.map IrcServer.name) m.stack)
    (haddr : AddressesOne server ev m.bot.plugins) : Good (m.dispatch server ev removing) := by
  -- the hooks are called first, which changes nothing else
  have hhooks : Machine.Good { m with calls := m.calls ++ m.bot.hooks.map (Delivery.hook · ev) } :=
    ⟨hm.plugins, hm.stack, hm.finished⟩
  exact good_dispatchLoop hhooks hserver Traversal.pending_head?
    (.start server ev removing hm.plugins haddr)

theorem addressesOne_disconnect (server : IrcServer) (ps : List IrcPlugin) :
    AddressesOne server .disconnect ps := by
  intro p _ q _ hp
  simp [isCommand] at hp

/-- A plugin that is looked up is there, or the control socket has asked for it. -/
theorem withPlugin_cases {f : IrcPlugin → Machine} {name : CStr} (hnames : Names m name) :
    m.withPlugin name f = .ok m ∨
      ∃ p ∈ m.bot.plugins, p.name = name ∧ m.withPlugin name f = .ok (f p) := by
  unfold Machine.withPlugin
  cases hfind : m.bot.plugins.find? (·.name == name) with
  | some p =>
    exact .inr ⟨p, List.mem_of_find?_eq_some hfind, by simpa using List.find?_some hfind, rfl⟩
  | none =>
    -- nobody who does not check the result has asked
    have hnot : ¬ m.scripted = true := fun hscripted => by
      obtain ⟨p, hp, hname⟩ := List.mem_map.1 (hnames hscripted)
      simpa [hname] using List.find?_eq_none.1 hfind p hp
    exact .inl (if_neg hnot)

/-- A plugin names one that is not loaded. -/
theorem withPlugin_of_not_names {f : IrcPlugin → Machine} {name : CStr} (h : ¬ Names m name) :
    m.withPlugin name f = .error (.missingPlugin name) := by
  obtain ⟨hscripted, hnot⟩ := Classical.not_imp.1 h
  have hfind : m.bot.plugins.find? (·.name == name) = none := by
    refine List.find?_eq_none.2 fun p hp hname => hnot ?_
    exact (beq_iff_eq.1 hname) ▸ List.mem_map_of_mem hp
  simp only [Machine.withPlugin, hfind, if_pos hscripted]

/-- A call of the bot by a plugin. -/
theorem good_perform (hm : m.Good) (c : BotCall) {s' : Except Stop Machine}
    (hspares : Spares (.ok m) (.call c) s') :
    Good (m.perform c) := by
  cases c with
  | serverRemove name =>
    simp only [Machine.perform, Machine.serverRemove]
    cases hfind : m.servers.find? (·.name == name) with
    | none => exact hm
    | some s =>
      have hname : s.name = name := by simpa using List.find?_some hfind
      have hapart : s.Apart (m.servers.map IrcServer.name) m.stack :=
        ⟨List.mem_map_of_mem (List.mem_of_find?_eq_some hfind), hname ▸ hspares⟩
      -- no dispatch on the stack is about the server, so its consumer waits
      have hconsumes : ¬ m.Consumes s.name := by
        rintro ⟨f, hf, d, hd, -, hsame⟩
        exact hapart.2 f hf d hd hsame
      simp only [if_neg hconsumes]
      exact good_dispatch hm hapart (addressesOne_disconnect s _)
  | pluginUnload name =>
    rw [Machine.perform, Machine.pluginRemove]
    rcases withPlugin_cases hspares.1 with heq | ⟨p, hp, hname, heq⟩
    · rw [heq]
      exact hm
    · rw [heq]
      have hawaits := hspares.2 p hp hname
      have hgood : Machine.Good { m with bot := { m.bot with plugins := m.bot.plugins.erase p } } :=
        ⟨hm.plugins.erase p, hm.stack.erase hawaits, hm.finished⟩
      refine hgood.push _ trivial (by simp [Frame.dispatch]) ?_
      rintro _ ⟨⟩ g hg
      exact (hawaits g hg).1
  | pluginReload name =>
    rw [Machine.perform, Machine.pluginReload]
    rcases withPlugin_cases hspares with heq | ⟨p, -, -, heq⟩
    · rw [heq]
      exact hm
    · rw [heq]
      exact hm.push _ trivial (by simp [Frame.dispatch]) (by simp)
  | hookRemove name => exact ⟨hm.plugins, hm.stack, hm.finished⟩
  | rules rules => exact ⟨hm.plugins, hm.stack, hm.finished⟩

/-- A plugin returns. -/
theorem good_resume {f : Frame} {below : List Frame} (hm : m.Good) (hstack : m.stack = f :: below) :
    Good ({ m with stack := below }.resume f) := by
  have hok : StackOk m.bot.plugins (m.servers.map IrcServer.name) (f :: below) := hstack ▸ hm.stack
  obtain ⟨⟨hf, hserver, hunload⟩, hbelow⟩ := hok
  have hgood : Machine.Good { m with stack := below } := ⟨hm.plugins, hbelow, hm.finished⟩
  cases f with
  | loop d p next =>
    have hapart := hserver d rfl
    cases next with
    | none => exact good_dispatchEnd hgood hapart hf
    | some q =>
      have hq : q ∈ m.bot.plugins := hf.cursor.next_mem q rfl
      -- the cached plugin was not unloaded, and the loop goes on from it
      obtain ⟨rest, hrest⟩ := Traversal.exists_pending hq
      have htouch : Machine.touchPlugin { m with stack := below } q = .ok () :=
        touchPlugin_of_mem hq
      simp only [Machine.resume, htouch, hrest, bind, Except.bind]
      exact good_dispatchLoop hgood hapart hrest hf
  | command d p => exact good_dispatchReturn hgood (hserver d rfl) hf
  | unload p =>
    -- no code of the plugin was running when it was unloaded
    have hnot : ¬ ∃ g ∈ below, g.plugin = some p := by
      rintro ⟨g, hg, hp⟩
      exact hunload p rfl g hg hp
    simp only [Machine.resume, if_neg hnot]
    exact hgood
  | reload p => exact hgood
  | outside p => exact hgood

/-- A step that is `Careful` keeps the invariant. -/
theorem Good.step {s s' : Except Stop Machine} {a : BotAct} (hs : Good s)
    (h : botStep s a = some s') (hcareful : Careful s a s') : Good s' := by
  cases s with
  | error e => simp [botStep] at h
  | ok m =>
    have hm : m.Good := hs
    rcases botStep_cases h with ⟨name, ev, server, rfl, hstack, hfind, rfl⟩ | ⟨p, -, -, rfl⟩ |
      ⟨c, rfl, -, rfl⟩ | ⟨f, below, -, hstack, rfl⟩
    · refine good_dispatch hm ⟨List.mem_map_of_mem (List.mem_of_find?_eq_some hfind), ?_⟩
        (hcareful.1 server hfind)
      simp [hstack]
    · exact hm.push _ trivial (by simp [Frame.dispatch]) (by simp)
    · exact good_perform hm c hcareful.2
    · exact good_resume hm hstack

theorem StackOk.once (h : StackOk ps names stack) {f : Frame} (hf : f ∈ stack)
    (hd : d ∈ f.dispatch) : d.handed.Nodup := by
  induction stack with
  | nil => simp at hf
  | cons g below ih =>
    obtain ⟨⟨hg, -⟩, hbelow⟩ := h
    rcases List.mem_cons.1 hf with rfl | hf
    · cases f with
      | loop e p next =>
        obtain rfl := Option.some.inj hd
        exact hg.once
      | command e p =>
        obtain rfl := Option.some.inj hd
        exact hg.once
      | _ => simp [Frame.dispatch] at hd
    · exact ih hbelow hf

theorem Good.reentrant {s : Except Stop Machine} (hs : Good s) : Reentrant s := by
  match s, hs with
  | .ok m, hm => exact ⟨hm.finished, fun f hf d hd => hm.stack.once hf hd⟩
  | .error (.undefined _), _ => trivial

end Step

end Irccd
