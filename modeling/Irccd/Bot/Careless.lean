import Irccd.Bot.Reentrant

/-!
# What becomes of careless handlers

A plugin that makes a call which `Spares` excludes keeps the bot from ever getting back to its event
loop: each function on the stack has to return first, and one of them accesses what was removed, or
destroys what is running.

* `Doomed`: one of the functions on the stack cannot return;
* `reentrant_of_careful`: a run whose steps are `Careful` is `Reentrant`, and a run that gets back
  to the event loop `Spares` at each step.
-/

namespace Irccd

/-- The dispatch comes from `irc_bot_server_remove`, and the server is removed already, or will be
when the dispatch returns although one below is about it too. -/
def Dispatch.Orphan (d : Dispatch) (names : List CStr) (below : List Frame) : Prop :=
  d.removing = true ∧ (d.server.name ∉ names ∨
    ∃ f ∈ below, ∃ e ∈ f.dispatch, e.removing = true ∧ e.server.name = d.server.name)

/-- The function cannot return. -/
def Frame.Doomed (ps : List IrcPlugin) (names : List CStr) (below : List Frame) : Frame → Prop
  | .loop d _ next =>
    (∃ q ∈ next, q ∉ ps) ∨
      (∃ q ∈ d.plgcmd, q ∉ ps ∧ ∀ r ∈ ps, isCommand d.server r d.ev = false) ∨ d.Orphan names below
  | .command d _ => d.Orphan names below
  | .unload p => ∃ f ∈ below, f.plugin = some p
  | _ => False

/-- One of the functions cannot return. -/
def Doomed (ps : List IrcPlugin) (names : List CStr) : List Frame → Prop
  | [] => False
  | f :: below => f.Doomed ps names below ∨ Doomed ps names below

/-- The bot has stopped, or one of the functions on the stack cannot return. -/
def Stranded : Except Stop Machine → Prop
  | .ok m => Doomed m.bot.plugins (m.servers.map IrcServer.name) m.stack
  | .error _ => True

/-- What comes of a dispatch that goes on: a misuse, a call of a plugin, or its return. -/
inductive Outcome (m : Machine) (d : Dispatch) : Except Stop Machine → Prop
  | error (e : Stop) : Outcome m d (.error e)
  | call {f : Frame} {d' : Dispatch} (calls : List Delivery) (hdispatch : f.dispatch = some d')
      (hserver : d'.server = d.server) (hremoving : d'.removing = d.removing) :
      Outcome m d (.ok (m.push f calls))
  | done (calls : List Delivery) (finished : List Finished) (servers : List IrcServer)
      (hkept : d.removing = false → servers = m.servers)
      (hremoved : d.removing = true → d.server.name ∈ m.servers.map IrcServer.name ∧
        servers = m.servers.filter (·.name != d.server.name)) :
      Outcome m d (.ok { m with calls, finished, servers })

section Outcome

variable {m : Machine} {d d' : Dispatch} {s' : Except Stop Machine} {ps ps' : List IrcPlugin}
  {names names' : List CStr} {stack below : List Frame} {p : IrcPlugin}

theorem Outcome.congr (h : Outcome m d' s') (hserver : d'.server = d.server)
    (hremoving : d'.removing = d.removing) : Outcome m d s' := by
  cases h with
  | error e => exact .error e
  | call calls hdispatch hs hr =>
    exact .call calls hdispatch (hs.trans hserver) (hr.trans hremoving)
  | done calls finished servers hkept hremoved =>
    rw [hremoving] at hkept hremoved
    rw [hserver] at hremoved
    exact .done calls finished servers hkept hremoved

/-- A computation comes first, which may stop. -/
theorem Outcome.bind {α : Type} {x : Except Stop α} {f : α → Except Stop Machine}
    (hf : ∀ a, x = .ok a → Outcome m d (f a)) : Outcome m d (x >>= f) := by
  cases x with
  | error e => exact .error e
  | ok a => exact hf a rfl

theorem touchServer_eq_ok_iff {server : IrcServer} {u : Unit} :
    m.touchServer server = .ok u ↔ server.name ∈ m.servers.map IrcServer.name := by
  simp [Machine.touchServer]

/-- The observer changes nothing. -/
theorem eq_of_finish {m' : Machine} (h : m.finish d = .ok m') :
    ∃ calls finished, m' = { m with calls, finished } := by
  unfold Machine.finish at h
  cases hobserved : m.touchObserved d with
  | error e => simp [hobserved, bind, Except.bind] at h
  | ok u =>
    simp only [hobserved, bind, Except.bind, pure, Except.pure, Except.ok.injEq] at h
    exact ⟨_, _, h.symm⟩

theorem outcome_dispatchReturn (m : Machine) (d : Dispatch) : Outcome m d (m.dispatchReturn d) := by
  refine .bind fun m' hfinish => ?_
  obtain ⟨calls, finished, rfl⟩ := eq_of_finish hfinish
  split
  · rename_i hremoving
    refine .bind fun _ htouch => ?_
    exact .done calls finished _ (fun h => by simp [h] at hremoving)
      fun _ => ⟨touchServer_eq_ok_iff.1 htouch, rfl⟩
  · rename_i hremoving
    exact .done calls finished _ (fun _ => rfl) fun h => absurd h hremoving

theorem outcome_dispatchEnd (m : Machine) (d : Dispatch) : Outcome m d (m.dispatchEnd d) := by
  unfold Machine.dispatchEnd
  split
  · exact outcome_dispatchReturn m d
  · refine .bind fun _ _ => .bind fun _ _ => .bind fun b _ => ?_
    split
    · exact .call _ rfl rfl rfl
    · exact (outcome_dispatchReturn m _).congr rfl rfl

theorem outcome_dispatchLoop (m : Machine) (d : Dispatch) (rest : List IrcPlugin) :
    Outcome m d (m.dispatchLoop d rest) := by
  induction rest generalizing d with
  | nil => exact outcome_dispatchEnd m d
  | cons p rest ih =>
    rw [Machine.dispatchLoop]
    refine .bind fun _ _ => ?_
    split
    · exact (ih _).congr rfl rfl
    · refine .bind fun b _ => ?_
      split
      · exact .call _ rfl rfl rfl
      · exact (ih _).congr rfl rfl

theorem outcome_resume_loop (m : Machine) (d : Dispatch) (p : IrcPlugin) (next : Option IrcPlugin) :
    Outcome m d (m.resume (.loop d p next)) := by
  cases next with
  | none => exact outcome_dispatchEnd m d
  | some q => exact .bind fun _ _ => outcome_dispatchLoop m d _

/-! ## Doomed stacks -/

theorem Dispatch.Orphan.mono (h : d.Orphan names below) (hnames : names' ⊆ names) :
    d.Orphan names' below :=
  ⟨h.1, h.2.imp_left fun hnot hmem => hnot (hnames hmem)⟩

/-- Plugins are unloaded and servers are removed, but none is added. -/
theorem Doomed.mono (h : Doomed ps names stack) (hps : ps' ⊆ ps) (hnames : names' ⊆ names) :
    Doomed ps' names' stack := by
  induction stack with
  | nil => exact h
  | cons f below ih =>
    refine h.imp (fun hf => ?_) ih
    cases f with
    | loop d p next =>
      rcases hf with ⟨q, hq, hnot⟩ | ⟨q, hq, hnot, hcmd⟩ | horphan
      · exact .inl ⟨q, hq, fun hmem => hnot (hps hmem)⟩
      · exact .inr (.inl ⟨q, hq, fun hmem => hnot (hps hmem), fun r hr => hcmd r (hps hr)⟩)
      · exact .inr (.inr (horphan.mono hnames))
    | command d p => exact Dispatch.Orphan.mono hf hnames
    | unload p => exact hf
    | _ => exact hf

/-- A dispatch on the stack whose server is removed cannot return. -/
theorem doomed_of_removed {f : Frame} (hf : f ∈ stack) (hd : d ∈ f.dispatch)
    (hremoving : d.removing = true) (hremoved : d.server.name ∉ names) : Doomed ps names stack := by
  induction stack with
  | nil => simp at hf
  | cons g below ih =>
    rcases List.mem_cons.1 hf with rfl | hf
    · refine .inl ?_
      have horphan : d.Orphan names below := ⟨hremoving, .inl hremoved⟩
      cases f with
      | loop e p next =>
        obtain rfl := Option.some.inj hd
        exact .inr (.inr horphan)
      | command e p =>
        obtain rfl := Option.some.inj hd
        exact horphan
      | _ => simp [Frame.dispatch] at hd
    · exact .inr (ih hf)

theorem filter_names_subset (m : Machine) (name : CStr) :
    (m.servers.filter (·.name != name)).map IrcServer.name ⊆ m.servers.map IrcServer.name :=
  List.map_subset _ (List.filter_subset_self _)

/-- What is doomed below a dispatch stays so. -/
theorem Outcome.stranded (h : Outcome m d s')
    (hm : Doomed m.bot.plugins (m.servers.map IrcServer.name) m.stack) : Stranded s' := by
  cases h with
  | error e => trivial
  | call calls => exact .inr hm
  | done calls finished servers hkept hremoved =>
    refine hm.mono (List.Subset.refl _) ?_
    cases hremoving : d.removing with
    | false => exact (hkept hremoving).symm ▸ List.Subset.refl _
    | true => exact (hremoved hremoving).2.symm ▸ filter_names_subset m _

/-- An orphan does not return, or leaves one below. -/
theorem Outcome.stranded_of_orphan (h : Outcome m d s')
    (horphan : d.Orphan (m.servers.map IrcServer.name) m.stack) : Stranded s' := by
  cases h with
  | error e => trivial
  | @call f d' calls hdispatch hserver hremoving =>
    -- the plugin that is called runs above the dispatch, which is an orphan still
    have horphan' : d'.Orphan (m.servers.map IrcServer.name) m.stack := by
      rw [Dispatch.Orphan, hserver, hremoving]
      exact horphan
    refine .inl ?_
    cases f with
    | loop e p next =>
      obtain rfl := Option.some.inj hdispatch
      exact .inr (.inr horphan')
    | command e p =>
      obtain rfl := Option.some.inj hdispatch
      exact horphan'
    | _ => simp [Frame.dispatch] at hdispatch
  | done calls finished servers hkept hremoved =>
    -- the dispatch below is about a server that is removed now
    obtain ⟨hmem, rfl⟩ := hremoved horphan.1
    obtain ⟨f, hf, e, he, hremoving, hsame⟩ := horphan.2.resolve_left (not_not_intro hmem)
    refine doomed_of_removed hf he hremoving ?_
    simp [hsame]

/-- A computation comes first, which may stop. -/
theorem stranded_bind {α : Type} {x : Except Stop α} {f : α → Except Stop Machine}
    (hf : ∀ a, Stranded (f a)) : Stranded (x >>= f) := by
  cases x with
  | error e => trivial
  | ok a => exact hf a

/-- The loop will access the plugin it has in `plgcmd`, and finds no other one for it. -/
theorem stranded_of_plgcmd {q : IrcPlugin} (hplgcmd : d.plgcmd = some q) (hq : q ∉ m.bot.plugins)
    (hcmd : ∀ r ∈ m.bot.plugins, isCommand d.server r d.ev = false) {rest : List IrcPlugin}
    (hrest : rest ⊆ m.bot.plugins) : Stranded (m.dispatchLoop d rest) := by
  induction rest generalizing d with
  | nil =>
    -- at the end of the loop `plgcmd` is accessed
    have htouch : m.touchPlugin q = .error (.removedPlugin q) := if_neg hq
    simp only [Machine.dispatchLoop, Machine.dispatchEnd, hplgcmd, htouch, bind, Except.bind]
    trivial
  | cons p rest ih =>
    obtain ⟨hp, hrest⟩ := List.cons_subset.1 hrest
    rw [Machine.dispatchLoop]
    refine stranded_bind fun _ => ?_
    -- the plugin is not addressed, so `plgcmd` stays as it is
    rw [if_neg (by simp [hcmd p hp])]
    refine stranded_bind fun b => ?_
    split
    · exact .inl (.inr (.inl ⟨q, hplgcmd, hq, hcmd⟩))
    · exact ih hplgcmd hcmd hrest

/-! ## Steps -/

theorem stranded_withPlugin {name : CStr} {f : IrcPlugin → Machine} (hm : Stranded (.ok m))
    (hf : ∀ p, Stranded (.ok (f p))) : Stranded (m.withPlugin name f) := by
  unfold Machine.withPlugin
  split
  · split
    · trivial
    · exact hm
  · exact hf _

/-- A call of the bot leaves what is doomed on the stack. -/
theorem stranded_perform (hm : Doomed m.bot.plugins (m.servers.map IrcServer.name) m.stack)
    (c : BotCall) : Stranded (m.perform c) := by
  cases c with
  | serverRemove name =>
    simp only [Machine.perform, Machine.serverRemove]
    split
    · exact hm
    · split
      · trivial
      · exact (outcome_dispatchLoop _ _ _).stranded hm
  | pluginUnload name =>
    exact stranded_withPlugin hm fun p => .inr (hm.mono List.erase_subset (List.Subset.refl _))
  | pluginReload name => exact stranded_withPlugin hm fun p => .inr hm
  | hookRemove name => exact hm
  | rules rules => exact hm

/-- A function that cannot return does not return. -/
theorem stranded_resume {f : Frame}
    (hf : f.Doomed m.bot.plugins (m.servers.map IrcServer.name) m.stack) :
    Stranded (m.resume f) := by
  cases f with
  | loop d p next =>
    rcases hf with ⟨q, hq, hnot⟩ | ⟨q, hq, hnot, hcmd⟩ | horphan
    · -- the next plugin was unloaded, and is accessed first
      have htouch : m.touchPlugin q = .error (.removedPlugin q) := if_neg hnot
      obtain rfl : next = some q := hq
      simp only [Machine.resume, htouch, bind, Except.bind]
      trivial
    · cases next with
      | none => exact stranded_of_plgcmd hq hnot hcmd (List.nil_subset _)
      | some r =>
        exact stranded_bind fun _ =>
          stranded_of_plgcmd hq hnot hcmd fun _ => Traversal.pending_subset
    · exact (outcome_resume_loop m d p next).stranded_of_orphan horphan
  | command d p => exact (outcome_dispatchReturn m d).stranded_of_orphan hf
  | unload p =>
    -- `irc_plugin_finish` would destroy the plugin while its code runs
    have hrunning : ∃ g ∈ m.stack, g.plugin = some p := hf
    rw [Machine.resume, if_pos hrunning]
    trivial
  | reload p => exact hf.elim
  | outside p => exact hf.elim

/-- Another function than the one that cannot return goes on. -/
theorem stranded_resume_above {f : Frame}
    (hm : Doomed m.bot.plugins (m.servers.map IrcServer.name) m.stack) : Stranded (m.resume f) := by
  cases f with
  | loop d p next => exact (outcome_resume_loop m d p next).stranded hm
  | command d p => exact (outcome_dispatchReturn m d).stranded hm
  | unload p =>
    simp only [Machine.resume]
    split
    · trivial
    · exact hm
  | reload p => exact hm
  | outside p => exact hm

theorem Stranded.step {s s' : Except Stop Machine} {a : BotAct} (hs : Stranded s)
    (h : botStep s a = some s') : Stranded s' := by
  cases s with
  | error e => simp [botStep] at h
  | ok m =>
    have hm : Doomed m.bot.plugins (m.servers.map IrcServer.name) m.stack := hs
    rcases botStep_cases h with ⟨name, ev, server, -, hstack, -, rfl⟩ | ⟨p, -, hstack, rfl⟩ |
      ⟨c, -, -, rfl⟩ | ⟨f, below, -, hstack, rfl⟩
    · exact (hstack ▸ hm : Doomed _ _ []).elim
    · exact (hstack ▸ hm : Doomed _ _ []).elim
    · exact stranded_perform hm c
    · rw [hstack] at hm
      rcases hm with hf | hbelow
      · exact stranded_resume (m := { m with stack := below }) hf
      · exact stranded_resume_above (m := { m with stack := below }) hbelow

/-- The stack is doomed where one of its functions is. -/
theorem doomed_of_mem {f : Frame} (hf : f ∈ stack) (hdoomed : ∀ below, f.Doomed ps names below) :
    Doomed ps names stack := by
  induction stack with
  | nil => simp at hf
  | cons g below ih =>
    rcases List.mem_cons.1 hf with rfl | hf
    · exact .inl (hdoomed below)
    · exact .inr (ih hf)

theorem StackOk.frame (h : StackOk ps names stack) {f : Frame} (hf : f ∈ stack) :
    f.Ok ps ∧ ∀ d ∈ f.dispatch, d.server.name ∈ names := by
  induction stack with
  | nil => simp at hf
  | cons g below ih =>
    obtain ⟨⟨hg, hserver, -⟩, hbelow⟩ := h
    rcases List.mem_cons.1 hf with rfl | hf
    · exact ⟨hg, fun d hd => (hserver d hd).1⟩
    · exact ih hbelow hf

/-- A server is removed whose event is dispatched. -/
theorem stranded_serverRemove (hm : m.Good) {f : Frame} (hf : f ∈ m.stack) (hd : d ∈ f.dispatch) :
    Stranded (m.serverRemove d.server.name) := by
  obtain ⟨s, hs, hname⟩ := List.mem_map.1 ((hm.stack.frame hf).2 d hd)
  unfold Machine.serverRemove
  cases hfind : m.servers.find? (·.name == d.server.name) with
  | none => simpa [hname] using List.find?_eq_none.1 hfind s hs
  | some t =>
    have htname : t.name = d.server.name := by simpa using List.find?_some hfind
    by_cases hconsumes : m.Consumes t.name
    · simp only [if_pos hconsumes]
      trivial
    · -- the dispatch on the stack is that of another removal of the server
      have hremoving : d.removing = true := by
        by_contra hnot
        exact hconsumes ⟨f, hf, d, hd, by simpa using hnot, htname.symm⟩
      simp only [if_neg hconsumes]
      exact (outcome_dispatchLoop _ _ _).stranded_of_orphan
        ⟨rfl, .inr ⟨f, hf, d, hd, hremoving, htname.symm⟩⟩

/-- A plugin is unloaded that is running, or that a dispatch will access. -/
theorem stranded_pluginRemove (hm : m.Good) (hp : p ∈ m.bot.plugins) {f : Frame} (hf : f ∈ m.stack)
    (hcareless : f.plugin = some p ∨ p ∈ f.awaits) : Stranded (m.pluginRemove p.name) := by
  have hfind : m.bot.plugins.find? (·.name == p.name) = some p := by
    obtain ⟨q, hq⟩ := Option.isSome_iff_exists.1
      (List.find?_isSome (p := fun r : IrcPlugin => r.name == p.name).2 ⟨p, hp, by simp⟩)
    have hname : q.name = p.name := by simpa using List.find?_some hq
    have hqp : q = p := by
      cases q
      cases p
      exact congrArg IrcPlugin.mk hname
    rwa [hqp] at hq
  -- a plugin is in the list once, so it is gone
  have hnot : p ∉ m.bot.plugins.erase p := hm.plugins.not_mem_erase
  simp only [Machine.pluginRemove, Machine.withPlugin, hfind]
  rcases hcareless with hrunning | hawaits
  · exact .inl ⟨f, hf, hrunning⟩
  · refine .inr (doomed_of_mem hf fun below => ?_)
    cases f with
    | loop d q next =>
      rcases List.mem_append.1 hawaits with hnext | hplgcmd
      · exact .inl ⟨p, Option.mem_toList.1 hnext, hnot⟩
      · have hd : d.Ok m.bot.plugins next := (hm.stack.frame hf).1
        have hcmd := (hd.command p (Option.mem_toList.1 hplgcmd)).2.2
        refine .inr (.inl ⟨p, Option.mem_toList.1 hplgcmd, hnot, fun r hr => ?_⟩)
        by_contra hrcmd
        have hrp : r = p :=
          hd.addresses r (List.mem_of_mem_erase hr) p hp (by simpa using hrcmd) hcmd
        exact hnot (hrp ▸ hr)
    | _ => simp [Frame.awaits] at hawaits

/-- A call that `Spares` excludes strands the bot. -/
theorem stranded_of_not_spares {s s' : Except Stop Machine} {a : BotAct} (hs : Good s)
    (h : botStep s a = some s') (hcareless : ¬ Spares s a s') : Stranded s' := by
  cases s with
  | error e => simp [botStep] at h
  | ok m =>
    have hm : m.Good := hs
    cases a with
    | call c =>
      rcases botStep_cases h with ⟨_, _, _, hc, -⟩ | ⟨_, hc, -⟩ | ⟨c', hc, -, rfl⟩ | ⟨_, _, hc, -⟩
      · cases hc
      · exact absurd rfl (hc c)
      · obtain rfl := BotAct.call.inj hc
        cases c with
        | serverRemove name =>
          simp only [Spares, not_forall, not_not, exists_prop] at hcareless
          obtain ⟨f, hf, d, hd, rfl⟩ := hcareless
          exact stranded_serverRemove hm hf hd
        | pluginUnload name =>
          rw [Spares, not_and_or] at hcareless
          rcases hcareless with hnames | hcareless
          · rw [Machine.perform, Machine.pluginRemove, withPlugin_of_not_names hnames]
            trivial
          · simp only [not_forall, exists_prop] at hcareless
            obtain ⟨p, hp, rfl, f, hf, hnot⟩ := hcareless
            exact stranded_pluginRemove hm hp hf (by tauto)
        | pluginReload name =>
          rw [Machine.perform, Machine.pluginReload, withPlugin_of_not_names hcareless]
          trivial
        | _ => exact absurd trivial hcareless
      · cases hc
    | _ => exact absurd trivial hcareless

/-- A bot that is stranded does not get back to its event loop. -/
theorem Stranded.stack_ne_nil {s : Except Stop Machine} (hs : Stranded s) {as : List BotAct}
    {t : Machine} (hexec : Runs.exec botStep s as = some (.ok t)) : t.stack ≠ [] := by
  induction as generalizing s with
  | nil =>
    obtain rfl : s = .ok t := by simpa using hexec
    intro hnil
    have hdoomed : Doomed _ _ t.stack := hs
    rw [hnil] at hdoomed
    exact hdoomed
  | cons a as ih =>
    rw [Runs.exec_cons, Option.bind_eq_some_iff] at hexec
    obtain ⟨s', hstep, hrest⟩ := hexec
    exact ih (hs.step hstep) hrest

/-- A run that gets back to the event loop was `Careful`, if it is `Addressed`. -/
theorem spares_of_exec {s : Except Stop Machine} (hs : Good s) {as : List BotAct} {t : Machine}
    (haddressed : Runs.AllSteps botStep Addressed s as)
    (hexec : Runs.exec botStep s as = some (.ok t)) (hidle : t.stack = []) :
    Runs.AllSteps botStep Spares s as := by
  induction as generalizing s with
  | nil => trivial
  | cons a as ih =>
    intro s' hstep
    obtain ⟨haddr, hrest⟩ := haddressed s' hstep
    have hexec' : Runs.exec botStep s' as = some (.ok t) := by simpa [hstep] using hexec
    -- a step that does not spare strands the bot, which then never gets back
    have hspares : Spares s a s' := by
      by_contra hcareless
      exact (stranded_of_not_spares hs hstep hcareless).stack_ne_nil hexec' hidle
    exact ⟨hspares, ih (hs.step hstep ⟨haddr, hspares⟩) hrest hexec'⟩

end Outcome

/-- The bot in its event loop. -/
def Machine.start (bot : IrcBot) (servers : List IrcServer) : Machine := ⟨bot, servers, [], [], []⟩

/-- A run is `Reentrant` if its steps are `Careful`. One that gets back to the event loop has to be,
as far as the calls of the bot are concerned. -/
theorem reentrant_of_careful (bot : IrcBot) (servers : List IrcServer) (as : List BotAct)
    (hnames : (bot.plugins.map IrcPlugin.name).Nodup) :
    (Runs.AllSteps botStep Careful (.ok (Machine.start bot servers)) as →
      Runs.AllStates botStep Reentrant (.ok (Machine.start bot servers)) as) ∧
    (Runs.AllSteps botStep Addressed (.ok (Machine.start bot servers)) as →
      ∀ t, Runs.exec botStep (.ok (Machine.start bot servers)) as = some (.ok t) → t.stack = [] →
        Runs.AllSteps botStep Spares (.ok (Machine.start bot servers)) as) := by
  have hgood : Good (.ok (Machine.start bot servers)) :=
    ⟨.of_map _ hnames, trivial, by simp [Machine.start]⟩
  refine ⟨fun hcareful => ?_, fun haddressed t hexec hidle => ?_⟩
  · exact (Runs.AllStates.of_allSteps (fun _ _ _ => Good.step) hgood hcareful).mono
      fun _ => Good.reentrant
  · exact spares_of_exec hgood haddressed hexec hidle

/-- A bot with three plugins. -/
def trioBot : IrcBot where
  plugins := [⟨cstr "first"⟩, ⟨cstr "second"⟩, ⟨cstr "third"⟩]
  hooks := []
  rules := []
  observer := true

/-- The bot with two servers. -/
def trio : Except Stop Machine :=
  .ok (Machine.start trioBot [localServer, { localServer with name := cstr "other" }])

/-- A message on one of the servers. -/
def hello : BotAct :=
  .event (cstr "local") (.message ⟨cstr "jean!j@localhost", cstr "#staff", cstr "hello"⟩)

/-- The plugin `first` may unload `third` and remove the other server. -/
theorem reentrant_trio :
    Runs.AllStates botStep Reentrant trio
      [hello, .call (.pluginUnload (cstr "third")), .ret, .call (.serverRemove (cstr "other")),
        .ret, .ret, .ret, .ret] :=
  (reentrant_of_careful trioBot _ _ (by decide)).1 (by decide +kernel)

/-- The plugin `first` unloads `second`, which `irc_bot_dispatch` has cached. -/
theorem not_reentrant_unloadNext :
    (trioBot.plugins.map IrcPlugin.name).Nodup ∧
      ¬ Runs.AllStates botStep Reentrant trio
        [hello, .call (.pluginUnload (cstr "second")), .ret, .ret] := by
  refine ⟨by decide, fun h => ?_⟩
  have hexec : Runs.exec botStep trio
      [hello, .call (.pluginUnload (cstr "second")), .ret, .ret] =
        some (.error (.removedPlugin ⟨cstr "second"⟩)) := rfl
  exact h.last hexec

end Irccd
