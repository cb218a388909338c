import Mathlib.Data.List.Induction
import Irccd.Conf.Grammar
import Irccd.Peer.Safety

/-!
# From the configuration file to the bot (`conf.c`)

When the file has been read, its parts are handed to the bot, kind by kind.

* `ConfSection.Ok`, `ConfSection.key`: what a section needs by itself, and what it claims for
  itself;
* `Acceptable`: a list of sections that `conf_open` does not refuse;
* `confMeaning_eq_some_iff`: what it makes of them, each kind by itself;
* `Conf.apply`: the functions `conf_apply_*`;
* `confOpen_configures`: the bot that a file sets up, or the refusal of the file.
-/

namespace Irccd

/-! ## Sections by themselves -/

/-- What only one section may claim: the name of a server, of a hook or of a plugin, or the
transport. -/
inductive SectionKey
  | server (name : CStr)
  | hook (name : CStr)
  | plugin (name : CStr)
  | transport
  deriving DecidableEq

/-- What the log functions are told. -/
structure LogSetup where
  type : LogType := .console
  path : Option CStr := none
  level : ℤ := 0
  template : Option CStr := none

/-- The arguments of `transport_start`. -/
structure TransportSetup where
  path : CStr
  uid : ℤ
  gid : ℤ

namespace ConfSection

/-- What a section claims. -/
def key : ConfSection → Option SectionKey
  | server name _ => some (.server name)
  | hook name _ => some (.hook name)
  | plugin name _ _ => some (.plugin name)
  | transport _ _ => some .transport
  | _ => none

/-- The server of a section, if it is complete. -/
def serverOf : ConfSection → Option ConfServer
  | server name ds => (serverMeaning name ds).filter fun s => s.check.isOk
  | _ => none

/-- The rule of a section. -/
def ruleOf : ConfSection → Option IrcRule
  | rule action block => (block.getD []).foldlM Criteria.meaning (ircRuleNew action)
  | _ => none

/-- The hook of a section. -/
def hookOf : ConfSection → Option Hook
  | hook name path => some { name, path }
  | _ => none

/-- The plugin of a section, if it can be found and is not loaded. -/
def pluginOf (env : ConfEnv) : ConfSection → Option Plugin
  | plugin name location block =>
    if env.loaded name then none
    else (env.search name location).bind fun plg =>
      (block.getD []).foldlM PluginDirective.meaning plg
  | _ => none

/-- The transport of a section. -/
def transportOf (env : ConfEnv) : ConfSection → Option TransportSetup
  | transport none path => some ⟨path, -1, -1⟩
  | transport (some (uid, gid)) path =>
    (resolve env.getpwnam uid).bind fun uid =>
      (resolve env.getgrnam gid).map fun gid => ⟨path, uid, gid⟩
  | _ => none

/-- What a section makes of the setup of the logs. -/
def logOf (setup : LogSetup) : ConfSection → LogSetup
  | log _ verbose template sink =>
    let setup := { setup with
      level := match verbose with
        | none => setup.level
        | some true => 1
        | some false => 0
      template := template.or setup.template }
    match sink with
    | .console => { setup with type := .console }
    | .syslog => { setup with type := .syslog }
    | .file path => { setup with type := .file, path := some path }
  | _ => setup

/-- What a section needs by itself. -/
def Ok (env : ConfEnv) (s : ConfSection) : Prop :=
  match s with
  | server _ _ => s.serverOf.isSome
  | rule _ _ => s.ruleOf.isSome
  | plugin _ _ _ => (s.pluginOf env).isSome
  | transport _ _ => (s.transportOf env).isSome
  | _ => True

end ConfSection

/-- Sections that are right by themselves, none of which claims what another one has. -/
structure Acceptable (env : ConfEnv) (ss : List ConfSection) : Prop where
  ok : ∀ s ∈ ss, s.Ok env
  keys : (ss.filterMap ConfSection.key).Nodup

/-- The transport of `struct conf`. -/
def Conf.transport (conf : Conf) : Option TransportSetup :=
  conf.tpt.map fun path => ⟨path, conf.tptUid, conf.tptGid⟩

/-- The setup of the logs of `struct conf`. -/
def Conf.log (conf : Conf) : LogSetup :=
  ⟨conf.logType, conf.logFile, conf.logLevel, conf.logTemplate⟩

/-- `struct conf` has what the sections say, each kind by itself and in order. -/
structure Reads (env : ConfEnv) (ss : List ConfSection) (conf : Conf) : Prop where
  servers : conf.servers = ss.filterMap ConfSection.serverOf
  rules : conf.rules = ss.filterMap ConfSection.ruleOf
  hooks : conf.hooks = ss.filterMap ConfSection.hookOf
  plugins : conf.plugins = ss.filterMap (ConfSection.pluginOf env)
  transport : conf.transport = (ss.filterMap (ConfSection.transportOf env)).head?
  log : conf.log = ss.foldl ConfSection.logOf {}

/-! ## One section more -/

section Sections

variable {env : ConfEnv} {ss : List ConfSection} {s : ConfSection} {conf conf' : Conf}

/-- A directive does not change the name of its server. -/
theorem ServerDirective.name_meaning {server server' : ConfServer} {d : ServerDirective}
    (h : d.meaning server = some server') : server'.name = server.name := by
  cases d with
  | port value =>
    rw [ServerDirective.meaning] at h
    split at h
    · split at h
      · obtain rfl := Option.some.inj h
        rfl
      · cases h
    · cases h
  | join channel ne =>
    obtain rfl := Option.some.inj h
    rw [ConfServer.join]
    split <;> rfl
  | joinWith channel key =>
    obtain rfl := Option.some.inj h
    rw [ConfServer.join]
    split <;> rfl
  | ctcp pairs =>
    obtain rfl := Option.some.inj h
    induction pairs generalizing server with
    | nil => rfl
    | cons v pairs ih =>
      rw [List.foldl_cons]
      refine (ih rfl).trans ?_
      rw [ConfServer.setCtcp]
      split
      · rfl
      · split <;> rfl
  | options names =>
    obtain ⟨flags, -, rfl⟩ := Option.map_eq_some_iff.1 h
    rfl
  | optionsBlock names => cases h
  | _ =>
    obtain rfl := Option.some.inj h
    rfl

theorem name_of_foldlM {ds : List ServerDirective} {server server' : ConfServer}
    (h : ds.foldlM ServerDirective.meaning server = some server') : server'.name = server.name := by
  induction ds generalizing server with
  | nil =>
    obtain rfl := Option.some.inj h
    rfl
  | cons d ds ih =>
    rw [List.foldlM_cons] at h
    obtain ⟨next, hd, hds⟩ := Option.bind_eq_some_iff.1 h
    exact (ih hds).trans (ServerDirective.name_meaning hd)

theorem name_of_pluginMeaning {ds : List PluginDirective} {plg plg' : Plugin}
    (h : ds.foldlM PluginDirective.meaning plg = some plg') : plg'.name = plg.name := by
  have hpairs (kind : VarKind) (pairs : List (CStr × CStr)) (plg : Plugin) :
      (pairs.foldl (fun plg v => plg.set kind v.1 v.2) plg).name = plg.name := by
    induction pairs generalizing plg with
    | nil => rfl
    | cons v pairs ih => exact ih (plg.set kind v.1 v.2)
  induction ds generalizing plg with
  | nil =>
    obtain rfl := Option.some.inj h
    rfl
  | cons d ds ih =>
    rw [List.foldlM_cons] at h
    obtain ⟨next, hd, hds⟩ := Option.bind_eq_some_iff.1 h
    obtain ⟨kind, -, rfl⟩ := Option.map_eq_some_iff.1 hd
    exact (ih hds).trans (hpairs kind d.pairs plg)

/-- What is taken in `struct conf`. -/
def Taken (conf : Conf) : SectionKey → Prop
  | .server name => conf.servers.any (·.name == name) = true
  | .hook name => conf.hooks.any (·.name == name) = true
  | .plugin name => conf.plugins.any (·.name == name) = true
  | .transport => conf.tpt.isSome = true

/-- What a section adds. -/
structure Adds (env : ConfEnv) (conf : Conf) (s : ConfSection) (conf' : Conf) : Prop where
  servers : conf'.servers = conf.servers ++ s.serverOf.toList
  rules : conf'.rules = conf.rules ++ s.ruleOf.toList
  hooks : conf'.hooks = conf.hooks ++ s.hookOf.toList
  plugins : conf'.plugins = conf.plugins ++ (s.pluginOf env).toList
  transport : conf'.transport = conf.transport.or (s.transportOf env)
  log : conf'.log = s.logOf conf.log

/-- A section that is right, and claims nothing that is taken, adds what it says. -/
theorem exists_meaning (hok : s.Ok env) (hfree : ∀ k ∈ s.key, ¬ Taken conf k) :
    ∃ conf', s.meaning env conf = some conf' ∧ Adds env conf s conf' := by
  cases s with
  | log plural verbose template sink =>
    refine ⟨_, rfl, ?_⟩
    rcases verbose with _ | _ | _ <;> cases template <;> cases sink <;>
      exact ⟨(List.append_nil _).symm, (List.append_nil _).symm, (List.append_nil _).symm,
        (List.append_nil _).symm, (Option.or_none).symm, rfl⟩
  | transport owner path =>
    have hnone : conf.tpt = none := by simpa [Taken] using hfree .transport rfl
    have htransport : conf.transport = none := by rw [Conf.transport, hnone]; rfl
    have hmeaning : ConfSection.meaning env conf (.transport owner path) =
        (ownerMeaning env conf owner).map fun conf => { conf with tpt := some path } := by
      rw [ConfSection.meaning, hnone]
      rfl
    cases owner with
    | none =>
      refine ⟨_, hmeaning, (List.append_nil _).symm, (List.append_nil _).symm,
        (List.append_nil _).symm, (List.append_nil _).symm, ?_, rfl⟩
      rw [htransport]
      rfl
    | some owner =>
      obtain ⟨uid, gid⟩ := owner
      obtain ⟨setup, hsetup⟩ := Option.isSome_iff_exists.1 hok
      obtain ⟨u, hu, hsetup'⟩ := Option.bind_eq_some_iff.1 hsetup
      obtain ⟨g, hg, rfl⟩ := Option.map_eq_some_iff.1 hsetup'
      refine ⟨{ conf with tptUid := u, tptGid := g, tpt := some path }, ?_,
        (List.append_nil _).symm, (List.append_nil _).symm, (List.append_nil _).symm,
        (List.append_nil _).symm, ?_, rfl⟩
      · rw [hmeaning, ownerMeaning, hu, hg]
        rfl
      · rw [htransport, hsetup]
        rfl
  | hook name path =>
    have hnew : ¬ conf.hooks.any (·.name == name) = true := hfree (.hook name) rfl
    exact ⟨_, if_neg hnew, (List.append_nil _).symm, (List.append_nil _).symm, rfl,
      (List.append_nil _).symm, (Option.or_none).symm, rfl⟩
  | server name ds =>
    have hnew : ¬ conf.servers.any (·.name == name) = true := hfree (.server name) rfl
    obtain ⟨server, hserver⟩ := Option.isSome_iff_exists.1 hok
    obtain ⟨hmeaning, hcheck⟩ := Option.filter_eq_some_iff.1 hserver
    refine ⟨{ conf with servers := conf.servers ++ [server] }, ?_, by rw [hserver]; rfl,
      (List.append_nil _).symm, (List.append_nil _).symm, (List.append_nil _).symm,
      (Option.or_none).symm, rfl⟩
    rw [ConfSection.meaning, if_neg hnew, hmeaning, Option.bind_some]
    cases hs : server.check with
    | ok => rfl
    | error => rw [hs] at hcheck; cases hcheck
  | rule action block =>
    obtain ⟨rule, hrule⟩ := Option.isSome_iff_exists.1 hok
    refine ⟨{ conf with rules := conf.rules ++ [rule] }, ?_, (List.append_nil _).symm,
      by rw [hrule]; rfl, (List.append_nil _).symm, (List.append_nil _).symm,
      (Option.or_none).symm, rfl⟩
    rw [ConfSection.meaning, show (block.getD []).foldlM Criteria.meaning (ircRuleNew action) = _
      from hrule]
    rfl
  | plugin name location block =>
    have hnew : ¬ conf.plugins.any (·.name == name) = true := hfree (.plugin name) rfl
    obtain ⟨plg, hplg⟩ := Option.isSome_iff_exists.1 hok
    refine ⟨{ conf with plugins := conf.plugins ++ [plg] }, ?_, (List.append_nil _).symm,
      (List.append_nil _).symm, (List.append_nil _).symm, by rw [hplg]; rfl,
      (Option.or_none).symm, rfl⟩
    have hmeaning : pluginMeaning env conf name location (block.getD []) = some plg := by
      rw [ConfSection.pluginOf] at hplg
      rw [pluginMeaning]
      by_cases hloaded : env.loaded name = true
      · rw [if_pos hloaded] at hplg
        cases hplg
      · rw [if_neg hloaded] at hplg
        rw [if_neg (not_or.2 ⟨hnew, hloaded⟩)]
        exact hplg
    rw [ConfSection.meaning, hmeaning]
    rfl
  | other topic notMem =>
    exact ⟨conf, rfl, (List.append_nil _).symm, (List.append_nil _).symm,
      (List.append_nil _).symm, (List.append_nil _).symm, (Option.or_none).symm, rfl⟩

/-- Every other section is refused. -/
theorem meaning_eq_none (hbad : ¬ (s.Ok env ∧ ∀ k ∈ s.key, ¬ Taken conf k)) :
    s.meaning env conf = none := by
  by_contra hsome
  obtain ⟨conf', hmeaning⟩ := Option.ne_none_iff_exists'.1 hsome
  refine hbad ?_
  have hnone : ∀ k ∈ (none : Option SectionKey), ¬ Taken conf k :=
    fun k hk => absurd hk (Option.not_mem_none k)
  cases s with
  | log plural verbose template sink => exact ⟨trivial, hnone⟩
  | transport owner path =>
    rw [ConfSection.meaning] at hmeaning
    split at hmeaning
    · cases hmeaning
    · rename_i hfree
      refine ⟨?_, fun k hk => ?_⟩
      · cases owner with
        | none => rfl
        | some owner =>
          obtain ⟨middle, hmiddle, -⟩ := Option.map_eq_some_iff.1 hmeaning
          obtain ⟨u, hu, hmiddle⟩ := Option.bind_eq_some_iff.1 hmiddle
          obtain ⟨g, hg, -⟩ := Option.map_eq_some_iff.1 hmiddle
          refine Option.isSome_iff_exists.2 ⟨⟨path, u, g⟩, ?_⟩
          rw [ConfSection.transportOf, hu, hg]
          rfl
      · obtain rfl := Option.some.inj hk
        exact hfree
  | hook name path =>
    rw [ConfSection.meaning] at hmeaning
    split at hmeaning
    · cases hmeaning
    · rename_i hfree
      refine ⟨trivial, fun k hk => ?_⟩
      obtain rfl := Option.some.inj hk
      exact hfree
  | server name ds =>
    rw [ConfSection.meaning] at hmeaning
    split at hmeaning
    · cases hmeaning
    · rename_i hfree
      obtain ⟨server, hserver, hcheck⟩ := Option.bind_eq_some_iff.1 hmeaning
      refine ⟨Option.isSome_iff_exists.2 ⟨server, Option.filter_eq_some_iff.2 ⟨hserver, ?_⟩⟩,
        fun k hk => ?_⟩
      · cases hs : server.check with
        | ok => rfl
        | error => rw [hs] at hcheck; cases hcheck
      · obtain rfl := Option.some.inj hk
        exact hfree
  | rule action block =>
    obtain ⟨rule, hrule, -⟩ := Option.map_eq_some_iff.1 hmeaning
    exact ⟨Option.isSome_iff_exists.2 ⟨rule, hrule⟩, hnone⟩
  | plugin name location block =>
    obtain ⟨plg, hplg, -⟩ := Option.map_eq_some_iff.1 hmeaning
    rw [pluginMeaning] at hplg
    split at hplg
    · cases hplg
    · rename_i hfree
      obtain ⟨hnew, hloaded⟩ := not_or.1 hfree
      refine ⟨Option.isSome_iff_exists.2 ⟨plg, (if_neg hloaded).trans hplg⟩, fun k hk => ?_⟩
      obtain rfl := Option.some.inj hk
      exact hnew
  | other topic notMem => exact ⟨trivial, hnone⟩

/-! ## All sections -/

theorem filterMap_snoc {β : Type} (f : ConfSection → Option β) (ss : List ConfSection)
    (s : ConfSection) : (ss ++ [s]).filterMap f = ss.filterMap f ++ (f s).toList := by
  rw [List.filterMap_append]
  congr 1

/-- What is read goes on with what a section adds. -/
theorem Reads.snoc (h : Reads env ss conf) (hadds : Adds env conf s conf') :
    Reads env (ss ++ [s]) conf' where
  servers := by rw [hadds.servers, h.servers, filterMap_snoc]
  rules := by rw [hadds.rules, h.rules, filterMap_snoc]
  hooks := by rw [hadds.hooks, h.hooks, filterMap_snoc]
  plugins := by rw [hadds.plugins, h.plugins, filterMap_snoc]
  transport := by
    rw [hadds.transport, h.transport, filterMap_snoc]
    cases ss.filterMap (ConfSection.transportOf env) with
    | nil => cases s.transportOf env <;> rfl
    | cons setup rest => rfl
  log := by rw [hadds.log, h.log, List.foldl_append]; rfl

/-- A plugin is found under its own name. -/
def FindsByName (env : ConfEnv) : Prop :=
  ∀ name location plg, env.search name location = some plg → plg.name = name

/-- A value of some kind is taken if and only if a section has claimed it. -/
theorem any_name_iff {α : Type} (of : ConfSection → Option α) (key : CStr → SectionKey)
    {name : α → CStr} (hok : ∀ s ∈ ss, s.Ok env)
    (hkey : ∀ s a, of s = some a → s.key = some (key (name a)))
    (hof : ∀ s n, s.Ok env → s.key = some (key n) → (of s).isSome = true)
    (hinj : ∀ m n, key m = key n → m = n) (n : CStr) :
    (ss.filterMap of).any (name · == n) = true ↔ key n ∈ ss.filterMap ConfSection.key := by
  rw [List.any_eq_true]
  constructor
  · rintro ⟨a, ha, hname⟩
    obtain ⟨s, hs, hsa⟩ := List.mem_filterMap.1 ha
    exact List.mem_filterMap.2 ⟨s, hs, beq_iff_eq.1 hname ▸ hkey s a hsa⟩
  · intro hn
    obtain ⟨s, hs, hsn⟩ := List.mem_filterMap.1 hn
    obtain ⟨a, ha⟩ := Option.isSome_iff_exists.1 (hof s n (hok s hs) hsn)
    refine ⟨a, List.mem_filterMap.2 ⟨s, hs, ha⟩, beq_iff_eq.2 (hinj _ _ ?_)⟩
    exact Option.some.inj ((hkey s a ha).symm.trans hsn)

/-- A section claims the name of its plugin. -/
theorem key_of_pluginOf (hfinds : FindsByName env) {plg : Plugin}
    (h : s.pluginOf env = some plg) : s.key = some (.plugin plg.name) := by
  cases s with
  | plugin name location block =>
    rw [ConfSection.pluginOf] at h
    split at h
    · cases h
    · obtain ⟨found, hfound, h⟩ := Option.bind_eq_some_iff.1 h
      rw [name_of_pluginMeaning h, hfinds name location found hfound]
      rfl
  | _ => cases h

/-- What is taken is what the sections have claimed. -/
theorem Reads.taken_iff (h : Reads env ss conf) (hfinds : FindsByName env)
    (hok : ∀ s ∈ ss, s.Ok env) (k : SectionKey) :
    Taken conf k ↔ k ∈ ss.filterMap ConfSection.key := by
  cases k with
  | server n =>
    rw [Taken, h.servers]
    refine any_name_iff ConfSection.serverOf .server hok (fun s a hs => ?_)
      (fun s n hs hkey => ?_) (fun m n heq => by cases heq; rfl) n
    · cases s <;> try cases hs
      obtain ⟨hmeaning, -⟩ := Option.filter_eq_some_iff.1 hs
      rw [name_of_foldlM hmeaning]
      rfl
    · cases s <;> try cases hkey
      exact hs
  | hook n =>
    rw [Taken, h.hooks]
    refine any_name_iff ConfSection.hookOf .hook hok (fun s a hs => ?_)
      (fun s n hs hkey => ?_) (fun m n heq => by cases heq; rfl) n
    · cases s <;> cases hs
      rfl
    · cases s <;> cases hkey
      rfl
  | plugin n =>
    rw [Taken, h.plugins]
    refine any_name_iff (ConfSection.pluginOf env) .plugin hok
      (fun s a hs => key_of_pluginOf hfinds hs) (fun s n hs hkey => ?_)
      (fun m n heq => by cases heq; rfl) n
    cases s <;> try cases hkey
    exact hs
  | transport =>
    have htpt : Taken conf .transport ↔ conf.transport.isSome = true := by
      rw [Taken, Conf.transport, Option.isSome_map]
    rw [htpt, h.transport, Option.isSome_iff_exists]
    constructor
    · rintro ⟨setup, hsetup⟩
      obtain ⟨s, hs, hs'⟩ := List.mem_filterMap.1 (List.mem_of_head? hsetup)
      refine List.mem_filterMap.2 ⟨s, hs, ?_⟩
      cases s <;> try cases hs'
      rfl
    · intro hkey
      obtain ⟨s, hs, hskey⟩ := List.mem_filterMap.1 hkey
      have hsome : (s.transportOf env).isSome = true := by
        have hsok := hok s hs
        cases s <;> try cases hskey
        exact hsok
      obtain ⟨setup, hsetup⟩ := Option.isSome_iff_exists.1 hsome
      have hmem : setup ∈ ss.filterMap (ConfSection.transportOf env) :=
        List.mem_filterMap.2 ⟨s, hs, hsetup⟩
      cases hall : ss.filterMap (ConfSection.transportOf env) with
      | nil => rw [hall] at hmem; cases hmem
      | cons first rest => exact ⟨first, rfl⟩

/-- The sections are read in full, or refused. -/
theorem confMeaning_cases (hfinds : FindsByName env) (ss : List ConfSection) :
    (Acceptable env ss → ∃ conf, confMeaning env {} ss = some conf ∧ Reads env ss conf) ∧
      (¬ Acceptable env ss → confMeaning env {} ss = none) := by
  -- by induction on the file, from its end
  induction ss using List.reverseRecOn with
  | nil =>
    refine ⟨fun _ => ⟨{}, rfl, rfl, rfl, rfl, rfl, rfl, rfl⟩, fun hbad => ?_⟩
    exact absurd ⟨fun s hs => absurd hs List.not_mem_nil, List.nodup_nil⟩ hbad
  | append_singleton ss s ih =>
    have hsnoc : confMeaning env {} (ss ++ [s]) = (confMeaning env {} ss).bind fun conf =>
        s.meaning env conf := by
      rw [confMeaning, List.foldlM_append]
      refine congrArg _ (funext fun conf => ?_)
      rw [List.foldlM_cons]
      exact Option.bind_fun_some (s.meaning env conf)
    have hkeys : (ss ++ [s]).filterMap ConfSection.key =
        ss.filterMap ConfSection.key ++ s.key.toList := filterMap_snoc _ ss s
    by_cases hss : Acceptable env ss
    · obtain ⟨conf, hconf, hreads⟩ := ih.1 hss
      have hlast : Acceptable env (ss ++ [s]) ↔ s.Ok env ∧ ∀ k ∈ s.key, ¬ Taken conf k := by
        have htaken := hreads.taken_iff hfinds hss.ok
        constructor
        · rintro ⟨hok, hnodup⟩
          rw [hkeys] at hnodup
          refine ⟨hok s (List.mem_append_right _ (List.mem_singleton_self s)), fun k hk => ?_⟩
          rw [htaken]
          intro hmem
          exact (List.nodup_append.1 hnodup).2.2 k hmem k (Option.mem_toList.2 hk) rfl
        · rintro ⟨hok, hfree⟩
          refine ⟨fun s' hs' => ?_, ?_⟩
          · rcases List.mem_append.1 hs' with hs' | hs'
            · exact hss.ok s' hs'
            · rwa [List.mem_singleton.1 hs']
          · rw [hkeys, List.nodup_append]
            refine ⟨hss.keys, ?_, fun k hk k' hk' heq => ?_⟩
            · cases s.key <;> simp
            · exact hfree k' (Option.mem_toList.1 hk') ((htaken k').2 (heq ▸ hk))
      rw [hsnoc, hconf, Option.bind_some, hlast]
      refine ⟨fun hgood => ?_, meaning_eq_none⟩
      obtain ⟨conf', hmeaning, hadds⟩ := exists_meaning hgood.1 hgood.2
      exact ⟨conf', hmeaning, hreads.snoc hadds⟩
    · have hbad : ¬ Acceptable env (ss ++ [s]) := fun hall =>
        hss ⟨fun s' hs' => hall.ok s' (List.mem_append_left _ hs'), by
          have hnodup := hall.keys
          rw [hkeys] at hnodup
          exact (List.nodup_append.1 hnodup).1⟩
      rw [hsnoc, ih.2 hss]
      exact ⟨fun hall => absurd hall hbad, fun _ => rfl⟩

end Sections

/-! ## The bot -/

/-- The server that `irc_server_connect` asserts: it has a host, a port and an identity. -/
def ConfServer.botServer (server : ConfServer) : Option BotServer :=
  match server.hostname, server.nickname, server.username, server.realname with
  | some hostname, some nickname, some username, some realname =>
    if h : server.port ≠ 0 then
      some ⟨Sys.start { ircServerNew server.name nickname username realname with
        pfx := server.pfx
        password := server.password
        ctcpVersion := some server.ctcpVersion
        ctcpSource := some server.ctcpSource
        flags := server.flags
        channels := server.channels }, hostname, server.port, h⟩
    else none
  | _, _, _, _ => none

/-- What `conf_open` has set up: the daemon, and what it told the logs and the transport. -/
structure Setup where
  log : LogSetup
  daemon : Daemon
  transport : Option TransportSetup

namespace Conf

variable (conf : Conf) (penv : PeerEnv)

/-- `conf_apply_rules` -/
def applyRules (d : Daemon) : Daemon :=
  conf.rules.foldl (fun d rule => d.ircBotRuleInsert rule (-1)) d

/-- `conf_apply_servers`. An assertion fails if a server cannot be connected. -/
def applyServers (d : Daemon) : Option Daemon :=
  conf.servers.foldlM (fun d server => server.botServer.map (d.ircBotServerAdd penv)) d

/-- `conf_apply_plugins` -/
def applyPlugins (d : Daemon) : Daemon := conf.plugins.foldl (·.ircBotPluginAdd penv ·) d

/-- `conf_apply_hooks` -/
def applyHooks (d : Daemon) : Daemon := conf.hooks.foldl (·.ircBotHookAdd ·) d

/-- The end of `conf_open`, on a bot that is empty. -/
def apply : Option Setup := do
  let d := conf.applyRules ⟨[], [], [], [], false⟩
  let d ← conf.applyServers penv d
  return ⟨conf.log, conf.applyHooks (conf.applyPlugins penv d), conf.transport⟩

end Conf

/-- The setup that the sections describe. Rules and servers have the order of the file; plugins and
hooks the opposite order, and a plugin that does not load is left out. -/
structure Describes (env : ConfEnv) (penv : PeerEnv) (ss : List ConfSection) (setup : Setup) :
    Prop where
  rules : setup.daemon.rules = ss.filterMap ConfSection.ruleOf
  servers : setup.daemon.servers.map some =
    (ss.filterMap ConfSection.serverOf).map fun s => s.botServer.map (·.added penv)
  plugins : setup.daemon.plugins =
    ((ss.filterMap (ConfSection.pluginOf env)).filter penv.load).reverse
  hooks : setup.daemon.hooks = (ss.filterMap ConfSection.hookOf).reverse
  transport : setup.transport = (ss.filterMap (ConfSection.transportOf env)).head?
  log : setup.log = ss.foldl ConfSection.logOf {}

section Apply

variable {env : ConfEnv} {penv : PeerEnv} {ss : List ConfSection} {conf : Conf} {d d' : Daemon}

/-- Rules are appended. -/
theorem foldl_ircBotRuleInsert (rules : List IrcRule) (d : Daemon)
    (hsize : d.rules.length + rules.length < 2 ^ 64) :
    rules.foldl (fun d rule => d.ircBotRuleInsert rule (-1)) d =
      { d with rules := d.rules ++ rules } := by
  induction rules generalizing d with
  | nil => rw [List.append_nil]; rfl
  | cons rule rules ih =>
    rw [List.length_cons] at hsize
    have hindex : (BitVec.ofInt 64 (-1)).toNat = 2 ^ 64 - 1 := by decide
    have hinsert : d.ircBotRuleInsert rule (-1) = { d with rules := d.rules ++ [rule] } := by
      rw [Daemon.ircBotRuleInsert, hindex, List.take_of_length_le (by omega),
        List.drop_of_length_le (by omega)]
    rw [List.foldl_cons, hinsert, ih _ (by simp; omega)]
    simp

/-- What is only added under a new name is added without a check if all names are new. -/
theorem foldl_eq_of_fresh {σ α κ : Type} {add : σ → α → σ} (names : σ → List κ) (name : α → κ)
    (put : σ → α → σ) (hadd : ∀ d a, name a ∉ names d → add d a = put d a)
    (hput : ∀ d a, ∀ n ∈ names (put d a), n = name a ∨ n ∈ names d) {as : List α}
    (hnodup : (as.map name).Nodup) (d : σ) (hfresh : ∀ a ∈ as, name a ∉ names d) :
    as.foldl add d = as.foldl put d := by
  induction as generalizing d with
  | nil => rfl
  | cons a as ih =>
    rw [List.map_cons, List.nodup_cons] at hnodup
    obtain ⟨hnew, hrest⟩ := List.forall_mem_cons.1 hfresh
    rw [List.foldl_cons, List.foldl_cons, hadd d a hnew]
    refine ih hnodup.2 _ fun b hb hmem => ?_
    rcases hput d a _ hmem with heq | hmem
    · exact hnodup.1 (heq ▸ List.mem_map_of_mem hb)
    · exact hrest b hb hmem

/-- A name that no element has. -/
theorem find?_eq_none_of_fresh {α : Type} {name : α → CStr} {as : List α} {n : CStr}
    (h : n ∉ as.map name) : as.find? (name · == n) = none := by
  rw [List.find?_eq_none]
  intro a ha heq
  exact h (List.mem_map.2 ⟨a, ha, beq_iff_eq.1 heq⟩)

@[simp] theorem BotServer.name_added (s : BotServer) : (s.added penv).name = s.name := by
  rw [added, name, withSys_sys, Irccd.ircBotServerAdd]
  split
  · rfl
  · rw [ircServerConnect]
    split <;> rfl

/-- Servers are appended and connected, if their names are new. -/
theorem foldl_ircBotServerAdd {servers : List BotServer} (hnodup : (servers.map (·.name)).Nodup)
    (hempty : d.servers = []) :
    servers.foldl (·.ircBotServerAdd penv ·) d =
      { d with servers := servers.map (·.added penv) } := by
  have hput (d : Daemon) : servers.foldl
      (fun d s => { d with servers := d.servers ++ [s.added penv] }) d =
        { d with servers := d.servers ++ servers.map (·.added penv) } := by
    clear hnodup
    induction servers generalizing d with
    | nil => rw [List.map_nil, List.append_nil]; rfl
    | cons s servers ih =>
      rw [List.foldl_cons, ih]
      simp
  rw [foldl_eq_of_fresh (fun d => d.servers.map (·.name)) (·.name)
    (fun d s => { d with servers := d.servers ++ [s.added penv] }) ?_ ?_ hnodup d ?_, hput,
    hempty, List.nil_append]
  · intro d s hfresh
    rw [Daemon.ircBotServerAdd, Daemon.ircBotServerGet, find?_eq_none_of_fresh hfresh]
    rfl
  · intro d s n hn
    simp only [List.map_append, List.map_cons, List.map_nil, List.mem_append, List.mem_singleton,
      BotServer.name_added] at hn
    exact hn.symm
  · simp [hempty]

/-- Plugins are put in front if they load, and if their names are new. -/
theorem foldl_ircBotPluginAdd {plugins : List Plugin} (hnodup : (plugins.map (·.name)).Nodup)
    (hempty : d.plugins = []) :
    plugins.foldl (·.ircBotPluginAdd penv ·) d =
      { d with plugins := (plugins.filter penv.load).reverse } := by
  have hput (d : Daemon) : plugins.foldl
      (fun d p => if penv.load p then { d with plugins := p :: d.plugins } else d) d =
        { d with plugins := (plugins.filter penv.load).reverse ++ d.plugins } := by
    clear hnodup
    induction plugins generalizing d with
    | nil => rfl
    | cons p plugins ih =>
      rw [List.foldl_cons, ih]
      by_cases hload : penv.load p = true <;> simp [hload]
  rw [foldl_eq_of_fresh (fun d => d.plugins.map (·.name)) (·.name)
    (fun d p => if penv.load p then { d with plugins := p :: d.plugins } else d) ?_ ?_ hnodup d
    ?_, hput, hempty, List.append_nil]
  · intro d p hfresh
    rw [Daemon.ircBotPluginAdd, Daemon.ircBotPluginGet,
      show d.plugins.find? (·.name == p.name) = none from find?_eq_none_of_fresh hfresh]
    rfl
  · intro d p n hn
    split at hn
    · exact List.mem_cons.1 hn
    · exact .inr hn
  · simp [hempty]

/-- Hooks are put in front, if their names are new. -/
theorem foldl_ircBotHookAdd {hooks : List Hook} (hnodup : (hooks.map (·.name)).Nodup)
    (hempty : d.hooks = []) :
    hooks.foldl (·.ircBotHookAdd ·) d = { d with hooks := hooks.reverse } := by
  have hput (d : Daemon) : hooks.foldl (fun d h => { d with hooks := h :: d.hooks }) d =
      { d with hooks := hooks.reverse ++ d.hooks } := by
    clear hnodup
    induction hooks generalizing d with
    | nil => rfl
    | cons h hooks ih =>
      rw [List.foldl_cons, ih]
      simp
  rw [foldl_eq_of_fresh (fun d => d.hooks.map (·.name)) (·.name)
    (fun d h => { d with hooks := h :: d.hooks }) ?_ ?_ hnodup d ?_, hput, hempty,
    List.append_nil]
  · intro d h hfresh
    rw [Daemon.ircBotHookAdd, Daemon.ircBotHookGet,
      show d.hooks.find? (·.name == h.name) = none from find?_eq_none_of_fresh hfresh]
    rfl
  · intro d h n hn
    exact List.mem_cons.1 hn
  · simp [hempty]

/-- The names that the sections of a kind give are different. -/
theorem nodup_names {α : Type} {of : ConfSection → Option α} {name : α → CStr}
    (key : CStr → SectionKey) (hkey : ∀ s a, of s = some a → s.key = some (key (name a)))
    (hnodup : (ss.filterMap ConfSection.key).Nodup) : ((ss.filterMap of).map name).Nodup := by
  have hsublist : ((ss.filterMap of).map fun a => key (name a)).Sublist
      (ss.filterMap ConfSection.key) := by
    clear hnodup
    induction ss with
    | nil => exact .slnil
    | cons s ss ih =>
      cases hs : of s with
      | none =>
        rw [List.filterMap_cons_none hs]
        cases hk : s.key with
        | none => rwa [List.filterMap_cons_none hk]
        | some k => rw [List.filterMap_cons_some hk]; exact ih.cons k
      | some a =>
        rw [List.filterMap_cons_some hs, List.filterMap_cons_some (hkey s a hs), List.map_cons]
        exact ih.cons_cons _
  refine List.Nodup.of_map key ?_
  rw [List.map_map]
  exact hsublist.nodup hnodup

/-- What `conf_parse_server` has checked is what `irc_server_connect` asserts. -/
theorem exists_botServer {s : ConfSection} {server : ConfServer} (hs : s.serverOf = some server) :
    ∃ b, server.botServer = some b ∧ b.name = server.name := by
  have hcheck : server.check.isOk = true := by
    cases s <;> try cases hs
    exact (Option.filter_eq_some_iff.1 hs).2
  unfold ConfServer.check at hcheck
  split at hcheck
  · cases hcheck
  · rename_i hhost
    split at hcheck
    · cases hcheck
    · rename_i hport
      split at hcheck
      · cases hcheck
      · rename_i hident
        obtain ⟨hostname, hhostname⟩ := Option.ne_none_iff_exists'.1 (by simpa using hhost)
        simp only [not_or, Bool.not_eq_true, Option.isNone_eq_false_iff] at hident
        obtain ⟨nickname, hnickname⟩ := Option.isSome_iff_exists.1 hident.1
        obtain ⟨username, husername⟩ := Option.isSome_iff_exists.1 hident.2.1
        obtain ⟨realname, hrealname⟩ := Option.isSome_iff_exists.1 hident.2.2
        unfold ConfServer.botServer
        rw [hhostname, hnickname, husername, hrealname]
        exact ⟨_, dif_pos hport, rfl⟩

/-- All servers can be connected. -/
theorem foldlM_botServer {servers : List ConfServer} {bots : List BotServer}
    (hbots : servers.map ConfServer.botServer = bots.map some) (d : Daemon) :
    servers.foldlM (fun d server => server.botServer.map (d.ircBotServerAdd penv)) d =
      some (bots.foldl (·.ircBotServerAdd penv ·) d) := by
  induction servers generalizing bots d with
  | nil =>
    obtain rfl := List.map_eq_nil_iff.1 hbots.symm
    rfl
  | cons server servers ih =>
    obtain ⟨b, bs, rfl, hb, hbs⟩ := List.map_eq_cons_iff.1 hbots.symm
    rw [List.foldlM_cons, ← hb, Option.map_some, Option.bind_eq_bind, Option.bind_some,
      ih hbs.symm]
    rfl

/-- What has been read is handed to the bot as it stands. -/
theorem Reads.apply (h : Reads env ss conf) (penv : PeerEnv) (hall : Acceptable env ss)
    (hfinds : FindsByName env) (hsize : ss.length < 2 ^ 64) :
    ∃ setup, conf.apply penv = some setup ∧ Describes env penv ss setup := by
  have hrules := foldl_ircBotRuleInsert conf.rules ⟨[], [], [], [], false⟩ (by
    rw [h.rules]
    have := List.length_filterMap_le ConfSection.ruleOf ss
    simp only [List.length_nil]
    omega)
  -- each server has a name of its own
  obtain ⟨bots, hbots, hnames⟩ : ∃ bots : List BotServer,
      conf.servers.map ConfServer.botServer = bots.map some ∧
        bots.map (·.name) = conf.servers.map (·.name) := by
    have hmem (server : ConfServer) (hserver : server ∈ conf.servers) :
        ∃ b, server.botServer = some b ∧ b.name = server.name := by
      rw [h.servers] at hserver
      obtain ⟨s, -, hs⟩ := List.mem_filterMap.1 hserver
      exact exists_botServer hs
    generalize conf.servers = servers at hmem
    induction servers with
    | nil => exact ⟨[], rfl, rfl⟩
    | cons server servers ih =>
      obtain ⟨⟨b, hb, hname⟩, hrest⟩ := List.forall_mem_cons.1 hmem
      obtain ⟨bots, hbots, hnames⟩ := ih hrest
      exact ⟨b :: bots, by rw [List.map_cons, hb, hbots]; rfl,
        by rw [List.map_cons, List.map_cons, hname, hnames]⟩
  have hservers : (bots.map (·.name)).Nodup := by
    rw [hnames, h.servers]
    refine nodup_names .server (fun s a hs => ?_) hall.keys
    cases s <;> try cases hs
    rw [name_of_foldlM (Option.filter_eq_some_iff.1 hs).1]
    rfl
  have hplugins : (conf.plugins.map (·.name)).Nodup := by
    rw [h.plugins]
    refine nodup_names .plugin (fun s a hs => ?_) hall.keys
    exact key_of_pluginOf hfinds hs
  have hhooks : (conf.hooks.map (·.name)).Nodup := by
    rw [h.hooks]
    refine nodup_names .hook (fun s a hs => ?_) hall.keys
    cases s <;> cases hs
    rfl
  refine ⟨⟨conf.log, ⟨bots.map (·.added penv), (conf.plugins.filter penv.load).reverse, conf.rules,
    conf.hooks.reverse, false⟩, conf.transport⟩, ?_, ?_⟩
  · rw [Conf.apply, Conf.applyRules, hrules, Conf.applyServers, foldlM_botServer hbots,
      foldl_ircBotServerAdd hservers rfl, Option.bind_eq_bind, Option.bind_some, Conf.applyPlugins,
      foldl_ircBotPluginAdd hplugins rfl, Conf.applyHooks, foldl_ircBotHookAdd hhooks rfl]
    rfl
  · exact {
      rules := h.rules
      servers := by
        rw [← h.servers]
        show (bots.map (·.added penv)).map some = _
        have hadded := congrArg (List.map (Option.map (BotServer.added penv))) hbots
        rw [List.map_map, List.map_map] at hadded
        rw [List.map_map]
        exact hadded.symm
      plugins := by rw [← h.plugins]
      hooks := by rw [← h.hooks]
      transport := h.transport
      log := h.log }

/-- A configuration file of which every section is right by itself, and in which no two sections
claim the same, sets up the bot that the sections describe, each kind by itself however they are
mixed. Every other one is refused. -/
theorem confOpen_configures (env : ConfEnv) (penv : PeerEnv) (file : List UInt8)
    (ss : List ConfSection)
    (hfile : fileTokens file = ⟨ss.flatMap ConfSection.tokens ++ [tokEof], .ended⟩)
    (hsep : ConfSection.Separated [tokEof] ss) (hfinds : FindsByName env)
    (hsize : file.length < 2 ^ 63) :
    (Acceptable env ss → ∃ conf setup, confOpen env file = .apply conf ∧
      conf.apply penv = some setup ∧ Describes env penv ss setup) ∧
    (¬ Acceptable env ss → ∃ line column message,
      confOpen env file = .fatal line column message) := by
  -- the parser has more rounds left than the file has tokens
  have hlen := length_lexTokens (confText file).text
  rw [show lexTokens (confText file).text = _ from hfile] at hlen
  simp only [confText, List.length_append, List.length_cons, List.length_nil] at hlen
  have hsections : ss.length ≤ (ss.flatMap ConfSection.tokens).length :=
    length_le_length_flatMap fun s _ => by simp [ConfSection.tokens]
  obtain ⟨m, hm⟩ : ∃ m, file.length + 3 = ss.length + (m + 1) :=
    ⟨file.length + 2 - ss.length, by omega⟩
  have hparse := @continues_sections env (file.length + 3) [tokEof] .ended ss (m + 1) {} (by omega)
    hsep
  rw [← hm, ← hfile] at hparse
  obtain ⟨src, hopen⟩ := confOpen_eq env file
  have hmeaning := confMeaning_cases hfinds ss
  -- behind the last section the parser is stopped
  have heof (conf : Conf) :
      parseOn (confParserEntry env (file.length + 3) (m + 1)) ⟨[tokEof], .ended⟩ conf =
        (.error .off, (⟨[], .ended⟩, conf)) := by
    rw [confParserEntry, parseOn_bind, parseOn_confString_eof]
    rfl
  constructor
  · intro hall
    obtain ⟨conf, hconf, hreads⟩ := hmeaning.1 hall
    rw [hconf] at hparse
    obtain ⟨setup, hsetup, hdescribes⟩ := hreads.apply penv hall hfinds (by omega)
    refine ⟨conf, setup, ?_, hsetup, hdescribes⟩
    have hend : parseTokens env (file.length + 3) (fileTokens file) =
        (.error .off, (⟨[], .ended⟩, conf)) := (show _ = _ from hparse).trans (heof conf)
    rw [hopen, hend]
    rfl
  · intro hbad
    rw [hmeaning.2 hbad] at hparse
    obtain ⟨message, s, hfails⟩ := hparse
    refine ⟨src.line, src.column, message, ?_⟩
    rw [hopen, show parseTokens env (file.length + 3) (fileTokens file) = _ from hfails]
    rfl

end Apply

/-- Rules and hooks that are mixed. -/
def mixedFile : List UInt8 := cstr "rule drop\nhook a to /a\nrule accept\nhook b to /b\n"

def mixedSections : List ConfSection :=
  [.rule .drop none, .hook (cstr "a") (cstr "/a"), .rule .accept none, .hook (cstr "b") (cstr "/b")]

theorem confOpen_mixed :
    (Acceptable bareEnv mixedSections → ∃ conf setup, confOpen bareEnv mixedFile = .apply conf ∧
      conf.apply Daemon.quietEnv = some setup ∧
        Describes bareEnv Daemon.quietEnv mixedSections setup) ∧
    (¬ Acceptable bareEnv mixedSections → ∃ line column message,
      confOpen bareEnv mixedFile = .fatal line column message) :=
  confOpen_configures bareEnv Daemon.quietEnv mixedFile mixedSections (by decide)
    ⟨⟨_, rfl, by decide⟩, trivial, ⟨_, rfl, by decide⟩, trivial, trivial⟩ (fun _ _ _ => nofun)
    (by decide)

end Irccd
