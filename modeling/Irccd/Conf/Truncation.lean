import Irccd.Conf.Grammar

/-!
# Configurations that end too early

A file may end inside a section. The token behind the last one is then taken by `conf_next`, which
stops the parser as if the file were complete, or it is looked at by `conf_string_is`, which finds
that a word is missing.

* `CutSection`: a section that ends too early, by what is missing;
* `CutSection.needsWord`: whether the parser looks for a word there;
* `CutSection.Refused`: whether a value that is there is refused;
* `confOpen_isFatal_iff`: when the file is rejected.
-/

namespace Irccd

open Programs

/-! ## Sections that end too early -/

/-- The directives with one value. -/
def valueNames : List CStr := ["hostname", "port", "prefix", "password"].map cstr

/-- A directive of a server that ends too early, by what is missing. -/
inductive CutDirective
  | value (name : CStr) (mem : name ∈ valueNames)
  | ident (given : List CStr) (lt : given.length < 3)
  | join
  | joinPassword
  | joinChannel
  | joinKey (channel : CStr)
  | ctcpBegin
  | ctcpEnd (pairs : List (CStr × CStr))
  | ctcpValue (pairs : List (CStr × CStr)) (key : CStr)
  | options (names : List CStr)
  | optionsBlock (names : List CStr)

namespace CutDirective

/-- The name of a directive. -/
def name : CutDirective → CStr
  | value name _ => name
  | ident _ _ => cstr "ident"
  | join => cstr "join"
  | joinPassword => cstr "join"
  | joinChannel => cstr "join"
  | joinKey _ => cstr "join"
  | ctcpBegin => cstr "ctcp"
  | ctcpEnd _ => cstr "ctcp"
  | ctcpValue _ _ => cstr "ctcp"
  | options _ => cstr "options"
  | optionsBlock _ => cstr "options"

/-- The tokens behind the name. -/
def args : CutDirective → List (Token CStr)
  | value _ _ => []
  | ident given _ => given.map .str
  | join => []
  | joinPassword => [word "with"]
  | joinChannel => [word "with", word "password"]
  | joinKey channel => [word "with", word "password", .str channel]
  | ctcpBegin => []
  | ctcpEnd pairs => tokBegin :: pairTokens pairs
  | ctcpValue pairs key => tokBegin :: (pairTokens pairs ++ [.str key])
  | options names => names.map .str
  | optionsBlock names => tokBegin :: names.map .str

/-- The word `password` is missing. -/
def needsWord : CutDirective → Bool
  | joinPassword => true
  | _ => false

/-- An option is refused, or the beginning of the options. -/
def Refused (server : ConfServer) : CutDirective → Prop
  | options names => names.foldlM serverOption server.flags = none
  | optionsBlock _ => True
  | _ => False

end CutDirective

/-- A section that ends too early, by what is missing. -/
inductive CutSection
  | logTo (plural : Bool) (verbose : Option Bool) (template : Option CStr)
  | logFormat (plural : Bool) (verbose : Option Bool)
  | logSink (plural : Bool) (verbose : Option Bool) (template : Option CStr)
  | logPath (plural : Bool) (verbose : Option Bool) (template : Option CStr)
  | transport
  | transportUid
  | transportUser
  | transportGid (uid : CStr)
  | transportGroup (uid : CStr)
  | transportTo (owner : CStr × CStr)
  | transportPath (owner : Option (CStr × CStr))
  | hookName
  | hookTo (name : CStr)
  | hookPath (name : CStr)
  | serverName
  | serverBegin (name : CStr)
  | serverEnd (name : CStr) (ds : List ServerDirective)
  | serverDirective (name : CStr) (ds : List ServerDirective) (d : CutDirective)
  | ruleAction
  | ruleEnd (action : IrcRuleAction) (cs : List Criteria)
  | ruleBegin (action : IrcRuleAction) (cs : List Criteria) (name : CStr)
  | ruleValues (action : IrcRuleAction) (cs : List Criteria) (c : Criteria)
  | pluginName
  | pluginPath (name : CStr)
  | pluginEnd (name : CStr) (location : Option CStr) (ds : List PluginDirective)
  | pluginBegin (name : CStr) (location : Option CStr) (ds : List PluginDirective) (what : CStr)
  | pluginPairs (name : CStr) (location : Option CStr) (ds : List PluginDirective)
      (d : PluginDirective)
  | pluginValue (name : CStr) (location : Option CStr) (ds : List PluginDirective)
      (d : PluginDirective) (key : CStr)

namespace CutSection

/-- The topic of a section. -/
def topic : CutSection → CStr
  | logTo plural _ _ => if plural then cstr "logs" else cstr "log"
  | logFormat plural _ => if plural then cstr "logs" else cstr "log"
  | logSink plural _ _ => if plural then cstr "logs" else cstr "log"
  | logPath plural _ _ => if plural then cstr "logs" else cstr "log"
  | transport => cstr "transport"
  | transportUid => cstr "transport"
  | transportUser => cstr "transport"
  | transportGid _ => cstr "transport"
  | transportGroup _ => cstr "transport"
  | transportTo _ => cstr "transport"
  | transportPath _ => cstr "transport"
  | hookName => cstr "hook"
  | hookTo _ => cstr "hook"
  | hookPath _ => cstr "hook"
  | serverName => cstr "server"
  | serverBegin _ => cstr "server"
  | serverEnd _ _ => cstr "server"
  | serverDirective _ _ _ => cstr "server"
  | ruleAction => cstr "rule"
  | ruleEnd _ _ => cstr "rule"
  | ruleBegin _ _ _ => cstr "rule"
  | ruleValues _ _ _ => cstr "rule"
  | pluginName => cstr "plugin"
  | pluginPath _ => cstr "plugin"
  | pluginEnd _ _ _ => cstr "plugin"
  | pluginBegin _ _ _ _ => cstr "plugin"
  | pluginPairs _ _ _ _ => cstr "plugin"
  | pluginValue _ _ _ _ _ => cstr "plugin"

/-- The start of the tokens of a plugin. -/
def pluginTokens (name : CStr) (location : Option CStr) (ds : List PluginDirective) :
    List (Token CStr) :=
  .str name :: (locationTokens location ++ tokBegin :: ds.flatMap PluginDirective.tokens)

/-- The tokens behind the topic. -/
def args : CutSection → List (Token CStr)
  | logTo _ verbose template => levelTokens verbose ++ templateTokens template
  | logFormat _ verbose => levelTokens verbose ++ [word "template"]
  | logSink _ verbose template => levelTokens verbose ++ templateTokens template ++ [word "to"]
  | logPath _ verbose template =>
    levelTokens verbose ++ templateTokens template ++ [word "to", word "file"]
  | transport => []
  | transportUid => [word "with"]
  | transportUser => [word "with", word "uid"]
  | transportGid uid => [word "with", word "uid", .str uid]
  | transportGroup uid => [word "with", word "uid", .str uid, word "gid"]
  | transportTo owner => ownerTokens (some owner)
  | transportPath owner => ownerTokens owner ++ [word "to"]
  | hookName => []
  | hookTo name => [.str name]
  | hookPath name => [.str name, word "to"]
  | serverName => []
  | serverBegin name => [.str name]
  | serverEnd name ds => .str name :: tokBegin :: ds.flatMap ServerDirective.tokens
  | serverDirective name ds d =>
    .str name :: tokBegin :: (ds.flatMap ServerDirective.tokens ++ .str d.name :: d.args)
  | ruleAction => []
  | ruleEnd action cs => actionToken action :: tokBegin :: cs.flatMap Criteria.tokens
  | ruleBegin action cs name =>
    actionToken action :: tokBegin :: (cs.flatMap Criteria.tokens ++ [.str name])
  | ruleValues action cs c =>
    actionToken action :: tokBegin :: (cs.flatMap Criteria.tokens ++
      .str c.name :: tokBegin :: Criteria.valueTokens c.comma c.values)
  | pluginName => []
  | pluginPath name => [.str name, word "to"]
  | pluginEnd name location ds => pluginTokens name location ds
  | pluginBegin name location ds what => pluginTokens name location ds ++ [.str what]
  | pluginPairs name location ds d =>
    pluginTokens name location ds ++ .str d.name :: tokBegin :: pairTokens d.pairs
  | pluginValue name location ds d key =>
    pluginTokens name location ds ++
      .str d.name :: tokBegin :: (pairTokens d.pairs ++ [.str key])

/-- The tokens of the section. -/
def tokens (c : CutSection) : List (Token CStr) := .str c.topic :: c.args

/-- The parser looks for a word where the file ends: `to`, a sink of the logs, `uid`, `gid`, the
action of a rule, or `password`. -/
def needsWord : CutSection → Bool
  | logTo _ _ _ => true
  | logSink _ _ _ => true
  | transport => true
  | transportUid => true
  | transportGid _ => true
  | transportTo _ => true
  | hookTo _ => true
  | serverDirective _ _ d => d.needsWord
  | ruleAction => true
  | _ => false

/-- A value that is there is refused. -/
def Refused (env : ConfEnv) (conf : Conf) : CutSection → Prop
  | logTo _ _ _ => False
  | logFormat _ _ => False
  | logSink _ _ _ => False
  | logPath _ _ _ => False
  | transport => conf.tpt.isSome
  | transportUid => conf.tpt.isSome
  | transportUser => conf.tpt.isSome
  | transportGid uid => conf.tpt.isSome ∨ resolve env.getpwnam uid = none
  | transportGroup uid => conf.tpt.isSome ∨ resolve env.getpwnam uid = none
  | transportTo owner => conf.tpt.isSome ∨ ownerMeaning env conf (some owner) = none
  | transportPath owner => conf.tpt.isSome ∨ ownerMeaning env conf owner = none
  | hookName => False
  | hookTo name => conf.hooks.any (·.name == name)
  | hookPath name => conf.hooks.any (·.name == name)
  | serverName => False
  | serverBegin name => conf.servers.any (·.name == name)
  | serverEnd name ds => conf.servers.any (·.name == name) ∨ serverMeaning name ds = none
  | serverDirective name ds d =>
    conf.servers.any (·.name == name) ∨
      ∀ server, serverMeaning name ds = some server → d.Refused server
  | ruleAction => False
  | ruleEnd action cs => cs.foldlM Criteria.meaning (ircRuleNew action) = none
  | ruleBegin action cs name =>
    cs.foldlM Criteria.meaning (ircRuleNew action) = none ∨ ruleAdder name = none
  | ruleValues action cs c =>
    cs.foldlM Criteria.meaning (ircRuleNew action) = none ∨ ruleAdder c.name = none
  | pluginName => False
  | pluginPath name => conf.plugins.any (·.name == name)
  | pluginEnd name location ds => pluginMeaning env conf name location ds = none
  | pluginBegin name location ds what =>
    pluginMeaning env conf name location ds = none ∨ pluginSetter what = none
  | pluginPairs name location ds d =>
    pluginMeaning env conf name location ds = none ∨ pluginSetter d.name = none
  | pluginValue name location ds d _ =>
    pluginMeaning env conf name location ds = none ∨ pluginSetter d.name = none

end CutSection

/-! ## How the parser stops -/

section Stops

variable {α β : Type} {x : RunResult Halt (Tokens × Conf) α} {p q : Prop}

/-- The parser stops as at the end of a complete file. -/
def IsOff (x : RunResult Halt (Tokens × Conf) α) : Prop := ∃ s, x = (.error .off, s)

@[simp] theorem isOff_off (s : Tokens × Conf) :
    IsOff ((.error .off, s) : RunResult Halt (Tokens × Conf) α) := ⟨s, rfl⟩

/-- The parser stops with an error if `p`, and as at the end of a complete file otherwise. -/
def Stops (x : RunResult Halt (Tokens × Conf) α) (p : Prop) : Prop :=
  (p → Fails x) ∧ (¬ p → IsOff x)

theorem IsOff.stops (h : IsOff x) (hp : ¬ p) : Stops x p := ⟨fun h => absurd h hp, fun _ => h⟩

theorem Fails.stops (h : Fails x) (hp : p) : Stops x p := ⟨fun _ => h, fun hn => absurd hp hn⟩

theorem Stops.congr (h : Stops x p) (hiff : p ↔ q) : Stops x q :=
  ⟨fun hq => h.1 (hiff.2 hq), fun hq => h.2 fun hp => hq (hiff.1 hp)⟩

theorem Stops.andThen (h : Stops x p) (f : α → Tokens × Conf → RunResult Halt (Tokens × Conf) β) :
    Stops (x.andThen f) p := by
  refine ⟨fun hp => (h.1 hp).andThen f, fun hp => ?_⟩
  obtain ⟨s, rfl⟩ := h.2 hp
  exact isOff_off s

/-- The parser stops behind a part that may be refused. -/
theorem Continues.stops {r : Option β} {next : β → RunResult Halt (Tokens × Conf) α}
    {p : β → Prop} (h : Continues x next r) (hnext : ∀ b, r = some b → Stops (next b) (p b)) :
    Stops x (∀ b, r = some b → p b) := by
  cases r with
  | none => exact Fails.stops h fun b hb => by cases hb
  | some b =>
    rw [show x = next b from h]
    refine (hnext b rfl).congr ⟨fun hp b' hb => ?_, fun hp => hp b rfl⟩
    rwa [← Option.some.inj hb]

theorem Continues.fails {r : Option β} {next : β → RunResult Halt (Tokens × Conf) α}
    (h : Continues x next r) (hnext : ∀ b, r = some b → Fails (next b)) : Fails x := by
  cases r with
  | none => exact h
  | some b =>
    rw [show x = next b from h]
    exact hnext b rfl

theorem Continues.stops_none {r : Option β} {next : β → RunResult Halt (Tokens × Conf) α}
    (h : Continues x next r) (hnext : ∀ b, r = some b → IsOff (next b)) :
    Stops x (r = none) := by
  cases r with
  | none => exact Fails.stops h rfl
  | some b =>
    rw [show x = next b from h]
    exact (hnext b rfl).stops (by simp)

end Stops

/-! ## The end of the file -/

section Eof

variable {toks : List (Token CStr)} {stop : Halt} {conf : Conf} {rounds : ℕ}

@[simp] theorem parseOn_confKeyword_eof (keyword : CStr) :
    parseOn (confKeyword keyword) ⟨tokEof :: toks, stop⟩ conf =
      (.error (.fatal (cstr "keyword '" ++ keyword ++ cstr "' expected")),
        (⟨tokEof :: toks, stop⟩, conf)) := by
  simp [confKeyword]

@[simp] theorem parseOn_confBegin_eof :
    parseOn confBegin ⟨tokEof :: toks, stop⟩ conf = (.error .off, (⟨toks, stop⟩, conf)) := by
  simp [confBegin]

@[simp] theorem parseOn_confEnd_eof :
    parseOn confEnd ⟨tokEof :: toks, stop⟩ conf = (.error .off, (⟨toks, stop⟩, conf)) := by
  simp [confEnd]

/-- The options of a server that do not end. -/
theorem stops_options (names : List CStr) {n : ℕ} (hn : names.length < n) (server : ConfServer) :
    Stops (parseOn (confParseServerOptions n server) ⟨names.map .str ++ [tokEof], stop⟩ conf)
      (names.foldlM serverOption server.flags = none) := by
  induction names generalizing n server with
  | nil =>
    obtain ⟨n, rfl⟩ := Nat.exists_eq_succ_of_ne_zero (Nat.ne_zero_of_lt hn)
    simp only [confParseServerOptions, List.map_nil, List.nil_append, parseOn_bind,
      parseOn_confNext, type_tokEof, if_true, RunResult.andThen_error]
    exact (isOff_off _).stops (by simp)
  | cons name names ih =>
    obtain ⟨n, rfl⟩ := Nat.exists_eq_succ_of_ne_zero (Nat.ne_zero_of_lt hn)
    rw [confParseServerOptions, parseOn_bind, List.map_cons, List.cons_append, parseOn_confNext,
      if_neg (by simp), RunResult.andThen_ok, Token.type_str, if_pos rfl, Token.string_str]
    cases hoption : serverOption server.flags name with
    | none => exact Fails.stops (fails_fatal _ _) (by simp [hoption])
    | some flags =>
      refine (ih (by simpa using hn) { server with flags }).congr ?_
      simp [hoption]

/-- Keys and values that do not end. -/
theorem parseOn_confPairs_eof {σ : Type} {set : σ → CStr → CStr → σ} {pairs : List (CStr × CStr)}
    {n : ℕ} (hn : pairs.length < n) (s : σ) :
    IsOff (parseOn (do confBegin; let s ← confPairs set n s; confEnd; return s)
      ⟨tokBegin :: (pairTokens pairs ++ [tokEof]), stop⟩ conf) := by
  have hpairs := @parseOn_confPairs_end σ set [] stop conf pairs n hn s tokEof (by simp)
  simp [hpairs]

/-- A key without a value. -/
theorem parseOn_confPairs_key {σ : Type} {set : σ → CStr → CStr → σ} {pairs : List (CStr × CStr)}
    {n : ℕ} (hn : pairs.length < n) (s : σ) (key : CStr) :
    IsOff (parseOn (do confBegin; let s ← confPairs set n s; confEnd; return s)
      ⟨tokBegin :: (pairTokens pairs ++ [.str key, tokEof]), stop⟩ conf) := by
  obtain ⟨m, hm⟩ : ∃ m, n = pairs.length + (m + 1) := ⟨n - pairs.length - 1, by omega⟩
  have hpairs := @parseOn_confPairs σ set [.str key, tokEof] stop conf pairs (m + 1) s
  rw [← hm] at hpairs
  simp [hpairs, confPairs]

/-- A directive that ends too early. -/
theorem stops_cutDirective (d : CutDirective) (server : ConfServer)
    (hrounds : d.args.length < rounds) :
    Stops (parseOn (confServerDirective server rounds d.name) ⟨d.args ++ [tokEof], stop⟩ conf)
      (d.Refused server ∨ d.needsWord = true) := by
  cases d with
  | value name mem =>
    refine IsOff.stops ?_ (by simp [CutDirective.Refused, CutDirective.needsWord])
    simp only [valueNames, List.map_cons, List.map_nil, List.mem_cons, List.not_mem_nil,
      or_false] at mem
    rcases mem with rfl | rfl | rfl | rfl
    · exact ⟨_, rfl⟩
    · exact ⟨_, rfl⟩
    · exact ⟨_, rfl⟩
    · exact ⟨_, rfl⟩
  | ident given lt =>
    refine IsOff.stops ?_ (by simp [CutDirective.Refused, CutDirective.needsWord])
    rcases given with _ | ⟨nickname, _ | ⟨username, _ | ⟨realname, given⟩⟩⟩
    · exact ⟨_, rfl⟩
    · exact ⟨_, rfl⟩
    · exact ⟨_, rfl⟩
    · simp only [List.length_cons] at lt
      omega
  | join =>
    exact IsOff.stops ⟨_, rfl⟩ (by simp [CutDirective.Refused, CutDirective.needsWord])
  -- the word `password` is asked for, and the end of the file is no string
  | joinPassword =>
    refine Fails.stops ?_ (.inr rfl)
    simp +decide [CutDirective.args, confServerDirective, confParseServerJoin]
  | joinChannel =>
    exact IsOff.stops ⟨_, rfl⟩ (by simp [CutDirective.Refused, CutDirective.needsWord])
  | joinKey channel =>
    exact IsOff.stops ⟨_, rfl⟩ (by simp [CutDirective.Refused, CutDirective.needsWord])
  | ctcpBegin =>
    exact IsOff.stops ⟨_, rfl⟩ (by simp [CutDirective.Refused, CutDirective.needsWord])
  | ctcpEnd pairs =>
    simp only [CutDirective.args, List.length_cons, length_pairTokens] at hrounds
    exact IsOff.stops (parseOn_confPairs_eof (by omega) server)
      (by simp [CutDirective.Refused, CutDirective.needsWord])
  | ctcpValue pairs key =>
    simp only [CutDirective.args, List.length_cons, List.length_append, length_pairTokens]
      at hrounds
    rw [CutDirective.args, List.cons_append, List.append_assoc]
    exact IsOff.stops (parseOn_confPairs_key (by omega) server key)
      (by simp [CutDirective.Refused, CutDirective.needsWord])
  | options names =>
    refine (stops_options names (by simpa [CutDirective.args] using hrounds) server).congr ?_
    simp [CutDirective.Refused, CutDirective.needsWord]
  -- a brace is no option
  | optionsBlock names =>
    refine Fails.stops ?_ (.inl trivial)
    obtain ⟨rounds, rfl⟩ := Nat.exists_eq_succ_of_ne_zero (Nat.ne_zero_of_lt hrounds)
    simp +decide [CutDirective.name, CutDirective.args, confServerDirective,
      confParseServerOptions]

end Eof

/-! ### Logs -/

/-- A part of the parser stops at the end of a section that ends too early: with an error if a
value is refused or a word is missing, and as at the end of a complete file otherwise. -/
def CutSection.StopsIn (env : ConfEnv) (conf : Conf) (stop : Halt) (p : Parser Unit)
    (c : CutSection) : Prop :=
  Stops (parseOn p ⟨c.args ++ [tokEof], stop⟩ conf) (c.Refused env conf ∨ c.needsWord = true)

section Cut

variable {env : ConfEnv} {conf : Conf} {stop : Halt} {n : ℕ}

theorem stopsIn_logTo (plural : Bool) (verbose : Option Bool) (template : Option CStr) :
    (CutSection.logTo plural verbose template).StopsIn env conf stop confParseLog := by
  refine Fails.stops ?_ (.inr rfl)
  have hlog := @parseOn_confParseLog [] stop conf verbose template tokEof (by decide) (by decide)
    (by decide)
  simp [CutSection.args, hlog]

theorem stopsIn_logFormat (plural : Bool) (verbose : Option Bool) :
    (CutSection.logFormat plural verbose).StopsIn env conf stop confParseLog := by
  refine IsOff.stops ?_ (by simp [CutSection.Refused, CutSection.needsWord])
  have hlevel := @parseOn_confLogLevel [tokEof] stop conf verbose (word "template") (by decide)
    (by decide)
  simp [CutSection.args, confParseLog, hlevel, confLogTemplate]

theorem stopsIn_logSink (plural : Bool) (verbose : Option Bool) (template : Option CStr) :
    (CutSection.logSink plural verbose template).StopsIn env conf stop confParseLog := by
  refine Fails.stops ?_ (.inr rfl)
  have hlog := @parseOn_confParseLog [tokEof] stop conf verbose template (word "to") (by decide)
    (by decide) (by decide)
  simp [CutSection.args, hlog, confLogSink]

theorem stopsIn_logPath (plural : Bool) (verbose : Option Bool) (template : Option CStr) :
    (CutSection.logPath plural verbose template).StopsIn env conf stop confParseLog := by
  refine IsOff.stops ?_ (by simp [CutSection.Refused, CutSection.needsWord])
  have hlog := @parseOn_confParseLog [word "file", tokEof] stop conf verbose template (word "to")
    (by decide) (by decide) (by decide)
  simp +decide [CutSection.args, hlog, confLogSink]

/-! ### Transport -/

/-- A second transport is refused at once. -/
theorem fails_confParseTransport (htpt : conf.tpt.isSome = true) (ts : Tokens) :
    Fails (parseOn (confParseTransport env) ts conf) := by
  rw [confParseTransport, parseOn_bind, parseOn_getConf, RunResult.andThen_ok, if_pos htpt]
  exact fails_fatal _ _

theorem parseOn_confParseTransport (htpt : ¬ conf.tpt.isSome = true) (ts : Tokens) :
    parseOn (confParseTransport env) ts conf =
      (parseOn (confTransportOwner env) ts conf).andThen fun _ s =>
        parseOn (do
          confKeyword (cstr "to")
          let path ← confString
          modifyConf fun conf => { conf with tpt := some path }) s.1 s.2 := by
  rw [confParseTransport, parseOn_bind, parseOn_getConf, RunResult.andThen_ok, if_neg htpt,
    parseOn_bind]

theorem stopsIn_transport :
    CutSection.transport.StopsIn env conf stop (confParseTransport env) := by
  refine Fails.stops ?_ (.inr rfl)
  by_cases htpt : conf.tpt.isSome = true
  · exact fails_confParseTransport htpt _
  · rw [parseOn_confParseTransport htpt]
    simp [CutSection.args, confTransportOwner]

theorem stopsIn_transportUid :
    CutSection.transportUid.StopsIn env conf stop (confParseTransport env) := by
  refine Fails.stops ?_ (.inr rfl)
  by_cases htpt : conf.tpt.isSome = true
  · exact fails_confParseTransport htpt _
  · rw [parseOn_confParseTransport htpt]
    simp [CutSection.args, confTransportOwner]

theorem stopsIn_transportUser :
    CutSection.transportUser.StopsIn env conf stop (confParseTransport env) := by
  by_cases htpt : conf.tpt.isSome = true
  · exact Fails.stops (fails_confParseTransport htpt _) (.inl htpt)
  · refine IsOff.stops ?_ (by simpa [CutSection.Refused, CutSection.needsWord] using htpt)
    rw [parseOn_confParseTransport htpt]
    simp [CutSection.args, confTransportOwner]

theorem stopsIn_transportGid (uid : CStr) :
    (CutSection.transportGid uid).StopsIn env conf stop (confParseTransport env) := by
  refine Fails.stops ?_ (.inr rfl)
  by_cases htpt : conf.tpt.isSome = true
  · exact fails_confParseTransport htpt _
  · rw [parseOn_confParseTransport htpt]
    refine Fails.andThen ?_ _
    simp only [CutSection.args, confTransportOwner, List.cons_append, List.nil_append,
      parseOn_bind, parseOn_confStringIs, type_word, data_word, and_self, if_true,
      RunResult.andThen_ok, parseOn_confKeyword_word, parseOn_confString]
    refine ((does_resolve _ _ _).andThen _).fails fun tptUid _ => ?_
    simp

theorem stopsIn_transportGroup (uid : CStr) :
    (CutSection.transportGroup uid).StopsIn env conf stop (confParseTransport env) := by
  by_cases htpt : conf.tpt.isSome = true
  · exact Fails.stops (fails_confParseTransport htpt _) (.inl (.inl htpt))
  · have hiff : resolve env.getpwnam uid = none ↔
        (CutSection.transportGroup uid).Refused env conf ∨
          (CutSection.transportGroup uid).needsWord = true := by
      simp [CutSection.Refused, CutSection.needsWord, htpt]
    rw [CutSection.StopsIn, parseOn_confParseTransport htpt]
    refine (Stops.andThen ?_ _).congr hiff
    simp only [CutSection.args, confTransportOwner, List.cons_append, List.nil_append,
      parseOn_bind, parseOn_confStringIs, type_word, data_word, and_self, if_true,
      RunResult.andThen_ok, parseOn_confKeyword_word, parseOn_confString]
    refine ((does_resolve _ _ _).andThen _).stops_none fun tptUid _ => ?_
    simp

theorem stopsIn_transportTo (owner : CStr × CStr) :
    (CutSection.transportTo owner).StopsIn env conf stop (confParseTransport env) := by
  refine Fails.stops ?_ (.inr rfl)
  by_cases htpt : conf.tpt.isSome = true
  · exact fails_confParseTransport htpt _
  · rw [parseOn_confParseTransport htpt]
    have howner := @does_owner [] stop conf (some owner) env tokEof (by decide)
    refine (howner.andThen _).fails fun conf _ => ?_
    simp

theorem stopsIn_transportPath (owner : Option (CStr × CStr)) :
    (CutSection.transportPath owner).StopsIn env conf stop (confParseTransport env) := by
  by_cases htpt : conf.tpt.isSome = true
  · exact Fails.stops (fails_confParseTransport htpt _) (.inl (.inl htpt))
  · have hiff : ownerMeaning env conf owner = none ↔
        (CutSection.transportPath owner).Refused env conf ∨
          (CutSection.transportPath owner).needsWord = true := by
      simp [CutSection.Refused, CutSection.needsWord, htpt]
    have howner := @does_owner [tokEof] stop conf owner env (word "to") (by decide)
    rw [CutSection.StopsIn, parseOn_confParseTransport htpt, CutSection.args, List.append_assoc]
    refine Stops.congr ?_ hiff
    refine (howner.andThen _).stops_none fun conf _ => ?_
    simp

/-! ### Hooks -/

theorem stopsIn_hookTo (name : CStr) :
    (CutSection.hookTo name).StopsIn env conf stop confParseHook := by
  refine Fails.stops ?_ (.inr rfl)
  rw [CutSection.args, confParseHook]
  simp only [List.cons_append, List.nil_append, parseOn_bind, parseOn_confString, parseOn_getConf,
    RunResult.andThen_ok]
  split
  · exact fails_fatal _ _
  · simp

theorem stopsIn_hookPath (name : CStr) :
    (CutSection.hookPath name).StopsIn env conf stop confParseHook := by
  rw [CutSection.StopsIn, CutSection.args, confParseHook]
  simp only [List.cons_append, List.nil_append, parseOn_bind, parseOn_confString, parseOn_getConf,
    RunResult.andThen_ok]
  by_cases hdup : conf.hooks.any (·.name == name) = true
  · rw [if_pos hdup]
    exact Fails.stops (fails_fatal _ _) (.inl hdup)
  · rw [if_neg hdup]
    exact IsOff.stops (by simp) (not_or.2 ⟨hdup, by simp [CutSection.needsWord]⟩)

/-! ### Servers -/

theorem stopsIn_serverBegin (name : CStr) :
    (CutSection.serverBegin name).StopsIn env conf stop (confParseServer n) := by
  by_cases hdup : conf.servers.any (·.name == name) = true
  · exact Fails.stops (fails_confParseServer hdup) (.inl hdup)
  · refine IsOff.stops ?_ (not_or.2 ⟨hdup, by simp [CutSection.needsWord]⟩)
    rw [CutSection.args, confParseServer]
    simp only [List.cons_append, List.nil_append, parseOn_bind, parseOn_confString,
      parseOn_getConf, RunResult.andThen_ok]
    rw [if_neg hdup]
    simp

theorem stopsIn_serverEnd (name : CStr) (ds : List ServerDirective)
    (hn : (CutSection.serverEnd name ds).args.length < n) :
    (CutSection.serverEnd name ds).StopsIn env conf stop (confParseServer n) := by
  simp only [CutSection.args, List.length_cons] at hn
  by_cases hdup : conf.servers.any (·.name == name) = true
  · exact Fails.stops (fails_confParseServer hdup) (.inl (.inl hdup))
  · have hiff : serverMeaning name ds = none ↔
        (CutSection.serverEnd name ds).Refused env conf ∨
          (CutSection.serverEnd name ds).needsWord = true := by
      simp only [CutSection.Refused, CutSection.needsWord, hdup, Bool.false_eq_true, false_or,
        or_false]
    obtain ⟨m, hloop⟩ := @continues_directives stop conf ds n (by omega) { name } [tokEof]
    rw [CutSection.StopsIn, CutSection.args, List.cons_append, List.cons_append,
      parseOn_confParseServer hdup]
    refine Stops.congr ?_ hiff
    refine (hloop.andThen _).stops_none fun server _ => ?_
    simp [confServerDirectives]

theorem stopsIn_serverDirective (name : CStr) (ds : List ServerDirective) (d : CutDirective)
    (hn : (CutSection.serverDirective name ds d).args.length < n) :
    (CutSection.serverDirective name ds d).StopsIn env conf stop (confParseServer n) := by
  simp only [CutSection.args, List.length_cons, List.length_append] at hn
  by_cases hdup : conf.servers.any (·.name == name) = true
  · exact Fails.stops (fails_confParseServer hdup) (.inl (.inl hdup))
  · obtain ⟨m, hloop⟩ := @continues_directives stop conf ds n (by omega) { name }
      (.str d.name :: (d.args ++ [tokEof]))
    rw [CutSection.StopsIn, CutSection.args, List.cons_append, List.cons_append, List.append_assoc,
      List.cons_append, parseOn_confParseServer hdup]
    refine Stops.andThen ?_ _
    refine (hloop.stops (p := fun server => d.Refused server ∨ d.needsWord = true)
      fun server _ => ?_).congr ?_
    · rw [confServerDirectives, parseOn_bind, parseOn_confNextIs, Token.type_str, if_pos rfl,
        RunResult.andThen_ok]
      have hcut := @stops_cutDirective stop conf n d server (by omega)
      simpa using hcut.andThen fun server s => parseOn (confServerDirectives n m server) s.1 s.2
    · simp only [CutSection.Refused, CutSection.needsWord, hdup, Bool.false_eq_true, false_or]
      cases d.needsWord with
      | true => simp
      | false => simp [serverMeaning]

/-! ### Rules -/

theorem stopsIn_ruleAction : CutSection.ruleAction.StopsIn env conf stop (confParseRule n) := by
  refine Fails.stops ?_ (.inr rfl)
  simp [CutSection.args, confParseRule, confRuleAction]

/-- A rule whose block has been opened: what is left is the loop over its criteria. -/
theorem parseOn_confParseRule_block (action : IrcRuleAction) (toks : List (Token CStr)) :
    parseOn (confParseRule n) ⟨actionToken action :: tokBegin :: toks, stop⟩ conf =
      (parseOn (confRuleBlock n n (ircRuleNew action)) ⟨toks, stop⟩ conf).andThen fun rule s =>
        parseOn (modifyConf fun conf => { conf with rules := conf.rules ++ [rule] }) s.1 s.2 := by
  rw [confParseRule, parseOn_bind, parseOn_confRuleAction, RunResult.andThen_ok, parseOn_bind]
  simp [confRuleBody]

theorem stopsIn_ruleEnd (action : IrcRuleAction) (cs : List Criteria)
    (hn : (CutSection.ruleEnd action cs).args.length < n) :
    (CutSection.ruleEnd action cs).StopsIn env conf stop (confParseRule n) := by
  simp only [CutSection.args, List.length_cons] at hn
  obtain ⟨m, hloop⟩ := @continues_ruleBlock stop conf cs n (by omega) (ircRuleNew action) [tokEof]
  rw [CutSection.StopsIn, CutSection.args, List.cons_append, List.cons_append,
    parseOn_confParseRule_block]
  refine Stops.andThen ?_ _
  refine (hloop.stops_none fun rule _ => ?_).congr ?_
  · simp [confRuleBlock]
  · simp [CutSection.Refused, CutSection.needsWord]

/-- The last criterion of a rule ends too early. -/
theorem stops_cutCriteria {cs : List Criteria} {action : IrcRuleAction} {name : CStr}
    {toks : List (Token CStr)} (hn : (cs.flatMap Criteria.tokens).length < n)
    (hcut : ∀ adder rule, ruleAdder name = some adder → IsOff
      (parseOn (do confBegin; let rule ← confRuleValues adder n rule; confEnd; return rule)
        ⟨toks, stop⟩ conf)) :
    Stops (parseOn (confParseRule n) ⟨actionToken action :: tokBegin ::
        (cs.flatMap Criteria.tokens ++ .str name :: toks), stop⟩ conf)
      (cs.foldlM Criteria.meaning (ircRuleNew action) = none ∨ ruleAdder name = none) := by
  obtain ⟨m, hloop⟩ := @continues_ruleBlock stop conf cs n hn (ircRuleNew action)
    (.str name :: toks)
  rw [parseOn_confParseRule_block]
  refine Stops.andThen ?_ _
  refine (hloop.stops (p := fun _ => ruleAdder name = none) fun rule _ => ?_).congr ?_
  · have hcriteria : Stops (parseOn (confParseRuleCriteria n rule name) ⟨toks, stop⟩ conf)
        (ruleAdder name = none) := by
      rw [confParseRuleCriteria]
      cases hadder : ruleAdder name with
      | none => exact Fails.stops (fails_fatal _ _) rfl
      | some adder => exact (hcut adder rule hadder).stops (by simp)
    have := hcriteria.andThen fun rule s => parseOn (confRuleBlock n m rule) s.1 s.2
    simpa [confRuleBlock] using this
  · cases cs.foldlM Criteria.meaning (ircRuleNew action) <;> simp

theorem stopsIn_ruleBegin (action : IrcRuleAction) (cs : List Criteria) (name : CStr)
    (hn : (CutSection.ruleBegin action cs name).args.length < n) :
    (CutSection.ruleBegin action cs name).StopsIn env conf stop (confParseRule n) := by
  simp only [CutSection.args, List.length_cons, List.length_append] at hn
  rw [CutSection.StopsIn, CutSection.args, List.cons_append, List.cons_append, List.append_assoc]
  refine (stops_cutCriteria (by omega) fun adder rule _ => ?_).congr ?_
  · simp
  · simp [CutSection.Refused, CutSection.needsWord]

theorem stopsIn_ruleValues (action : IrcRuleAction) (cs : List Criteria) (c : Criteria)
    (hn : (CutSection.ruleValues action cs c).args.length < n) :
    (CutSection.ruleValues action cs c).StopsIn env conf stop (confParseRule n) := by
  have hlen := length_le_length_valueTokens c.comma c.values
  simp only [CutSection.args, List.length_cons, List.length_append] at hn
  rw [CutSection.StopsIn, CutSection.args, List.cons_append, List.cons_append, List.append_assoc]
  refine (stops_cutCriteria (by omega) fun adder rule _ => ?_).congr ?_
  · have hvalues := @parseOn_confRuleValues [] stop conf adder c.comma tokEof (by simp) (by simp)
      c.values n rule (by omega)
    simp [hvalues]
  · simp [CutSection.Refused, CutSection.needsWord]

/-! ### Plugins -/

theorem stopsIn_pluginPath (name : CStr) :
    (CutSection.pluginPath name).StopsIn env conf stop (confParsePlugin env n) := by
  rw [CutSection.StopsIn, CutSection.args, confParsePlugin]
  simp only [List.cons_append, List.nil_append, parseOn_bind, parseOn_confString, parseOn_getConf,
    RunResult.andThen_ok]
  by_cases hdup : conf.plugins.any (·.name == name) = true
  · rw [if_pos hdup]
    exact Fails.stops (fails_fatal _ _) (.inl hdup)
  · rw [if_neg hdup]
    refine IsOff.stops ?_ (not_or.2 ⟨hdup, by simp [CutSection.needsWord]⟩)
    simp [confPluginLocation]

/-- A plugin whose block ends too early, given how the loop stops behind the directives. -/
theorem stops_cutPlugin {name : CStr} {location : Option CStr} {ds : List PluginDirective}
    {toks : List (Token CStr)} {p : Prop} (hn : (ds.flatMap PluginDirective.tokens).length < n)
    (hcut : ∀ m plg, Stops
      (parseOn (do let plg ← confPluginBlock n (m + 1) plg; confEnd; return plg) ⟨toks, stop⟩ conf)
      p) :
    Stops (parseOn (confParsePlugin env n)
        ⟨CutSection.pluginTokens name location ds ++ toks, stop⟩ conf)
      (pluginMeaning env conf name location ds = none ∨ p) := by
  have hlocation := @parseOn_confPluginLocation
    (tokBegin :: (ds.flatMap PluginDirective.tokens ++ toks)) stop conf location
    fun _ => ⟨tokBegin, rfl, by decide⟩
  rw [confParsePlugin, CutSection.pluginTokens, pluginMeaning]
  simp only [List.cons_append, List.append_assoc, parseOn_bind, parseOn_confString,
    parseOn_getConf, RunResult.andThen_ok]
  -- the checks of the source, each with a fatal error, stand before the block is read
  by_cases hdup : conf.plugins.any (·.name == name) = true
  · rw [if_pos hdup]
    exact Fails.stops (fails_fatal _ _) (.inl (if_pos (.inl hdup)))
  rw [if_neg hdup]
  simp only [parseOn_bind, hlocation, RunResult.andThen_ok]
  by_cases hloaded : env.loaded name = true
  · rw [if_pos hloaded]
    exact Fails.stops (fails_fatal _ _) (.inl (if_pos (.inr hloaded)))
  rw [if_neg hloaded, if_neg (not_or.2 ⟨hdup, hloaded⟩)]
  cases env.search name location with
  | none => exact Fails.stops (fails_fatal _ _) (.inl rfl)
  | some plg =>
    obtain ⟨m, hloop⟩ := @continues_pluginBlock stop conf ds n hn plg toks
    dsimp only
    rw [parseOn_bind, Option.bind_some]
    refine Stops.andThen ?_ _
    have hbody := hloop.andThen fun plg s => parseOn (do confEnd; return plg) s.1 s.2
    have hstops := hbody.stops (p := fun _ => p) fun plg _ => by
      simpa only [parseOn_bind] using hcut m plg
    refine Stops.congr (p := ∀ b, ds.foldlM PluginDirective.meaning plg = some b → p) ?_ ?_
    · simpa [confPluginBody] using hstops
    · cases ds.foldlM PluginDirective.meaning plg <;> simp

theorem stopsIn_pluginEnd (name : CStr) (location : Option CStr) (ds : List PluginDirective)
    (hn : (CutSection.pluginEnd name location ds).args.length < n) :
    (CutSection.pluginEnd name location ds).StopsIn env conf stop (confParsePlugin env n) := by
  simp only [CutSection.args, CutSection.pluginTokens, List.length_cons, List.length_append] at hn
  rw [CutSection.StopsIn, CutSection.args]
  refine (stops_cutPlugin (p := False) (by omega) fun m plg => ?_).congr ?_
  · exact IsOff.stops (by simp [confPluginBlock]) not_false
  · simp [CutSection.Refused, CutSection.needsWord]

/-- A plugin whose last directive ends too early. -/
theorem stops_cutPluginDirective {name : CStr} {location : Option CStr}
    {ds : List PluginDirective} {what : CStr} {toks : List (Token CStr)}
    (hn : (ds.flatMap PluginDirective.tokens).length < n)
    (hcut : ∀ kind (plg : Plugin), IsOff
      (parseOn (do
        confBegin
        let plg ← confPairs (fun plg => plg.set kind) n plg
        confEnd
        return plg) ⟨toks, stop⟩ conf)) :
    Stops (parseOn (confParsePlugin env n)
        ⟨CutSection.pluginTokens name location ds ++ .str what :: toks, stop⟩ conf)
      (pluginMeaning env conf name location ds = none ∨ pluginSetter what = none) := by
  refine stops_cutPlugin hn fun m plg => ?_
  have hoptions : Stops (parseOn (confParsePluginOptions n plg what) ⟨toks, stop⟩ conf)
      (pluginSetter what = none) := by
    rw [confParsePluginOptions]
    cases pluginSetter what with
    | none => exact Fails.stops (fails_fatal _ _) rfl
    | some kind => exact (hcut kind plg).stops (by simp)
  have hloop := (hoptions.andThen fun plg s => parseOn (confPluginBlock n m plg) s.1 s.2).andThen
    fun plg s => parseOn (do confEnd; return plg) s.1 s.2
  simpa [confPluginBlock] using hloop

theorem stopsIn_pluginBegin (name : CStr) (location : Option CStr) (ds : List PluginDirective)
    (what : CStr) (hn : (CutSection.pluginBegin name location ds what).args.length < n) :
    (CutSection.pluginBegin name location ds what).StopsIn env conf stop
      (confParsePlugin env n) := by
  simp only [CutSection.args, CutSection.pluginTokens, List.length_cons, List.length_append] at hn
  rw [CutSection.StopsIn, CutSection.args, List.append_assoc]
  refine (stops_cutPluginDirective (by omega) fun kind plg => ?_).congr ?_
  · simp
  · simp [CutSection.Refused, CutSection.needsWord]

theorem stopsIn_pluginPairs (name : CStr) (location : Option CStr) (ds : List PluginDirective)
    (d : PluginDirective) (hn : (CutSection.pluginPairs name location ds d).args.length < n) :
    (CutSection.pluginPairs name location ds d).StopsIn env conf stop
      (confParsePlugin env n) := by
  simp only [CutSection.args, CutSection.pluginTokens, List.length_cons, List.length_append,
    length_pairTokens] at hn
  rw [CutSection.StopsIn, CutSection.args, List.append_assoc]
  refine (stops_cutPluginDirective (by omega) fun kind plg => ?_).congr ?_
  · exact parseOn_confPairs_eof (by omega) plg
  · simp [CutSection.Refused, CutSection.needsWord]

theorem stopsIn_pluginValue (name : CStr) (location : Option CStr) (ds : List PluginDirective)
    (d : PluginDirective) (key : CStr)
    (hn : (CutSection.pluginValue name location ds d key).args.length < n) :
    (CutSection.pluginValue name location ds d key).StopsIn env conf stop
      (confParsePlugin env n) := by
  simp only [CutSection.args, CutSection.pluginTokens, List.length_cons, List.length_append,
    length_pairTokens] at hn
  rw [CutSection.StopsIn, CutSection.args, List.append_assoc]
  refine (stops_cutPluginDirective (by omega) fun kind plg => ?_).congr ?_
  · simpa using parseOn_confPairs_key (by omega) plg key
  · simp [CutSection.Refused, CutSection.needsWord]

/-! ## The file -/

/-- The parser stops in the section that ends too early. -/
theorem stopsIn_confSection (c : CutSection) (hn : c.args.length < n) :
    c.StopsIn env conf stop (confSection env n c.topic) := by
  -- by where the section is cut
  cases c with
  | logTo plural verbose template =>
    cases plural <;> exact stopsIn_logTo _ verbose template
  | logFormat plural verbose => cases plural <;> exact stopsIn_logFormat _ verbose
  | logSink plural verbose template => cases plural <;> exact stopsIn_logSink _ verbose template
  | logPath plural verbose template => cases plural <;> exact stopsIn_logPath _ verbose template
  | transport => exact stopsIn_transport
  | transportUid => exact stopsIn_transportUid
  | transportUser => exact stopsIn_transportUser
  | transportGid uid => exact stopsIn_transportGid uid
  | transportGroup uid => exact stopsIn_transportGroup uid
  | transportTo owner => exact stopsIn_transportTo owner
  | transportPath owner => exact stopsIn_transportPath owner
  | hookName =>
    exact IsOff.stops ⟨_, rfl⟩ (by simp [CutSection.Refused, CutSection.needsWord])
  | hookTo name => exact stopsIn_hookTo name
  | hookPath name => exact stopsIn_hookPath name
  | serverName =>
    exact IsOff.stops ⟨_, rfl⟩ (by simp [CutSection.Refused, CutSection.needsWord])
  | serverBegin name => exact stopsIn_serverBegin name
  | serverEnd name ds => exact stopsIn_serverEnd name ds hn
  | serverDirective name ds d => exact stopsIn_serverDirective name ds d hn
  | ruleAction => exact stopsIn_ruleAction
  | ruleEnd action cs => exact stopsIn_ruleEnd action cs hn
  | ruleBegin action cs name => exact stopsIn_ruleBegin action cs name hn
  | ruleValues action cs c => exact stopsIn_ruleValues action cs c hn
  | pluginName =>
    exact IsOff.stops ⟨_, rfl⟩ (by simp [CutSection.Refused, CutSection.needsWord])
  | pluginPath name => exact stopsIn_pluginPath name
  | pluginEnd name location ds => exact stopsIn_pluginEnd name location ds hn
  | pluginBegin name location ds what => exact stopsIn_pluginBegin name location ds what hn
  | pluginPairs name location ds d => exact stopsIn_pluginPairs name location ds d hn
  | pluginValue name location ds d key => exact stopsIn_pluginValue name location ds d key hn

/-- The file ends inside a section. -/
theorem stops_cutSection (c : CutSection) {rounds m : ℕ} (hn : c.args.length < rounds) :
    Stops (parseOn (confParserEntry env rounds (m + 1)) ⟨c.tokens ++ [tokEof], stop⟩ conf)
      (c.Refused env conf ∨ c.needsWord = true) := by
  rw [CutSection.tokens, List.cons_append, parseOn_confParserEntry]
  exact (stopsIn_confSection c hn).andThen _

end Cut

/-- The file is rejected with a message. -/
def Opened.IsFatal (o : Opened) : Prop := ∃ line column message, o = .fatal line column message

/-- How the parser stops, and what `conf_open` makes of it. -/
theorem Stops.isFatal_iff {x : RunResult Halt (Tokens × Conf) Unit} {p : Prop} (h : Stops x p)
    (src : ConfText) : (opened src x.2.2 x.1).IsFatal ↔ p := by
  by_cases hp : p
  · obtain ⟨message, s, rfl⟩ := h.1 hp
    exact iff_of_true ⟨_, _, _, rfl⟩ hp
  · obtain ⟨s, rfl⟩ := h.2 hp
    refine iff_of_false ?_ hp
    rintro ⟨line, column, message, heq⟩
    cases heq

/-- Behind the sections, a file that ends too early is rejected if a value is refused or if the
parser looks for a word, and is applied otherwise. -/
theorem confOpen_isFatal_iff (env : ConfEnv) (file : List UInt8) (ss : List ConfSection)
    (cut : CutSection)
    (hfile : fileTokens file = ⟨ss.flatMap ConfSection.tokens ++ (cut.tokens ++ [tokEof]), .ended⟩)
    (hsep : ConfSection.Separated (cut.tokens ++ [tokEof]) ss) :
    (confOpen env file).IsFatal ↔
      (∀ conf, confMeaning env {} ss = some conf → cut.Refused env conf) ∨
        cut.needsWord = true := by
  -- the parser has more rounds left than the file has tokens
  have hlen := length_lexTokens (confText file).text
  rw [show lexTokens (confText file).text = _ from hfile] at hlen
  simp only [confText, List.length_append, CutSection.tokens, List.length_cons, List.length_nil]
    at hlen
  have hsections : ss.length ≤ (ss.flatMap ConfSection.tokens).length :=
    length_le_length_flatMap fun s _ => by simp [ConfSection.tokens]
  obtain ⟨m, hm⟩ : ∃ m, file.length + 3 = ss.length + (m + 1) :=
    ⟨file.length + 2 - ss.length, by omega⟩
  have hparse := @continues_sections env (file.length + 3) (cut.tokens ++ [tokEof]) .ended ss
    (m + 1) {} (by omega) hsep
  have hstops := hparse.stops (p := fun conf => cut.Refused env conf ∨ cut.needsWord = true)
    fun conf _ => stops_cutSection cut (by omega)
  rw [← hm, ← hfile] at hstops
  obtain ⟨src, hopen⟩ := confOpen_eq env file
  rw [hopen]
  refine (Stops.isFatal_iff hstops src).trans ?_
  cases cut.needsWord with
  | true => simp
  | false => simp

/-- The path of a hook is missing, and nobody notices. -/
theorem isFatal_iff_of_hookPath :
    (confOpen bareEnv (cstr "hook a to")).IsFatal ↔
      (∀ conf, confMeaning bareEnv {} [] = some conf →
        (CutSection.hookPath (cstr "a")).Refused bareEnv conf) ∨
      (CutSection.hookPath (cstr "a")).needsWord = true :=
  confOpen_isFatal_iff bareEnv (cstr "hook a to") [] (.hookPath (cstr "a")) (by decide) trivial

/-- The block of a server is not closed, and the hook before it is applied. -/
theorem not_forall_isFatal :
    ¬ ∀ (env : ConfEnv) (file : List UInt8) (ss : List ConfSection) (cut : CutSection),
      fileTokens file = ⟨ss.flatMap ConfSection.tokens ++ (cut.tokens ++ [tokEof]), .ended⟩ →
      ConfSection.Separated (cut.tokens ++ [tokEof]) ss → (confOpen env file).IsFatal := by
  intro h
  have happly : confOpen bareEnv (cstr "hook a to /b\nserver s \x7b") =
      .apply { hooks := [{ name := cstr "a", path := cstr "/b" }] } := by rfl
  obtain ⟨line, column, message, hfatal⟩ := h bareEnv (cstr "hook a to /b\nserver s \x7b")
    [.hook (cstr "a") (cstr "/b")] (.serverEnd (cstr "s") []) (by decide) ⟨trivial, trivial⟩
  rw [happly] at hfatal
  cases hfatal

end Irccd
