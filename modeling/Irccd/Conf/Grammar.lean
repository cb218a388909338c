import Irccd.Conf.Sections

/-!
# The parser reads the sections

On the tokens of a section, the parser does what the section means and goes on behind it, or it
stops with an error when a value of the section is refused.

* `Continues`: a part of the parser does what it should and goes on;
* `Fails`: it stops with an error;
* `continues_confSection`: the sections.
-/

namespace Irccd

open Programs

/-- The parser, on a list of tokens and a configuration. -/
def parseOn {α : Type} (p : Parser α) (ts : Tokens) (conf : Conf) :
    RunResult Halt (Tokens × Conf) α :=
  run (withConf Op.onTokens) p (ts, conf)

/-! ## The primitives -/

section Primitives

variable {α β : Type} {ts : Tokens} {toks : List (Token CStr)} {stop : Halt} {conf : Conf}

@[simp] theorem parseOn_pure (a : α) :
    parseOn (pure a : Parser α) ts conf = (.ok a, (ts, conf)) := rfl

@[simp] theorem parseOn_bind (p : Parser α) (f : α → Parser β) :
    parseOn (p >>= f) ts conf = (parseOn p ts conf).andThen fun a s => parseOn (f a) s.1 s.2 :=
  run_bind ..

@[simp] theorem parseOn_confFatal (message : CStr) :
    parseOn (confFatal message : Parser α) ts conf = (.error (.fatal message), (ts, conf)) := rfl

@[simp] theorem parseOn_getConf : parseOn getConf ts conf = (.ok conf, (ts, conf)) := rfl

@[simp] theorem parseOn_modifyConf (f : Conf → Conf) :
    parseOn (modifyConf f) ts conf = (.ok (), (ts, f conf)) := rfl

theorem parseOn_operate (op : Op) :
    parseOn (operate op) ts conf = (op.onTokens ts).mapState fun ts => (ts, conf) :=
  run_query (withConf Op.onTokens) (ts, conf) (Request.op op)

@[simp] theorem parseOn_confNext (t : Token CStr) :
    parseOn confNext ⟨t :: toks, stop⟩ conf =
      if t.type = .eof then (.error .off, (⟨toks, stop⟩, conf))
      else (.ok t, (⟨toks, stop⟩, conf)) := by
  by_cases h : t.type = .eof <;>
    simp [confNext, parseOn_operate, Op.onTokens, Op.verdict, RunResult.mapState, h]

@[simp] theorem parseOn_confNextIs (type : TokenType) (t : Token CStr) :
    parseOn (confNextIs type) ⟨t :: toks, stop⟩ conf =
      if t.type = type then (.ok (true, t), (⟨toks, stop⟩, conf))
      else (.ok (false, t), (⟨t :: toks, stop⟩, conf)) := by
  by_cases h : t.type = type <;>
    simp [confNextIs, parseOn_operate, Op.onTokens, Op.verdict, RunResult.mapState, h]

@[simp] theorem parseOn_confStringIs (what : CStr) (t : Token CStr) :
    parseOn (confStringIs what) ⟨t :: toks, stop⟩ conf =
      if t.type = .string ∧ t.data = some what then (.ok true, (⟨toks, stop⟩, conf))
      else (.ok false, (⟨t :: toks, stop⟩, conf)) := by
  by_cases h : t.type = .string ∧ t.data = some what <;>
    simp [confStringIs, parseOn_operate, Op.onTokens, Op.verdict, RunResult.mapState, h]

@[simp] theorem parseOn_confString (s : CStr) :
    parseOn confString ⟨.str s :: toks, stop⟩ conf = (.ok s, (⟨toks, stop⟩, conf)) := rfl

@[simp] theorem parseOn_confString_eof :
    parseOn confString ⟨tokEof :: toks, stop⟩ conf = (.error .off, (⟨toks, stop⟩, conf)) := rfl

@[simp] theorem parseOn_confBeginIs (t : Token CStr) :
    parseOn confBeginIs ⟨t :: toks, stop⟩ conf =
      if t.type = .blkBegin then (.ok true, (⟨toks, stop⟩, conf))
      else (.ok false, (⟨t :: toks, stop⟩, conf)) := by
  by_cases h : t.type = .blkBegin <;>
    simp [confBeginIs, parseOn_operate, Op.onTokens, Op.verdict, RunResult.mapState, h]

@[simp] theorem parseOn_confKeyword (keyword : CStr) :
    parseOn (confKeyword keyword) ⟨.str keyword :: toks, stop⟩ conf =
      (.ok (), (⟨toks, stop⟩, conf)) := by
  simp [confKeyword]

@[simp] theorem parseOn_confKeyword_word (s : String) :
    parseOn (confKeyword (cstr s)) ⟨word s :: toks, stop⟩ conf = (.ok (), (⟨toks, stop⟩, conf)) :=
  parseOn_confKeyword (cstr s)

@[simp] theorem parseOn_confBegin :
    parseOn confBegin ⟨tokBegin :: toks, stop⟩ conf = (.ok (), (⟨toks, stop⟩, conf)) := by
  simp [confBegin]

@[simp] theorem parseOn_confEnd :
    parseOn confEnd ⟨tokEnd :: toks, stop⟩ conf = (.ok (), (⟨toks, stop⟩, conf)) := by
  simp [confEnd]

/-- A token that is not the word that is looked for. -/
theorem not_isWord {t : Token CStr} {s : String} (h : t ≠ word s) :
    ¬ (t.type = .string ∧ t.data = some (cstr s)) := by
  rintro ⟨htype, hdata⟩
  obtain ⟨type, data⟩ := t
  obtain rfl := htype
  obtain rfl := hdata
  exact h rfl

end Primitives

/-! ## What a part of the parser does -/

section Does

variable {α β : Type} {x : RunResult Halt (Tokens × Conf) α} {r : Option α} {s : Tokens × Conf}

/-- The parser stops with an error. -/
def Fails (x : RunResult Halt (Tokens × Conf) α) : Prop :=
  ∃ message s, x = (.error (.fatal message), s)

/-- The parser gets a value and goes on with it, or it stops with an error if there is none. -/
def Continues (x : RunResult Halt (Tokens × Conf) α)
    (next : β → RunResult Halt (Tokens × Conf) α) : Option β → Prop
  | some b => x = next b
  | none => Fails x

/-- The parser returns a value in the state `s`, or it stops with an error if there is none. -/
def Does (x : RunResult Halt (Tokens × Conf) α) (s : Tokens × Conf) : Option α → Prop :=
  Continues x fun a => (.ok a, s)

@[simp] theorem continues_some (next : β → RunResult Halt (Tokens × Conf) α) (b : β) :
    Continues x next (some b) ↔ x = next b := Iff.rfl

@[simp] theorem continues_none (next : β → RunResult Halt (Tokens × Conf) α) :
    Continues x next none ↔ Fails x := Iff.rfl

@[simp] theorem fails_fatal (message : CStr) (s : Tokens × Conf) :
    Fails ((.error (.fatal message), s) : RunResult Halt (Tokens × Conf) α) := ⟨message, s, rfl⟩

theorem Fails.andThen (h : Fails x) (f : α → Tokens × Conf → RunResult Halt (Tokens × Conf) β) :
    Fails (x.andThen f) := by
  obtain ⟨message, s, rfl⟩ := h
  exact ⟨message, s, rfl⟩

/-- One part of the parser, and what comes behind it. -/
theorem Continues.andThen {γ : Type} {x : RunResult Halt (Tokens × Conf) α} {r : Option β}
    {next : β → RunResult Halt (Tokens × Conf) α} (h : Continues x next r)
    (f : α → Tokens × Conf → RunResult Halt (Tokens × Conf) γ) :
    Continues (x.andThen f) (fun b => (next b).andThen f) r := by
  cases r with
  | none => exact Fails.andThen h f
  | some b =>
    rw [show x = next b from h]
    rfl

theorem Does.andThen (h : Does x s r)
    (f : α → Tokens × Conf → RunResult Halt (Tokens × Conf) β) :
    Continues (x.andThen f) (fun a => f a s) r :=
  Continues.andThen h f

/-- One part of the parser after another. -/
theorem Continues.trans {γ : Type} {x : RunResult Halt (Tokens × Conf) α} {r : Option β}
    {next : β → RunResult Halt (Tokens × Conf) α} {next' : γ → RunResult Halt (Tokens × Conf) α}
    {g : β → Option γ} (h : Continues x next r)
    (hnext : ∀ b, r = some b → Continues (next b) next' (g b)) :
    Continues x next' (r.bind g) := by
  cases r with
  | none => exact h
  | some b =>
    rw [show x = next b from h]
    exact hnext b rfl

theorem length_le_flatMap {δ τ : Type} (f : δ → List τ) {d : δ} {ds : List δ} (h : d ∈ ds) :
    (f d).length ≤ (ds.flatMap f).length := by
  obtain ⟨before, after, rfl⟩ := List.append_of_mem h
  simp only [List.flatMap_append, List.flatMap_cons, List.length_append]
  omega

theorem length_le_length_flatMap {δ τ : Type} {f : δ → List τ} {ds : List δ}
    (h : ∀ d ∈ ds, 0 < (f d).length) : ds.length ≤ (ds.flatMap f).length := by
  induction ds with
  | nil => exact Nat.zero_le _
  | cons d ds ih =>
    have hd := h d (by simp)
    have := ih fun d hd => h d (by simp [hd])
    rw [List.length_cons, List.flatMap_cons, List.length_append]
    omega

/-- A loop that takes one piece of syntax after another. -/
theorem continues_foldlM {δ σ : Type} {tokens : δ → List (Token CStr)} {stop : Halt} {conf : Conf}
    {meaning : σ → δ → Option σ} {loop : ℕ → σ → Parser σ} (ds : List δ)
    (hstep : ∀ d ∈ ds, ∀ n s toks,
      Continues (parseOn (loop (n + 1) s) ⟨tokens d ++ toks, stop⟩ conf)
        (fun s => parseOn (loop n s) ⟨toks, stop⟩ conf) (meaning s d))
    (n : ℕ) (s : σ) (toks : List (Token CStr)) :
    Continues (parseOn (loop (ds.length + n) s) ⟨ds.flatMap tokens ++ toks, stop⟩ conf)
      (fun s => parseOn (loop n s) ⟨toks, stop⟩ conf) (ds.foldlM meaning s) := by
  induction ds generalizing s with
  | nil =>
    rw [List.length_nil, Nat.zero_add]
    exact rfl
  | cons d ds ih =>
    rw [List.length_cons, Nat.add_right_comm, List.flatMap_cons, List.append_assoc,
      List.foldlM_cons]
    refine (hstep d (by simp) _ s _).trans fun s' _ => ?_
    exact ih (fun d hd => hstep d (by simp [hd])) s'

/-- The loop has rounds left behind the last piece. -/
theorem exists_continues_foldlM {δ σ : Type} {tokens : δ → List (Token CStr)} {stop : Halt}
    {conf : Conf} {meaning : σ → δ → Option σ} {loop : ℕ → σ → Parser σ} {ds : List δ}
    (hstep : ∀ d ∈ ds, ∀ n s toks,
      Continues (parseOn (loop (n + 1) s) ⟨tokens d ++ toks, stop⟩ conf)
        (fun s => parseOn (loop n s) ⟨toks, stop⟩ conf) (meaning s d))
    {n : ℕ} (hn : ds.length < n) (s : σ) (toks : List (Token CStr)) :
    ∃ m, Continues (parseOn (loop n s) ⟨ds.flatMap tokens ++ toks, stop⟩ conf)
      (fun s => parseOn (loop (m + 1) s) ⟨toks, stop⟩ conf) (ds.foldlM meaning s) := by
  obtain ⟨m, hm⟩ : ∃ m, n = ds.length + (m + 1) := ⟨n - ds.length - 1, by omega⟩
  have hloop := continues_foldlM ds hstep (m + 1) s toks
  rw [← hm] at hloop
  exact ⟨m, hloop⟩

end Does

/-! ## Keys and values -/

section Pairs

variable {σ : Type} {set : σ → CStr → CStr → σ} {toks : List (Token CStr)} {stop : Halt}
  {conf : Conf}

/-- The loop takes the keys and values, and goes on behind them. -/
theorem parseOn_confPairs (pairs : List (CStr × CStr)) (n : ℕ) (s : σ) :
    parseOn (confPairs set (pairs.length + n) s) ⟨pairTokens pairs ++ toks, stop⟩ conf =
      parseOn (confPairs set n (pairs.foldl (fun s v => set s v.1 v.2) s)) ⟨toks, stop⟩ conf := by
  induction pairs generalizing s with
  | nil => simp
  | cons v pairs ih =>
    rw [List.length_cons, Nat.add_right_comm, confPairs]
    simp [ih]

/-- The block of keys and values is over. -/
theorem parseOn_confPairs_end {pairs : List (CStr × CStr)} {n : ℕ} (hn : pairs.length < n)
    (s : σ) {t : Token CStr} (ht : t.type ≠ .string) :
    parseOn (confPairs set n s) ⟨pairTokens pairs ++ t :: toks, stop⟩ conf =
      (.ok (pairs.foldl (fun s v => set s v.1 v.2) s), (⟨t :: toks, stop⟩, conf)) := by
  obtain ⟨m, rfl⟩ := Nat.exists_eq_add_of_lt hn
  rw [Nat.add_assoc, parseOn_confPairs, confPairs]
  simp [ht]

/-- A block of keys and values. -/
theorem parseOn_pairBlock {pairs : List (CStr × CStr)} {n : ℕ} (hn : pairs.length < n) (s : σ) :
    parseOn (do confBegin; let s ← confPairs set n s; confEnd; return s)
        ⟨tokBegin :: (pairTokens pairs ++ [tokEnd]) ++ toks, stop⟩ conf =
      (.ok (pairs.foldl (fun s v => set s v.1 v.2) s), (⟨toks, stop⟩, conf)) := by
  have hpairs := @parseOn_confPairs_end σ set toks stop conf pairs n hn s tokEnd (by simp)
  simp [hpairs]

end Pairs

/-! ## Logs -/

section Log

variable {toks : List (Token CStr)} {stop : Halt} {conf : Conf}

/-- The token behind the level is another word. -/
theorem parseOn_confLogLevel (verbose : Option Bool) {t : Token CStr}
    (ht : t ≠ word "verbose") (ht' : t ≠ word "quiet") :
    parseOn confLogLevel ⟨levelTokens verbose ++ t :: toks, stop⟩ conf =
      (.ok (), (⟨t :: toks, stop⟩, levelMeaning conf verbose)) := by
  cases verbose with
  | none =>
    have hverbose := not_isWord ht
    have hquiet := not_isWord ht'
    simp [confLogLevel, levelTokens, levelMeaning, hverbose, hquiet]
  | some verbose =>
    cases verbose <;> simp +decide [confLogLevel, levelTokens, levelMeaning]

theorem parseOn_confLogTemplate (template : Option CStr) {t : Token CStr}
    (ht : t ≠ word "template") :
    parseOn confLogTemplate ⟨templateTokens template ++ t :: toks, stop⟩ conf =
      (.ok (), (⟨t :: toks, stop⟩, templateMeaning conf template)) := by
  cases template with
  | none => simp [confLogTemplate, templateTokens, templateMeaning, not_isWord ht]
  | some fmt => simp [confLogTemplate, templateTokens, templateMeaning]

theorem parseOn_confLogSink (sink : Sink) :
    parseOn confLogSink ⟨sink.tokens ++ toks, stop⟩ conf =
      (.ok (), (⟨toks, stop⟩, sink.meaning conf)) := by
  cases sink <;> simp +decide [confLogSink, Sink.tokens, Sink.meaning]

/-- The level and the template, before another word. -/
theorem parseOn_confParseLog (verbose : Option Bool) (template : Option CStr) {t : Token CStr}
    (ht : t ≠ word "verbose") (ht' : t ≠ word "quiet") (ht'' : t ≠ word "template") :
    parseOn confParseLog ⟨levelTokens verbose ++ (templateTokens template ++ t :: toks), stop⟩
        conf =
      parseOn (do confKeyword (cstr "to"); confLogSink) ⟨t :: toks, stop⟩
        (templateMeaning (levelMeaning conf verbose) template) := by
  have hlevel : parseOn confLogLevel
      ⟨levelTokens verbose ++ (templateTokens template ++ t :: toks), stop⟩ conf =
        (.ok (), (⟨templateTokens template ++ t :: toks, stop⟩, levelMeaning conf verbose)) := by
    cases template with
    | none => exact parseOn_confLogLevel verbose ht ht'
    | some fmt => exact parseOn_confLogLevel verbose (by decide) (by decide)
  have htemplate := @parseOn_confLogTemplate toks stop (levelMeaning conf verbose) template t ht''
  rw [confParseLog, parseOn_bind, hlevel, RunResult.andThen_ok, parseOn_bind, htemplate,
    RunResult.andThen_ok]

theorem does_log (plural : Bool) (verbose : Option Bool) (template : Option CStr) (sink : Sink)
    (env : ConfEnv) :
    Continues (parseOn confParseLog
      ⟨(ConfSection.log plural verbose template sink).args ++ toks, stop⟩ conf)
      (fun conf => (.ok (), (⟨toks, stop⟩, conf)))
      ((ConfSection.log plural verbose template sink).meaning env conf) := by
  have hlog := @parseOn_confParseLog (sink.tokens ++ toks) stop conf verbose template (word "to")
    (by decide) (by decide) (by decide)
  simp [ConfSection.args, ConfSection.meaning, hlog, parseOn_confLogSink]

end Log

/-! ## Transport and hooks -/

section Transport

variable {toks : List (Token CStr)} {stop : Halt} {conf : Conf}

theorem does_resolve (lookup : CStr → Option ℤ) (what value : CStr) {ts : Tokens} :
    Does (parseOn (confResolve lookup what value) ts conf) (ts, conf) (resolve lookup value) := by
  rw [confResolve, resolve]
  cases ircUtilStoi value with
  | ok n => rfl
  | error e =>
    dsimp only
    cases lookup value with
    | some n => rfl
    | none => exact fails_fatal _ _

theorem does_owner (owner : Option (CStr × CStr)) (env : ConfEnv) {t : Token CStr}
    (ht : t ≠ word "with") :
    Continues (parseOn (confTransportOwner env) ⟨ownerTokens owner ++ t :: toks, stop⟩ conf)
      (fun conf => (.ok (), (⟨t :: toks, stop⟩, conf))) (ownerMeaning env conf owner) := by
  cases owner with
  | none => simp [confTransportOwner, ownerTokens, ownerMeaning, not_isWord ht]
  | some owner =>
    obtain ⟨uid, gid⟩ := owner
    simp only [confTransportOwner, ownerTokens, ownerMeaning, List.cons_append, List.nil_append,
      parseOn_bind, parseOn_confStringIs, type_word, data_word, and_self, if_true,
      RunResult.andThen_ok, parseOn_confKeyword_word, parseOn_confString]
    refine ((does_resolve _ _ _).andThen _).trans fun tptUid _ => ?_
    simp only [parseOn_modifyConf, parseOn_confKeyword_word, parseOn_confString,
      RunResult.andThen_ok]
    rw [Option.map_eq_bind]
    exact ((does_resolve _ _ _).andThen _).trans fun tptGid _ => rfl

theorem does_transport (owner : Option (CStr × CStr)) (path : CStr) (env : ConfEnv) :
    Continues (parseOn (confParseTransport env)
      ⟨(ConfSection.transport owner path).args ++ toks, stop⟩ conf)
      (fun conf => (.ok (), (⟨toks, stop⟩, conf)))
      ((ConfSection.transport owner path).meaning env conf) := by
  rw [ConfSection.meaning, confParseTransport, ConfSection.args]
  simp only [List.append_assoc, List.cons_append, List.nil_append, parseOn_bind, parseOn_getConf,
    RunResult.andThen_ok]
  by_cases htpt : conf.tpt.isSome = true
  · rw [if_pos htpt, if_pos htpt]
    exact fails_fatal _ _
  · rw [if_neg htpt, if_neg htpt, parseOn_bind, Option.map_eq_bind]
    refine (Continues.andThen (does_owner owner env (by decide)) _).trans fun conf _ => ?_
    simp

theorem does_hook (name path : CStr) (env : ConfEnv) :
    Continues (parseOn confParseHook ⟨(ConfSection.hook name path).args ++ toks, stop⟩ conf)
      (fun conf => (.ok (), (⟨toks, stop⟩, conf)))
      ((ConfSection.hook name path).meaning env conf) := by
  rw [ConfSection.meaning, confParseHook, ConfSection.args]
  simp only [List.cons_append, List.nil_append, parseOn_bind, parseOn_confString, parseOn_getConf,
    RunResult.andThen_ok]
  by_cases hdup : conf.hooks.any (·.name == name) = true
  · rw [if_pos hdup, if_pos hdup]
    exact fails_fatal _ _
  · rw [if_neg hdup, if_neg hdup]
    simp [word]

end Transport

/-! ## Servers -/

section Server

variable {toks : List (Token CStr)} {stop : Halt} {conf : Conf} {rounds : ℕ}

theorem parseOn_confInt {value : CStr} :
    parseOn confInt ⟨.str value :: toks, stop⟩ conf =
      match ircUtilStoi value with
      | .ok n => (.ok n, (⟨toks, stop⟩, conf))
      | .error _ => (.error (.fatal (cstr "number expected")), (⟨toks, stop⟩, conf)) := by
  rw [confInt, parseOn_bind, parseOn_confString, RunResult.andThen_ok]
  cases ircUtilStoi value with
  | ok n => rfl
  | error e => rfl

theorem does_port (value : CStr) (server : ConfServer) :
    Does (parseOn (confParseServerPort server) ⟨.str value :: toks, stop⟩ conf)
      (⟨toks, stop⟩, conf) ((ServerDirective.port value).meaning server) := by
  rw [confParseServerPort, parseOn_bind, parseOn_confInt, ServerDirective.meaning]
  cases ircUtilStoi value with
  | error e => exact ⟨_, _, rfl⟩
  | ok n =>
    dsimp only [RunResult.andThen_ok]
    split
    · rfl
    · exact ⟨_, _, rfl⟩

/-- The options are read up to the end of the block. -/
theorem does_options (names : List CStr) {n : ℕ} (hn : names.length < n) (server : ConfServer) :
    Does (parseOn (confParseServerOptions n server) ⟨names.map .str ++ tokEnd :: toks, stop⟩ conf)
      (⟨toks, stop⟩, conf) ((ServerDirective.options names).meaning server) := by
  induction names generalizing n server with
  | nil =>
    match n, hn with
    | n + 1, _ => simp [confParseServerOptions, ServerDirective.meaning, Does]
  | cons name names ih =>
    match n, hn with
    | n + 1, hn =>
      rw [confParseServerOptions, parseOn_bind, List.map_cons, List.cons_append, parseOn_confNext,
        if_neg (by simp), RunResult.andThen_ok, Token.type_str, if_pos rfl, Token.string_str]
      cases hoption : serverOption server.flags name with
      | none =>
        have hmeaning : (ServerDirective.options (name :: names)).meaning server = none := by
          simp [ServerDirective.meaning, hoption]
        rw [hmeaning]
        exact ⟨_, _, rfl⟩
      | some flags =>
        have hmeaning : (ServerDirective.options (name :: names)).meaning server =
            (ServerDirective.options names).meaning { server with flags } := by
          simp [ServerDirective.meaning, hoption]
        rw [hmeaning]
        exact ih (by simpa using hn) { server with flags }

theorem does_ctcp (pairs : List (CStr × CStr)) {n : ℕ} (hn : pairs.length < n)
    (server : ConfServer) :
    Does (parseOn (confParseServerCtcp server n)
      ⟨tokBegin :: (pairTokens pairs ++ [tokEnd]) ++ toks, stop⟩ conf)
      (⟨toks, stop⟩, conf) ((ServerDirective.ctcp pairs).meaning server) :=
  parseOn_pairBlock hn server

theorem length_pairTokens (pairs : List (CStr × CStr)) :
    (pairTokens pairs).length = 2 * pairs.length := by
  induction pairs with
  | nil => rfl
  | cons v pairs ih =>
    rw [pairTokens_cons, List.length_cons, List.length_cons, ih, List.length_cons]
    omega

theorem does_directive (d : ServerDirective) (server : ConfServer)
    (hrounds : d.args.length < rounds) :
    Does (parseOn (confServerDirective server rounds d.name) ⟨d.args ++ toks, stop⟩ conf)
      (⟨toks, stop⟩, conf) (d.meaning server) := by
  cases d with
  | hostname value =>
    simp +decide [ServerDirective.name, ServerDirective.args, ServerDirective.meaning,
      confServerDirective, Does, confParseServerHostname]
  | port value => exact does_port value server
  | pfx value =>
    simp +decide [ServerDirective.name, ServerDirective.args, ServerDirective.meaning,
      confServerDirective, Does, confParseServerPrefix]
  | ident nickname username realname =>
    simp +decide [ServerDirective.name, ServerDirective.args, ServerDirective.meaning,
      confServerDirective, Does, confParseServerIdent]
  | password value =>
    simp +decide [ServerDirective.name, ServerDirective.args, ServerDirective.meaning,
      confServerDirective, Does, confParseServerPassword]
  | join channel ne =>
    simp +decide [ServerDirective.name, ServerDirective.args, ServerDirective.meaning,
      confServerDirective, Does, confParseServerJoin, ne]
  | joinWith channel key =>
    simp +decide [ServerDirective.name, ServerDirective.args, ServerDirective.meaning,
      confServerDirective, Does, confParseServerJoin, confKeyword]
  | ctcp pairs =>
    simp only [ServerDirective.args, List.length_cons, List.length_append, length_pairTokens]
      at hrounds
    exact does_ctcp pairs (by omega) server
  | ssl =>
    simp +decide [ServerDirective.args, ServerDirective.meaning, confServerDirective, Does,
      confParseServerSsl]
  | options names =>
    simp only [ServerDirective.args, List.length_append, List.length_map] at hrounds
    rw [ServerDirective.args, List.append_assoc]
    exact does_options names (by omega) server
  | optionsBlock names =>
    -- the block has a beginning, where the parser looks for an option
    match rounds, hrounds with
    | rounds + 1, _ =>
      refine ⟨cstr "unterminated server options list",
        (⟨names.map .str ++ [tokEnd] ++ toks, stop⟩, conf), ?_⟩
      simp +decide [ServerDirective.name, ServerDirective.args, confServerDirective,
        confParseServerOptions]
  | other name notMem =>
    simp only [directiveNames, List.map_cons, List.map_nil, List.mem_cons, List.not_mem_nil,
      or_false, not_or] at notMem
    obtain ⟨h1, h2, h3, h4, h5, h6, h7, h8, h9⟩ := notMem
    simp [ServerDirective.name, ServerDirective.args, ServerDirective.meaning,
      confServerDirective, Does, h1, h2, h3, h4, h5, h6, h7, h8, h9]

theorem continues_directive (d : ServerDirective) (hrounds : d.args.length < rounds) (n : ℕ)
    (server : ConfServer) (toks : List (Token CStr)) :
    Continues (parseOn (confServerDirectives rounds (n + 1) server) ⟨d.tokens ++ toks, stop⟩ conf)
      (fun server => parseOn (confServerDirectives rounds n server) ⟨toks, stop⟩ conf)
      (d.meaning server) := by
  rw [confServerDirectives, ServerDirective.tokens]
  have := (@does_directive toks stop conf rounds d server hrounds).andThen
    fun server s => parseOn (confServerDirectives rounds n server) s.1 s.2
  simpa using this

/-- The loop takes the directives, and goes on behind them. -/
theorem continues_directives (ds : List ServerDirective) {n : ℕ}
    (hn : (ds.flatMap ServerDirective.tokens).length < n) (server : ConfServer)
    (toks : List (Token CStr)) :
    ∃ m, Continues
      (parseOn (confServerDirectives n n server)
        ⟨ds.flatMap ServerDirective.tokens ++ toks, stop⟩ conf)
      (fun server => parseOn (confServerDirectives n (m + 1) server) ⟨toks, stop⟩ conf)
      (ds.foldlM ServerDirective.meaning server) := by
  have hargs (d : ServerDirective) (hd : d ∈ ds) : d.args.length < n := by
    have := length_le_flatMap ServerDirective.tokens hd
    rw [ServerDirective.tokens, List.length_cons] at this
    omega
  have hds : ds.length ≤ (ds.flatMap ServerDirective.tokens).length :=
    length_le_length_flatMap fun d _ => by simp [ServerDirective.tokens]
  exact exists_continues_foldlM
    (fun d hd k s toks => continues_directive d (hargs d hd) k s toks) (by omega) server toks

/-- A server up to the directives, when there is none of the same name. -/
theorem parseOn_confParseServer {name : CStr} {n : ℕ}
    (hdup : ¬ conf.servers.any (·.name == name) = true) :
    parseOn (confParseServer n) ⟨.str name :: tokBegin :: toks, stop⟩ conf =
      (parseOn (confServerDirectives n n { name }) ⟨toks, stop⟩ conf).andThen fun server s =>
        parseOn (do
          confEnd
          match server.check with
          | .error message => confFatal message
          | .ok () => modifyConf fun conf => { conf with servers := conf.servers ++ [server] })
          s.1 s.2 := by
  rw [confParseServer, parseOn_bind, parseOn_confString, RunResult.andThen_ok, parseOn_bind,
    parseOn_getConf, RunResult.andThen_ok, if_neg hdup, parseOn_bind, parseOn_confBegin,
    RunResult.andThen_ok]
  exact parseOn_bind _ _

theorem fails_confParseServer {name : CStr} {n : ℕ}
    (hdup : conf.servers.any (·.name == name) = true) :
    Fails (parseOn (confParseServer n) ⟨.str name :: toks, stop⟩ conf) := by
  rw [confParseServer, parseOn_bind, parseOn_confString, RunResult.andThen_ok, parseOn_bind,
    parseOn_getConf, RunResult.andThen_ok, if_pos hdup]
  exact fails_fatal _ _

theorem does_server (name : CStr) (ds : List ServerDirective) {n : ℕ}
    (hn : (ConfSection.server name ds).args.length < n) (env : ConfEnv) :
    Continues (parseOn (confParseServer n) ⟨(ConfSection.server name ds).args ++ toks, stop⟩ conf)
      (fun conf => (.ok (), (⟨toks, stop⟩, conf)))
      ((ConfSection.server name ds).meaning env conf) := by
  simp only [ConfSection.args, List.length_cons, List.length_append, List.length_nil] at hn
  rw [ConfSection.meaning, serverMeaning, ConfSection.args, List.cons_append, List.cons_append,
    List.append_assoc]
  by_cases hdup : conf.servers.any (·.name == name) = true
  · rw [if_pos hdup]
    exact fails_confParseServer hdup
  rw [if_neg hdup, parseOn_confParseServer hdup]
  obtain ⟨m, hloop⟩ := @continues_directives stop conf ds n (by omega) { name } (tokEnd :: toks)
  refine (hloop.andThen _).trans fun server _ => ?_
  simp only [confServerDirectives, parseOn_bind, parseOn_confNextIs, type_tokEnd, reduceCtorEq,
    if_false, RunResult.andThen_ok, Bool.false_eq_true, parseOn_pure, parseOn_confEnd]
  cases server.check with
  | ok u => rfl
  | error message => exact fails_fatal _ _

end Server

/-! ## Rules -/

section Rule

variable {toks : List (Token CStr)} {stop : Halt} {conf : Conf} {rounds : ℕ}

/-- The values are read up to a token that is not one of theirs. -/
theorem parseOn_confRuleValues {adder : IrcRule → CStr → IrcRule} {comma : Bool} {t : Token CStr}
    (ht : t.type ≠ .string) (ht' : t.type ≠ .comma) (values : List CStr) (n : ℕ) (rule : IrcRule)
    (hn : values.length < n) :
    parseOn (confRuleValues adder n rule)
        ⟨Criteria.valueTokens comma values ++ t :: toks, stop⟩ conf =
      (.ok (values.foldl adder rule), (⟨t :: toks, stop⟩, conf)) := by
  induction values generalizing n rule with
  | nil =>
    match n, hn with
    | n + 1, _ => simp [confRuleValues, Criteria.valueTokens, ht]
  | cons v values ih =>
    match n, hn with
    | n + 1, hn =>
      cases values with
      | nil =>
        match n, hn with
        | n + 1, _ =>
          cases comma with
          | true => simp [confRuleValues, Criteria.valueTokens, ht]
          | false => simp [confRuleValues, Criteria.valueTokens, ht']
      | cons w values =>
        have := ih n (adder rule v) (by simpa using hn)
        simpa [confRuleValues, Criteria.valueTokens] using this

theorem length_le_length_valueTokens (comma : Bool) (values : List CStr) :
    values.length ≤ (Criteria.valueTokens comma values).length := by
  induction values with
  | nil => exact Nat.zero_le _
  | cons v values ih =>
    cases values with
    | nil => cases comma <;> simp [Criteria.valueTokens]
    | cons w values =>
      rw [Criteria.valueTokens.eq_3 _ _ _ (by simp)]
      simp only [List.length_cons] at ih ⊢
      omega

theorem does_criteria (c : Criteria) (hrounds : c.tokens.length < rounds) (rule : IrcRule) :
    Does (parseOn (confParseRuleCriteria rounds rule c.name)
      ⟨tokBegin :: (Criteria.valueTokens c.comma c.values ++ tokEnd :: toks), stop⟩ conf)
      (⟨toks, stop⟩, conf) (c.meaning rule) := by
  have hlen := length_le_length_valueTokens c.comma c.values
  simp only [Criteria.tokens, List.length_cons, List.length_append] at hrounds
  rw [confParseRuleCriteria, Criteria.meaning]
  cases ruleAdder c.name with
  | none => exact fails_fatal _ _
  | some adder =>
    have hvalues := @parseOn_confRuleValues toks stop conf adder c.comma tokEnd (by simp) (by simp)
      c.values rounds rule (by omega)
    simp [Does, hvalues]

theorem continues_criteria (c : Criteria) (hrounds : c.tokens.length < rounds) (n : ℕ)
    (rule : IrcRule) (toks : List (Token CStr)) :
    Continues (parseOn (confRuleBlock rounds (n + 1) rule) ⟨c.tokens ++ toks, stop⟩ conf)
      (fun rule => parseOn (confRuleBlock rounds n rule) ⟨toks, stop⟩ conf) (c.meaning rule) := by
  rw [confRuleBlock, Criteria.tokens]
  have := (@does_criteria toks stop conf rounds c hrounds rule).andThen
    fun rule s => parseOn (confRuleBlock rounds n rule) s.1 s.2
  simpa using this

/-- The loop takes the criteria, and goes on behind them. -/
theorem continues_ruleBlock (cs : List Criteria) {n : ℕ}
    (hn : (cs.flatMap Criteria.tokens).length < n) (rule : IrcRule) (toks : List (Token CStr)) :
    ∃ m, Continues
      (parseOn (confRuleBlock n n rule) ⟨cs.flatMap Criteria.tokens ++ toks, stop⟩ conf)
      (fun rule => parseOn (confRuleBlock n (m + 1) rule) ⟨toks, stop⟩ conf)
      (cs.foldlM Criteria.meaning rule) := by
  have htokens (c : Criteria) (hc : c ∈ cs) : c.tokens.length < n :=
    (length_le_flatMap Criteria.tokens hc).trans_lt hn
  have hcs : cs.length ≤ (cs.flatMap Criteria.tokens).length :=
    length_le_length_flatMap fun c _ => by simp [Criteria.tokens]
  exact exists_continues_foldlM
    (fun c hc k rule toks => continues_criteria c (htokens c hc) k rule toks) (by omega) rule toks

/-- A rule, up to the end of its block. -/
theorem does_ruleBlock (cs : List Criteria) {n : ℕ}
    (hn : (cs.flatMap Criteria.tokens).length < n) (rule : IrcRule) :
    Does (parseOn (confRuleBlock n n rule)
        ⟨cs.flatMap Criteria.tokens ++ tokEnd :: toks, stop⟩ conf)
      (⟨toks, stop⟩, conf) (cs.foldlM Criteria.meaning rule) := by
  obtain ⟨m, hloop⟩ := @continues_ruleBlock stop conf cs n hn rule (tokEnd :: toks)
  simpa [confRuleBlock, Does] using hloop

theorem parseOn_confRuleAction (action : IrcRuleAction) :
    parseOn confRuleAction ⟨actionToken action :: toks, stop⟩ conf =
      (.ok action, (⟨toks, stop⟩, conf)) := by
  cases action <;> simp +decide [confRuleAction, actionToken]

theorem does_rule (action : IrcRuleAction) (block : Option (List Criteria)) {n : ℕ}
    (hn : (ConfSection.rule action block).args.length < n)
    (hends : (ConfSection.rule action block).Ends toks) (env : ConfEnv) :
    Continues (parseOn (confParseRule n) ⟨(ConfSection.rule action block).args ++ toks, stop⟩ conf)
      (fun conf => (.ok (), (⟨toks, stop⟩, conf)))
      ((ConfSection.rule action block).meaning env conf) := by
  have hbody : Does (parseOn (confRuleBody n (ircRuleNew action))
      ⟨(ConfSection.rule action block).args.tail ++ toks, stop⟩ conf) (⟨toks, stop⟩, conf)
      ((block.getD []).foldlM Criteria.meaning (ircRuleNew action)) := by
    cases block with
    | none =>
      obtain ⟨t, ht, htype⟩ := hends
      obtain ⟨toks, rfl⟩ := List.head?_eq_some_iff.1 ht
      simp [confRuleBody, ConfSection.args, htype, Does]
    | some cs =>
      simp only [ConfSection.args, List.length_cons, List.length_append, List.length_nil] at hn
      have hblock := @does_ruleBlock toks stop conf cs n (by omega) (ircRuleNew action)
      simpa [confRuleBody, ConfSection.args] using hblock
  have hargs : (ConfSection.rule action block).args =
      actionToken action :: (ConfSection.rule action block).args.tail := by
    cases block <;> rfl
  rw [ConfSection.meaning, hargs, List.cons_append, confParseRule, parseOn_bind,
    parseOn_confRuleAction, RunResult.andThen_ok, parseOn_bind, Option.map_eq_bind]
  exact (hbody.andThen _).trans fun rule _ => rfl

end Rule

/-! ## Plugins -/

section Plugin

variable {toks : List (Token CStr)} {stop : Halt} {conf : Conf} {rounds : ℕ}

theorem does_pluginOptions (d : PluginDirective) (hrounds : d.tokens.length < rounds)
    (plg : Plugin) :
    Does (parseOn (confParsePluginOptions rounds plg d.name)
      ⟨tokBegin :: (pairTokens d.pairs ++ [tokEnd]) ++ toks, stop⟩ conf)
      (⟨toks, stop⟩, conf) (d.meaning plg) := by
  simp only [PluginDirective.tokens, List.length_cons, List.length_append, length_pairTokens]
    at hrounds
  rw [confParsePluginOptions, PluginDirective.meaning]
  cases pluginSetter d.name with
  | none => exact fails_fatal _ _
  | some kind => exact parseOn_pairBlock (by omega) plg

theorem continues_pluginDirective (d : PluginDirective) (hrounds : d.tokens.length < rounds)
    (n : ℕ) (plg : Plugin) (toks : List (Token CStr)) :
    Continues (parseOn (confPluginBlock rounds (n + 1) plg) ⟨d.tokens ++ toks, stop⟩ conf)
      (fun plg => parseOn (confPluginBlock rounds n plg) ⟨toks, stop⟩ conf) (d.meaning plg) := by
  rw [confPluginBlock, PluginDirective.tokens]
  have := (@does_pluginOptions toks stop conf rounds d hrounds plg).andThen
    fun plg s => parseOn (confPluginBlock rounds n plg) s.1 s.2
  simpa using this

/-- The loop takes the directives, and goes on behind them. -/
theorem continues_pluginBlock (ds : List PluginDirective) {n : ℕ}
    (hn : (ds.flatMap PluginDirective.tokens).length < n) (plg : Plugin)
    (toks : List (Token CStr)) :
    ∃ m, Continues
      (parseOn (confPluginBlock n n plg) ⟨ds.flatMap PluginDirective.tokens ++ toks, stop⟩ conf)
      (fun plg => parseOn (confPluginBlock n (m + 1) plg) ⟨toks, stop⟩ conf)
      (ds.foldlM PluginDirective.meaning plg) := by
  have htokens (d : PluginDirective) (hd : d ∈ ds) : d.tokens.length < n :=
    (length_le_flatMap PluginDirective.tokens hd).trans_lt hn
  have hds : ds.length ≤ (ds.flatMap PluginDirective.tokens).length :=
    length_le_length_flatMap fun d _ => by simp [PluginDirective.tokens]
  exact exists_continues_foldlM
    (fun d hd k plg toks => continues_pluginDirective d (htokens d hd) k plg toks) (by omega) plg
    toks

/-- `to path`, and what is behind it. -/
theorem parseOn_confPluginLocation (location : Option CStr)
    (h : location = none → ∃ t ∈ toks.head?, t ≠ word "to") :
    parseOn confPluginLocation ⟨locationTokens location ++ toks, stop⟩ conf =
      (.ok location, (⟨toks, stop⟩, conf)) := by
  cases location with
  | some path => simp [confPluginLocation, locationTokens]
  | none =>
    obtain ⟨t, ht, hto⟩ := h rfl
    obtain ⟨toks, rfl⟩ := List.head?_eq_some_iff.1 ht
    simp [confPluginLocation, locationTokens, not_isWord hto]

/-- The block of a plugin, if it has one. -/
def blockTokens : Option (List PluginDirective) → List (Token CStr)
  | none => []
  | some ds => tokBegin :: (ds.flatMap PluginDirective.tokens ++ [tokEnd])

theorem does_pluginBody (block : Option (List PluginDirective)) {n : ℕ}
    (hn : (blockTokens block).length < n)
    (hends : block = none → ∃ t ∈ toks.head?, t.type ≠ .blkBegin) (plg : Plugin) :
    Does (parseOn (confPluginBody n plg) ⟨blockTokens block ++ toks, stop⟩ conf)
      (⟨toks, stop⟩, conf) ((block.getD []).foldlM PluginDirective.meaning plg) := by
  cases block with
  | none =>
    obtain ⟨t, ht, htype⟩ := hends rfl
    obtain ⟨toks, rfl⟩ := List.head?_eq_some_iff.1 ht
    simp [confPluginBody, blockTokens, htype, Does]
  | some ds =>
    simp only [blockTokens, List.length_cons, List.length_append, List.length_nil] at hn
    obtain ⟨m, hloop⟩ := @continues_pluginBlock stop conf ds n (by omega) plg (tokEnd :: toks)
    have hblock := hloop.andThen fun plg s => parseOn (do confEnd; return plg) s.1 s.2
    simpa [confPluginBody, blockTokens, Does, confPluginBlock] using hblock

theorem does_plugin (name : CStr) (location : Option CStr) (block : Option (List PluginDirective))
    {n : ℕ} (hn : (ConfSection.plugin name location block).args.length < n)
    (hends : (ConfSection.plugin name location block).Ends toks) (env : ConfEnv) :
    Continues (parseOn (confParsePlugin env n)
      ⟨(ConfSection.plugin name location block).args ++ toks, stop⟩ conf)
      (fun conf => (.ok (), (⟨toks, stop⟩, conf)))
      ((ConfSection.plugin name location block).meaning env conf) := by
  have hargs : (ConfSection.plugin name location block).args =
      .str name :: (locationTokens location ++ blockTokens block) := by
    cases block <;> simp [ConfSection.args, blockTokens]
  -- what follows the plugin is not taken for a part that it does not have
  have hlocation : location = none → ∃ t ∈ (blockTokens block ++ toks).head?, t ≠ word "to" := by
    rintro rfl
    cases block with
    | none =>
      obtain ⟨t, ht, -, hto⟩ := hends
      exact ⟨t, ht, hto⟩
    | some ds => exact ⟨tokBegin, rfl, by decide⟩
  have hbody : block = none → ∃ t ∈ toks.head?, t.type ≠ .blkBegin := by
    rintro rfl
    cases location with
    | none =>
      obtain ⟨t, ht, htype, -⟩ := hends
      exact ⟨t, ht, htype⟩
    | some path => exact hends
  have hlen : (blockTokens block).length < n := by
    rw [hargs, List.length_cons, List.length_append] at hn
    omega
  rw [ConfSection.meaning, pluginMeaning, hargs, confParsePlugin]
  simp only [List.cons_append, List.append_assoc, parseOn_bind, parseOn_confString,
    parseOn_getConf, RunResult.andThen_ok]
  -- the checks stand in the order of the source, and so do those of the meaning
  by_cases hdup : conf.plugins.any (·.name == name) = true
  · rw [if_pos hdup, if_pos (.inl hdup)]
    exact fails_fatal _ _
  rw [if_neg hdup]
  simp only [parseOn_bind, parseOn_confPluginLocation location hlocation, RunResult.andThen_ok]
  by_cases hloaded : env.loaded name = true
  · rw [if_pos hloaded, if_pos (.inr hloaded)]
    exact fails_fatal _ _
  rw [if_neg hloaded, if_neg (not_or.2 ⟨hdup, hloaded⟩)]
  cases env.search name location with
  | none => exact fails_fatal _ _
  | some plg =>
    rw [Option.bind_some, Option.map_eq_bind]
    dsimp only
    rw [parseOn_bind]
    exact ((does_pluginBody block hlen hbody plg).andThen _).trans fun plg _ => rfl

end Plugin

/-! ## The file -/

section File

variable {env : ConfEnv} {rounds : ℕ} {toks : List (Token CStr)} {stop : Halt} {conf : Conf}

/-- The parser does what a section means, and is left with the tokens behind it. -/
theorem continues_confSection (s : ConfSection) (hrounds : s.args.length < rounds)
    (hends : s.Ends toks) :
    Continues (parseOn (confSection env rounds s.topic) ⟨s.args ++ toks, stop⟩ conf)
      (fun conf => (.ok (), (⟨toks, stop⟩, conf))) (s.meaning env conf) := by
  cases s with
  | log plural verbose template sink =>
    cases plural with
    | true => exact does_log true verbose template sink env
    | false => exact does_log false verbose template sink env
  | transport owner path => exact does_transport owner path env
  | hook name path => exact does_hook name path env
  | server name ds => exact does_server name ds hrounds env
  | rule action block => exact does_rule action block hrounds hends env
  | plugin name location block => exact does_plugin name location block hrounds hends env
  | other topic notMem =>
    simp only [topics, List.map_cons, List.map_nil, List.mem_cons, List.not_mem_nil, or_false,
      not_or] at notMem
    obtain ⟨h1, h2, h3, h4, h5, h6, h7⟩ := notMem
    simp [ConfSection.topic, ConfSection.args, ConfSection.meaning, confSection, h1, h2, h3, h4, h5,
      h6, h7]

theorem parseOn_confParserEntry (n : ℕ) (topic : CStr) :
    parseOn (confParserEntry env rounds (n + 1)) ⟨.str topic :: toks, stop⟩ conf =
      (parseOn (confSection env rounds topic) ⟨toks, stop⟩ conf).andThen fun _ s =>
        parseOn (confParserEntry env rounds n) s.1 s.2 := by
  rw [confParserEntry, parseOn_bind, parseOn_confString, RunResult.andThen_ok, parseOn_bind]

/-- The parser does what the sections mean, and goes on behind them. -/
theorem continues_sections (ss : List ConfSection) (n : ℕ) (conf : Conf)
    (hrounds : (ss.flatMap ConfSection.tokens).length < rounds)
    (hsep : ConfSection.Separated toks ss) :
    Continues
      (parseOn (confParserEntry env rounds (ss.length + n))
        ⟨ss.flatMap ConfSection.tokens ++ toks, stop⟩ conf)
      (fun conf => parseOn (confParserEntry env rounds n) ⟨toks, stop⟩ conf)
      (confMeaning env conf ss) := by
  induction ss generalizing conf with
  | nil =>
    rw [List.length_nil, Nat.zero_add]
    exact rfl
  | cons s ss ih =>
    rw [List.flatMap_cons, List.length_append, ConfSection.tokens, List.length_cons] at hrounds
    rw [List.length_cons, Nat.add_right_comm, List.flatMap_cons, List.append_assoc,
      ConfSection.tokens, List.cons_append, parseOn_confParserEntry, confMeaning, List.foldlM_cons]
    have hsection := @continues_confSection env rounds (ss.flatMap ConfSection.tokens ++ toks) stop
      conf s (by omega) hsep.1
    refine (hsection.andThen _).trans fun conf' _ => ?_
    exact ih conf' (by omega) hsep.2

end File

end Irccd
