import Irccd.Peer.Sends
import Irccd.Peer.Vars
import Irccd.Server.Assertions

/-!
# What a line of the control socket must not be

Some handlers are safe whatever the line is. The others are not: `cmd_server_kick` and
`cmd_server_part` read a word that may not be there, `cmd_server_connect` takes any port, and
`cmd_rule_add` reads two bytes after the start of each token and calls a pointer that it may not
have set. A line for a server is pushed also while its connection has no socket, a new connection
may get a descriptor whose old watcher was not stopped, and the text of a variable of a script may
be gone when it is printed.

* `CommandSafe`: what the line of a command has to be;
* `defined_invoke_iff`: a line of the control socket is safe if and only if it is that.
-/

namespace Irccd

namespace Daemon

/-! ## What the commands need -/

/-- The command on the variables of a kind. -/
def varCommand : VarKind → CStr
  | .config => cstr "PLUGIN-CONFIG"
  | .path => cstr "PLUGIN-PATH"
  | .template => cstr "PLUGIN-TEMPLATE"

/-- The tokens of a letter that `cmd_rule_add` knows and nothing else. -/
def letterTokens : List CStr := ["c", "e", "i", "o", "p", "s"].map cstr

/-- The number of a token that gives the index of the rule. -/
def tokenIndex : CStr → Option (Except CmdErrno ℤ)
  | 105 :: _ :: value => some (ircUtilStoi value)
  | _ => none

/-- The index is a number. -/
def goodIndex (token : CStr) : Bool := (tokenIndex token).any (·.isOk)

/-- The index is not a number. `cmd_rule_add` stops there. -/
def badIndex (token : CStr) : Bool := (tokenIndex token).any (!·.isOk)

/-- The tokens of a rule are safe: the first one is not an index, and none of those before an
index that is not a number is a letter alone. -/
def TokensSafe (ts : List CStr) : Prop :=
  (∀ token ∈ ts.head?, goodIndex token = false) ∧
    ∀ token ∈ ts.takeWhile (!badIndex ·), token ∉ letterTokens

instance (ts : List CStr) : Decidable (TokensSafe ts) := inferInstanceAs (Decidable (_ ∧ _))

/-- The words behind the name of a plugin ask for texts that are there. -/
def Readable (plg : Plugin) (kind : VarKind) : List CStr → Prop
  | [] => ∀ key ∈ plg.keys kind, plg.HasText kind key
  | [key] => plg.HasText kind key
  | _ => True

/-- The servers that `SERVER-RECONNECT` is for. -/
def Reconnected (d : Daemon) (line : CStr) (s : BotServer) : Prop :=
  match parse line 1 with
  | [id] => d.ircBotServerGet id = some s
  | _ => s ∈ d.servers

/-- Once the server is disconnected, a connection can be made if it is one without SSL. -/
def CanReconnect (env : PeerEnv) (s : BotServer) : Prop :=
  let sys := ircServerDisconnect (s.sys.beside (env.left s.name))
  s.sys.server.flags.ssl = false →
    CanStart sys.stale (sys.trace ++ [.spawn]) (env.addresses s.hostname)

/-- What the line of a command has to be. -/
structure CommandSafe (env : PeerEnv) (d : Daemon) (line command : CStr) : Prop where
  /-- If the server is there, the words that the handler reads are there too, and their text can be
  sent. -/
  send : ∀ kind : SendKind, command = kind.name →
    let words := parse line kind.maxWords
    kind.minWords ≤ words.length → ∀ s, d.ircBotServerGet (words.getD 0 []) = some s →
      kind.readWords ≤ words.length ∧ CanSend s.sys (kind.text words)
  /-- If the server is there, it can join the channel. -/
  join : command = cstr "SERVER-JOIN" →
    let words := parse line 3
    2 ≤ words.length → ∀ s, d.ircBotServerGet (words.getD 0 []) = some s →
      CanJoin s.sys (words.getD 1 []) words[2]?
  /-- The name is taken, or the port is not zero and a connection without SSL can be made. -/
  connect : command = cstr "SERVER-CONNECT" →
    let words := parse line 6
    words.length = 6 → d.ircBotServerGet (words.getD 0 []) = none →
      atoiUnsigned (words.getD 2 []) ≠ 0 ∧ ((words.getD 2 []).head? ≠ some 43 →
        CanStart (env.left (words.getD 0 [])) [.spawn] (env.addresses (words.getD 1 [])))
  /-- The servers can be connected again. -/
  reconnect : command = cstr "SERVER-RECONNECT" → ∀ s, d.Reconnected line s → CanReconnect env s
  /-- The texts of the variables are there. -/
  vars : ∀ kind, command = varCommand kind → ∀ name words, parse line 3 = name :: words →
    ∀ plg, d.ircBotPluginGet name = some plg → Readable plg kind words
  /-- The tokens after a valid action are safe. -/
  ruleAdd : command = cstr "RULE-ADD" → scanEnds (cstr "RULE-ADD") line = false →
    (ruleAction (line.drop 9)).isSome → TokensSafe (tokens SP (skipWord (line.drop 9)))

/-- A line whose first word is a command is what the command needs. -/
def LineSafe (env : PeerEnv) (d : Daemon) (line : CStr) : Prop :=
  CommandSafe env d line (firstWord line)

section Safety

variable {env : PeerEnv} {d : Daemon} {line : CStr} {min max : ℕ}

/-- The commands that are not safe on every line. -/
def riskyCommands : List CStr :=
  [cstr "SERVER-INVITE", cstr "SERVER-KICK", cstr "SERVER-ME", cstr "SERVER-MESSAGE",
    cstr "SERVER-MODE", cstr "SERVER-NOTICE", cstr "SERVER-PART", cstr "SERVER-TOPIC",
    cstr "SERVER-JOIN", cstr "SERVER-CONNECT", cstr "SERVER-RECONNECT", cstr "PLUGIN-CONFIG",
    cstr "PLUGIN-PATH", cstr "PLUGIN-TEMPLATE", cstr "RULE-ADD"]

/-- The other commands need nothing. -/
theorem CommandSafe.of_not_mem {command : CStr} (h : command ∉ riskyCommands) :
    CommandSafe env d line command := by
  constructor
  case send =>
    rintro kind rfl
    exact absurd (by cases kind <;> decide) h
  case vars =>
    rintro kind rfl
    exact absurd (by cases kind <;> decide) h
  all_goals
    rintro rfl
    exact absurd (by decide) h

theorem defined_withArgs_iff {call : List CStr → Except Fault Response} :
    Defined (d.withArgs min max line call) ↔
      (min ≤ (parse line max).length → Defined (call (parse line max))) := by
  unfold withArgs
  by_cases hmin : (parse line max).length < min
  · rw [if_pos hmin]
    exact iff_of_true (defined_ok _) fun hle => absurd hle (not_le.2 hmin)
  · simp [hmin, not_lt.1 hmin]

theorem defined_requireServer_iff {id : CStr} {call : BotServer → Except Fault Response} :
    Defined (d.requireServer id call) ↔
      ∀ s, d.ircBotServerGet id = some s → Defined (call s) := by
  unfold requireServer
  cases d.ircBotServerGet id <;> simp

theorem defined_requirePlugin_iff {id : CStr} {call : Plugin → Except Fault Response} :
    Defined (d.requirePlugin id call) ↔
      ∀ plg, d.ircBotPluginGet id = some plg → Defined (call plg) := by
  unfold requirePlugin
  cases d.ircBotPluginGet id <;> simp

theorem defined_settle_iff {sys : Sys} : Defined (settle sys) ↔ sys.aborted = false := by
  rw [settle]
  cases sys.aborted <;> simp

/-- A command on a server has at least the name of the server. -/
theorem defined_withServer_iff {call : BotServer → List CStr → Except Fault Sys}
    (hmin : 1 ≤ min) :
    Defined (d.withServer line min max call) ↔
      (min ≤ (parse line max).length → ∀ s,
        d.ircBotServerGet ((parse line max).getD 0 []) = some s →
        ∃ sys, call s (parse line max) = .ok sys ∧ sys.aborted = false) := by
  unfold withServer
  rw [defined_withArgs_iff]
  refine imp_congr_right fun hlen => ?_
  rw [argument_of_lt (by omega), ok_bind, defined_requireServer_iff]
  refine forall_congr' fun s => imp_congr_right fun _ => ?_
  rw [defined_bind_iff]
  refine exists_congr fun sys => and_congr_right fun _ => ?_
  rw [defined_bind_iff_left fun _ => defined_pure _, defined_settle_iff]

/-! ## Hooks and plugins -/

theorem defined_cmdHookAdd : Defined (d.cmdHookAdd line) := by
  refine defined_withArgs_iff.2 fun hlen => ?_
  rw [argument_of_lt (by omega), argument_of_lt (by omega), ok_bind, ok_bind]
  split <;> exact defined_pure _

theorem defined_cmdHookRemove : Defined (d.cmdHookRemove line) := by
  refine defined_withArgs_iff.2 fun hlen => ?_
  rw [argument_of_lt (by omega), ok_bind]
  exact defined_pure _

theorem defined_pluginListSet_iff {kind : VarKind} :
    Defined (d.pluginListSet line kind) ↔ ∀ name words, parse line 3 = name :: words →
      ∀ plg, d.ircBotPluginGet name = some plg → Readable plg kind words := by
  have hmax : (parse line 3).length ≤ 3 := expressible_parse.1
  rw [pluginListSet, defined_withArgs_iff]
  -- by the number of words: list, get or set
  generalize parse line 3 = words at hmax ⊢
  rcases words with _ | ⟨name, words⟩
  · simp
  have hwords (P : CStr → List CStr → Prop) :
      (∀ name' words', name :: words = name' :: words' → P name' words') ↔ P name words := by
    refine ⟨fun h => h _ _ rfl, fun h name' words' heq => ?_⟩
    obtain ⟨rfl, rfl⟩ := List.cons.inj heq
    exact h
  rw [hwords, argument_cons_zero, ok_bind, defined_requirePlugin_iff,
    forall_prop_of_true (by simp)]
  refine forall_congr' fun plg => imp_congr_right fun _ => ?_
  rcases words with _ | ⟨key, _ | ⟨value, _ | ⟨word, words⟩⟩⟩
  · exact (defined_bind_iff_left fun _ => defined_pure _).trans defined_listed_iff
  · refine (defined_bind_iff_left fun value => ?_).trans Plugin.defined_get_iff
    cases value <;> exact defined_pure _
  · exact iff_of_true (defined_ok _) trivial
  · simp only [List.length_cons] at hmax
    omega

theorem defined_cmdPluginInfo : Defined (d.cmdPluginInfo line) := by
  refine defined_withArgs_iff.2 fun hlen => ?_
  rw [argument_of_lt (by omega), ok_bind, defined_requirePlugin_iff]
  exact fun plg _ => defined_ok _

theorem defined_cmdPluginLoad : Defined (cmdPluginLoad env d line) := by
  refine defined_withArgs_iff.2 fun hlen => ?_
  rw [argument_of_lt (by omega), ok_bind]
  split <;> exact defined_pure _

theorem defined_cmdPluginReload : Defined (cmdPluginReload env d line) := by
  unfold cmdPluginReload
  split
  · split <;> exact defined_ok _
  · exact defined_ok _

theorem defined_cmdPluginUnload : Defined (d.cmdPluginUnload line) := by
  unfold cmdPluginUnload
  split <;> exact defined_ok _

/-! ## Rules -/

theorem advance_of_le {s : CStr} {n : ℕ} (h : n ≤ s.length) : advance s n = .ok (s.drop n) :=
  if_pos h

theorem defined_cmdRuleList : Defined (cmdRuleList env d) := by
  unfold cmdRuleList
  dsimp only
  split <;> exact defined_ok _

theorem defined_cmdRuleMove : Defined (d.cmdRuleMove line) := by
  refine defined_withArgs_iff.2 fun hlen => ?_
  rw [argument_of_lt (by omega), argument_of_lt (by omega), ok_bind, ok_bind]
  split
  · split <;> exact defined_pure _
  · exact defined_pure _

theorem defined_cmdRuleRemove : Defined (d.cmdRuleRemove line) := by
  refine defined_withArgs_iff.2 fun hlen => ?_
  rw [argument_of_lt (by omega), ok_bind]
  split
  · split <;> exact defined_pure _
  · exact defined_pure _

/-- A line with an index goes on after the command. -/
theorem length_of_ruleEditIndex {index : ℕ} (h : ruleEditIndex line = some index) :
    10 ≤ line.length := by
  unfold ruleEditIndex at h
  split at h
  · rename_i hbegins
    obtain ⟨rest, rfl⟩ := List.isPrefixOf_iff_prefix.1 hbegins
    have hlen : (cstr "RULE-EDIT").length = 9 := by decide
    rw [← hlen, List.drop_left] at h
    cases rest with
    | nil => simp [scanSize, scanNumber] at h
    | cons b rest =>
      rw [List.length_append, hlen, List.length_cons]
      omega
  · cases h

theorem defined_cmdRuleEdit : Defined (d.cmdRuleEdit line) := by
  unfold cmdRuleEdit
  cases hindex : ruleEditIndex line with
  | none => exact defined_ok _
  | some index =>
    dsimp only
    split
    · exact defined_ok _
    · rw [advance_of_le (length_of_ruleEditIndex hindex), ok_bind]
      exact defined_pure _

/-- The letters that `cmd_rule_add` knows, but for the one of the index. -/
theorem ruleAddFn_isSome_iff {key : UInt8} :
    (ruleAddFn key).isSome ↔ [key] ∈ letterTokens ∧ key ≠ 105 := by
  have hletters : letterTokens = [[99], [101], [105], [111], [112], [115]] := by decide
  rw [hletters]
  unfold ruleAddFn
  split_ifs <;> simp_all

/-- A token of two bytes or more is not a letter alone. -/
theorem not_mem_letterTokens {a b : UInt8} {value : CStr} : a :: b :: value ∉ letterTokens := by
  have hone : ∀ token ∈ letterTokens, token.length = 1 := by decide
  intro h
  simpa using hone _ h

/-- The call after the `switch` on the function of a letter. -/
theorem defined_call_ruleAddFn_iff {key : UInt8} {token : CStr} {rule : IrcRule}
    (hkey : key ≠ 105) :
    Defined (AddFn.call ((ruleAddFn key).elim .null .fn) rule (key :: token)) ↔
      key :: token ∉ letterTokens := by
  cases token with
  | nil =>
    -- nothing is added for a letter that is not known
    cases hadd : ruleAddFn key with
    | none =>
      have hnot : [key] ∉ letterTokens := fun h => by
        simpa [hadd] using ruleAddFn_isSome_iff.2 ⟨h, hkey⟩
      exact iff_of_true (defined_ok _) hnot
    | some f =>
      have hmem : [key] ∈ letterTokens := (ruleAddFn_isSome_iff.1 (by simp [hadd])).1
      refine iff_of_false ?_ (not_not_intro hmem)
      simp [AddFn.call, advance, Except.map]
  | cons b value =>
    refine iff_of_true ?_ not_mem_letterTokens
    cases ruleAddFn key with
    | none => exact defined_ok _
    | some f => simp [AddFn.call, advance, Except.map]

/-- The index leaves the pointer as it is, and calls it. -/
theorem defined_call_of_ne {add : AddFn} {rule : IrcRule} {token : CStr} (hadd : add ≠ .uninit)
    (hlen : 2 ≤ token.length) : Defined (add.call rule token) := by
  cases add with
  | uninit => exact absurd rfl hadd
  | null => exact defined_ok _
  | fn f => simp [AddFn.call, advance, hlen, Except.map]

/-- Another letter does not give the index. -/
theorem tokenIndex_of_ne {key : UInt8} {token : CStr} (hkey : key ≠ 105) :
    tokenIndex (key :: token) = none := by
  unfold tokenIndex
  split
  · rename_i h
    exact absurd (List.cons.inj h).1 hkey
  · rfl

section Loop

variable {add : AddFn} {rule : IrcRule} {index : ℤ} {key b : UInt8} {token value : CStr}
  {ts : List CStr}

/-- A token that is not the index sets the pointer. -/
theorem ruleAddLoop_of_ne (hkey : key ≠ 105) :
    ruleAddLoop add rule index ((key :: token) :: ts) =
      AddFn.call ((ruleAddFn key).elim .null .fn) rule (key :: token) >>= fun rule =>
        ruleAddLoop ((ruleAddFn key).elim .null .fn) rule index ts := by
  rw [ruleAddLoop, ruleAddToken, if_neg hkey]
  rfl

/-- The letter of the index alone: the byte behind it is the NUL. -/
theorem ruleAddLoop_letter : ruleAddLoop add rule index ([105] :: ts) = .error .pastEnd := rfl

/-- The index, or the code of an error. -/
theorem ruleAddLoop_of_index :
    ruleAddLoop add rule index ((105 :: b :: value) :: ts) =
      match ircUtilStoi value with
      | .ok n => add.call rule (105 :: b :: value) >>= fun rule => ruleAddLoop add rule n ts
      | .error er => .ok (.error er) := by
  have hadv : advance (105 :: b :: value) 2 = .ok value := by simp [advance]
  rw [ruleAddLoop, ruleAddToken, if_pos rfl, hadv, ok_bind]
  cases ircUtilStoi value <;> rfl

theorem badIndex_of_ne (hkey : key ≠ 105) : badIndex (key :: token) = false := by
  simp [badIndex, tokenIndex_of_ne hkey]

theorem goodIndex_of_ne (hkey : key ≠ 105) : goodIndex (key :: token) = false := by
  simp [goodIndex, tokenIndex_of_ne hkey]

theorem badIndex_index : badIndex (105 :: b :: value) = !(ircUtilStoi value).isOk := rfl

theorem goodIndex_index : goodIndex (105 :: b :: value) = (ircUtilStoi value).isOk := rfl

/-- The loop of `cmd_rule_add`, from a pointer that may be set already. -/
theorem defined_ruleAddLoop_iff (hts : [] ∉ ts) :
    Defined (ruleAddLoop add rule index ts) ↔
      (add = .uninit → ∀ token ∈ ts.head?, goodIndex token = false) ∧
        ∀ token ∈ ts.takeWhile (!badIndex ·), token ∉ letterTokens := by
  -- on the tokens; `add` is set for the rest of them once a letter other than `i` was seen
  induction ts generalizing add rule index with
  | nil => simp [ruleAddLoop]
  | cons token ts ih =>
    have hrest : [] ∉ ts := fun h => hts (List.mem_cons_of_mem _ h)
    have hne : token ≠ [] := fun h => hts (by simp [h])
    obtain ⟨key, token, rfl⟩ := List.exists_cons_of_ne_nil hne
    by_cases hkey : key = 105
    · subst hkey
      -- `i`: an index, which leaves the pointer as it is
      cases token with
      | nil =>
        have hmem : [105] ∈ letterTokens := by decide
        have hbad : badIndex [105] = false := by decide
        simp [ruleAddLoop_letter, hmem, hbad]
      | cons b value =>
        rw [ruleAddLoop_of_index]
        cases hn : ircUtilStoi value with
        | error er => simp [badIndex_index, goodIndex_index, hn, Except.isOk, Except.toBool]
        | ok n =>
          have hgood : goodIndex (105 :: b :: value) = true := by
            simp [goodIndex_index, hn, Except.isOk, Except.toBool]
          have hbad : badIndex (105 :: b :: value) = false := by
            simp [badIndex_index, hn, Except.isOk, Except.toBool]
          -- the pointer of the token before is called with this token too
          by_cases hadd : add = .uninit
          · subst hadd
            simp [AddFn.call, hgood]
          · obtain ⟨rule', hrule⟩ : Defined (add.call rule (105 :: b :: value)) :=
              defined_call_of_ne hadd (by simp)
            dsimp only
            rw [hrule, ok_bind, ih hrest]
            simp [hadd, hbad, not_mem_letterTokens]
    -- another letter sets the pointer, to `NULL` when no criterion has that letter
    · have hset : (ruleAddFn key).elim AddFn.null .fn ≠ .uninit := by
        cases ruleAddFn key <;> simp
      rw [ruleAddLoop_of_ne hkey, defined_bind_iff]
      simp only [ih hrest, hset, false_implies, true_and]
      have hfirst : add = .uninit → ∀ t ∈ ((key :: token) :: ts).head?, goodIndex t = false := by
        simp [goodIndex_of_ne hkey]
      rw [exists_and_right, List.takeWhile_cons_of_pos (by simp [badIndex_of_ne hkey]),
        List.forall_mem_cons, and_iff_right hfirst]
      exact and_congr_left' (defined_call_ruleAddFn_iff hkey)

/-- The loop ends with an error at an index that is not a number, and nowhere else. -/
theorem exists_error_ruleAddLoop_iff {result : Except CmdErrno (IrcRule × ℤ)} (hts : [] ∉ ts)
    (h : ruleAddLoop add rule index ts = .ok result) :
    (∃ er, result = .error er) ↔ ∃ token ∈ ts, badIndex token = true := by
  induction ts generalizing add rule index with
  | nil =>
    obtain rfl : .ok (rule, index) = result := Except.ok.inj h
    simp
  | cons token ts ih =>
    have hrest : [] ∉ ts := fun h => hts (List.mem_cons_of_mem _ h)
    have hne : token ≠ [] := fun h => hts (by simp [h])
    obtain ⟨key, token, rfl⟩ := List.exists_cons_of_ne_nil hne
    -- only the branch of the index ends the loop
    by_cases hkey : key = 105
    · subst hkey
      cases token with
      | nil => cases h
      | cons b value =>
        rw [ruleAddLoop_of_index] at h
        cases hn : ircUtilStoi value with
        | error er =>
          rw [hn] at h
          obtain rfl : .error er = result := Except.ok.inj h
          simp [badIndex_index, hn, Except.isOk, Except.toBool]
        | ok n =>
          rw [hn] at h
          obtain ⟨rule', -, hloop⟩ := bind_eq_ok_iff.1 h
          simp [ih hrest hloop, badIndex_index, hn, Except.isOk, Except.toBool]
    · rw [ruleAddLoop_of_ne hkey] at h
      obtain ⟨rule', -, hloop⟩ := bind_eq_ok_iff.1 h
      simp [ih hrest hloop, badIndex_of_ne hkey]

end Loop

/-- A line is the blanks before its first word, the word and what follows. -/
theorem exists_of_firstWord {word : CStr} (h : firstWord line = word) (hlen : word.length < 31) :
    ∃ blanks rest, line = blanks ++ word ++ rest := by
  refine ⟨line.takeWhile isspace, (line.dropWhile isspace).dropWhile (!isspace ·), ?_⟩
  unfold firstWord at h
  -- the word is shorter than what `find` keeps
  have hshort : ((line.dropWhile isspace).takeWhile (!isspace ·)).length ≤ 31 := by
    by_contra hlong
    rw [← h, List.length_take] at hlen
    omega
  rw [List.take_of_length_le hshort] at h
  rw [← h, List.append_assoc, List.takeWhile_append_dropWhile, List.takeWhile_append_dropWhile]

/-- `line + 9` is in the line. -/
theorem length_of_ruleAdd (h : firstWord line = cstr "RULE-ADD")
    (hends : scanEnds (cstr "RULE-ADD") line = false) : 9 ≤ line.length := by
  have hword : (cstr "RULE-ADD").length = 8 := by decide
  obtain ⟨blanks, rest, rfl⟩ := exists_of_firstWord h (by rw [hword]; omega)
  rw [List.length_append, List.length_append, hword]
  -- there are blanks before the command, or something after it
  by_contra hlen
  obtain rfl : blanks = [] := List.eq_nil_of_length_eq_zero (by omega)
  obtain rfl : rest = [] := List.eq_nil_of_length_eq_zero (by omega)
  revert hends
  decide

theorem defined_cmdRuleAdd_iff (h : firstWord line = cstr "RULE-ADD") :
    Defined (d.cmdRuleAdd line) ↔
      (scanEnds (cstr "RULE-ADD") line = false → (ruleAction (line.drop 9)).isSome →
        TokensSafe (tokens SP (skipWord (line.drop 9)))) := by
  unfold cmdRuleAdd
  cases hends : scanEnds (cstr "RULE-ADD") line with
  | true => simp
  | false =>
    have hnil : [] ∉ tokens SP (skipWord (line.drop 9)) := by simp [tokens]
    rw [if_neg (by simp), advance_of_le (length_of_ruleAdd h hends), ok_bind]
    cases ruleAction (line.drop 9) with
    | none => simp
    | some act =>
      dsimp only
      rw [defined_bind_iff_left fun r => ?_, defined_ruleAddLoop_iff hnil]
      · simp [TokensSafe]
      · split <;> exact defined_pure _

/-! ## Servers -/

theorem defined_cmdServerDisconnect : Defined (d.cmdServerDisconnect line) := by
  unfold cmdServerDisconnect
  split
  · exact defined_requireServer_iff.2 fun s _ => defined_ok _
  · exact defined_ok _

theorem defined_settle_reconnect_iff {s : BotServer} :
    Defined (settle (s.reconnect env).sys) ↔ CanReconnect env s :=
  defined_settle_iff.trans (aborted_ircServerConnect_iff rfl)

theorem defined_forM_settle_iff {servers : List BotServer} :
    Defined (servers.forM fun s => settle (s.reconnect env).sys) ↔
      ∀ s ∈ servers, CanReconnect env s := by
  induction servers with
  | nil => simp
  | cons s servers ih =>
    have hcons : ((s :: servers).forM fun s => settle (s.reconnect env).sys) = (do
        settle (s.reconnect env).sys
        servers.forM fun s => settle (s.reconnect env).sys) := rfl
    rw [hcons, List.forall_mem_cons, ← ih, ← defined_settle_reconnect_iff]
    cases settle (s.reconnect env).sys <;> simp

theorem defined_cmdServerReconnect_iff : Defined (cmdServerReconnect env d line) ↔
    ∀ s, d.Reconnected line s → CanReconnect env s := by
  unfold cmdServerReconnect Reconnected
  rcases parse line 1 with _ | ⟨id, _ | ⟨word, words⟩⟩
  · exact (defined_bind_iff_left fun _ => defined_pure _).trans defined_forM_settle_iff
  · refine defined_requireServer_iff.trans ?_
    refine forall_congr' fun s => imp_congr_right fun _ => ?_
    exact (defined_bind_iff_left fun _ => defined_pure _).trans defined_settle_reconnect_iff
  · exact (defined_bind_iff_left fun _ => defined_pure _).trans defined_forM_settle_iff

theorem defined_cmdServerInfo : Defined (d.cmdServerInfo line) := by
  refine defined_withArgs_iff.2 fun hlen => ?_
  rw [argument_of_lt (by omega), ok_bind, defined_requireServer_iff]
  exact fun s _ => defined_ok _

theorem defined_cmdServerJoin_iff : Defined (d.cmdServerJoin line) ↔
    (2 ≤ (parse line 3).length → ∀ s, d.ircBotServerGet ((parse line 3).getD 0 []) = some s →
      CanJoin s.sys ((parse line 3).getD 1 []) (parse line 3)[2]?) := by
  rw [cmdServerJoin, defined_withServer_iff (by omega)]
  refine imp_congr_right fun hlen => forall_congr' fun s => imp_congr_right fun _ => ?_
  rw [argument_of_lt (by omega), ok_bind, ← aborted_ircServerJoin_iff]
  exact ⟨fun ⟨sys, hsys, h⟩ => Except.ok.inj hsys ▸ h, fun h => ⟨_, rfl, h⟩⟩

/-- A command that sends a line. -/
theorem SendKind.defined_handler_iff (kind : SendKind) : Defined (kind.handler env d line) ↔
    (kind.minWords ≤ (parse line kind.maxWords).length → ∀ s,
      d.ircBotServerGet ((parse line kind.maxWords).getD 0 []) = some s →
        kind.readWords ≤ (parse line kind.maxWords).length ∧
          CanSend s.sys (kind.text (parse line kind.maxWords))) := by
  have hmin : 1 ≤ kind.minWords := by cases kind <;> decide
  rw [kind.handler_eq, defined_withServer_iff hmin]
  refine imp_congr_right fun hlen => forall_congr' fun s => imp_congr_right fun _ => ?_
  rw [← aborted_ircServerSend_iff, SendKind.call]
  split <;> simp [*]

/-- The server that six words name. -/
def wordsServer (words : List CStr) : IrcServer :=
  { ircServerNew (words.getD 0 []) (words.getD 3 []) (words.getD 4 []) (words.getD 5 []) with
    flags := { ssl := (words.getD 2 []).head? == some 43 } }

/-- The server that six words name, before it is connected. -/
def wordsSys (env : PeerEnv) (words : List CStr) : Sys :=
  (Sys.start (wordsServer words)).beside (env.left (words.getD 0 []))

theorem newServer_eq {words : List CStr} (hlen : words.length = 6)
    (hport : atoiUnsigned (words.getD 2 []) ≠ 0) :
    newServer env words = .ok ⟨wordsSys env words, words.getD 1 [],
      atoiUnsigned (words.getD 2 []), hport⟩ := by
  rw [newServer, argument_of_lt (by omega), argument_of_lt (by omega), argument_of_lt (by omega),
    argument_of_lt (by omega), argument_of_lt (by omega), argument_of_lt (by omega)]
  simp only [ok_bind]
  rw [dif_pos hport]
  rfl

/-- An assertion fails. -/
theorem newServer_eq_error {words : List CStr} (hlen : words.length = 6)
    (hport : atoiUnsigned (words.getD 2 []) = 0) : newServer env words = .error .assertion := by
  rw [newServer, argument_of_lt (by omega), argument_of_lt (by omega), argument_of_lt (by omega),
    argument_of_lt (by omega), argument_of_lt (by omega), argument_of_lt (by omega)]
  simp only [ok_bind]
  rw [dif_neg (not_not_intro hport)]
  rfl

/-- The new server is connected without an assertion that fails. -/
theorem aborted_added_iff (env : PeerEnv) {words : List CStr}
    (hport : atoiUnsigned (words.getD 2 []) ≠ 0) :
    (BotServer.added env ⟨wordsSys env words, words.getD 1 [], atoiUnsigned (words.getD 2 []),
      hport⟩).sys.aborted = false ↔ ((words.getD 2 []).head? ≠ some 43 →
        CanStart (env.left (words.getD 0 [])) [.spawn] (env.addresses (words.getD 1 []))) := by
  have hcall : (BotServer.added env ⟨wordsSys env words, words.getD 1 [],
      atoiUnsigned (words.getD 2 []), hport⟩).sys.aborted = (ircServerConnect (wordsSys env words)
        (env.addresses (words.getD 1 [])) env.uninit).aborted := rfl
  have hstale : (wordsSys env words).stale = env.left (words.getD 0 []) :=
    List.append_nil _
  have hssl : (wordsSys env words).server.flags.ssl = ((words.getD 2 []).head? == some 43) := rfl
  rw [hcall, aborted_ircServerConnect_iff rfl, hstale, hssl, beq_eq_false_iff_ne]
  rfl

theorem defined_cmdServerConnect_iff :
    Defined (cmdServerConnect env d line) ↔
      ((parse line 6).length = 6 → d.ircBotServerGet ((parse line 6).getD 0 []) = none →
        atoiUnsigned ((parse line 6).getD 2 []) ≠ 0 ∧ (((parse line 6).getD 2 []).head? ≠ some 43 →
          CanStart (env.left ((parse line 6).getD 0 [])) [.spawn]
            (env.addresses ((parse line 6).getD 1 [])))) := by
  have hmax : (parse line 6).length ≤ 6 := expressible_parse.1
  have hsix : 6 ≤ (parse line 6).length ↔ (parse line 6).length = 6 := by omega
  rw [cmdServerConnect, defined_withArgs_iff, hsix]
  refine imp_congr_right fun hlen => ?_
  rw [argument_of_lt (by omega), ok_bind]
  cases hget : d.ircBotServerGet ((parse line 6).getD 0 []) with
  | some s => simp
  | none =>
    rw [if_neg (by simp), forall_prop_of_true rfl]
    by_cases hport : atoiUnsigned ((parse line 6).getD 2 []) = 0
    · rw [newServer_eq_error hlen hport, error_bind]
      exact iff_of_false (not_defined_error _) fun h => h.1 hport
    · rw [newServer_eq hlen hport, ok_bind, and_iff_right hport, ← aborted_added_iff,
        ← defined_settle_iff]
      exact defined_bind_iff_left fun _ => defined_pure _

/-! ## Lines -/

/-- A handler that is safe whatever the line is, for a command that needs nothing. -/
theorem defined_iff_commandSafe {x : Except Fault Response} {command : CStr} (hx : Defined x)
    (h : command ∉ riskyCommands) : Defined x ↔ CommandSafe env d line command :=
  iff_of_true hx (.of_not_mem h)

/-- Two commands that send a line have two names, and no other command has one of them. -/
theorem SendKind.name_inj : ∀ kind kind' : SendKind, kind.name = kind'.name → kind = kind' := by
  intro kind kind'
  cases kind <;> cases kind' <;> decide

theorem SendKind.name_ne (kind : SendKind) :
    ∀ command ∈ riskyCommands.drop 8, kind.name ≠ command := by
  cases kind <;> decide

theorem SendKind.defined_iff_commandSafe (kind : SendKind) :
    Defined (kind.handler env d line) ↔ CommandSafe env d line kind.name := by
  rw [kind.defined_handler_iff]
  refine ⟨fun h => ?_, fun h => h.send kind rfl⟩
  have hother : ∀ command ∈ riskyCommands.drop 8, kind.name = command → False :=
    fun command hmem heq => kind.name_ne command hmem heq
  refine ⟨fun kind' heq => ?_, ?_, ?_, ?_, fun vars heq => ?_, ?_⟩
  · obtain rfl := name_inj _ _ heq
    exact h
  · exact fun heq => (hother _ (by decide) heq).elim
  · exact fun heq => (hother _ (by decide) heq).elim
  · exact fun heq => (hother _ (by decide) heq).elim
  · exact (hother _ (by cases vars <;> decide) heq).elim
  · exact fun heq => (hother _ (by decide) heq).elim

/-- The commands on variables have different names. -/
theorem varCommand_inj : ∀ kind kind' : VarKind, varCommand kind = varCommand kind' →
    kind = kind' := by
  intro kind kind'
  cases kind <;> cases kind' <;> decide

theorem pluginVars_iff_commandSafe (kind : VarKind) :
    Defined (d.pluginListSet line kind) ↔ CommandSafe env d line (varCommand kind) := by
  rw [defined_pluginListSet_iff]
  refine ⟨fun h => ?_, fun h => h.vars kind rfl⟩
  have hmem : varCommand kind ∈ riskyCommands.drop 8 := by cases kind <;> decide
  refine ⟨fun kind' heq => absurd heq.symm (kind'.name_ne _ hmem), ?_, ?_, ?_, fun kind' heq => ?_,
    ?_⟩
  · exact fun heq => absurd heq (by cases kind <;> decide)
  · exact fun heq => absurd heq (by cases kind <;> decide)
  · exact fun heq => absurd heq (by cases kind <;> decide)
  · obtain rfl := varCommand_inj _ _ heq
    exact h
  · exact fun heq => absurd heq (by cases kind <;> decide)

theorem join_iff_commandSafe :
    Defined (d.cmdServerJoin line) ↔ CommandSafe env d line (cstr "SERVER-JOIN") := by
  rw [defined_cmdServerJoin_iff]
  refine ⟨fun h => ⟨fun kind heq => absurd heq.symm (kind.name_ne _ (by decide)), fun _ => h,
    ?_, ?_, fun kind heq => absurd heq (by cases kind <;> decide), ?_⟩, fun h => h.join rfl⟩
  all_goals exact fun heq => absurd heq (by decide)

theorem connect_iff_commandSafe :
    Defined (cmdServerConnect env d line) ↔ CommandSafe env d line (cstr "SERVER-CONNECT") := by
  rw [defined_cmdServerConnect_iff]
  refine ⟨fun h => ⟨fun kind heq => absurd heq.symm (kind.name_ne _ (by decide)), ?_,
    fun _ => h, ?_, fun kind heq => absurd heq (by cases kind <;> decide), ?_⟩,
    fun h => h.connect rfl⟩
  all_goals exact fun heq => absurd heq (by decide)

theorem reconnect_iff_commandSafe :
    Defined (cmdServerReconnect env d line) ↔ CommandSafe env d line (cstr "SERVER-RECONNECT") := by
  rw [defined_cmdServerReconnect_iff]
  refine ⟨fun h => ⟨fun kind heq => absurd heq.symm (kind.name_ne _ (by decide)), ?_,
    ?_, fun _ => h, fun kind heq => absurd heq (by cases kind <;> decide), ?_⟩,
    fun h => h.reconnect rfl⟩
  all_goals exact fun heq => absurd heq (by decide)

theorem ruleAdd_iff_commandSafe (hfirst : firstWord line = cstr "RULE-ADD") :
    Defined (d.cmdRuleAdd line) ↔ CommandSafe env d line (cstr "RULE-ADD") := by
  rw [defined_cmdRuleAdd_iff hfirst]
  refine ⟨fun h => ⟨fun kind heq => absurd heq.symm (kind.name_ne _ (by decide)), ?_,
    ?_, ?_, fun kind heq => absurd heq (by cases kind <;> decide), fun _ => h⟩,
    fun h => h.ruleAdd rfl⟩
  all_goals exact fun heq => absurd heq (by decide)

/-- Each handler of the table on a line of its command. -/
theorem forall_cmds_defined_iff : ∀ entry ∈ cmds, entry.1 = firstWord line →
    (Defined (entry.2 env d line) ↔ CommandSafe env d line entry.1) := by
  simp only [cmds, List.forall_mem_cons]
  -- in the order of the table
  refine ⟨
    fun _ => defined_iff_commandSafe defined_cmdHookAdd (by decide),
    fun _ => defined_iff_commandSafe (defined_ok _) (by decide),
    fun _ => defined_iff_commandSafe defined_cmdHookRemove (by decide),
    fun _ => pluginVars_iff_commandSafe .config,
    fun _ => defined_iff_commandSafe defined_cmdPluginInfo (by decide),
    fun _ => defined_iff_commandSafe (defined_ok _) (by decide),
    fun _ => defined_iff_commandSafe defined_cmdPluginLoad (by decide),
    fun _ => pluginVars_iff_commandSafe .path,
    fun _ => defined_iff_commandSafe defined_cmdPluginReload (by decide),
    fun _ => pluginVars_iff_commandSafe .template,
    fun _ => defined_iff_commandSafe defined_cmdPluginUnload (by decide),
    fun hfirst => ruleAdd_iff_commandSafe hfirst.symm,
    fun _ => defined_iff_commandSafe defined_cmdRuleEdit (by decide),
    fun _ => defined_iff_commandSafe defined_cmdRuleList (by decide),
    fun _ => defined_iff_commandSafe defined_cmdRuleMove (by decide),
    fun _ => defined_iff_commandSafe defined_cmdRuleRemove (by decide),
    fun _ => connect_iff_commandSafe,
    fun _ => defined_iff_commandSafe defined_cmdServerDisconnect (by decide),
    fun _ => defined_iff_commandSafe defined_cmdServerInfo (by decide),
    fun _ => SendKind.invite.defined_iff_commandSafe,
    fun _ => join_iff_commandSafe,
    fun _ => SendKind.kick.defined_iff_commandSafe,
    fun _ => defined_iff_commandSafe (defined_ok _) (by decide),
    fun _ => SendKind.me.defined_iff_commandSafe,
    fun _ => SendKind.message.defined_iff_commandSafe,
    fun _ => SendKind.mode.defined_iff_commandSafe,
    fun _ => SendKind.notice.defined_iff_commandSafe,
    fun _ => SendKind.part.defined_iff_commandSafe,
    fun _ => reconnect_iff_commandSafe,
    fun _ => SendKind.topic.defined_iff_commandSafe,
    fun _ => defined_iff_commandSafe (defined_ok _) (by decide), ?_⟩
  simp

/-- What `invoke` does after the handler is safe. -/
theorem defined_invoke_of_find {entry : CStr × Handler} (h : find line = some entry) :
    Defined (invoke env d line) ↔ Defined (entry.2 env d line) := by
  unfold invoke
  rw [h]
  refine defined_bind_iff_left fun r => ?_
  cases r.er <;> exact defined_pure _

end Safety

/-! ## A line that is not safe -/

/-- A world without hosts and plugins. -/
def quietEnv : PeerEnv where
  addresses _ := none
  uninit := ⟨none, [], []⟩
  search _ := .error (strerror .enoent)
  load _ := true
  reload plg := plg
  bufsiz := 8192
  left _ := []

/-- A daemon with one server. -/
def localDaemon : Daemon where
  servers := [⟨Sys.start localServer, cstr "localhost", 6667, by decide⟩]
  plugins := []
  rules := []
  hooks := []
  watching := false

end Daemon

end Irccd
