import Mathlib.Data.List.TakeDrop
import Irccd.Foundations.Readers
import Irccd.Peer.Safety

/-!
# Replies of many lines (`peer.c`, `irccdctl.c`)

The rules, and the variables of a plugin, are printed in a buffer of a fixed size and sent with a
newline behind them. The client counts the lines.

* `ctlRuleList`, `ctlPluginList`: what the client reads and shows;
* `Delimited`, `ListsAll`: the reply has the lines that its first one announces, and the client
  gets what was listed;
* `ruleListSize`, `varListSize`: the sizes of the printed texts.
-/

namespace Irccd

open Readers

/-! ## The client -/

/-- `poll`: the next line of what the daemon sends. -/
def poll : CStr → Option (CStr × CStr) := readLine LF

/-- `ok`: what follows `OK` in a response. -/
def ctlOk (stream : CStr) : Option (CStr × CStr) := do
  let (response, stream) ← poll stream
  if strncmp response (cstr "OK") 2 then some ((response.drop 2).dropWhile isspace, stream)
  else none

/-- The client's `cmd_rule_list`: the six lines that it shows for each rule. -/
def ctlRuleList (stream : CStr) : Option (List (List CStr) × CStr) := do
  let (response, stream) ← ctlOk stream
  let num ← scanSize response
  readMany (readMany poll 6) num stream

/-- The name, which a buffer of sixteen bytes cuts, and the value that the client shows for a line
with an equals sign. -/
def showVar (line : CStr) : Option (CStr × CStr) :=
  (readLine 61 line).map fun v => ((v.1 ++ cstr ":").take 15, v.2)

/-- The client's `plugin_list_set` without a key: what it shows. -/
def ctlPluginList (stream : CStr) : Option (List (CStr × CStr) × CStr) := do
  let (response, stream) ← ctlOk stream
  let num ← scanSize response
  let (lines, stream) ← readMany poll num stream
  return (lines.filterMap showVar, stream)

/-! ## What is listed -/

/-- The values of a line that the client shows for a criterion. -/
def wordsOf (text : CStr) : List CStr := if text = [] then [] else text.splitOn SP

/-- The rule of the six lines that the client shows. -/
def ruleOf : List CStr → Option IrcRule
  | [action, servers, channels, origins, plugins, events] =>
    let rule (action : IrcRuleAction) : IrcRule :=
      ⟨action, wordsOf servers, wordsOf channels, wordsOf origins, wordsOf plugins,
        wordsOf events⟩
    if action = cstr "accept" then some (rule .accept)
    else if action = cstr "drop" then some (rule .drop)
    else none
  | _ => none

/-- A value that is not empty and has no blank. -/
def PlainValue (v : CStr) : Prop := v ≠ [] ∧ ∀ b ∈ v, isspace b = false

/-- The values of the criteria are plain. -/
def IrcRule.Plain (rule : IrcRule) : Prop :=
  ∀ v ∈ rule.servers ++ rule.channels ++ rule.origins ++ rule.plugins ++ rule.events, PlainValue v

/-- A variable that fits on a line: the key has no equals sign. -/
def PlainVar (v : CStr × CStr) : Prop := LF ∉ v.1 ∧ 61 ∉ v.1 ∧ LF ∉ v.2

/-- The size of a criterion: each value has a byte behind it, and so has an empty list. -/
def listSize (values : List CStr) : ℕ := max 1 (values.map (·.length + 1)).sum

/-- The size of the six lines of a rule. -/
def ruleSize (rule : IrcRule) : ℕ :=
  (if rule.action = .accept then 7 else 5) + listSize rule.servers + listSize rule.channels +
    listSize rule.origins + listSize rule.plugins + listSize rule.events

/-- The size of the list of the rules. -/
def ruleListSize (rules : List IrcRule) : ℕ :=
  4 + (decimal rules.length).length + (rules.map ruleSize).sum

/-- The size of the list of the variables. -/
def varListSize (vars : List (CStr × CStr)) : ℕ :=
  4 + (decimal vars.length).length + (vars.map fun v => v.1.length + v.2.length + 2).sum

/-! ## Replies -/

/-- What the peer sends: each text with a newline. -/
def Daemon.Response.bytes (r : Daemon.Response) : CStr := unlines LF r.out

/-- A line that announces `n` things, and `k` lines for each of them. -/
def Delimited (k n : ℕ) (bytes : CStr) : Prop :=
  ∃ lines, lines.length = k * n ∧ (∀ l ∈ lines, LF ∉ l) ∧
    bytes = unlines LF ((cstr "OK " ++ decimal n) :: lines)

/-- The reply to a line lists `n` things: it is delimited, and the client gets them and leaves what
follows. -/
def ListsAll {β : Type} (env : PeerEnv) (d : Daemon) (line : CStr) (k n : ℕ)
    (read : CStr → Option (β × CStr)) (Recovered : β → Prop) : Prop :=
  ∃ r, Daemon.invoke env d line = .ok r ∧ Delimited k n r.bytes ∧
    ∀ next, ∃ b, read (r.bytes ++ next) = some (b, next) ∧ Recovered b

/-- The reply lists the rules. -/
def ListsRules (env : PeerEnv) (d : Daemon) (line : CStr) : Prop :=
  ListsAll env d line 6 d.rules.length ctlRuleList fun texts => texts.map ruleOf = d.rules.map some

/-- The reply lists the variables, each under its name. -/
def ListsVars (env : PeerEnv) (d : Daemon) (line : CStr) (vars : List (CStr × CStr)) : Prop :=
  ListsAll env d line 1 vars.length ctlPluginList fun shown =>
    shown = vars.map fun v => (v.1 ++ cstr ":", v.2)

section Readers

variable {n : ℕ} {stream next : CStr}

theorem undoes_poll : Undoes poll (LF ∉ ·) (· ++ [LF]) := undoes_readLine

theorem scanSize_decimal (hn : n < 2 ^ 64) : scanSize (decimal n) = some n := by
  have hscan : scanNumber (decimal n ++ []) = some ((n : ℤ), []) :=
    scanNumber_decimal fun b hb => by simp at hb
  rw [List.append_nil] at hscan
  rw [scanSize, hscan, Option.map_some, if_pos (by simpa using hn)]
  congr 1
  rw [BitVec.toNat_ofInt]
  omega

/-- The first line of a reply. -/
theorem ctlOk_header (next : CStr) :
    ctlOk (cstr "OK " ++ decimal n ++ LF :: next) = some (decimal n, next) := by
  have hok : cstr "OK " = [79, 75, SP] := by decide
  have hline : LF ∉ cstr "OK " ++ decimal n := fun hmem => by
    rcases List.mem_append.1 hmem with hmem | hmem
    · exact absurd hmem (by decide)
    · exact absurd (isdigit_of_mem_decimal hmem) (by decide)
  have hread : poll (cstr "OK " ++ decimal n ++ LF :: next) =
      some (cstr "OK " ++ decimal n, next) := by
    have := undoes_poll.read_print hline next
    simpa using this
  have hskip : ((cstr "OK " ++ decimal n).drop 2).dropWhile isspace = decimal n := by
    obtain ⟨b, digits, hdecimal⟩ := List.exists_cons_of_ne_nil (decimal_ne_nil (n := n))
    have hb : isspace b = false :=
      not_isspace_of_isdigit (isdigit_of_mem_decimal (by rw [hdecimal]; simp))
    have hSP : isspace SP = true := by decide
    simp [hok, hdecimal, hSP, hb]
  rw [ctlOk, hread, Option.bind_eq_bind, Option.bind_some]
  dsimp only
  rw [hskip, if_pos (by rw [hok]; rfl)]

/-- What the client makes of a reply whose first line announces `n` things. -/
theorem ctlOk_of_delimited {k : ℕ} {bytes : CStr} (h : Delimited k n bytes) (next : CStr) :
    ∃ lines, lines.length = k * n ∧ (∀ l ∈ lines, LF ∉ l) ∧
      bytes = cstr "OK " ++ decimal n ++ LF :: unlines LF lines ∧
      ctlOk (bytes ++ next) = some (decimal n, unlines LF lines ++ next) := by
  obtain ⟨lines, hlen, hlines, rfl⟩ := h
  have hcons : unlines LF ((cstr "OK " ++ decimal n) :: lines) =
      cstr "OK " ++ decimal n ++ LF :: unlines LF lines := by simp [unlines]
  refine ⟨lines, hlen, hlines, hcons, ?_⟩
  rw [hcons, List.append_assoc, List.cons_append, ctlOk_header]

theorem Delimited.exists_eq {k : ℕ} {bytes : CStr} (h : Delimited k n bytes) :
    ∃ body, bytes = body ++ [LF] := by
  obtain ⟨lines, -, -, rfl⟩ := h
  exact exists_unlines_eq (by simp)

/-- Each line has a byte at least. -/
theorem Delimited.mul_lt_length {k : ℕ} {bytes : CStr} (h : Delimited k n bytes) :
    k * n < bytes.length := by
  obtain ⟨lines, hlen, hlines, rfl⟩ := h
  have hcount := List.count_le_length (a := LF) (l := unlines LF lines)
  rw [count_unlines hlines, hlen] at hcount
  simp only [unlines, List.flatMap_cons, List.length_append, List.length_singleton] at hcount ⊢
  omega

end Readers

/-! ## Rules -/

/-- The six lines of a rule. -/
def ruleTexts (rule : IrcRule) : List CStr :=
  [if rule.action = .accept then cstr "accept" else cstr "drop", Daemon.nameList rule.servers,
    Daemon.nameList rule.channels, Daemon.nameList rule.origins, Daemon.nameList rule.plugins,
    Daemon.nameList rule.events]

section Rules

variable {rule : IrcRule} {rules : List IrcRule} {values : List CStr}

theorem ruleLines_eq (rule : IrcRule) : Daemon.ruleLines rule = unlines LF (ruleTexts rule) := by
  simp [Daemon.ruleLines, ruleTexts, unlines]

theorem ruleList_eq (rules : List IrcRule) :
    Daemon.ruleList rules = cstr "OK " ++ decimal rules.length ++ LF ::
      unlines LF (rules.flatMap ruleTexts) := by
  have hlines : rules.flatMap Daemon.ruleLines = unlines LF (rules.flatMap ruleTexts) := by
    rw [unlines, List.flatMap_assoc]
    exact List.flatMap_congr fun rule _ => ruleLines_eq rule
  rw [Daemon.ruleList, hlines, List.append_assoc _ [LF], List.singleton_append]

/-- The values of a criterion are read back. -/
theorem wordsOf_nameList (h : ∀ v ∈ values, PlainValue v) :
    wordsOf (Daemon.nameList values) = values := by
  unfold wordsOf Daemon.nameList
  cases values with
  | nil => rfl
  | cons v values =>
    have hne : [SP].intercalate (v :: values) ≠ [] := fun hnil => by
      have hv := (h v (by simp)).1
      cases values with
      | nil => exact hv (by simpa using hnil)
      | cons w values => simp [List.intercalate_cons_cons] at hnil
    rw [if_neg hne, List.splitOn_intercalate SP _ (by simp)]
    intro w hw hmem
    exact absurd ((h w hw).2 SP hmem) (by decide)

/-- A line shows one list of values only. -/
theorem nameList_wordsOf (text : CStr) : Daemon.nameList (wordsOf text) = text := by
  unfold wordsOf Daemon.nameList
  split
  · rename_i hnil
    rw [hnil]
    rfl
  · exact List.intercalate_splitOn SP

theorem ruleOf_ruleTexts (h : rule.Plain) : ruleOf (ruleTexts rule) = some rule := by
  simp only [IrcRule.Plain, List.mem_append, or_imp, forall_and] at h
  obtain ⟨⟨⟨⟨hs, hc⟩, ho⟩, hp⟩, he⟩ := h
  obtain ⟨action, servers, channels, origins, plugins, events⟩ := rule
  have hdrop : cstr "drop" ≠ cstr "accept" := by decide
  cases action
  · simp [ruleOf, ruleTexts, wordsOf_nameList hs, wordsOf_nameList hc, wordsOf_nameList ho,
      wordsOf_nameList hp, wordsOf_nameList he]
  · simp [ruleOf, ruleTexts, hdrop, wordsOf_nameList hs, wordsOf_nameList hc, wordsOf_nameList ho,
      wordsOf_nameList hp, wordsOf_nameList he]

/-- Only the lines of a rule show the rule. -/
theorem eq_ruleTexts {texts : List CStr} (h : ruleOf texts = some rule) :
    texts = ruleTexts rule := by
  unfold ruleOf at h
  split at h
  · rename_i action servers channels origins plugins events
    dsimp only at h
    split at h
    · rename_i haction
      cases h
      simp [ruleTexts, nameList_wordsOf, haction]
    · split at h
      · rename_i haction
        cases h
        simp [ruleTexts, nameList_wordsOf, haction]
      · cases h
  · cases h

/-- A list of names has their bytes and spaces. -/
theorem mem_nameList {b : UInt8} (hb : b ∈ Daemon.nameList values) :
    b = SP ∨ ∃ v ∈ values, b ∈ v := by
  unfold Daemon.nameList at hb
  induction values with
  | nil => cases hb
  | cons v values ih =>
    cases values with
    | nil =>
      rw [List.intercalate_singleton] at hb
      exact .inr ⟨v, by simp, hb⟩
    | cons w values =>
      rw [List.intercalate_cons_cons, List.mem_append, List.mem_append, List.mem_singleton] at hb
      rcases hb with (hb | hb) | hb
      · exact .inr ⟨v, by simp, hb⟩
      · exact .inl hb
      · rcases ih hb with hb | ⟨u, hu, hb⟩
        · exact .inl hb
        · exact .inr ⟨u, List.mem_cons_of_mem _ hu, hb⟩

theorem length_nameList (values : List CStr) :
    (Daemon.nameList values).length + 1 = listSize values := by
  unfold Daemon.nameList listSize
  induction values with
  | nil => rfl
  | cons v values ih =>
    cases values with
    | nil => simp
    | cons w values =>
      rw [List.intercalate_cons_cons, List.map_cons, List.sum_cons]
      simp only [List.map_cons, List.sum_cons, List.length_append, List.length_singleton] at ih ⊢
      omega

/-- Each line of a rule is one line. -/
theorem not_mem_ruleTexts (h : rule.Plain) : ∀ l ∈ ruleTexts rule, LF ∉ l := by
  have hname : ∀ values : List CStr, (∀ v ∈ values, PlainValue v) →
      LF ∉ Daemon.nameList values := fun values hvalues hmem => by
    rcases mem_nameList hmem with hSP | ⟨v, hv, hLF⟩
    · exact absurd hSP (by decide)
    · exact absurd ((hvalues v hv).2 LF hLF) (by decide)
  have haction : LF ∉ (if rule.action = .accept then cstr "accept" else cstr "drop") := by
    split <;> decide
  simp only [IrcRule.Plain, List.mem_append, or_imp, forall_and] at h
  obtain ⟨⟨⟨⟨hs, hc⟩, ho⟩, hp⟩, he⟩ := h
  simp only [ruleTexts, List.forall_mem_cons]
  exact ⟨haction, hname _ hs, hname _ hc, hname _ ho, hname _ hp, hname _ he, by simp⟩

theorem length_ruleLines (rule : IrcRule) : (Daemon.ruleLines rule).length = ruleSize rule := by
  have haccept : (cstr "accept").length = 6 := by decide
  have hdrop : (cstr "drop").length = 4 := by decide
  have haction : (if rule.action = .accept then cstr "accept" else cstr "drop").length + 1 =
      if rule.action = .accept then 7 else 5 := by
    split
    · rw [haccept]
    · rw [hdrop]
  unfold ruleSize
  rw [← length_nameList, ← length_nameList, ← length_nameList, ← length_nameList,
    ← length_nameList, ← haction]
  simp only [Daemon.ruleLines, List.length_append, List.length_singleton]
  omega

theorem length_ruleList (rules : List IrcRule) :
    (Daemon.ruleList rules).length = ruleListSize rules := by
  have hok : (cstr "OK ").length = 3 := by decide
  have hlines : rules.map (fun rule => (Daemon.ruleLines rule).length) = rules.map ruleSize :=
    List.map_congr_left fun rule _ => length_ruleLines rule
  simp only [Daemon.ruleList, List.length_append, hok, List.length_singleton, List.length_flatMap,
    hlines, ruleListSize]
  omega

/-- The lines of the rules, rule by rule. -/
theorem flatMap_ruleTexts (rules : List IrcRule) :
    (rules.map ruleTexts).flatMap (·.flatMap (· ++ [LF])) =
      unlines LF (rules.flatMap ruleTexts) := by
  rw [unlines, List.flatMap_assoc, List.flatMap_map]

/-- The reader of the rules on the reply, whatever follows it. -/
theorem ctlRuleList_ruleList (h : ∀ rule ∈ rules, rule.Plain) (hn : rules.length < 2 ^ 64)
    (next : CStr) :
    ctlRuleList (Daemon.ruleList rules ++ next) = some (rules.map ruleTexts, next) := by
  have hundoes := (undoes_poll.many 6).many rules.length
  have hread := hundoes.read_print (b := rules.map ruleTexts) ⟨by simp, fun texts htexts => by
    obtain ⟨rule, hrule, rfl⟩ := List.mem_map.1 htexts
    exact ⟨rfl, not_mem_ruleTexts (h rule hrule)⟩⟩ next
  rw [flatMap_ruleTexts] at hread
  rw [ctlRuleList, ruleList_eq, List.append_assoc, List.cons_append, ctlOk_header]
  simp [scanSize_decimal hn, hread]

/-- Values that are shown as others are the ones that show them. -/
theorem eq_map_of_map_eq {α β : Type} {f : α → Option β} {g : β → α}
    (hfg : ∀ a b, f a = some b → a = g b) {as : List α} {bs : List β}
    (h : as.map f = bs.map some) : as = bs.map g := by
  induction as generalizing bs with
  | nil => cases bs with
    | nil => rfl
    | cons b bs => cases h
  | cons a as ih => cases bs with
    | nil => cases h
    | cons b bs =>
      rw [List.map_cons, List.map_cons, List.cons.injEq] at h
      rw [List.map_cons, hfg a b h.1, ih h.2]

/-- The client gets the rules from the printed text only. -/
theorem eq_ruleList_of_read {bytes : CStr} {texts : List (List CStr)}
    (hdel : Delimited 6 rules.length bytes) {next : CStr}
    (hread : ctlRuleList (bytes ++ next) = some (texts, next))
    (htexts : texts.map ruleOf = rules.map some) : bytes = Daemon.ruleList rules := by
  obtain ⟨lines, -, -, hbytes, hok⟩ := ctlOk_of_delimited hdel next
  rw [ctlRuleList, hok, Option.bind_eq_bind, Option.bind_some] at hread
  obtain ⟨num, -, hread⟩ := Option.bind_eq_some_iff.1 hread
  obtain ⟨-, hlines⟩ := ((undoes_poll.many 6).many num _ _ _).1 hread
  have hsame : texts = rules.map ruleTexts := eq_map_of_map_eq (fun _ _ => eq_ruleTexts) htexts
  have hall : unlines LF lines = unlines LF (rules.flatMap ruleTexts) := by
    rw [← flatMap_ruleTexts, ← hsame]
    exact List.append_cancel_right hlines
  rw [hbytes, ruleList_eq, hall]

/-- What the client gets from the printed text. -/
theorem map_ruleOf_ruleTexts (h : ∀ rule ∈ rules, rule.Plain) :
    (rules.map ruleTexts).map ruleOf = rules.map some := by
  rw [List.map_map]
  exact List.map_congr_left fun rule hrule => ruleOf_ruleTexts (h rule hrule)

theorem delimited_ruleList (h : ∀ rule ∈ rules, rule.Plain) :
    Delimited 6 rules.length (Daemon.ruleList rules) := by
  refine ⟨rules.flatMap ruleTexts, ?_, fun l hl => ?_, ?_⟩
  · have hsix : rules.map (fun rule => (ruleTexts rule).length) = rules.map fun _ => 6 := rfl
    rw [List.length_flatMap, hsix]
    simp [Nat.mul_comm]
  · obtain ⟨rule, hrule, hl⟩ := List.mem_flatMap.1 hl
    exact not_mem_ruleTexts (h rule hrule) l hl
  · rw [ruleList_eq]
    simp [unlines]

end Rules

/-! ## A buffer and a newline -/

/-- A text in a buffer, which `peer_push` sends with a newline. -/
theorem bytes_push (d : Daemon) (text : CStr) : (d.push text).bytes = text ++ [LF] := by
  simp [Daemon.Response.bytes, Daemon.push, unlines]

section Buffer

variable {env : PeerEnv} {d : Daemon} {line text : CStr} {size k n : ℕ} {β : Type}
  {read : CStr → Option (β × CStr)} {Recovered : β → Prop}

/-- A text that fits in the buffer is sent with a newline too many. -/
theorem memText_append_of_lt (h : text.length < size) :
    Daemon.memText size text ++ [LF] = text ++ [LF] := by
  rw [Daemon.memText, List.take_of_length_le (by omega)]

/-- A text that is as long as the buffer loses its last newline, and gets it back. -/
theorem memText_append_of_eq {body : CStr} (h : (body ++ [LF]).length = size) :
    Daemon.memText size (body ++ [LF]) ++ [LF] = body ++ [LF] := by
  obtain rfl : size = body.length + 1 := by simpa using h.symm
  rw [Daemon.memText, Nat.add_sub_cancel, List.take_left]

/-- A text that is longer is cut. -/
theorem length_memText_append (hsize : 0 < size) (h : size ≤ text.length) :
    (Daemon.memText size text ++ [LF]).length = size := by
  simp [Daemon.memText]
  omega

/-- A list that goes through a buffer and `peer_push` is read back only when its text is as long as
the buffer. -/
theorem listsAll_iff {C : Prop}
    (hinvoke : Daemon.invoke env d line = .ok (d.push (Daemon.memText size text)))
    (hsize : 0 < size) (hdel : Delimited k n text)
    (hforward : text.length ≤ size → ∃ b, (∀ next, read (text ++ next) = some (b, next)) ∧
      (Recovered b ↔ C))
    (hback : ∀ bytes b, Delimited k n bytes → read bytes = some (b, []) → Recovered b →
      text.length ≤ bytes.length) :
    ListsAll env d line k n read Recovered ↔ text.length = size ∧ C := by
  obtain ⟨body, hbody⟩ := hdel.exists_eq
  constructor
  · rintro ⟨r, hr, hrdel, hread⟩
    obtain rfl := Except.ok.inj (hinvoke.symm.trans hr)
    rw [bytes_push] at hrdel hread
    obtain ⟨b, hb, hrec⟩ := hread []
    rw [List.append_nil] at hb
    rcases lt_trichotomy text.length size with hlt | heq | hgt
    · -- the newline is left behind the list
      obtain ⟨c, hc, -⟩ := hforward (by omega)
      rw [memText_append_of_lt hlt, hc [LF]] at hb
      cases hb
    · obtain ⟨c, hc, hiff⟩ := hforward (by omega)
      have hbytes : Daemon.memText size text ++ [LF] = text := by
        rw [hbody] at heq ⊢
        exact memText_append_of_eq heq
      have hfull := hc []
      rw [List.append_nil, ← hbytes, hb] at hfull
      obtain ⟨rfl, -⟩ := Prod.mk.inj (Option.some.inj hfull)
      exact ⟨heq, hiff.1 hrec⟩
    · have hle := hback _ b hrdel hb hrec
      rw [length_memText_append hsize (by omega)] at hle
      omega
  · rintro ⟨heq, hC⟩
    obtain ⟨b, hb, hiff⟩ := hforward (by omega)
    have hbytes : Daemon.memText size text ++ [LF] = text := by
      rw [hbody] at heq ⊢
      exact memText_append_of_eq heq
    refine ⟨_, hinvoke, ?_, fun next => ⟨b, ?_, hiff.2 hC⟩⟩
    · rw [bytes_push, hbytes]
      exact hdel
    · rw [bytes_push, hbytes]
      exact hb next

end Buffer

section RuleList

variable {env : PeerEnv} {d : Daemon} {line : CStr}

/-- The error of a list that is too long is no list. -/
theorem not_delimited_strerror {k n : ℕ} {er : CmdErrno} :
    ¬ Delimited k n (unlines LF [strerror er]) := by
  rintro ⟨lines, -, -, hbytes⟩
  have hok : cstr "OK " = [79, 75, SP] := by decide
  have hhead : (unlines LF [strerror er]).head? ≠ some 79 := by
    cases er <;> decide
  apply hhead
  rw [hbytes, hok]
  simp [unlines]

/-- The rules are listed only when their text is as long as the buffer of `cmd_rule_list`. -/
theorem listsRules_iff_size (hline : firstWord line = cstr "RULE-LIST")
    (hplain : ∀ rule ∈ d.rules, rule.Plain) :
    ListsRules env d line ↔ ruleListSize d.rules = 512 := by
  have hentry : (cstr "RULE-LIST", fun env d _ => Daemon.cmdRuleList env d) ∈ Daemon.cmds :=
    List.mem_of_getElem? (i := 13) rfl
  rw [← length_ruleList]
  by_cases hlong :
      512 < (Daemon.ruleList d.rules).length ∧ env.bufsiz < (Daemon.ruleList d.rules).length
  · have hcall : Daemon.cmdRuleList env d = .ok (d.fail .emsgsize) := if_pos hlong
    refine iff_of_false ?_ (by omega)
    rintro ⟨r, hr, hdel, -⟩
    rw [Daemon.invoke_eq_fail hentry hline hcall rfl] at hr
    obtain rfl := Except.ok.inj hr
    exact not_delimited_strerror hdel
  · have hcall : Daemon.cmdRuleList env d =
        .ok (d.push (Daemon.memText 512 (Daemon.ruleList d.rules))) := if_neg hlong
    have hdel := delimited_ruleList hplain
    refine (listsAll_iff (Daemon.invoke_eq_ok hentry hline hcall rfl) (by omega) hdel
      (fun hfits => ?_) fun bytes texts hbytes hread htexts => ?_).trans (iff_of_eq (and_true _))
    · have hlen : d.rules.length < 2 ^ 64 := by
        have := hdel.mul_lt_length
        omega
      exact ⟨_, ctlRuleList_ruleList hplain hlen, iff_true_intro (map_ruleOf_ruleTexts hplain)⟩
    · rw [← List.append_nil bytes] at hread
      rw [eq_ruleList_of_read hbytes hread htexts]

end RuleList

/-! ## Variables -/

/-- The line of a variable. -/
def varText (v : CStr × CStr) : CStr := v.1 ++ cstr "=" ++ v.2

section Vars

variable {plg : Plugin} {kind : VarKind} {vars : List (CStr × CStr)}

theorem varList_eq (vars : List (CStr × CStr)) :
    Daemon.varList vars = cstr "OK " ++ decimal vars.length ++ LF ::
      unlines LF (vars.map varText) := by
  have hlines : Daemon.varLines vars = unlines LF (vars.map varText) := by
    rw [Daemon.varLines, unlines, List.flatMap_map]
    rfl
  rw [Daemon.varList, hlines, List.append_assoc _ [LF], List.singleton_append]

theorem length_varList (vars : List (CStr × CStr)) :
    (Daemon.varList vars).length = varListSize vars := by
  have hok : (cstr "OK ").length = 3 := by decide
  have heq : (cstr "=").length = 1 := by decide
  have hlines : ∀ vars : List (CStr × CStr), (unlines LF (vars.map varText)).length =
      (vars.map fun v => v.1.length + v.2.length + 2).sum := fun vars => by
    rw [unlines, List.flatMap_map, List.length_flatMap]
    congr 1
    refine List.map_congr_left fun v _ => ?_
    simp only [varText, List.length_append, heq, List.length_singleton]
    omega
  rw [varList_eq, List.length_append, List.length_append, List.length_cons, hok, hlines,
    varListSize]
  omega

theorem varListSize_perm {vars' : List (CStr × CStr)} (h : vars.Perm vars') :
    varListSize vars = varListSize vars' := by
  rw [varListSize, varListSize, h.length_eq, (h.map _).sum_nat]

/-- A variable is shown under the start of its key. -/
theorem showVar_varText {v : CStr × CStr} (hkey : 61 ∉ v.1) :
    showVar (varText v) = some ((v.1 ++ cstr ":").take 15, v.2) := by
  have heq : cstr "=" = [61] := by decide
  rw [showVar, varText, heq, undoes_readLine.read_print hkey]
  rfl

/-- A line that is shown is as long as what it shows. -/
theorem length_showVar_le {line : CStr} {v : CStr × CStr} (h : showVar line = some v) :
    v.1.length + v.2.length ≤ line.length := by
  obtain ⟨w, hw, rfl⟩ := Option.map_eq_some_iff.1 h
  obtain ⟨-, rfl⟩ := (undoes_readLine _ _ _).1 hw
  have hcolon : (cstr ":").length = 1 := by decide
  simp only [List.length_take, List.length_append, hcolon, List.length_singleton]
  omega

/-- Lines that are all shown are as long as what they show. -/
theorem length_filterMap_showVar_le {lines : List CStr}
    (h : (lines.filterMap showVar).length = lines.length) :
    ((lines.filterMap showVar).map fun v => v.1.length + v.2.length + 1).sum ≤
      (unlines LF lines).length := by
  induction lines with
  | nil => simp
  | cons line lines ih =>
    have hcons : unlines LF (line :: lines) = line ++ [LF] ++ unlines LF lines := rfl
    cases hshow : showVar line with
    | none =>
      rw [List.filterMap_cons_none hshow, List.length_cons] at h
      have hle := List.length_filterMap_le showVar lines
      omega
    | some v =>
      rw [List.filterMap_cons_some hshow, List.length_cons, List.length_cons] at h
      have hrest := ih (by omega)
      have hline := length_showVar_le hshow
      rw [List.filterMap_cons_some hshow, List.map_cons, List.sum_cons, hcons, List.length_append,
        List.length_append, List.length_singleton]
      omega

/-- Each variable is one line. -/
theorem not_mem_varTexts (h : ∀ v ∈ vars, PlainVar v) :
    ∀ l ∈ vars.map varText, LF ∉ l := by
  intro l hl
  obtain ⟨v, hv, rfl⟩ := List.mem_map.1 hl
  have heq : cstr "=" = [61] := by decide
  have hLF : LF ≠ 61 := by decide
  simp [varText, heq, (h v hv).1, (h v hv).2.2, hLF]

/-- The reader of the variables on the reply, whatever follows it. -/
theorem ctlPluginList_varList (h : ∀ v ∈ vars, PlainVar v)
    (hn : vars.length < 2 ^ 64) (next : CStr) :
    ctlPluginList (Daemon.varList vars ++ next) =
      some (vars.map fun v => ((v.1 ++ cstr ":").take 15, v.2), next) := by
  have hread := readMany_unlines (not_mem_varTexts h) next
  have hshown : (vars.map varText).filterMap showVar =
      vars.map fun v => ((v.1 ++ cstr ":").take 15, v.2) := by
    rw [List.filterMap_map, ← List.filterMap_eq_map]
    refine List.filterMap_congr fun v hv => ?_
    exact showVar_varText (h v hv).2.1
  rw [List.length_map] at hread
  rw [ctlPluginList, varList_eq, List.append_assoc, List.cons_append, ctlOk_header]
  simp [scanSize_decimal hn, poll, hread, hshown]

/-- The client shows as many lines as the reply announces. -/
theorem exists_of_ctlPluginList {n : ℕ} {bytes : CStr} {shown : List (CStr × CStr)}
    (hdel : Delimited 1 n bytes) (hread : ctlPluginList bytes = some (shown, [])) :
    ∃ ls, ls.length = n ∧ bytes = cstr "OK " ++ decimal n ++ LF :: unlines LF ls ∧
      shown = ls.filterMap showVar := by
  obtain ⟨lines, hlen, hlines, hbytes, hok⟩ := ctlOk_of_delimited hdel []
  rw [List.append_nil] at hok
  rw [ctlPluginList, hok, Option.bind_eq_bind, Option.bind_some] at hread
  obtain ⟨num, -, hread⟩ := Option.bind_eq_some_iff.1 hread
  obtain ⟨⟨ls, rest⟩, hls, hread⟩ := Option.bind_eq_some_iff.1 hread
  obtain ⟨rfl, rfl⟩ := Prod.mk.inj (Option.some.inj hread)
  obtain ⟨⟨-, hclean⟩, hsame⟩ := (undoes_poll.many num _ _ _).1 hls
  have hsame' : unlines LF lines = unlines LF ls := List.append_cancel_right hsame
  refine ⟨ls, ?_, by rw [hbytes, hsame'], rfl⟩
  rw [← count_unlines hclean, ← hsame', count_unlines hlines, hlen, Nat.one_mul]

/-- The client gets the variables from a text that is at least as long as the printed one. -/
theorem varListSize_le_of_read {bytes : CStr} {shown : List (CStr × CStr)}
    (hdel : Delimited 1 vars.length bytes) (hread : ctlPluginList bytes = some (shown, []))
    (hshown : shown = vars.map fun v => (v.1 ++ cstr ":", v.2)) :
    varListSize vars ≤ bytes.length := by
  obtain ⟨ls, hcount, hbytes, rfl⟩ := exists_of_ctlPluginList hdel hread
  -- as many lines as variables, so all of them are shown
  have hle := @length_filterMap_showVar_le ls (by rw [hshown, List.length_map, hcount])
  have hcolon : (cstr ":").length = 1 := by decide
  have hok3 : (cstr "OK ").length = 3 := by decide
  have hsum : (vars.map fun v => (v.1 ++ cstr ":").length + v.2.length + 1) =
      vars.map fun v => v.1.length + v.2.length + 2 := by
    refine List.map_congr_left fun v _ => ?_
    rw [List.length_append, hcolon]
    omega
  rw [hshown, List.map_map, Function.comp_def, hsum] at hle
  rw [hbytes, varListSize, List.length_append, List.length_append, List.length_cons, hok3]
  omega

theorem delimited_varList (h : ∀ v ∈ vars, PlainVar v) :
    Delimited 1 vars.length (Daemon.varList vars) := by
  refine ⟨vars.map varText, by simp, fun l hl => ?_, ?_⟩
  · exact not_mem_varTexts h l hl
  · rw [varList_eq]
    simp [unlines]

/-- The handler of the command that lists the variables. -/
theorem mem_cmds_varCommand (kind : VarKind) :
    (Daemon.varCommand kind, fun _ d line => Daemon.pluginListSet d line kind) ∈ Daemon.cmds := by
  cases kind
  · exact List.mem_of_getElem? (i := 3) rfl
  · exact List.mem_of_getElem? (i := 7) rfl
  · exact List.mem_of_getElem? (i := 9) rfl

/-- What the handler does when it has the name of a plugin only. -/
theorem pluginListSet_of_name {d : Daemon} {line name : CStr} (hparse : parse line 3 = [name])
    (hget : d.ircBotPluginGet name = some plg) :
    Daemon.pluginListSet d line kind =
      (do return d.push (Daemon.memText 511 (Daemon.varList (← Daemon.listed plg kind)))) := by
  simp [Daemon.pluginListSet, Daemon.withArgs, Daemon.requirePlugin, hparse, hget]

/-- The variables are listed only when the text of what the plugin lists is as long as the buffer of
`plugin_list_set`, and the client shows that as it is. -/
theorem listsVars_iff_size {env : PeerEnv} {d : Daemon} {line name : CStr}
    {vars' : List (CStr × CStr)} (hline : firstWord line = Daemon.varCommand kind)
    (hparse : parse line 3 = [name]) (hget : d.ircBotPluginGet name = some plg)
    (hlisted : Daemon.listed plg kind = .ok vars') (hperm : vars.Perm vars')
    (hplain : ∀ v ∈ vars', PlainVar v) :
    ListsVars env d line vars ↔
      varListSize vars' = 511 ∧
        (vars'.map fun v => ((v.1 ++ cstr ":").take 15, v.2)) =
          vars.map fun v => (v.1 ++ cstr ":", v.2) := by
  have hcall : Daemon.pluginListSet d line kind =
      .ok (d.push (Daemon.memText 511 (Daemon.varList vars'))) := by
    rw [pluginListSet_of_name hparse hget, hlisted]
    rfl
  have hdel := delimited_varList hplain
  rw [← hperm.length_eq] at hdel
  rw [← length_varList]
  refine listsAll_iff (Daemon.invoke_eq_ok (mem_cmds_varCommand kind) hline hcall rfl) (by omega)
    hdel (fun hfits => ?_) fun bytes shown hbytes hread hshown => ?_
  · have hlen : vars'.length < 2 ^ 64 := by
      have := hdel.mul_lt_length
      rw [hperm.length_eq] at this
      omega
    exact ⟨_, ctlPluginList_varList hplain hlen, Iff.rfl⟩
  · rw [length_varList, ← varListSize_perm hperm]
    exact varListSize_le_of_read hbytes hread hshown

/-- A name that is shown as it is has fourteen bytes at most. -/
theorem length_le_of_map_eq {vars' : List (CStr × CStr)}
    (h : (vars'.map fun v => ((v.1 ++ cstr ":").take 15, v.2)) =
      vars.map fun v => (v.1 ++ cstr ":", v.2)) : ∀ v ∈ vars, v.1.length ≤ 14 := by
  intro v hv
  have hmem : (v.1 ++ cstr ":", v.2) ∈
      vars'.map fun v => ((v.1 ++ cstr ":").take 15, v.2) := by
    rw [h]
    exact List.mem_map.2 ⟨v, hv, rfl⟩
  obtain ⟨w, -, hw⟩ := List.mem_map.1 hmem
  have hlength := congrArg List.length (Prod.mk.inj hw).1
  have hcolon : (cstr ":").length = 1 := by decide
  rw [List.length_take, List.length_append, List.length_append, hcolon] at hlength
  omega

/-- The client has room for short names. -/
theorem map_take_eq_self (h : ∀ v ∈ vars, v.1.length ≤ 14) :
    (vars.map fun v => ((v.1 ++ cstr ":").take 15, v.2)) =
      vars.map fun v => (v.1 ++ cstr ":", v.2) := by
  have hcolon : (cstr ":").length = 1 := by decide
  refine List.map_congr_left fun v hv => ?_
  have hshort := h v hv
  rw [List.take_of_length_le]
  rw [List.length_append, hcolon]
  omega

/-- A variable that the client gets from a reply without NUL has none. -/
theorem nul_notMem_of_read {bytes : CStr} (hdel : Delimited 1 vars.length bytes)
    (hread : ctlPluginList bytes = some (vars.map fun v => (v.1 ++ cstr ":", v.2), []))
    (hclean : 0 ∉ bytes) : ∀ v ∈ vars, 0 ∉ v.1 ∧ 0 ∉ v.2 := by
  intro v hv
  obtain ⟨ls, -, hbytes, hshown⟩ := exists_of_ctlPluginList hdel hread
  -- the line that the variable is shown for
  have hmem : (v.1 ++ cstr ":", v.2) ∈ ls.filterMap showVar := by
    rw [← hshown]
    exact List.mem_map.2 ⟨v, hv, rfl⟩
  obtain ⟨l, hl, hshow⟩ := List.mem_filterMap.1 hmem
  obtain ⟨w, hw, heq⟩ := Option.map_eq_some_iff.1 hshow
  obtain ⟨-, rfl⟩ := (undoes_readLine _ _ _).1 hw
  obtain ⟨hname, hvalue⟩ := Prod.mk.inj heq
  have hcleanLine : 0 ∉ w.1 ++ [61] ++ w.2 := by
    intro hzero
    refine hclean ?_
    rw [hbytes]
    exact List.mem_append_right _ (List.mem_cons_of_mem _
      (List.mem_flatMap.2 ⟨_, hl, List.mem_append_left _ hzero⟩))
  simp only [List.mem_append, not_or] at hcleanLine
  refine ⟨fun hzero => ?_, hvalue ▸ hcleanLine.2⟩
  have hcut : 0 ∈ (w.1 ++ cstr ":").take 15 := hname ▸ List.mem_append_left _ hzero
  rcases List.mem_append.1 (List.mem_of_mem_take hcut) with hzero | hzero
  · exact hcleanLine.1.1 hzero
  · exact absurd hzero (by decide)

/-- A reply that is delimited tells how many variables are listed. -/
theorem length_eq_of_delimited {vars' : List (CStr × CStr)} {size : ℕ}
    (hdel : Delimited 1 vars.length (Daemon.memText size (Daemon.varList vars') ++ [LF]))
    (hvars : vars ≠ []) : vars'.length = vars.length := by
  obtain ⟨lines, hlen, -, hbytes, -⟩ := ctlOk_of_delimited hdel []
  have hlines : lines ≠ [] := by
    rw [← List.length_pos_iff, hlen, Nat.one_mul]
    exact List.length_pos_iff.2 hvars
  obtain ⟨body, hbody⟩ := exists_unlines_eq (z := LF) hlines
  rw [hbody, ← List.cons_append, ← List.append_assoc, List.append_cancel_right_eq] at hbytes
  have hmem : LF ∈ Daemon.memText size (Daemon.varList vars') := by
    rw [hbytes]
    simp
  have hfirst : ∀ b ∈ cstr "OK " ++ decimal vars.length, (b != LF) = true := by
    rw [← Daemon.takeWhile_varList]
    exact fun b hb => List.mem_takeWhile_imp (p := (· != LF)) hb
  have hline := Daemon.takeWhile_memText_varList hmem
  rw [hbytes, List.takeWhile_append_of_pos hfirst, List.takeWhile_cons_of_neg (by simp),
    List.append_nil, List.append_right_inj] at hline
  rw [← digitsValue_decimal (n := vars'.length), ← hline, digitsValue_decimal]

/-- The strings of an object are plain if its variables are listed. -/
theorem plainVars_of_lists {env : PeerEnv} {d : Daemon} {line name : CStr}
    (hline : firstWord line = Daemon.varCommand kind) (hparse : parse line 3 = [name])
    (hget : d.ircBotPluginGet name = some plg) (hperm : vars.Perm (plg.entries kind))
    (h : ListsVars env d line vars) : plg.PlainVars kind := by
  intro hscript
  obtain ⟨r, hr, hdel, hread⟩ := h
  have hentry := mem_cmds_varCommand kind
  have hcall : Daemon.pluginListSet d line kind =
      (do return d.push (Daemon.memText 511 (Daemon.varList (← Daemon.listed plg kind)))) :=
    pluginListSet_of_name hparse hget
  cases hlisted : Daemon.listed plg kind with
  | error e =>
    -- a text of a variable is not there
    have hdefined : Defined (Daemon.pluginListSet d line kind) :=
      (Daemon.defined_invoke_of_find (Daemon.find_eq_some hentry hline)).1 ⟨r, hr⟩
    rw [hcall, hlisted] at hdefined
    exact absurd hdefined (not_defined_error e)
  | ok vars' =>
    rw [hlisted] at hcall
    rw [Daemon.invoke_eq_ok hentry hline hcall rfl] at hr
    obtain rfl := Except.ok.inj hr
    rw [bytes_push] at hdel hread
    obtain ⟨_, hshown, rfl⟩ := hread []
    rw [List.append_nil] at hshown
    have hclean : 0 ∉ Daemon.memText 511 (Daemon.varList vars') ++ [LF] := by
      have htext := Daemon.nul_notMem_varList (Daemon.nul_notMem_of_listed hscript hlisted)
      simp only [List.mem_append, List.mem_singleton, not_or]
      exact ⟨fun hzero => htext (List.mem_of_mem_take hzero), by decide⟩
    have hnul := nul_notMem_of_read hdel hshown hclean
    by_cases hvars : vars = []
    · subst hvars
      exact Daemon.plainVars_of_entries_eq_nil hperm.nil_eq.symm hscript
    · exact Daemon.plainVars_of_listed hlisted
        ((length_eq_of_delimited hdel hvars).trans hperm.length_eq)
        (fun v hv => hnul v (hperm.mem_iff.2 hv)) hscript

end Vars

/-! ## Both lists -/

/-- A list of rules or of variables is delimited and lossless if and only if the text is exactly as
long as the buffer that it is printed in, the names of the variables are short, and C reads those of
a script as they are. The variables have the order of the table, or that of `duk_enum`. -/
theorem lists_iff_size (env : PeerEnv) (d : Daemon) (line : CStr) :
    (firstWord line = cstr "RULE-LIST" → (∀ rule ∈ d.rules, rule.Plain) →
      (ListsRules env d line ↔ ruleListSize d.rules = 512)) ∧
    (∀ kind name plg, firstWord line = Daemon.varCommand kind → parse line 3 = [name] →
      d.ircBotPluginGet name = some plg → (∀ v ∈ plg.entries kind, PlainVar v) →
      ((∃ vars, vars.Perm (plg.entries kind) ∧ (plg.script = false → vars = plg.entries kind) ∧
          ListsVars env d line vars) ↔
        varListSize (plg.entries kind) = 511 ∧ (∀ v ∈ plg.entries kind, v.1.length ≤ 14) ∧
          plg.PlainVars kind)) := by
  refine ⟨listsRules_iff_size, fun kind name plg hline hparse hget hvars => ?_⟩
  constructor
  · rintro ⟨vars, hperm, -, h⟩
    have hplain := plainVars_of_lists hline hparse hget hperm h
    obtain ⟨vars', hlisted, hperm', -⟩ := Daemon.exists_listed hplain
    obtain ⟨hsize, hshown⟩ := (listsVars_iff_size hline hparse hget hlisted
      (hperm.trans hperm'.symm) fun v hv => hvars v (hperm'.mem_iff.1 hv)).1 h
    rw [varListSize_perm hperm'] at hsize
    exact ⟨hsize, fun v hv => length_le_of_map_eq hshown v (hperm.mem_iff.2 hv), hplain⟩
  · rintro ⟨hsize, hshort, hplain⟩
    obtain ⟨vars, hlisted, hperm, hnative⟩ := Daemon.exists_listed hplain
    refine ⟨vars, hperm, hnative, (listsVars_iff_size hline hparse hget hlisted (.refl vars)
      fun v hv => hvars v (hperm.mem_iff.1 hv)).2 ⟨?_, ?_⟩⟩
    · rw [varListSize_perm hperm, hsize]
    · exact map_take_eq_self fun v hv => hshort v (hperm.mem_iff.1 hv)

/-- A rule whose lines have 46 bytes. -/
def hangmanRule : IrcRule where
  action := .drop
  servers := [cstr "local"]
  channels := [cstr "#games"]
  origins := [cstr "francis", cstr "jean"]
  plugins := [cstr "hangman"]
  events := [cstr "onKick"]

/-- A script whose paths fill the buffer. -/
def longPathsPlugin : Plugin where
  name := cstr "ask"
  description := cstr "crazy module for asking a medium"
  version := cstr "1.0"
  license := cstr "ISC"
  author := cstr "irccd"
  script := true
  vars _ := some (.ofStrings
    { entries := [(cstr "data", List.replicate 253 97), (cstr "cache", List.replicate 240 98)]
      nodup_keys := by decide })

/-- The rules fill the buffer, and so do the paths of the plugin. -/
def fullDaemon : Daemon :=
  { Daemon.localDaemon with
    plugins := [longPathsPlugin]
    rules := List.replicate 11 hangmanRule }

theorem lists_fullDaemon : ListsRules Daemon.quietEnv fullDaemon (cstr "RULE-LIST") ∧
    ∃ vars, vars.Perm (longPathsPlugin.entries .path) ∧
      ListsVars Daemon.quietEnv fullDaemon (cstr "PLUGIN-PATH ask") vars := by
  have hrule : hangmanRule.Plain := by
    unfold IrcRule.Plain PlainValue
    decide +kernel
  have hentries : longPathsPlugin.entries .path =
      [(cstr "data", List.replicate 253 97), (cstr "cache", List.replicate 240 98)] := rfl
  constructor
  · refine ((lists_iff_size Daemon.quietEnv fullDaemon (cstr "RULE-LIST")).1 (by decide)
      fun rule hmem => ?_).2 (by decide)
    rwa [List.eq_of_mem_replicate hmem]
  · obtain ⟨vars, hperm, -, hlists⟩ :=
      ((lists_iff_size Daemon.quietEnv fullDaemon (cstr "PLUGIN-PATH ask")).2 .path
        (cstr "ask") longPathsPlugin (by decide) (by decide) rfl
        (by rw [hentries]; unfold PlainVar; decide +kernel)).2
        ⟨by rw [hentries]; decide +kernel, by rw [hentries]; decide, fun _ table htable => by
          obtain rfl := Option.some.inj htable
          refine List.forall_mem_map.2 ?_
          simp only [JsValue.IsPlain, IsPlainString]
          decide⟩
    exact ⟨vars, hperm, hlists⟩

/-- The reply to `RULE-LIST` without rules has an empty line at its end. -/
theorem not_listsRules_empty :
    ¬ ListsRules Daemon.quietEnv Daemon.localDaemon (cstr "RULE-LIST") := by
  rintro ⟨r, hr, ⟨lines, hlen, -, hbytes⟩, -⟩
  obtain rfl : lines = [] := List.eq_nil_of_length_eq_zero hlen
  obtain rfl : Daemon.localDaemon.push (cstr "OK 0\n") = r := Except.ok.inj hr
  revert hbytes
  decide

end Irccd
