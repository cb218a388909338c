import Irccd.Ctl.Getopt
import Irccd.Ctl.Watch
import Irccd.Peer.Handlers

/-!
# Requests of the client (`irccdctl.c`)

A sub-command of the client sends a line to the daemon, whose handler cuts it in words.

* `Ctl.cmds`, `Ctl.run`: the sub-commands, and the line that is sent;
* `handlerWords`: the words that a handler of the daemon reads;
* `Ctl.Delivers`: the handler of the sub-command reads the user's arguments.
-/

namespace Irccd

namespace Ctl

/-! ## Sub-commands -/

/-- `req`: the line that is sent, which aborts when the line and its newline fill the buffer. -/
def req (text : CStr) : Option CStr := if text.length + 1 < 512 then some text else none

/-- `req ("COMMAND %s ... %s", argv[1], ..., argv[n])` -/
def reqArgs (command : String) (argv : List CStr) (n : ℕ) : Option CStr :=
  req (controlLine (cstr command) ((List.range n).map fun i => argText argv (i + 1)))

def isupper (c : UInt8) : Bool := 65 ≤ c && c ≤ 90

def toupper (c : UInt8) : UInt8 := if 97 ≤ c ∧ c ≤ 122 then c - 32 else c

/-- `%lld` -/
def decimalInt (n : ℤ) : CStr := if n < 0 then 45 :: decimal n.natAbs else decimal n.natAbs

/-- What `%s` prints for `optarg`. -/
def optarg (o : UInt8 × Option CStr) : CStr := o.2.getD (cstr "(null)")

section Handlers

variable (argv : List CStr)

/-- `plugin_list_set` -/
def pluginListSet (cmd : String) : Option CStr :=
  if argv.length = 4 then reqArgs cmd argv 3
  else if argv.length = 3 then reqArgs cmd argv 2
  else reqArgs cmd argv 1

/-- A sub-command with an optional argument. -/
def reqOptional (cmd : String) : Option CStr :=
  if argv.length = 2 then reqArgs cmd argv 1 else reqArgs cmd argv 0

def cmdHookAdd : Option CStr := reqArgs "HOOK-ADD" argv 2

def cmdHookList : Option CStr := reqArgs "HOOK-LIST" argv 0

def cmdHookRemove : Option CStr := reqArgs "HOOK-REMOVE" argv 1

def cmdPluginConfig : Option CStr := pluginListSet argv "PLUGIN-CONFIG"

def cmdPluginInfo : Option CStr := reqArgs "PLUGIN-INFO" argv 1

def cmdPluginList : Option CStr := reqArgs "PLUGIN-LIST" argv 0

def cmdPluginLoad : Option CStr := reqArgs "PLUGIN-LOAD" argv 1

def cmdPluginPath : Option CStr := pluginListSet argv "PLUGIN-PATH"

def cmdPluginReload : Option CStr := reqOptional argv "PLUGIN-RELOAD"

def cmdPluginTemplate : Option CStr := pluginListSet argv "PLUGIN-TEMPLATE"

def cmdPluginUnload : Option CStr := reqOptional argv "PLUGIN-UNLOAD"

/-- The text of an option of `rule-add`. -/
def ruleAddText (o : UInt8 × Option CStr) : CStr := o.1 :: cstr "=" ++ optarg o

/-- `cmd_rule_add`, which prints the action twice. A text that does not fit in its buffer makes a
line that `req` refuses. -/
def cmdRuleAdd : Option CStr :=
  let (options, operands) := getopt (cstr "c:e:i:o:p:s:") argv.tail
  match operands with
  | [] => none
  | action :: _ =>
    let out := Daemon.memText 511 (options.flatMap (ruleAddText · ++ [SP]) ++ action)
    req (cstr "RULE-ADD " ++ action ++ [SP] ++ out)

/-- The text of an option of `rule-edit`: an upper case letter removes. -/
def ruleEditText (o : UInt8 × Option CStr) : CStr :=
  if o.1 = 97 then cstr "a=" ++ optarg o
  else tolower o.1 :: (if isupper o.1 then cstr "-" else cstr "+") ++ optarg o

/-- `cmd_rule_edit` -/
def cmdRuleEdit : Option CStr :=
  let (options, operands) := getopt (cstr "a:C:c:E:e:O:o:P:p:S:s:") argv.tail
  match operands with
  | [] => none
  | index :: _ =>
    let out := Daemon.memText 511 (options.flatMap (ruleEditText · ++ [SP]))
    req (cstr "RULE-EDIT " ++ index ++ [SP] ++ out)

def cmdRuleList : Option CStr := reqArgs "RULE-LIST" argv 0

/-- `cmd_rule_move`, which reads the two numbers itself. -/
def cmdRuleMove : Option CStr :=
  match ircUtilStoi (argText argv 1), ircUtilStoi (argText argv 2) with
  | .ok src, .ok dst => req (cstr "RULE-MOVE " ++ decimalInt src ++ [SP] ++ decimalInt dst)
  | _, _ => none

def cmdRuleRemove : Option CStr := reqArgs "RULE-REMOVE" argv 1

/-- The variables of `cmd_server_connect`. -/
structure ConnectOptions where
  ssl : Bool := false
  nickname : CStr := cstr "irccd"
  username : CStr := cstr "irccd"
  realname : CStr := cstr "IRC Client Daemon"
  port : CStr := cstr "6667"

/-- The `switch` of `cmd_server_connect`. -/
def ConnectOptions.set (v : ConnectOptions) (o : UInt8 × Option CStr) : ConnectOptions :=
  match o with
  | (115, _) => { v with ssl := true }
  | (110, some nickname) => { v with nickname }
  | (114, some realname) => { v with realname }
  | (117, some username) => { v with username }
  | (112, some port) => { v with port }
  | _ => v

/-- The words that the options and two operands stand for. -/
def connectWords (options : List (UInt8 × Option CStr)) (id host : CStr) : List CStr :=
  let v := options.foldl ConnectOptions.set {}
  [id, host, (if v.ssl then cstr "+" else []) ++ v.port, v.nickname, v.username, v.realname]

/-- `cmd_server_connect` -/
def cmdServerConnect : Option CStr :=
  let (options, operands) := getopt (cstr "sn:r:u:p:") argv.tail
  match operands with
  | id :: host :: _ => req (controlLine (cstr "SERVER-CONNECT") (connectWords options id host))
  | _ => none

def cmdServerDisconnect : Option CStr := reqOptional argv "SERVER-DISCONNECT"

/-- `cmd_server_info`, which sends the name of the sub-command. -/
def cmdServerInfo : Option CStr := req (controlLine (cstr "SERVER-INFO") [argText argv 0])

def cmdServerJoin : Option CStr :=
  if 4 ≤ argv.length then reqArgs "SERVER-JOIN" argv 3 else reqArgs "SERVER-JOIN" argv 2

def cmdServerList : Option CStr := reqArgs "SERVER-LIST" argv 0

def cmdServerMe : Option CStr := reqArgs "SERVER-ME" argv 3

def cmdServerMessage : Option CStr := reqArgs "SERVER-MESSAGE" argv 3

/-- `cmd_server_mode`, which ends the line with a NUL when there are no arguments. -/
def cmdServerMode : Option CStr :=
  if 5 ≤ argv.length then reqArgs "SERVER-MODE" argv 4 else reqArgs "SERVER-MODE" argv 3

def cmdServerNick : Option CStr := reqArgs "SERVER-NICK" argv 2

def cmdServerNotice : Option CStr := reqArgs "SERVER-NOTICE" argv 3

/-- `cmd_server_part`, which has a reason of its own. -/
def cmdServerPart : Option CStr :=
  req (controlLine (cstr "SERVER-PART") [argText argv 1, argText argv 2,
    if 4 ≤ argv.length then argText argv 3 else cstr "irccd is shutting down"])

def cmdServerReconnect : Option CStr := reqOptional argv "SERVER-RECONNECT"

def cmdServerTopic : Option CStr := reqArgs "SERVER-TOPIC" argv 3

def cmdWatch : Option CStr := reqArgs "WATCH" argv 0

end Handlers

/-- `struct cmd`. The bounds are `none` where the source has -1. -/
structure Cmd where
  name : CStr
  bounds : Option (ℕ × ℕ)
  exec : List CStr → Option CStr

/-- `cmds` -/
def cmds : List Cmd :=
  [⟨cstr "hook-add", some (2, 2), cmdHookAdd⟩,
    ⟨cstr "hook-list", some (0, 0), cmdHookList⟩,
    ⟨cstr "hook-remove", some (1, 1), cmdHookRemove⟩,
    ⟨cstr "plugin-config", some (1, 3), cmdPluginConfig⟩,
    ⟨cstr "plugin-info", some (1, 1), cmdPluginInfo⟩,
    ⟨cstr "plugin-list", some (0, 0), cmdPluginList⟩,
    ⟨cstr "plugin-load", some (1, 1), cmdPluginLoad⟩,
    ⟨cstr "plugin-path", some (0, 3), cmdPluginPath⟩,
    ⟨cstr "plugin-reload", some (0, 1), cmdPluginReload⟩,
    ⟨cstr "plugin-template", some (1, 3), cmdPluginTemplate⟩,
    ⟨cstr "plugin-unload", some (0, 1), cmdPluginUnload⟩,
    ⟨cstr "rule-add", none, cmdRuleAdd⟩,
    ⟨cstr "rule-edit", none, cmdRuleEdit⟩,
    ⟨cstr "rule-list", some (0, 0), cmdRuleList⟩,
    ⟨cstr "rule-move", some (2, 2), cmdRuleMove⟩,
    ⟨cstr "rule-remove", some (1, 1), cmdRuleRemove⟩,
    ⟨cstr "server-connect", none, cmdServerConnect⟩,
    ⟨cstr "server-disconnect", some (0, 1), cmdServerDisconnect⟩,
    ⟨cstr "server-info", some (1, 1), cmdServerInfo⟩,
    ⟨cstr "server-join", some (2, 3), cmdServerJoin⟩,
    ⟨cstr "server-list", some (0, 0), cmdServerList⟩,
    ⟨cstr "server-me", some (3, 3), cmdServerMe⟩,
    ⟨cstr "server-message", some (3, 3), cmdServerMessage⟩,
    ⟨cstr "server-mode", some (3, 4), cmdServerMode⟩,
    ⟨cstr "server-nick", some (2, 2), cmdServerNick⟩,
    ⟨cstr "server-notice", some (3, 3), cmdServerNotice⟩,
    ⟨cstr "server-part", some (2, 3), cmdServerPart⟩,
    ⟨cstr "server-reconnect", some (0, 1), cmdServerReconnect⟩,
    ⟨cstr "server-topic", some (3, 3), cmdServerTopic⟩,
    ⟨cstr "watch", some (0, 0), cmdWatch⟩]

/-- The number of arguments is within the bounds. -/
def Cmd.Accepts (c : Cmd) (n : ℕ) : Prop := ∀ b ∈ c.bounds, b.1 ≤ n ∧ n ≤ b.2

instance (c : Cmd) (n : ℕ) : Decidable (c.Accepts n) :=
  inferInstanceAs (Decidable (∀ b ∈ c.bounds, b.1 ≤ n ∧ n ≤ b.2))

/-- `run`: the line that is sent, unless the client aborts. -/
def run (name : CStr) (args : List CStr) : Option CStr :=
  match cmds.find? (·.name == name) with
  | some c => if c.Accepts args.length then c.exec (name :: args) else none
  | none => none

end Ctl

/-! ## Words -/

/-- How many words the handlers of the daemon ask `parse` for. -/
def wordLimits : List (CStr × ℕ) :=
  [(cstr "HOOK-ADD", 2), (cstr "HOOK-REMOVE", 1), (cstr "PLUGIN-CONFIG", 3),
    (cstr "PLUGIN-INFO", 1), (cstr "PLUGIN-LOAD", 1), (cstr "PLUGIN-PATH", 3),
    (cstr "PLUGIN-RELOAD", 1), (cstr "PLUGIN-TEMPLATE", 3), (cstr "PLUGIN-UNLOAD", 1),
    (cstr "RULE-MOVE", 2), (cstr "RULE-REMOVE", 1), (cstr "SERVER-CONNECT", 6),
    (cstr "SERVER-DISCONNECT", 1), (cstr "SERVER-INFO", 1), (cstr "SERVER-INVITE", 3),
    (cstr "SERVER-JOIN", 3), (cstr "SERVER-KICK", 4), (cstr "SERVER-ME", 3),
    (cstr "SERVER-MESSAGE", 3), (cstr "SERVER-MODE", 4), (cstr "SERVER-NOTICE", 3),
    (cstr "SERVER-PART", 3), (cstr "SERVER-RECONNECT", 1), (cstr "SERVER-TOPIC", 3)]

/-- The word and the tokens of a handler that cuts its line itself. -/
def ruleWords (skip : ℕ) (line : CStr) : List CStr :=
  (line.drop skip).takeWhile (!isspace ·) :: tokens SP (Daemon.skipWord (line.drop skip))

/-- The words that the handler of a command reads, in the order of their positions. -/
def handlerWords (command line : CStr) : List CStr :=
  if command = cstr "RULE-ADD" then ruleWords 9 line
  else if command = cstr "RULE-EDIT" then ruleWords 10 line
  else parse line ((wordLimits.lookup command).getD 0)

namespace Ctl

/-! ## Delivery -/

/-- The words that the arguments of a sub-command stand for. They are the arguments themselves,
unless there are options, which have to be right and to come with the operands of the synopsis. -/
def meant (name : CStr) (args : List CStr) : Option (List CStr) :=
  if name = cstr "rule-add" then
    match getopt (cstr "c:e:i:o:p:s:") args with
    | (options, [action]) =>
      if (badOption, none) ∈ options then none else some (action :: options.map ruleAddText)
    | _ => none
  else if name = cstr "rule-edit" then
    match getopt (cstr "a:C:c:E:e:O:o:P:p:S:s:") args with
    | (options, [index]) =>
      if (badOption, none) ∈ options then none else some (index :: options.map ruleEditText)
    | _ => none
  else if name = cstr "server-connect" then
    match getopt (cstr "sn:r:u:p:") args with
    | (options, [id, host]) =>
      if (badOption, none) ∈ options then none else some (connectWords options id host)
    | _ => none
  else some args

/-- The line of a sub-command selects the handler of that name, which reads what is meant. -/
def Delivers (name : CStr) (args : List CStr) (line : CStr) : Prop :=
  ∃ call, Daemon.find line = some (name.map toupper, call) ∧
    meant name args = some (handlerWords (name.map toupper) line)

/-- The arguments that a user may give: none is empty, and only the one in the last place of a
sub-command with bounds may have blanks, but for a newline. -/
structure ValidArgs (c : Cmd) (args : List CStr) : Prop where
  ne_nil : [] ∉ args
  plain : ∀ i w, args[i]? = some w → (∃ min, c.bounds = some (min, i + 1)) ∨
    ∀ b ∈ w, isspace b = false
  line : ∀ w ∈ args, LF ∉ w

/-- When a sub-command delivers its arguments. -/
structure DeliverCond (name : CStr) (args : List CStr) : Prop where
  /-- The action is sent twice. -/
  ruleAdd : name ≠ cstr "rule-add"
  /-- The daemon has no such command. -/
  serverNick : name ≠ cstr "server-nick"
  /-- The name of the sub-command is sent in place of the server. -/
  serverInfo : name = cstr "server-info" → args = [cstr "server-info"]
  /-- The first argument is sent even when there is none. -/
  pluginPath : name = cstr "plugin-path" → args ≠ []
  /-- A reason is always sent. -/
  serverPart : name = cstr "server-part" → args.length = 3
  /-- The numbers are printed again. -/
  ruleMove : name = cstr "rule-move" →
    ∀ w ∈ args, ∃ n, ircUtilStoi w = .ok n ∧ w = decimalInt n
  /-- A bad option, and the operands after the first one, are not refused. -/
  ruleEdit : name = cstr "rule-edit" →
    (badOption, none) ∉ (getopt (cstr "a:C:c:E:e:O:o:P:p:S:s:") args).1 ∧
      (getopt (cstr "a:C:c:E:e:O:o:P:p:S:s:") args).2.length = 1
  /-- A bad option, and the operands after the second one, are not refused. -/
  serverConnect : name = cstr "server-connect" →
    (badOption, none) ∉ (getopt (cstr "sn:r:u:p:") args).1 ∧
      (getopt (cstr "sn:r:u:p:") args).2.length = 2

/-! ## Lines of the daemon's commands -/

section Lines

variable {command name line : CStr} {words args : List CStr} {max : ℕ}

/-- Each command of the daemon is a word that `find` can recognise. -/
theorem daemon_cmds_words : ∀ command ∈ Daemon.cmds.map Prod.fst,
    (∀ b ∈ command, isspace b = false) ∧ command ≠ [] ∧ command.length ≤ 31 := by
  decide +kernel

theorem firstWord_of_word (hcommand : ∀ b ∈ command, isspace b = false)
    (hlen : command.length ≤ 31) : firstWord command = command := by
  have hdrop : command.dropWhile isspace = command := by
    cases command with
    | nil => rfl
    | cons b command => simp [hcommand b]
  have htake : command.takeWhile (!isspace ·) = command :=
    List.takeWhile_eq_self_iff.2 fun b hb => by simp [hcommand b hb]
  rw [firstWord, hdrop, htake, List.take_of_length_le hlen]

/-- A command of the daemon is found. -/
theorem find_controlLine (hcommand : command ∈ Daemon.cmds.map Prod.fst) (words : List CStr) :
    ∃ call, Daemon.find (controlLine command words) = some (command, call) := by
  obtain ⟨hspace, hne, hlen⟩ := daemon_cmds_words command hcommand
  obtain ⟨⟨_, call⟩, hentry, rfl⟩ := List.mem_map.1 hcommand
  refine ⟨call, Daemon.find_eq_some hentry ?_⟩
  cases words with
  | nil =>
    rw [controlLine, spaced, List.flatMap_nil, List.append_nil]
    exact firstWord_of_word hspace hlen
  | cons w words => exact firstWord_controlLine hspace hne hlen

/-- The words of a line, which may be none. -/
theorem parse_controlLine_of_ne (hcommand : ∀ b ∈ command, isspace b = false)
    (hexp : Expressible max words) (hne : [] ∉ words) :
    parse (controlLine command words) max = words := by
  match words with
  | [] =>
    have hdrop : command.dropWhile (!isspace ·) = [] :=
      List.dropWhile_eq_nil_iff.2 fun b hb => by simp [hcommand b hb]
    simp [parse, controlLine, spaced, hdrop]
  | [w] =>
    have hdrop : (controlLine command [w]).dropWhile (!isspace ·) = SP :: w := by
      rw [controlLine, List.dropWhile_append_of_pos fun b hb => by simp [hcommand b hb]]
      simp [spaced, isspace]
    have hw : w ≠ [] := fun hnil => hne (by simp [hnil])
    have hspaced := parseWords_spaced hexp
    rw [spaced, List.flatMap_nil, List.append_nil] at hspaced
    rw [parse, hdrop, List.drop_one, List.tail_cons, if_neg hw, hspaced]
  | w :: v :: words => exact parse_controlLine hcommand hexp

/-- The handlers that call `parse`. -/
theorem handlerWords_of_ne (hadd : command ≠ cstr "RULE-ADD") (hedit : command ≠ cstr "RULE-EDIT")
    (line : CStr) :
    handlerWords command line = parse line ((wordLimits.lookup command).getD 0) := by
  rw [handlerWords, if_neg hadd, if_neg hedit]

/-- A line of words for a handler that calls `parse` delivers these words. -/
theorem delivers_controlLine_iff (hupper : name.map toupper = command)
    (hmem : command ∈ Daemon.cmds.map Prod.fst) (hadd : command ≠ cstr "RULE-ADD")
    (hedit : command ≠ cstr "RULE-EDIT") (hlimit : (wordLimits.lookup command).getD 0 = max)
    (hexp : Expressible max words) (hne : [] ∉ words) :
    Delivers name args (controlLine command words) ↔ meant name args = some words := by
  obtain ⟨call, hfind⟩ := find_controlLine hmem words
  have hwords : handlerWords command (controlLine command words) = words := by
    rw [handlerWords_of_ne hadd hedit, hlimit]
    exact parse_controlLine_of_ne (daemon_cmds_words command hmem).1 hexp hne
  unfold Delivers
  rw [hupper, hfind, hwords]
  simp

/-- A text that `req` sends is the line. -/
theorem eq_of_req {text : CStr} (h : req text = some line) : text.length ≤ 510 ∧ text = line := by
  unfold req at h
  split at h
  · exact ⟨by omega, Option.some.inj h⟩
  · cases h

/-- A buffer that is cut makes a line that is not sent. -/
theorem memText_of_req {before out : CStr} (hbefore : before ≠ [])
    (h : req (before ++ Daemon.memText 511 out) = some line) : before ++ out = line := by
  obtain ⟨hlen, rfl⟩ := eq_of_req h
  have hpos := List.length_pos_iff.2 hbefore
  rw [List.length_append, Daemon.memText, List.length_take] at hlen
  rw [Daemon.memText, List.take_of_length_le (by omega)]

/-- The words of `argv` after the name. -/
theorem reqArgs_cons {command : String} {n : ℕ} (hlen : args.length = n) :
    reqArgs command (name :: args) n = req (controlLine (cstr command) args) := by
  have hwords : ((List.range n).map fun i => argText (name :: args) (i + 1)) = args := by
    apply List.ext_getElem
    · simp [hlen]
    · intro i h₁ h₂
      simp [argText, h₂]
  rw [reqArgs, hwords]

end Lines

/-! ## Sub-commands that send their arguments -/

/-- The sub-commands that do not send just their arguments, or may not. -/
def specialNames : List CStr :=
  ["plugin-path", "rule-add", "rule-edit", "rule-move", "server-connect", "server-info",
    "server-nick", "server-part"].map cstr

section Plain

variable {c : Cmd} {args : List CStr} {line : CStr} {min max : ℕ} {command : String}

/-- The other sub-commands deliver their arguments without a condition. -/
theorem DeliverCond.of_not_mem {name : CStr} (h : name ∉ specialNames) : DeliverCond name args := by
  constructor
  all_goals
    rintro rfl
    exact absurd (by decide) h

theorem meant_of_ne {name : CStr} (hadd : name ≠ cstr "rule-add") (hedit : name ≠ cstr "rule-edit")
    (hconnect : name ≠ cstr "server-connect") : meant name args = some args := by
  rw [meant, if_neg hadd, if_neg hedit, if_neg hconnect]

theorem ValidArgs.expressible (h : ValidArgs c args) (hbounds : c.bounds = some (min, max))
    (haccepts : c.Accepts args.length) : Expressible max args := by
  refine ⟨(haccepts (min, max) (by simp [hbounds])).2, fun i w hw hi hmem => ?_⟩
  rcases h.plain i w hw with ⟨k, hk⟩ | hplain
  · rw [hbounds, Option.some.injEq, Prod.mk.injEq] at hk
    omega
  · exact absurd (hplain SP hmem) (by decide)

/-- A sub-command, the command of the daemon that it is for, and how many words that has. -/
def Sends (name : CStr) (command : String) (max : ℕ) : Prop :=
  name.map toupper = cstr command ∧ cstr command ∈ Daemon.cmds.map Prod.fst ∧
    cstr command ≠ cstr "RULE-ADD" ∧ cstr command ≠ cstr "RULE-EDIT" ∧
    (wordLimits.lookup (cstr command)).getD 0 = max

instance (name : CStr) (command : String) (max : ℕ) : Decidable (Sends name command max) :=
  inferInstanceAs (Decidable (_ ∧ _))

/-- A sub-command that sends some words means them or does not deliver. -/
theorem delivers_iff_of_sends {words : List CStr} (hsends : Sends c.name command max)
    (hmeant : meant c.name args = some args) (hexp : Expressible max words) (hne : [] ∉ words)
    (hline : req (controlLine (cstr command) words) = some line) :
    Delivers c.name args line ↔ args = words := by
  obtain ⟨hupper, hmem, hadd, hedit, hlimit⟩ := hsends
  obtain ⟨-, rfl⟩ := eq_of_req hline
  rw [delivers_controlLine_iff hupper hmem hadd hedit hlimit hexp hne, hmeant, Option.some.injEq]

/-- A sub-command that sends its arguments delivers them. -/
theorem delivers_args (hsends : Sends c.name command max)
    (hmeant : meant c.name args = some args) (hbounds : c.bounds = some (min, max))
    (haccepts : c.Accepts args.length) (hvalid : ValidArgs c args)
    (hline : req (controlLine (cstr command) args) = some line) : Delivers c.name args line :=
  (delivers_iff_of_sends hsends hmeant (hvalid.expressible hbounds haccepts) hvalid.ne_nil
    hline).2 rfl

/-- A sub-command that always sends its arguments. -/
theorem delivers_iff_of_plain (hsends : Sends c.name command max) (hname : c.name ∉ specialNames)
    (hbounds : c.bounds = some (min, max)) (haccepts : c.Accepts args.length)
    (hvalid : ValidArgs c args)
    (hline : req (controlLine (cstr command) args) = some line) :
    Delivers c.name args line ↔ DeliverCond c.name args := by
  have hmeant : meant c.name args = some args :=
    meant_of_ne (fun h => hname (by simp [h, specialNames]))
      (fun h => hname (by simp [h, specialNames])) fun h => hname (by simp [h, specialNames])
  exact iff_of_true (delivers_args hsends hmeant hbounds haccepts hvalid hline) (.of_not_mem hname)

end Plain

/-! ## Sub-commands with options -/

section Tokens

/-- Words with a space behind each of them are tokens. -/
theorem tokens_flatMap {words : List CStr} (hne : [] ∉ words) (hspace : ∀ w ∈ words, SP ∉ w)
    (rest : CStr) : tokens SP (words.flatMap (· ++ [SP]) ++ rest) = words ++ tokens SP rest := by
  induction words with
  | nil => rfl
  | cons w words ih =>
    obtain ⟨hw, hwords⟩ := List.forall_mem_cons.1 hspace
    rw [List.mem_cons, not_or] at hne
    have hcons : (w :: words).flatMap (· ++ [SP]) ++ rest =
        w ++ SP :: (words.flatMap (· ++ [SP]) ++ rest) := by simp
    rw [hcons, tokens_append_sep (Ne.symm hne.1) hw, ih hne.2 hwords, List.cons_append]

/-- The word and the tokens of a line that a handler cuts itself. -/
theorem ruleWords_eq {skip : ℕ} {before word rest : CStr} (hskip : before.length = skip)
    (hword : ∀ b ∈ word, isspace b = false) (hrest : ∀ b ∈ rest.head?, isspace b = false) :
    ruleWords skip (before ++ word ++ [SP] ++ rest) = word :: tokens SP rest := by
  have hdrop : (before ++ word ++ [SP] ++ rest).drop skip = word ++ SP :: rest := by
    rw [← hskip, List.append_assoc, List.append_assoc, List.drop_left]
    simp
  have hSP : isspace SP = true := by decide
  have hnot : ∀ b ∈ word, (!isspace b) = true := fun b hb => by simp [hword b hb]
  have hskipWord : Daemon.skipWord (word ++ SP :: rest) = rest := by
    rw [Daemon.skipWord, List.dropWhile_append_of_pos hnot]
    cases rest with
    | nil => simp [hSP]
    | cons b rest => simp [hSP, hrest b rfl]
  rw [ruleWords, hdrop, hskipWord, List.takeWhile_append_of_pos hnot]
  simp [hSP]

end Tokens

section Options

variable {opts line : CStr} {args : List CStr} {o : UInt8 × Option CStr}

/-- No argument has a blank. -/
def Blankless (args : List CStr) : Prop := ∀ w ∈ args, ∀ b ∈ w, isspace b = false

theorem ValidArgs.blankless {c : Cmd} (h : ValidArgs c args) (hbounds : c.bounds = none) :
    Blankless args := by
  intro w hw
  obtain ⟨i, hi⟩ := List.getElem?_of_mem hw
  rcases h.plain i w hi with ⟨min, hmin⟩ | hplain
  · rw [hbounds] at hmin
    cases hmin
  · exact hplain

/-- What is printed for the argument of an option has no blank. -/
theorem not_isspace_optarg (hargs : Blankless args) (hne : [] ∉ args)
    (ho : o ∈ (getopt opts args).1) : ∀ b ∈ optarg o, isspace b = false := by
  cases hv : o.2 with
  | none =>
    rw [optarg, hv]
    exact not_isspace_of_all (by decide)
  | some v =>
    obtain ⟨-, w, hw, hend⟩ := exists_of_optarg hne ho hv
    rw [optarg, hv]
    exact fun b hb => hargs w hw b (hend.mem hb)

/-- The letter of an option is one of those given to `getopt`, or a question mark. -/
theorem letter_of_mem_getopt (ho : o ∈ (getopt opts args).1) : o.1 = badOption ∨ o.1 ∈ opts := by
  rcases option_of_mem_getopt ho with rfl | htakes
  · exact .inl rfl
  · exact .inr (mem_of_takesArg htakes)

/-- The texts of the options are tokens. -/
theorem texts_plain {text : UInt8 × Option CStr → CStr}
    (htext : ∀ o, ∃ a b, text o = a :: b ++ optarg o ∧
      (o.1 = badOption ∨ o.1 ∈ opts → ∀ c ∈ a :: b, isspace c = false))
    (hargs : Blankless args) (hne : [] ∉ args) :
    ∀ w ∈ (getopt opts args).1.map text, w ≠ [] ∧ ∀ b ∈ w, isspace b = false := by
  intro w hw
  obtain ⟨o, ho, rfl⟩ := List.mem_map.1 hw
  obtain ⟨a, b, heq, hplain⟩ := htext o
  rw [heq]
  refine ⟨by simp, fun c hc => ?_⟩
  rcases List.mem_append.1 hc with hc | hc
  · exact hplain (letter_of_mem_getopt ho) c hc
  · exact not_isspace_optarg hargs hne ho c hc

theorem ruleAddText_plain : ∀ o, ∃ a b, ruleAddText o = a :: b ++ optarg o ∧
    (o.1 = badOption ∨ o.1 ∈ cstr "c:e:i:o:p:s:" → ∀ c ∈ a :: b, isspace c = false) := by
  intro o
  refine ⟨o.1, cstr "=", rfl, fun hletter => ?_⟩
  have hall : ∀ ch ∈ badOption :: cstr "c:e:i:o:p:s:", isspace ch = false :=
    not_isspace_of_all (by decide)
  exact List.forall_mem_cons.2 ⟨hall o.1 (List.mem_cons.2 hletter), not_isspace_of_all (by decide)⟩

theorem ruleEditText_plain : ∀ o, ∃ a b, ruleEditText o = a :: b ++ optarg o ∧
    (o.1 = badOption ∨ o.1 ∈ cstr "a:C:c:E:e:O:o:P:p:S:s:" →
      ∀ c ∈ a :: b, isspace c = false) := by
  intro o
  by_cases hset : o.1 = 97
  · refine ⟨97, [61], ?_, fun _ => not_isspace_of_all (by decide)⟩
    rw [ruleEditText, if_pos hset]
    rfl
  · refine ⟨tolower o.1, if isupper o.1 then cstr "-" else cstr "+", ?_, fun hletter => ?_⟩
    · rw [ruleEditText, if_neg hset]
    · have hall : ∀ ch ∈ (badOption :: cstr "a:C:c:E:e:O:o:P:p:S:s:").map tolower,
          isspace ch = false := not_isspace_of_all (by decide)
      refine List.forall_mem_cons.2
        ⟨hall _ (List.mem_map_of_mem (List.mem_cons.2 hletter)), ?_⟩
      split <;> exact not_isspace_of_all (by decide)

/-- The tokens of the options, and of what follows them. -/
theorem tokens_texts {words : List CStr} (h : ∀ w ∈ words, w ≠ [] ∧ ∀ b ∈ w, isspace b = false)
    (rest : CStr) : tokens SP (words.flatMap (· ++ [SP]) ++ rest) = words ++ tokens SP rest := by
  refine tokens_flatMap (fun hnil => (h [] hnil).1 rfl) (fun w hw hmem => ?_) rest
  exact absurd ((h w hw).2 SP hmem) (by decide)

/-- The options start with a byte that is not a blank. -/
theorem head_texts {words : List CStr} (h : ∀ w ∈ words, w ≠ [] ∧ ∀ b ∈ w, isspace b = false)
    {rest : CStr} (hrest : ∀ b ∈ rest.head?, isspace b = false) :
    ∀ b ∈ (words.flatMap (· ++ [SP]) ++ rest).head?, isspace b = false := by
  cases words with
  | nil => exact hrest
  | cons w words =>
    obtain ⟨hne, hw⟩ := h w (by simp)
    obtain ⟨c, w, rfl⟩ := List.exists_cons_of_ne_nil hne
    simpa using hw c (by simp)

end Options

/-! ## Each sub-command -/

section Each

variable {args : List CStr} {line : CStr}

/-- `rule-add` never delivers: the handler reads the action once more, as a token. -/
theorem not_delivers_ruleAdd (hargs : Blankless args) (hne : [] ∉ args)
    (hline : cmdRuleAdd (cstr "rule-add" :: args) = some line) :
    ¬ Delivers (cstr "rule-add") args line := by
  rintro ⟨call, -, hmeant⟩
  have hupper : (cstr "rule-add").map toupper = cstr "RULE-ADD" := by decide
  rw [hupper, handlerWords, if_pos rfl] at hmeant
  rw [meant, if_pos rfl] at hmeant
  unfold cmdRuleAdd at hline
  rw [List.tail_cons] at hline
  cases hget : getopt (cstr "c:e:i:o:p:s:") args with
  | mk options operands =>
    rw [hget] at hmeant hline
    match operands with
    | [] => cases hmeant
    | [action] =>
      dsimp only at hmeant hline
      split at hmeant
      · cases hmeant
      · have hbefore : cstr "RULE-ADD " ++ action ++ [SP] ≠ [] := by simp
        have hsent := memText_of_req hbefore hline
        have hmem : action ∈ args := mem_of_mem_operands (by rw [hget]; simp)
        have hplain := hargs action hmem
        have hactionne : action ≠ [] := fun h => hne (h ▸ hmem)
        have htexts := texts_plain ruleAddText_plain hargs hne
        rw [hget] at htexts
        have hhead : ∀ b ∈ action.head?, isspace b = false := fun b hb =>
          hplain b (List.mem_of_mem_head? hb)
        have hSP : SP ∉ action := fun h => absurd (hplain SP h) (by decide)
        have hflat : options.flatMap (ruleAddText · ++ [SP]) =
            (options.map ruleAddText).flatMap (· ++ [SP]) := by rw [List.flatMap_map]
        rw [hflat] at hsent
        rw [← hsent, ruleWords_eq (by decide) hplain (head_texts htexts hhead),
          tokens_texts htexts, tokens_singleton hactionne hSP] at hmeant
        -- there is a token too many
        have hlen := congrArg List.length (Option.some.inj hmeant)
        simp at hlen
    | _ :: _ :: _ => cases hmeant

/-- `rule-edit` delivers if and only if there is no bad option and one operand. -/
theorem delivers_ruleEdit_iff (hargs : Blankless args) (hne : [] ∉ args)
    (hline : cmdRuleEdit (cstr "rule-edit" :: args) = some line) :
    Delivers (cstr "rule-edit") args line ↔
      (badOption, none) ∉ (getopt (cstr "a:C:c:E:e:O:o:P:p:S:s:") args).1 ∧
        (getopt (cstr "a:C:c:E:e:O:o:P:p:S:s:") args).2.length = 1 := by
  have hupper : (cstr "rule-edit").map toupper = cstr "RULE-EDIT" := by decide
  have hnotadd : cstr "rule-edit" ≠ cstr "rule-add" := by decide
  have hNotAdd : cstr "RULE-EDIT" ≠ cstr "RULE-ADD" := by decide
  unfold Delivers
  rw [hupper, handlerWords, if_neg hNotAdd, if_pos rfl, meant, if_neg hnotadd, if_pos rfl]
  unfold cmdRuleEdit at hline
  rw [List.tail_cons] at hline
  -- what is sent is the index and one token for each option
  cases hget : getopt (cstr "a:C:c:E:e:O:o:P:p:S:s:") args with
  | mk options operands =>
    rw [hget] at hline
    match operands with
    | [] => cases hline
    | index :: more =>
      dsimp only at hline
      have hbefore : cstr "RULE-EDIT " ++ index ++ [SP] ≠ [] := by simp
      have hsent := memText_of_req hbefore hline
      have hmem : index ∈ args := mem_of_mem_operands (by rw [hget]; simp)
      have htexts := texts_plain ruleEditText_plain hargs hne
      rw [hget] at htexts
      have hflat : options.flatMap (ruleEditText · ++ [SP]) =
          (options.map ruleEditText).flatMap (· ++ [SP]) ++ [] := by
        rw [List.flatMap_map, List.append_nil]
      rw [hflat] at hsent
      have hwords : ruleWords 10 line = index :: options.map ruleEditText := by
        rw [← hsent, ruleWords_eq (by decide) (hargs index hmem) (head_texts htexts (by simp)),
          tokens_texts htexts, tokens_nil, List.append_nil]
      obtain ⟨call, hfind⟩ : ∃ call, Daemon.find line = some (cstr "RULE-EDIT", call) := by
        have hcontrol : line = controlLine (cstr "RULE-EDIT")
            [index, (options.map ruleEditText).flatMap (· ++ [SP])] := by
          have hspace : cstr "RULE-EDIT " = cstr "RULE-EDIT" ++ [SP] := by decide
          rw [← hsent, hspace]
          simp [controlLine, spaced]
        rw [hcontrol]
        exact find_controlLine (by decide) _
      rw [hfind, hwords]
      -- a second operand is dropped, and a bad option ends the request before it is sent
      cases more with
      | nil =>
        by_cases hbad : (badOption, none) ∈ options
        · simp [hbad]
        · simp [hbad]
      | cons w more => simp

/-- The variables of `cmd_server_connect` are words, but for the real name. -/
structure ConnectOptions.Words (v : ConnectOptions) : Prop where
  nickname : v.nickname ≠ [] ∧ SP ∉ v.nickname
  username : v.username ≠ [] ∧ SP ∉ v.username
  port : v.port ≠ [] ∧ SP ∉ v.port
  realname : v.realname ≠ []

/-- The options of `server-connect` leave words. -/
theorem ConnectOptions.Words.foldl {options : List (UInt8 × Option CStr)} {v : ConnectOptions}
    (hv : v.Words) (hoptions : ∀ o ∈ options, ∀ w, o.2 = some w → w ≠ [] ∧ SP ∉ w) :
    (options.foldl ConnectOptions.set v).Words := by
  induction options generalizing v with
  | nil => exact hv
  | cons o options ih =>
    obtain ⟨ho, hrest⟩ := List.forall_mem_cons.1 hoptions
    refine ih ?_ hrest
    unfold ConnectOptions.set
    split
    · exact ⟨hv.nickname, hv.username, hv.port, hv.realname⟩
    · exact ⟨ho _ rfl, hv.username, hv.port, hv.realname⟩
    · exact ⟨hv.nickname, hv.username, hv.port, (ho _ rfl).1⟩
    · exact ⟨hv.nickname, ho _ rfl, hv.port, hv.realname⟩
    · exact ⟨hv.nickname, hv.username, ho _ rfl, hv.realname⟩
    · exact hv

theorem expressible_connectWords {options : List (UInt8 × Option CStr)} {id host : CStr}
    (hargs : Blankless args) (hne : [] ∉ args) (hid : id ∈ args) (hhost : host ∈ args)
    (hoptions : options = (getopt (cstr "sn:r:u:p:") args).1) :
    Expressible 6 (connectWords options id host) ∧ [] ∉ connectWords options id host := by
  have hword : ∀ w ∈ args, w ≠ [] ∧ SP ∉ w := fun w hw =>
    ⟨fun h => hne (h ▸ hw), fun h => absurd (hargs w hw SP h) (by decide)⟩
  have hstart : ({} : ConnectOptions).Words := by constructor <;> decide
  have hwords : (options.foldl ConnectOptions.set {}).Words := by
    refine hstart.foldl fun o ho w hw => ?_
    rw [hoptions] at ho
    obtain ⟨hwne, u, hu, hend⟩ := exists_of_optarg hne ho hw
    exact ⟨hwne, fun h => (hword u hu).2 (hend.mem h)⟩
  have hport : SP ∉ (if (options.foldl ConnectOptions.set {}).ssl then cstr "+" else []) ++
      (options.foldl ConnectOptions.set {}).port := by
    have hplus : SP ∉ (if (options.foldl ConnectOptions.set {}).ssl then cstr "+" else []) := by
      split <;> decide
    exact fun h => (List.mem_append.1 h).elim hplus hwords.port.2
  simp only [connectWords, expressible_cons]
  refine ⟨⟨fun _ => (hword id hid).2, fun _ => (hword host hhost).2, fun _ => hport,
    fun _ => hwords.nickname.2, fun _ => hwords.username.2, fun h => absurd rfl h, ?_⟩, ?_⟩
  · simp [Expressible]
  · simp [Ne.symm (hword id hid).1, Ne.symm (hword host hhost).1, Ne.symm hwords.nickname.1,
      Ne.symm hwords.username.1, Ne.symm hwords.realname, hwords.port.1]

/-- `server-connect` delivers if and only if there is no bad option and two operands. -/
theorem delivers_serverConnect_iff (hargs : Blankless args) (hne : [] ∉ args)
    (hline : cmdServerConnect (cstr "server-connect" :: args) = some line) :
    Delivers (cstr "server-connect") args line ↔
      (badOption, none) ∉ (getopt (cstr "sn:r:u:p:") args).1 ∧
        (getopt (cstr "sn:r:u:p:") args).2.length = 2 := by
  have hnotadd : cstr "server-connect" ≠ cstr "rule-add" := by decide
  have hnotedit : cstr "server-connect" ≠ cstr "rule-edit" := by decide
  unfold cmdServerConnect at hline
  rw [List.tail_cons] at hline
  cases hget : getopt (cstr "sn:r:u:p:") args with
  | mk options operands =>
    rw [hget] at hline
    match operands with
    | [] => cases hline
    | [_] => cases hline
    | id :: host :: more =>
      -- the request has the first two operands, whatever follows them
      have hmem : ∀ w ∈ id :: host :: more, w ∈ args := fun w hw =>
        mem_of_mem_operands (by rw [hget]; exact hw)
      obtain ⟨hexp, hnil⟩ := @expressible_connectWords args options id host hargs hne
        (hmem id (by simp)) (hmem host (by simp)) (by rw [hget])
      obtain ⟨-, rfl⟩ := eq_of_req hline
      rw [delivers_controlLine_iff (by decide) (by decide) (by decide) (by decide) (by decide) hexp
        hnil, meant, if_neg hnotadd, if_neg hnotedit, if_pos rfl, hget]
      cases more with
      | nil =>
        by_cases hbad : (badOption, none) ∈ options
        · simp [hbad]
        · simp [hbad]
      | cons w more => simp

/-! ### Conditions -/

theorem deliverCond_ruleEdit_iff :
    DeliverCond (cstr "rule-edit") args ↔
      (badOption, none) ∉ (getopt (cstr "a:C:c:E:e:O:o:P:p:S:s:") args).1 ∧
        (getopt (cstr "a:C:c:E:e:O:o:P:p:S:s:") args).2.length = 1 := by
  refine ⟨fun h => h.ruleEdit rfl,
    fun h => ⟨by decide, by decide, ?_, ?_, ?_, ?_, fun _ => h, ?_⟩⟩
  all_goals exact fun heq => absurd heq (by decide)

theorem deliverCond_serverConnect_iff :
    DeliverCond (cstr "server-connect") args ↔
      (badOption, none) ∉ (getopt (cstr "sn:r:u:p:") args).1 ∧
        (getopt (cstr "sn:r:u:p:") args).2.length = 2 := by
  refine ⟨fun h => h.serverConnect rfl,
    fun h => ⟨by decide, by decide, ?_, ?_, ?_, ?_, ?_, fun _ => h⟩⟩
  all_goals exact fun heq => absurd heq (by decide)

theorem deliverCond_serverInfo_iff :
    DeliverCond (cstr "server-info") args ↔ args = [cstr "server-info"] := by
  refine ⟨fun h => h.serverInfo rfl,
    fun h => ⟨by decide, by decide, fun _ => h, ?_, ?_, ?_, ?_, ?_⟩⟩
  all_goals exact fun heq => absurd heq (by decide)

theorem deliverCond_pluginPath_iff : DeliverCond (cstr "plugin-path") args ↔ args ≠ [] := by
  refine ⟨fun h => h.pluginPath rfl,
    fun h => ⟨by decide, by decide, ?_, fun _ => h, ?_, ?_, ?_, ?_⟩⟩
  all_goals exact fun heq => absurd heq (by decide)

theorem deliverCond_serverPart_iff :
    DeliverCond (cstr "server-part") args ↔ args.length = 3 := by
  refine ⟨fun h => h.serverPart rfl,
    fun h => ⟨by decide, by decide, ?_, ?_, fun _ => h, ?_, ?_, ?_⟩⟩
  all_goals exact fun heq => absurd heq (by decide)

theorem deliverCond_ruleMove_iff :
    DeliverCond (cstr "rule-move") args ↔
      ∀ w ∈ args, ∃ n, ircUtilStoi w = .ok n ∧ w = decimalInt n := by
  refine ⟨fun h => h.ruleMove rfl,
    fun h => ⟨by decide, by decide, ?_, ?_, ?_, fun _ => h, ?_, ?_⟩⟩
  all_goals exact fun heq => absurd heq (by decide)

/-! ### Texts -/

theorem pluginListSet_cons {name : CStr} {cmd : String} (hne : args ≠ []) (hlen : args.length ≤ 3) :
    pluginListSet (name :: args) cmd = req (controlLine (cstr cmd) args) := by
  have hpos := List.length_pos_iff.2 hne
  unfold pluginListSet
  simp only [List.length_cons]
  split
  · exact reqArgs_cons (by omega)
  · split
    · exact reqArgs_cons (by omega)
    · exact reqArgs_cons (by omega)

theorem reqOptional_cons {name : CStr} {cmd : String} (hlen : args.length ≤ 1) :
    reqOptional (name :: args) cmd = req (controlLine (cstr cmd) args) := by
  unfold reqOptional
  simp only [List.length_cons]
  split
  · exact reqArgs_cons (by omega)
  · exact reqArgs_cons (by omega)

/-- A number is printed as a word. -/
theorem decimalInt_word (n : ℤ) : decimalInt n ≠ [] ∧ SP ∉ decimalInt n := by
  have hdecimal : SP ∉ decimal n.natAbs := fun h =>
    absurd (isdigit_of_mem_decimal h) (by decide)
  unfold decimalInt
  split
  · refine ⟨by simp, fun h => ?_⟩
    rcases List.mem_cons.1 h with h | h
    · exact absurd h (by decide)
    · exact hdecimal h
  · exact ⟨decimal_ne_nil, hdecimal⟩

end Each

section Table

variable {c : Cmd} {args : List CStr} {line : CStr} {n m : ℕ}

theorem length_of_accepts {name : CStr} {exec : List CStr → Option CStr}
    (h : Cmd.Accepts ⟨name, some (n, n), exec⟩ args.length) : args.length = n := by
  obtain ⟨hle, hge⟩ := h (n, n) rfl
  omega

theorem ne_nil_of_accepts {name : CStr} {exec : List CStr → Option CStr}
    (h : Cmd.Accepts ⟨name, some (n + 1, m), exec⟩ args.length) : args ≠ [] := by
  rintro rfl
  have hle := (h (n + 1, m) rfl).1
  simp at hle

/-! ### The sub-commands that are different -/

theorem pluginPath_iff (haccepts : Cmd.Accepts ⟨cstr "plugin-path", some (0, 3), cmdPluginPath⟩
    args.length) (hvalid : ValidArgs ⟨cstr "plugin-path", some (0, 3), cmdPluginPath⟩ args)
    (hline : cmdPluginPath (cstr "plugin-path" :: args) = some line) :
    Delivers (cstr "plugin-path") args line ↔ DeliverCond (cstr "plugin-path") args := by
  rw [deliverCond_pluginPath_iff]
  have hmeant := @meant_of_ne args (cstr "plugin-path") (by decide) (by decide) (by decide)
  by_cases hne : args = []
  · subst hne
    -- NULL is printed in place of the name
    have hnull : Expressible 3 [cstr "(null)"] :=
      expressible_cons.2 ⟨fun _ => by decide, by simp [Expressible]⟩
    have hiff := delivers_iff_of_sends (c := ⟨cstr "plugin-path", some (0, 3), cmdPluginPath⟩)
      (by decide : Sends (cstr "plugin-path") "PLUGIN-PATH" 3) hmeant hnull (by decide) hline
    rw [hiff]
    simp
  · have hsent := (pluginListSet_cons hne (haccepts _ rfl).2).symm.trans hline
    exact iff_of_true (delivers_args (c := ⟨cstr "plugin-path", some (0, 3), cmdPluginPath⟩)
      (by decide) hmeant rfl haccepts hvalid hsent) hne

theorem ruleMove_iff (haccepts : Cmd.Accepts ⟨cstr "rule-move", some (2, 2), cmdRuleMove⟩
    args.length) (hline : cmdRuleMove (cstr "rule-move" :: args) = some line) :
    Delivers (cstr "rule-move") args line ↔ DeliverCond (cstr "rule-move") args := by
  rw [deliverCond_ruleMove_iff]
  have hmeant := @meant_of_ne args (cstr "rule-move") (by decide) (by decide) (by decide)
  obtain ⟨a, b, rfl⟩ := List.length_eq_two.1 (length_of_accepts haccepts)
  unfold cmdRuleMove at hline
  dsimp only [argText, List.getElem?_cons_succ, List.getElem?_cons_zero, Option.getD_some] at hline
  split at hline
  · rename_i src dst hsrc hdst
    have htext : cstr "RULE-MOVE " ++ decimalInt src ++ [SP] ++ decimalInt dst =
        controlLine (cstr "RULE-MOVE") [decimalInt src, decimalInt dst] := by
      have hspace : cstr "RULE-MOVE " = cstr "RULE-MOVE" ++ [SP] := by decide
      simp [hspace, controlLine, spaced]
    have hexp : Expressible 2 [decimalInt src, decimalInt dst] :=
      expressible_cons.2 ⟨fun _ => (decimalInt_word src).2,
        expressible_cons.2 ⟨fun h => absurd rfl h, by simp [Expressible]⟩⟩
    have hnil : [] ∉ [decimalInt src, decimalInt dst] := by
      simp [Ne.symm (decimalInt_word src).1, Ne.symm (decimalInt_word dst).1]
    rw [htext] at hline
    rw [delivers_iff_of_sends (c := ⟨cstr "rule-move", some (2, 2), cmdRuleMove⟩)
      (by decide : Sends (cstr "rule-move") "RULE-MOVE" 2) hmeant hexp hnil hline]
    simp [hsrc, hdst]
  · cases hline

theorem serverInfo_iff (hline : cmdServerInfo (cstr "server-info" :: args) = some line) :
    Delivers (cstr "server-info") args line ↔ DeliverCond (cstr "server-info") args := by
  rw [deliverCond_serverInfo_iff]
  have hmeant := @meant_of_ne args (cstr "server-info") (by decide) (by decide) (by decide)
  have hexp : Expressible 1 [cstr "server-info"] :=
    expressible_cons.2 ⟨fun h => absurd rfl h, by simp [Expressible]⟩
  exact delivers_iff_of_sends (c := ⟨cstr "server-info", some (1, 1), cmdServerInfo⟩)
    (by decide : Sends (cstr "server-info") "SERVER-INFO" 1) hmeant hexp (by decide) hline

theorem serverJoin_iff (haccepts : Cmd.Accepts ⟨cstr "server-join", some (2, 3), cmdServerJoin⟩
    args.length) (hvalid : ValidArgs ⟨cstr "server-join", some (2, 3), cmdServerJoin⟩ args)
    (hline : cmdServerJoin (cstr "server-join" :: args) = some line) :
    Delivers (cstr "server-join") args line ↔ DeliverCond (cstr "server-join") args := by
  obtain ⟨hmin, hmax⟩ := haccepts _ rfl
  have hsent : req (controlLine (cstr "SERVER-JOIN") args) = some line := by
    rw [← hline]
    unfold cmdServerJoin
    simp only [List.length_cons]
    split
    · exact (reqArgs_cons (by omega)).symm
    · exact (reqArgs_cons (by omega)).symm
  exact delivers_iff_of_plain (c := ⟨cstr "server-join", some (2, 3), cmdServerJoin⟩) (by decide)
    (by decide) rfl haccepts hvalid hsent

theorem serverMode_iff (haccepts : Cmd.Accepts ⟨cstr "server-mode", some (3, 4), cmdServerMode⟩
    args.length) (hvalid : ValidArgs ⟨cstr "server-mode", some (3, 4), cmdServerMode⟩ args)
    (hline : cmdServerMode (cstr "server-mode" :: args) = some line) :
    Delivers (cstr "server-mode") args line ↔ DeliverCond (cstr "server-mode") args := by
  obtain ⟨hmin, hmax⟩ := haccepts _ rfl
  have hsent : req (controlLine (cstr "SERVER-MODE") args) = some line := by
    rw [← hline]
    unfold cmdServerMode
    simp only [List.length_cons]
    split
    · exact (reqArgs_cons (by omega)).symm
    · exact (reqArgs_cons (by omega)).symm
  exact delivers_iff_of_plain (c := ⟨cstr "server-mode", some (3, 4), cmdServerMode⟩) (by decide)
    (by decide) rfl haccepts hvalid hsent

/-- The daemon has no handler for `SERVER-NICK`. -/
theorem not_delivers_serverNick : ¬ Delivers (cstr "server-nick") args line := by
  rintro ⟨call, hfind, -⟩
  have hmem : (cstr "server-nick").map toupper ∈ Daemon.cmds.map Prod.fst :=
    List.mem_map_of_mem (List.mem_of_find?_eq_some hfind)
  revert hmem
  decide

theorem serverPart_iff (haccepts : Cmd.Accepts ⟨cstr "server-part", some (2, 3), cmdServerPart⟩
    args.length) (hvalid : ValidArgs ⟨cstr "server-part", some (2, 3), cmdServerPart⟩ args)
    (hline : cmdServerPart (cstr "server-part" :: args) = some line) :
    Delivers (cstr "server-part") args line ↔ DeliverCond (cstr "server-part") args := by
  rw [deliverCond_serverPart_iff]
  have hmeant := @meant_of_ne args (cstr "server-part") (by decide) (by decide) (by decide)
  have hexp := hvalid.expressible rfl haccepts
  obtain ⟨hmin, hmax⟩ := haccepts _ rfl
  match args with
  | [] => simp at hmin
  | [_] => simp at hmin
  | [a, b] =>
    -- the reason of the client is a third word
    have hwords : Expressible 3 [a, b, cstr "irccd is shutting down"] := by
      simp only [expressible_cons] at hexp ⊢
      exact ⟨hexp.1, hexp.2.1, fun h => absurd rfl h, by simp [Expressible]⟩
    have hnil : [] ∉ [a, b, cstr "irccd is shutting down"] := by
      have := hvalid.ne_nil
      simp only [List.mem_cons, List.not_mem_nil, or_false, not_or] at this ⊢
      exact ⟨this.1, this.2, by decide⟩
    rw [delivers_iff_of_sends (c := ⟨cstr "server-part", some (2, 3), cmdServerPart⟩)
      (by decide : Sends (cstr "server-part") "SERVER-PART" 3) hmeant hwords hnil hline]
    simp
  | [a, b, reason] =>
    exact iff_of_true (delivers_args (c := ⟨cstr "server-part", some (2, 3), cmdServerPart⟩)
      (by decide : Sends (cstr "server-part") "SERVER-PART" 3) hmeant rfl haccepts hvalid hline) rfl
  | _ :: _ :: _ :: _ :: _ =>
    simp only [List.length_cons] at hmax
    omega

/-- A sub-command of the table delivers its arguments if and only if its condition holds. -/
theorem forall_cmds_delivers_iff : ∀ c ∈ cmds,
    c.Accepts args.length → ValidArgs c args → c.exec (c.name :: args) = some line →
      (Delivers c.name args line ↔ DeliverCond c.name args) := by
  simp only [cmds, List.forall_mem_cons]
  -- in the order of the table: most sub-commands send their operands as they are
  refine ⟨
    fun haccepts hvalid hline => delivers_iff_of_plain (by decide) (by decide) rfl haccepts hvalid
      ((reqArgs_cons (length_of_accepts haccepts)).symm.trans hline),
    fun haccepts hvalid hline => delivers_iff_of_plain (by decide) (by decide) rfl haccepts hvalid
      ((reqArgs_cons (length_of_accepts haccepts)).symm.trans hline),
    fun haccepts hvalid hline => delivers_iff_of_plain (by decide) (by decide) rfl haccepts hvalid
      ((reqArgs_cons (length_of_accepts haccepts)).symm.trans hline),
    fun haccepts hvalid hline => delivers_iff_of_plain (by decide) (by decide) rfl haccepts hvalid
      ((pluginListSet_cons (ne_nil_of_accepts haccepts) (haccepts _ rfl).2).symm.trans hline),
    fun haccepts hvalid hline => delivers_iff_of_plain (by decide) (by decide) rfl haccepts hvalid
      ((reqArgs_cons (length_of_accepts haccepts)).symm.trans hline),
    fun haccepts hvalid hline => delivers_iff_of_plain (by decide) (by decide) rfl haccepts hvalid
      ((reqArgs_cons (length_of_accepts haccepts)).symm.trans hline),
    fun haccepts hvalid hline => delivers_iff_of_plain (by decide) (by decide) rfl haccepts hvalid
      ((reqArgs_cons (length_of_accepts haccepts)).symm.trans hline),
    fun haccepts hvalid hline => pluginPath_iff haccepts hvalid hline,
    fun haccepts hvalid hline => delivers_iff_of_plain (by decide) (by decide) rfl haccepts hvalid
      ((reqOptional_cons (haccepts _ rfl).2).symm.trans hline),
    fun haccepts hvalid hline => delivers_iff_of_plain (by decide) (by decide) rfl haccepts hvalid
      ((pluginListSet_cons (ne_nil_of_accepts haccepts) (haccepts _ rfl).2).symm.trans hline),
    fun haccepts hvalid hline => delivers_iff_of_plain (by decide) (by decide) rfl haccepts hvalid
      ((reqOptional_cons (haccepts _ rfl).2).symm.trans hline),
    fun _ hvalid hline => iff_of_false
      (not_delivers_ruleAdd (hvalid.blankless rfl) hvalid.ne_nil hline) fun h => h.ruleAdd rfl,
    fun _ hvalid hline =>
      (delivers_ruleEdit_iff (hvalid.blankless rfl) hvalid.ne_nil hline).trans
        deliverCond_ruleEdit_iff.symm,
    fun haccepts hvalid hline => delivers_iff_of_plain (by decide) (by decide) rfl haccepts hvalid
      ((reqArgs_cons (length_of_accepts haccepts)).symm.trans hline),
    fun haccepts hvalid hline => ruleMove_iff haccepts hline,
    fun haccepts hvalid hline => delivers_iff_of_plain (by decide) (by decide) rfl haccepts hvalid
      ((reqArgs_cons (length_of_accepts haccepts)).symm.trans hline),
    fun _ hvalid hline =>
      (delivers_serverConnect_iff (hvalid.blankless rfl) hvalid.ne_nil hline).trans
        deliverCond_serverConnect_iff.symm,
    fun haccepts hvalid hline => delivers_iff_of_plain (by decide) (by decide) rfl haccepts hvalid
      ((reqOptional_cons (haccepts _ rfl).2).symm.trans hline),
    fun haccepts hvalid hline => serverInfo_iff hline,
    fun haccepts hvalid hline => serverJoin_iff haccepts hvalid hline,
    fun haccepts hvalid hline => delivers_iff_of_plain (by decide) (by decide) rfl haccepts hvalid
      ((reqArgs_cons (length_of_accepts haccepts)).symm.trans hline),
    fun haccepts hvalid hline => delivers_iff_of_plain (by decide) (by decide) rfl haccepts hvalid
      ((reqArgs_cons (length_of_accepts haccepts)).symm.trans hline),
    fun haccepts hvalid hline => delivers_iff_of_plain (by decide) (by decide) rfl haccepts hvalid
      ((reqArgs_cons (length_of_accepts haccepts)).symm.trans hline),
    fun haccepts hvalid hline => serverMode_iff haccepts hvalid hline,
    fun _ _ _ => iff_of_false not_delivers_serverNick fun h => h.serverNick rfl,
    fun haccepts hvalid hline => delivers_iff_of_plain (by decide) (by decide) rfl haccepts hvalid
      ((reqArgs_cons (length_of_accepts haccepts)).symm.trans hline),
    fun haccepts hvalid hline => serverPart_iff haccepts hvalid hline,
    fun haccepts hvalid hline => delivers_iff_of_plain (by decide) (by decide) rfl haccepts hvalid
      ((reqOptional_cons (haccepts _ rfl).2).symm.trans hline),
    fun haccepts hvalid hline => delivers_iff_of_plain (by decide) (by decide) rfl haccepts hvalid
      ((reqArgs_cons (length_of_accepts haccepts)).symm.trans hline),
    fun haccepts hvalid hline => delivers_iff_of_plain (by decide) (by decide) rfl haccepts hvalid
      ((reqArgs_cons (length_of_accepts haccepts)).symm.trans hline),
    by simp⟩

/-- No two sub-commands have the same name. -/
theorem cmds_nodup : (cmds.map Cmd.name).Nodup := by decide +kernel

theorem run_eq_some (hc : c ∈ cmds) (h : run c.name args = some line) :
    c.Accepts args.length ∧ c.exec (c.name :: args) = some line := by
  unfold run at h
  rw [Daemon.find?_key_eq_some cmds_nodup hc] at h
  dsimp only at h
  split at h
  · rename_i haccepts
    exact ⟨haccepts, h⟩
  · cases h

/-- The handler of a sub-command reads the user's arguments if and only if the condition of the
sub-command holds. -/
theorem delivers_iff (hc : c ∈ cmds) (hvalid : ValidArgs c args)
    (hrun : run c.name args = some line) :
    Delivers c.name args line ↔ DeliverCond c.name args := by
  obtain ⟨haccepts, hline⟩ := run_eq_some hc hrun
  exact forall_cmds_delivers_iff c hc haccepts hvalid hline

/-- A message of two words. -/
theorem delivers_iff_message :
    Delivers (cstr "server-message") (["local", "#games", "hello all"].map cstr)
      (cstr "SERVER-MESSAGE local #games hello all") ↔
    DeliverCond (cstr "server-message") (["local", "#games", "hello all"].map cstr) := by
  refine @delivers_iff ⟨cstr "server-message", some (3, 3), cmdServerMessage⟩ _ _
    (List.mem_of_getElem? (i := 22) rfl) ⟨by decide, fun i w hw => ?_, by decide⟩ (by decide)
  match i with
  | 0 =>
    obtain rfl := Option.some.inj hw
    exact .inr (not_isspace_of_all (by decide))
  | 1 =>
    obtain rfl := Option.some.inj hw
    exact .inr (not_isspace_of_all (by decide))
  | 2 => exact .inl ⟨3, rfl⟩
  | _ + 3 => cases hw

/-- The request of `server-info` names the server after the sub-command. -/
theorem not_delivers_serverInfo :
    run (cstr "server-info") [cstr "local"] = some (cstr "SERVER-INFO server-info") ∧
      ¬ Delivers (cstr "server-info") [cstr "local"] (cstr "SERVER-INFO server-info") := by
  refine ⟨by decide, ?_⟩
  rintro ⟨call, -, hmeant⟩
  revert hmeant
  decide

end Table

end Ctl

end Irccd
