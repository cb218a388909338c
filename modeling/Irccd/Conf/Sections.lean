import Irccd.Conf.Parser

/-!
# The sections of the configuration file

What a configuration says, apart from how it is read: its sections, the tokens that they are
written with, and what they do to the configuration.

* `ServerDirective`, `Criteria`, `ConfSection`: the syntax;
* `ConfSection.tokens`: the tokens of a section, its topic first;
* `ConfSection.meaning`: the configuration behind a section, if its values are accepted.
-/

namespace Irccd

/-- A system without users, and a bot without plugins. -/
def bareEnv : ConfEnv := ⟨fun _ => none, fun _ => none, fun _ => false, fun _ _ => none⟩

/-! ## Tokens -/

/-- The token of a word. -/
def word (s : String) : Token CStr := .str (cstr s)

def tokBegin : Token CStr := ⟨.blkBegin, none⟩

def tokEnd : Token CStr := ⟨.blkEnd, none⟩

def tokComma : Token CStr := ⟨.comma, none⟩

def tokEof : Token CStr := ⟨.eof, none⟩

/-- Keys and values. -/
def pairTokens (pairs : List (CStr × CStr)) : List (Token CStr) :=
  pairs.flatMap fun v => [.str v.1, .str v.2]

section Tokens

variable (s : CStr)

@[simp] theorem Token.type_str : (Token.str s).type = .string := rfl

@[simp] theorem Token.data_str : (Token.str s).data = some s := rfl

@[simp] theorem Token.string_str : (Token.str s).string = s := rfl

@[simp] theorem type_word (s : String) : (word s).type = .string := rfl

@[simp] theorem data_word (s : String) : (word s).data = some (cstr s) := rfl

@[simp] theorem type_tokBegin : tokBegin.type = .blkBegin := rfl

@[simp] theorem type_tokEnd : tokEnd.type = .blkEnd := rfl

@[simp] theorem type_tokComma : tokComma.type = .comma := rfl

@[simp] theorem type_tokEof : tokEof.type = .eof := rfl

@[simp] theorem pairTokens_nil : pairTokens [] = [] := rfl

@[simp] theorem pairTokens_cons (v : CStr × CStr) (pairs : List (CStr × CStr)) :
    pairTokens (v :: pairs) = .str v.1 :: .str v.2 :: pairTokens pairs := rfl

end Tokens

/-! ## Servers -/

/-- The names of the directives of a server. -/
def directiveNames : List CStr :=
  ["hostname", "port", "prefix", "ident", "password", "join", "ctcp", "ssl", "options"].map cstr

/-- A directive of a server. The options of a server are written with a block, or as the parser
reads them, without its beginning. -/
inductive ServerDirective
  | hostname (value : CStr)
  | port (value : CStr)
  | pfx (value : CStr)
  | ident (nickname username realname : CStr)
  | password (value : CStr)
  | join (channel : CStr) (ne : channel ≠ cstr "with")
  | joinWith (channel key : CStr)
  | ctcp (pairs : List (CStr × CStr))
  | ssl
  | options (names : List CStr)
  | optionsBlock (names : List CStr)
  | other (name : CStr) (notMem : name ∉ directiveNames)

namespace ServerDirective

/-- The name of a directive. -/
def name : ServerDirective → CStr
  | hostname _ => cstr "hostname"
  | port _ => cstr "port"
  | pfx _ => cstr "prefix"
  | ident _ _ _ => cstr "ident"
  | password _ => cstr "password"
  | join _ _ => cstr "join"
  | joinWith _ _ => cstr "join"
  | ctcp _ => cstr "ctcp"
  | ssl => cstr "ssl"
  | options _ => cstr "options"
  | optionsBlock _ => cstr "options"
  | other name _ => name

/-- The tokens behind the name. -/
def args : ServerDirective → List (Token CStr)
  | hostname value => [.str value]
  | port value => [.str value]
  | pfx value => [.str value]
  | ident nickname username realname => [.str nickname, .str username, .str realname]
  | password value => [.str value]
  | join channel _ => [.str channel]
  | joinWith channel key => [word "with", word "password", .str channel, .str key]
  | ctcp pairs => tokBegin :: (pairTokens pairs ++ [tokEnd])
  | ssl => []
  | options names => names.map .str ++ [tokEnd]
  | optionsBlock names => tokBegin :: (names.map .str ++ [tokEnd])
  | other _ _ => []

/-- The tokens of a directive. -/
def tokens (d : ServerDirective) : List (Token CStr) := .str d.name :: d.args

/-- What a directive does to a server. -/
def meaning (server : ConfServer) : ServerDirective → Option ConfServer
  | hostname value => some { server with hostname := some value }
  | port value =>
    match ircUtilStoi value with
    | .ok n => if PortAccepted n then some { server with port := BitVec.ofInt 32 n } else none
    | .error _ => none
  | pfx value => some { server with pfx := value }
  | ident nickname username realname =>
    some { server with
      nickname := some nickname, username := some username, realname := some realname }
  | password value => some { server with password := some value }
  | join channel _ => some (server.join channel none)
  | joinWith channel key => some (server.join channel (some key))
  | ctcp pairs => some (pairs.foldl (fun server v => server.setCtcp v.1 v.2) server)
  | ssl => some { server with flags := { server.flags with ssl := true } }
  | options names =>
    (names.foldlM serverOption server.flags).map fun flags => { server with flags }
  | optionsBlock _ => none
  | other _ _ => some server

end ServerDirective

/-- The server that the directives describe. -/
def serverMeaning (name : CStr) (ds : List ServerDirective) : Option ConfServer :=
  ds.foldlM ServerDirective.meaning { name }

/-! ## Rules -/

/-- A criterion of a rule. The last of its values may have a comma behind it. -/
structure Criteria where
  name : CStr
  values : List CStr
  comma : Bool

namespace Criteria

/-- Values, with commas between them. -/
def valueTokens (comma : Bool) : List CStr → List (Token CStr)
  | [] => []
  | [v] => if comma then [.str v, tokComma] else [.str v]
  | v :: vs => .str v :: tokComma :: valueTokens comma vs

/-- The tokens of a criterion. -/
def tokens (c : Criteria) : List (Token CStr) :=
  .str c.name :: tokBegin :: (valueTokens c.comma c.values ++ [tokEnd])

/-- What a criterion does to a rule. -/
def meaning (rule : IrcRule) (c : Criteria) : Option IrcRule :=
  (ruleAdder c.name).map fun adder => c.values.foldl adder rule

end Criteria

/-! ## Plugins -/

/-- A directive of a plugin: its name, and keys with values. -/
structure PluginDirective where
  name : CStr
  pairs : List (CStr × CStr)

namespace PluginDirective

/-- The tokens of a directive. -/
def tokens (d : PluginDirective) : List (Token CStr) :=
  .str d.name :: tokBegin :: (pairTokens d.pairs ++ [tokEnd])

/-- What a directive does to a plugin. -/
def meaning (plg : Plugin) (d : PluginDirective) : Option Plugin :=
  (pluginSetter d.name).map fun kind => d.pairs.foldl (fun plg v => plg.set kind v.1 v.2) plg

end PluginDirective

/-- The plugin of a section. -/
def pluginMeaning (env : ConfEnv) (conf : Conf) (name : CStr) (location : Option CStr)
    (ds : List PluginDirective) : Option Plugin :=
  if conf.plugins.any (·.name == name) ∨ env.loaded name then none
  else (env.search name location).bind fun plg => ds.foldlM PluginDirective.meaning plg

/-! ## Sections -/

/-- Where the logs go. -/
inductive Sink
  | console
  | syslog
  | file (path : CStr)

/-- The topics. -/
def topics : List CStr :=
  ["logs", "log", "transport", "hook", "server", "rule", "plugin"].map cstr

/-- A section of the configuration file. -/
inductive ConfSection
  | log (plural : Bool) (verbose : Option Bool) (template : Option CStr) (sink : Sink)
  | transport (owner : Option (CStr × CStr)) (path : CStr)
  | hook (name path : CStr)
  | server (name : CStr) (ds : List ServerDirective)
  | rule (action : IrcRuleAction) (block : Option (List Criteria))
  | plugin (name : CStr) (location : Option CStr) (block : Option (List PluginDirective))
  | other (topic : CStr) (notMem : topic ∉ topics)

/-- The tokens of `verbose|quiet`. -/
def levelTokens : Option Bool → List (Token CStr)
  | none => []
  | some true => [word "verbose"]
  | some false => [word "quiet"]

/-- The tokens of `template fmt`. -/
def templateTokens : Option CStr → List (Token CStr)
  | none => []
  | some fmt => [word "template", .str fmt]

/-- The tokens of `with uid value gid value`. -/
def ownerTokens : Option (CStr × CStr) → List (Token CStr)
  | none => []
  | some (uid, gid) => [word "with", word "uid", .str uid, word "gid", .str gid]

/-- The tokens of `to path`. -/
def locationTokens : Option CStr → List (Token CStr)
  | none => []
  | some path => [word "to", .str path]

/-- The token of an action. -/
def actionToken : IrcRuleAction → Token CStr
  | .accept => word "accept"
  | .drop => word "drop"

namespace Sink

def tokens : Sink → List (Token CStr)
  | console => [word "console"]
  | syslog => [word "syslog"]
  | file path => [word "file", .str path]

def meaning (conf : Conf) : Sink → Conf
  | console => { conf with logType := .console }
  | syslog => { conf with logType := .syslog }
  | file path => { conf with logType := .file, logFile := some path }

end Sink

/-- The level of the logs. -/
def levelMeaning (conf : Conf) : Option Bool → Conf
  | none => conf
  | some true => { conf with logLevel := 1 }
  | some false => { conf with logLevel := 0 }

/-- The template of the logs. -/
def templateMeaning (conf : Conf) : Option CStr → Conf
  | none => conf
  | some fmt => { conf with logTemplate := some fmt }

/-- The number of a user or a group, from its digits or its name. -/
def resolve (lookup : CStr → Option ℤ) (value : CStr) : Option ℤ :=
  match ircUtilStoi value with
  | .ok n => some n
  | .error _ => lookup value

/-- The owner of the transport. -/
def ownerMeaning (env : ConfEnv) (conf : Conf) : Option (CStr × CStr) → Option Conf
  | none => some { conf with tptUid := -1, tptGid := -1 }
  | some (uid, gid) =>
    (resolve env.getpwnam uid).bind fun tptUid =>
      (resolve env.getgrnam gid).map fun tptGid => { conf with tptUid, tptGid }

namespace ConfSection

/-- The topic of a section. -/
def topic : ConfSection → CStr
  | log plural _ _ _ => if plural then cstr "logs" else cstr "log"
  | transport _ _ => cstr "transport"
  | hook _ _ => cstr "hook"
  | server _ _ => cstr "server"
  | rule _ _ => cstr "rule"
  | plugin _ _ _ => cstr "plugin"
  | other topic _ => topic

/-- The tokens behind the topic. -/
def args : ConfSection → List (Token CStr)
  | log _ verbose template sink =>
    levelTokens verbose ++ templateTokens template ++ word "to" :: sink.tokens
  | transport owner path => ownerTokens owner ++ [word "to", .str path]
  | hook name path => [.str name, word "to", .str path]
  | server name ds => .str name :: tokBegin :: (ds.flatMap ServerDirective.tokens ++ [tokEnd])
  | rule action none => [actionToken action]
  | rule action (some cs) =>
    actionToken action :: tokBegin :: (cs.flatMap Criteria.tokens ++ [tokEnd])
  | plugin name location none => .str name :: locationTokens location
  | plugin name location (some ds) =>
    .str name :: (locationTokens location ++
      tokBegin :: (ds.flatMap PluginDirective.tokens ++ [tokEnd]))
  | other _ _ => []

/-- The tokens of a section. -/
def tokens (s : ConfSection) : List (Token CStr) := .str s.topic :: s.args

/-- What a section does to the configuration. -/
def meaning (env : ConfEnv) (conf : Conf) : ConfSection → Option Conf
  | log _ verbose template sink =>
    some (sink.meaning (templateMeaning (levelMeaning conf verbose) template))
  | transport owner path =>
    if conf.tpt.isSome then none
    else (ownerMeaning env conf owner).map fun conf => { conf with tpt := some path }
  | hook name path =>
    if conf.hooks.any (·.name == name) then none
    else some { conf with hooks := conf.hooks ++ [{ name, path }] }
  | server name ds =>
    if conf.servers.any (·.name == name) then none
    else (serverMeaning name ds).bind fun server =>
      match server.check with
      | .ok () => some { conf with servers := conf.servers ++ [server] }
      | .error _ => none
  | rule action block =>
    ((block.getD []).foldlM Criteria.meaning (ircRuleNew action)).map fun rule =>
      { conf with rules := conf.rules ++ [rule] }
  | plugin name location block =>
    (pluginMeaning env conf name location (block.getD [])).map fun plg =>
      { conf with plugins := conf.plugins ++ [plg] }
  | other _ _ => some conf

/-- The tokens behind a section do not go on with it: a rule may have a block, and a plugin a
location and a block. -/
def Ends (rest : List (Token CStr)) : ConfSection → Prop
  | rule _ none => ∃ t ∈ rest.head?, t.type ≠ .blkBegin
  | plugin _ none none => ∃ t ∈ rest.head?, t.type ≠ .blkBegin ∧ t ≠ word "to"
  | plugin _ (some _) none => ∃ t ∈ rest.head?, t.type ≠ .blkBegin
  | _ => True

/-- Every one of the sections ends where the next one starts, and the last one at `toks`. -/
def Separated (toks : List (Token CStr)) : List ConfSection → Prop
  | [] => True
  | s :: ss => s.Ends (ss.flatMap tokens ++ toks) ∧ Separated toks ss

end ConfSection

/-- The configuration that the sections describe. -/
def confMeaning (env : ConfEnv) (conf : Conf) (ss : List ConfSection) : Option Conf :=
  ss.foldlM (ConfSection.meaning env) conf

end Irccd
