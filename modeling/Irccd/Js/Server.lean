import Irccd.Server.Api

/-!
# The JavaScript object `Server` (`jsapi-server.c`)

Each method reads the arguments of its call and calls a function of the API.

* `dukRequireString`, `dukGetStringDefault`: what Duktape gives for an argument;
* `methods`: the methods, with the number of arguments that each is registered with;
* `callMethod`: a call of a method.
-/

namespace Irccd

/-- `Server_prototype_isSelf`, less the argument that it reads. -/
def serverPrototypeIsSelf (server : IrcServer) (target : CStr) : Bool :=
  strncmp target server.nickname server.nickname.length

theorem serverPrototypeIsSelf_iff {server : IrcServer} {target : CStr} :
    serverPrototypeIsSelf server target = true ↔ server.nickname <+: target :=
  strncmp_length_iff

/-- Why a method does not return. -/
inductive JsError
  /-- Duktape throws a `TypeError`. -/
  | typeError
  /-- The C function has no defined result. -/
  | fault (f : Fault)
  deriving DecidableEq

/-- `duk_require_string (ctx, i)` throws where the argument is missing. -/
def dukRequireString (args : List CStr) (i : ℕ) : Except JsError CStr :=
  match args[i]? with
  | some arg => .ok arg
  | none => .error .typeError

/-- `duk_get_string_default (ctx, i, NULL)` -/
def dukGetStringDefault (args : List CStr) (i : ℕ) : Option CStr := args[i]?

/-- `duk_push_boolean` of the result of a function of the API. -/
def dukPushBoolean (r : ℤ × Sys) : Bool × Sys := (r.1 != 0, r.2)

section Methods

variable (s : Sys) (args : List CStr)

/-- `Server_prototype_invite` -/
def serverPrototypeInvite : Except JsError (Bool × Sys) := do
  let target ← dukRequireString args 0
  let channel ← dukRequireString args 1
  return dukPushBoolean (ircServerInvite s target channel)

/-- `Server_prototype_join` -/
def serverPrototypeJoin : Except JsError (Bool × Sys) := do
  let channel ← dukRequireString args 0
  let password := dukGetStringDefault args 1
  return dukPushBoolean (ircServerJoin s channel password)

/-- `Server_prototype_kick` -/
def serverPrototypeKick : Except JsError (Bool × Sys) := do
  let target ← dukRequireString args 0
  let channel ← dukRequireString args 1
  let reason := dukGetStringDefault args 2
  return dukPushBoolean (ircServerKick s channel target reason)

/-- `Server_prototype_me` -/
def serverPrototypeMe : Except JsError (Bool × Sys) := do
  let target ← dukRequireString args 0
  let message ← dukRequireString args 1
  return dukPushBoolean (ircServerMe s target message)

/-- `Server_prototype_message` -/
def serverPrototypeMessage : Except JsError (Bool × Sys) := do
  let target ← dukRequireString args 0
  let message ← dukRequireString args 1
  return dukPushBoolean (ircServerMessage s target message)

/-- `Server_prototype_mode` -/
def serverPrototypeMode : Except JsError (Bool × Sys) := do
  let channel ← dukRequireString args 0
  let mode ← dukRequireString args 1
  let modeArgs := dukGetStringDefault args 2
  return dukPushBoolean (ircServerMode s channel mode modeArgs)

/-- `Server_prototype_names` -/
def serverPrototypeNames : Except JsError (Bool × Sys) := do
  let channel ← dukRequireString args 0
  return dukPushBoolean (ircServerNames s channel)

/-- `Server_prototype_nick` -/
def serverPrototypeNick : Except JsError (Bool × Sys) := do
  let nickname ← dukRequireString args 0
  return (true, ircServerSetNickname s nickname)

/-- `Server_prototype_notice`: without a message `irc_server_notice` formats NULL. -/
def serverPrototypeNotice : Except JsError (Bool × Sys) := do
  let target ← dukRequireString args 0
  match dukGetStringDefault args 1 with
  | some message => return dukPushBoolean (ircServerNotice s target message)
  | none => .error (.fault .nullString)

/-- `Server_prototype_part` -/
def serverPrototypePart : Except JsError (Bool × Sys) := do
  let channel ← dukRequireString args 0
  let reason := dukGetStringDefault args 1
  return dukPushBoolean (ircServerPart s channel reason)

/-- `Server_prototype_send` -/
def serverPrototypeSend : Except JsError (Bool × Sys) := do
  let raw ← dukRequireString args 0
  return dukPushBoolean (ircServerSend s raw)

/-- `Server_prototype_topic` -/
def serverPrototypeTopic : Except JsError (Bool × Sys) := do
  let channel ← dukRequireString args 0
  let topic ← dukRequireString args 1
  return dukPushBoolean (ircServerTopic s channel topic)

/-- `Server_prototype_whois` -/
def serverPrototypeWhois : Except JsError (Bool × Sys) := do
  let target ← dukRequireString args 0
  return dukPushBoolean (ircServerWhois s target)

end Methods

/-- A method that is registered with its number of arguments, or with `DUK_VARARGS`. -/
structure JsMethod where
  name : CStr
  nargs : Option ℕ
  call : Sys → List CStr → Except JsError (Bool × Sys)

/-- `methods`, those that send something. -/
def methods : List JsMethod :=
  [⟨cstr "invite", some 2, serverPrototypeInvite⟩,
    ⟨cstr "join", none, serverPrototypeJoin⟩,
    ⟨cstr "kick", none, serverPrototypeKick⟩,
    ⟨cstr "me", some 2, serverPrototypeMe⟩,
    ⟨cstr "message", some 2, serverPrototypeMessage⟩,
    ⟨cstr "mode", some 1, serverPrototypeMode⟩,
    ⟨cstr "names", some 1, serverPrototypeNames⟩,
    ⟨cstr "nick", some 1, serverPrototypeNick⟩,
    ⟨cstr "notice", some 2, serverPrototypeNotice⟩,
    ⟨cstr "part", none, serverPrototypePart⟩,
    ⟨cstr "send", some 1, serverPrototypeSend⟩,
    ⟨cstr "topic", some 2, serverPrototypeTopic⟩,
    ⟨cstr "whois", some 1, serverPrototypeWhois⟩]

/-- A call of a method with strings. It sees as many arguments as it is registered with. -/
def callMethod (s : Sys) (name : CStr) (args : List CStr) : Except JsError (Bool × Sys) :=
  match methods.find? (·.name == name) with
  | some m => m.call s (m.nargs.elim args args.take)
  | none => .error .typeError

end Irccd
