import Irccd.Js.Server
import Irccd.Peer.Commands
import Irccd.System.Lines

/-!
# The front ends

The methods of the JavaScript object `Server` and the commands of the control socket both call the
functions of the API. Do they give each argument to the right parameter?

* `JsCall`: a call of a method, with its arguments in the order of the manual;
* `JsCall.api`: the function of the API that it stands for, and `JsCall.control` the command;
* `SendsSame`: the method and the command append what that function appends;
* `sendsSame_iff`: when they do.
-/

namespace Irccd

/-- A call of a method that sends something. An optional argument is `none` where it is omitted. -/
inductive JsCall
  | invite (target channel : CStr)
  | join (channel : CStr) (password : Option CStr)
  | kick (target channel : CStr) (reason : Option CStr)
  | me (target message : CStr)
  | message (target message : CStr)
  | mode (target mode : CStr) (args : Option CStr)
  | names (channel : CStr)
  | notice (target message : CStr)
  | part (channel : CStr) (reason : Option CStr)
  | topic (target topic : CStr)
  | whois (target : CStr)
  deriving DecidableEq

/-- A command of the control socket: how many words it has at most, and those after the server. -/
structure Control where
  command : CStr
  max : ℕ
  words : List CStr

namespace JsCall

def name : JsCall → CStr
  | invite _ _ => cstr "invite"
  | join _ _ => cstr "join"
  | kick _ _ _ => cstr "kick"
  | me _ _ => cstr "me"
  | message _ _ => cstr "message"
  | mode _ _ _ => cstr "mode"
  | names _ => cstr "names"
  | notice _ _ => cstr "notice"
  | part _ _ => cstr "part"
  | topic _ _ => cstr "topic"
  | whois _ => cstr "whois"

/-- The arguments of the call. -/
def args : JsCall → List CStr
  | invite target channel => [target, channel]
  | join channel password => channel :: password.toList
  | kick target channel reason => target :: channel :: reason.toList
  | me target text => [target, text]
  | message target text => [target, text]
  | mode target letters modeArgs => target :: letters :: modeArgs.toList
  | names channel => [channel]
  | notice target text => [target, text]
  | part channel reason => channel :: reason.toList
  | topic target text => [target, text]
  | whois target => [target]

/-- The function of the API, with each argument as the parameter of that name. Its texts are in
`ApiCall.texts`. -/
def api : JsCall → ApiCall
  | invite target channel => .invite channel target
  | join channel password => .join channel password
  | kick target channel reason => .kick channel target reason
  | me target text => .me target text
  | message target text => .message target text
  | mode target letters modeArgs => .mode target letters modeArgs
  | names channel => .names channel
  | notice target text => .notice target text
  | part channel reason => .part channel reason
  | topic target text => .topic target text
  | whois target => .whois target

/-- The command that stands for the same. -/
def control : JsCall → Option Control
  | invite target channel => some ⟨cstr "SERVER-INVITE", 3, [channel, target]⟩
  | join channel password => some ⟨cstr "SERVER-JOIN", 3, channel :: password.toList⟩
  | kick target channel reason => some ⟨cstr "SERVER-KICK", 4, channel :: target :: reason.toList⟩
  | me target text => some ⟨cstr "SERVER-ME", 3, [target, text]⟩
  | message target text => some ⟨cstr "SERVER-MESSAGE", 3, [target, text]⟩
  | mode target letters modeArgs =>
    some ⟨cstr "SERVER-MODE", 4, target :: letters :: modeArgs.toList⟩
  | names _ => none
  | notice target text => some ⟨cstr "SERVER-NOTICE", 3, [target, text]⟩
  | part channel reason => some ⟨cstr "SERVER-PART", 3, channel :: reason.toList⟩
  | topic target text => some ⟨cstr "SERVER-TOPIC", 3, [target, text]⟩
  | whois _ => none

end JsCall

/-- The lines that a function of the API appends to the output buffer. -/
def ApiCall.lines (s : Sys) (a : ApiCall) : List CStr :=
  (accepted s (a.texts s.server)).map sentLine

/-- From `s` to `t` the lines are appended to the output buffer. -/
def Appends (s t : Sys) (lines : List CStr) : Prop :=
  output t = output s ++ wire lines ∧ pushedLines t.trace = pushedLines s.trace ++ lines

/-- The method does not throw, and it and the command, however it is written, append what the
function of the API does. A channel that is joined is not joined again. -/
def SendsSame (s : Sys) (c : JsCall) : Prop :=
  (∃ b t, callMethod s c.name c.args = .ok (b, t) ∧ Appends s t (c.api.lines s)) ∧
    ∀ k ∈ c.control, ∀ line, firstWord line = k.command →
      parse line k.max = s.server.name :: k.words →
        ∃ t, invoke s line = .ok (.ok, t) ∧ Appends s t (c.api.lines s)

/-- When the front ends send the same. `Server_prototype_invite` exchanges the channel and the
target, `Server_prototype_mode` is registered with one argument, and `cmd_server_kick` and
`cmd_server_part` read the reason that is omitted. `cmd_server_kick` takes an empty reason for
none. -/
def JsCall.Agrees (s : Sys) : JsCall → Prop
  | .invite target channel =>
    Accepts s.server (cstr "INVITE " ++ target ++ cstr " " ++ channel) →
      sentLine (cstr "INVITE " ++ channel ++ cstr " " ++ target) =
        sentLine (cstr "INVITE " ++ target ++ cstr " " ++ channel)
  | .kick target channel none => ¬ Expressible 4 [s.server.name, channel, target]
  | .kick target channel (some []) =>
    Expressible 4 [s.server.name, channel, target, []] →
      Accepts s.server (cstr "KICK " ++ channel ++ cstr " " ++ target) →
        messageLen - 1 ≤ (cstr "KICK " ++ channel ++ cstr " " ++ target).length
  | .mode _ _ _ => False
  | .part channel none => ¬ Expressible 3 [s.server.name, channel]
  | _ => True

section FrontEnds

variable {s t : Sys} {c : JsCall} {a b : ApiCall}

/-- A function of the API appends its lines. -/
theorem appends_perform (s : Sys) (a : ApiCall) : Appends s (a.perform s) (a.lines s) := by
  obtain ⟨hco, hpushed⟩ := (ApiCall.says_texts s a).sendAll
  obtain ⟨hout, htrace⟩ := sendAll_spec s (a.texts s.server)
  refine ⟨?_, hpushed.trans htrace⟩
  rw [ApiCall.lines, ← hout, output, output, hco]

theorem appends_perform_iff : Appends s (a.perform s) (b.lines s) ↔ a.lines s = b.lines s := by
  refine ⟨fun h => ?_, fun h => h ▸ appends_perform s a⟩
  exact List.append_cancel_left ((appends_perform s a).2.symm.trans h.2)

/-- What the method calls: `Server_prototype_invite` exchanges its arguments. -/
def JsCall.jsApi : JsCall → ApiCall
  | .invite target channel => .invite target channel
  | c => c.api

theorem callMethod_eq (hmode : ∀ target letters args, c ≠ .mode target letters args) :
    ∃ b, callMethod s c.name c.args = .ok (b, c.jsApi.perform s) := by
  cases c with
  | mode target letters args => exact absurd rfl (hmode target letters args)
  | join channel password => cases password <;> exact ⟨_, rfl⟩
  | kick target channel reason => cases reason <;> exact ⟨_, rfl⟩
  | part channel reason => cases reason <;> exact ⟨_, rfl⟩
  | _ => exact ⟨_, rfl⟩

/-- `Server_prototype_mode` needs a second argument and never sees it. -/
theorem callMethod_mode (target letters : CStr) (args : Option CStr) :
    callMethod s (JsCall.mode target letters args).name (JsCall.mode target letters args).args =
      .error .typeError := rfl

/-- What the command calls: an empty reason is none, and an omitted one is NULL. -/
def JsCall.peerApi : JsCall → Option ApiCall
  | .kick target channel reason => reason.map fun reason =>
    .kick channel target (if reason = [] then none else some reason)
  | .part channel reason => reason.map fun reason =>
    .part channel (if reason = [] then none else some reason)
  | c => some c.api

/-- A command that has enough words for a server that is listed. -/
theorem cmdServer_eq {min max : ℕ} {call : List CStr → Except Fault (ℤ × Sys)} {line : CStr}
    {words : List CStr} (hlisted : s.listed = true)
    (hparse : parse line max = s.server.name :: words) (hmin : min ≤ words.length + 1) :
    cmdServer min max call s line =
      (call (s.server.name :: words)).map fun r => (.ok, r.2) := by
  -- the first word is the name of the server
  have hrequire : requireServer s ((s.server.name :: words).getD 0 []) = true := by
    simp [requireServer, hlisted]
  simp only [cmdServer, hparse, List.length_cons, hrequire]
  rw [if_neg (by omega)]
  rfl

/-- The function of the command. -/
def JsCall.handler : JsCall → Sys → CStr → Except Fault (PeerReply × Sys)
  | .invite _ _ => cmdServerInvite
  | .join _ _ => cmdServerJoin
  | .kick _ _ _ => cmdServerKick
  | .me _ _ => cmdServerMe
  | .message _ _ => cmdServerMessage
  | .mode _ _ _ => cmdServerMode
  | .notice _ _ => cmdServerNotice
  | .part _ _ => cmdServerPart
  | .topic _ _ => cmdServerTopic
  | .names _ | .whois _ => fun s _ => .ok (.commandNotFound, s)

theorem find_cmds {k : Control} (hk : c.control = some k) :
    cmds.find? (·.1 == k.command) = some (k.command, c.handler) := by
  cases c with
  | names channel => cases hk
  | whois target => cases hk
  | _ =>
    obtain rfl := Option.some.inj hk
    rfl

theorem handler_eq (hlisted : s.listed = true) {k : Control} (hk : c.control = some k) {line : CStr}
    (hparse : parse line k.max = s.server.name :: k.words) :
    c.handler s line =
      match c.peerApi with
      | some a => .ok (.ok, a.perform s)
      | none => .error .nullString := by
  cases c with
  | names channel => cases hk
  | whois target => cases hk
  | kick target channel reason =>
    -- the handlers of a kick and of a part read the reason even when there is none
    obtain rfl := Option.some.inj hk
    rw [JsCall.handler, cmdServerKick, cmdServer_eq hlisted hparse (by simp)]
    cases reason <;> rfl
  | part channel reason =>
    obtain rfl := Option.some.inj hk
    rw [JsCall.handler, cmdServerPart, cmdServer_eq hlisted hparse (by simp)]
    cases reason <;> rfl
  | join channel password =>
    obtain rfl := Option.some.inj hk
    rw [JsCall.handler, cmdServerJoin, cmdServer_eq hlisted hparse (by simp)]
    cases password <;> rfl
  | mode target letters args =>
    obtain rfl := Option.some.inj hk
    rw [JsCall.handler, cmdServerMode, cmdServer_eq hlisted hparse (by simp)]
    cases args <;> rfl
  | _ =>
    obtain rfl := Option.some.inj hk
    simp only [JsCall.handler, cmdServerInvite, cmdServerMe, cmdServerMessage, cmdServerNotice,
      cmdServerTopic]
    rw [cmdServer_eq hlisted hparse (by simp)]
    rfl

theorem invoke_eq (hlisted : s.listed = true) {k : Control} (hk : c.control = some k) {line : CStr}
    (hfirst : firstWord line = k.command) (hparse : parse line k.max = s.server.name :: k.words) :
    invoke s line =
      match c.peerApi with
      | some a => .ok (.ok, a.perform s)
      | none => .error .nullString := by
  rw [invoke, hfirst, find_cmds hk]
  exact handler_eq hlisted hk hparse

/-! ## Lines -/

/-- A shorter text is accepted if a longer one is. -/
theorem Accepts.of_length_le {server : IrcServer} {x y : CStr} (h : Accepts server y)
    (hlen : x.length ≤ y.length) : Accepts server x := by
  obtain ⟨co, hco, hready, hfits⟩ := h
  refine ⟨co, hco, hready, ?_⟩
  unfold OutBuf.Fits sentLine at hfits ⊢
  rw [List.length_take] at hfits ⊢
  omega

theorem lines_of_texts {x : CStr} (h : a.texts s.server = [x]) :
    a.lines s = if Accepts s.server x then [sentLine x] else [] := by
  rw [ApiCall.lines, h, accepted, accepted]
  split <;> rfl

/-- Two texts of one length leave the same line, or neither is accepted. -/
theorem lines_eq_iff {x y : CStr} (hlen : x.length = y.length) :
    ((if Accepts s.server x then [sentLine x] else []) =
      if Accepts s.server y then [sentLine y] else []) ↔
      (Accepts s.server y → sentLine x = sentLine y) := by
  have haccepts : Accepts s.server x ↔ Accepts s.server y :=
    ⟨fun h => h.of_length_le hlen.ge, fun h => h.of_length_le hlen.le⟩
  by_cases hy : Accepts s.server y
  · rw [if_pos (haccepts.2 hy), if_pos hy, List.cons.injEq, and_iff_left rfl]
    exact ⟨fun h _ => h, fun h => h hy⟩
  · rw [if_neg (mt haccepts.1 hy), if_neg hy]
    exact iff_of_true rfl fun h => absurd h hy

/-- A text and a longer one that starts with it leave the same line only where it is cut. -/
theorem lines_append_iff {x y : CStr} (hy : y ≠ []) :
    ((if Accepts s.server x then [sentLine x] else []) =
      if Accepts s.server (x ++ y) then [sentLine (x ++ y)] else []) ↔
      (Accepts s.server x → messageLen - 1 ≤ x.length) := by
  have hpos : 0 < y.length := List.length_pos_of_ne_nil hy
  by_cases hx : Accepts s.server x
  · rw [if_pos hx, imp_iff_right hx]
    constructor
    · intro h
      split at h
      · have hlen := congrArg List.length (List.singleton_inj.1 h)
        simp only [sentLine, List.length_take, List.length_append] at hlen
        omega
      · cases h
    · intro hlen
      have hsent : sentLine (x ++ y) = sentLine x := List.take_append_of_le_length hlen
      have haccepts : Accepts s.server (x ++ y) := by
        rw [Accepts, hsent]
        exact hx
      rw [if_pos haccepts, hsent]
  · have hnot : ¬ Accepts s.server (x ++ y) := fun h => hx (h.of_length_le (by simp))
    rw [if_neg hx, if_neg hnot]
    exact iff_of_true rfl fun h => absurd h hx

/-! ## Agreement -/

/-- The method appends what it should. -/
theorem method_iff (hmode : ∀ target letters args, c ≠ .mode target letters args) :
    (∃ b t, callMethod s c.name c.args = .ok (b, t) ∧ Appends s t (c.api.lines s)) ↔
      c.jsApi.lines s = c.api.lines s := by
  obtain ⟨b, hcall⟩ := callMethod_eq (s := s) hmode
  rw [hcall, ← appends_perform_iff]
  constructor
  · rintro ⟨b', t, heq, happends⟩
    obtain ⟨-, rfl⟩ := Prod.mk.inj (Except.ok.inj heq)
    exact happends
  · exact fun happends => ⟨b, _, rfl, happends⟩

/-- The command appends what it should, if it can be written at all. -/
theorem command_iff (hlisted : s.listed = true) {k : Control} (hk : c.control = some k) :
    (∀ line, firstWord line = k.command → parse line k.max = s.server.name :: k.words →
        ∃ t, invoke s line = .ok (.ok, t) ∧ Appends s t (c.api.lines s)) ↔
      (Expressible k.max (s.server.name :: k.words) →
        ∃ a, c.peerApi = some a ∧ a.lines s = c.api.lines s) := by
  -- the command is one of `cmds`, so that its line can be written and read back
  obtain ⟨hword, hne, hlen⟩ := cmds_words k.command
    (List.mem_map_of_mem (List.mem_of_find?_eq_some (find_cmds hk)))
  obtain ⟨w, words, hwords⟩ : ∃ w words, k.words = w :: words := by
    cases c <;> first | cases hk; done | exact Option.some.inj hk ▸ ⟨_, _, rfl⟩
  constructor
  · intro h hexpressible
    rw [hwords] at h hexpressible
    -- the line that is made of the words is one with these words
    have hline := h (controlLine k.command (s.server.name :: w :: words))
      (firstWord_controlLine hword hne hlen) (parse_controlLine hword hexpressible)
    obtain ⟨t, hinvoke, happends⟩ := hline
    rw [invoke_eq hlisted hk (firstWord_controlLine hword hne hlen)
      (hwords ▸ parse_controlLine hword hexpressible)] at hinvoke
    cases hpeer : c.peerApi with
    | none => simp [hpeer] at hinvoke
    | some a =>
      simp only [hpeer, Except.ok.injEq, Prod.mk.injEq, true_and] at hinvoke
      subst hinvoke
      exact ⟨a, rfl, appends_perform_iff.1 happends⟩
  · intro h line hfirst hparse
    -- words that were read from a line are expressible
    have hexpressible : Expressible k.max (s.server.name :: k.words) := hparse ▸ expressible_parse
    obtain ⟨a, hpeer, hlines⟩ := h hexpressible
    refine ⟨a.perform s, ?_, appends_perform_iff.2 hlines⟩
    rw [invoke_eq hlisted hk hfirst hparse, hpeer]

/-- Both in terms of the functions of the API that they call. -/
theorem sendsSame_iff_lines (hlisted : s.listed = true)
    (hmode : ∀ target letters args, c ≠ .mode target letters args) :
    SendsSame s c ↔ c.jsApi.lines s = c.api.lines s ∧
      ∀ k ∈ c.control, Expressible k.max (s.server.name :: k.words) →
        ∃ a, c.peerApi = some a ∧ a.lines s = c.api.lines s :=
  and_congr (method_iff hmode) (forall₂_congr fun _ hk => command_iff hlisted hk)

/-- Most calls reach the right function of the API on both ways. -/
theorem sendsSame_of_api (hlisted : s.listed = true)
    (hmode : ∀ target letters args, c ≠ .mode target letters args) (hjs : c.jsApi = c.api)
    (hpeer : c.peerApi = some c.api) : SendsSame s c :=
  (sendsSame_iff_lines hlisted hmode).2 ⟨congrArg _ hjs, fun _ _ _ => ⟨c.api, hpeer, rfl⟩⟩

/-- `invite` is right where nothing is lost by exchanging its arguments. -/
theorem sendsSame_invite (hlisted : s.listed = true) (target channel : CStr) :
    SendsSame s (.invite target channel) ↔ JsCall.Agrees s (.invite target channel) := by
  have hexchanged : (ApiCall.invite target channel).lines s = _ := lines_of_texts rfl
  have hright : (ApiCall.invite channel target).lines s = _ := lines_of_texts rfl
  -- the two texts have the same letters
  have hlen : (cstr "INVITE " ++ channel ++ cstr " " ++ target).length =
      (cstr "INVITE " ++ target ++ cstr " " ++ channel).length := by
    simp only [List.length_append]
    omega
  rw [sendsSame_iff_lines hlisted (by simp), JsCall.jsApi, JsCall.api, hexchanged, hright,
    lines_eq_iff hlen, JsCall.Agrees]
  exact and_iff_left fun _ _ _ => ⟨_, rfl, hright⟩

/-- Without a reason `SERVER-KICK` and `SERVER-PART` have no defined result, so they must not be
written at all. -/
theorem sendsSame_of_null (hlisted : s.listed = true)
    (hmode : ∀ target letters args, c ≠ .mode target letters args) (hjs : c.jsApi = c.api)
    (hpeer : c.peerApi = none) {k : Control} (hk : c.control = some k) :
    SendsSame s c ↔ ¬ Expressible k.max (s.server.name :: k.words) := by
  rw [sendsSame_iff_lines hlisted hmode]
  constructor
  · rintro ⟨-, hcommand⟩ hexpressible
    obtain ⟨a, ha, -⟩ := hcommand k hk hexpressible
    cases hpeer.symm.trans ha
  · intro hnot
    refine ⟨congrArg _ hjs, fun k' hk' hexpressible => ?_⟩
    obtain rfl : k = k' := Option.some.inj (hk.symm.trans hk')
    exact absurd hexpressible hnot

/-- With an empty reason `kick` sends one and `SERVER-KICK` does not. -/
theorem sendsSame_kick_empty (hlisted : s.listed = true) (target channel : CStr) :
    SendsSame s (.kick target channel (some [])) ↔
      JsCall.Agrees s (.kick target channel (some [])) := by
  have hnone : (ApiCall.kick channel target none).lines s = _ := lines_of_texts rfl
  have hempty : (ApiCall.kick channel target (some [])).lines s = _ := lines_of_texts rfl
  -- the method sends `KICK channel target :`, the command leaves out the ` :`
  have hlines : (ApiCall.kick channel target none).lines s =
      (ApiCall.kick channel target (some [])).lines s ↔
        (Accepts s.server (cstr "KICK " ++ channel ++ cstr " " ++ target) →
          messageLen - 1 ≤ (cstr "KICK " ++ channel ++ cstr " " ++ target).length) := by
    rw [hnone, hempty]
    simp only [Option.map_none, Option.map_some, Option.getD_none, Option.getD_some,
      List.append_nil]
    exact lines_append_iff (by decide)
  rw [sendsSame_iff_lines hlisted (by simp), JsCall.Agrees, ← hlines]
  constructor
  · rintro ⟨-, hpeer⟩ hexpressible
    obtain ⟨a, ha, hlines⟩ := hpeer _ rfl hexpressible
    obtain rfl := Option.some.inj ha
    exact hlines
  · intro h
    refine ⟨rfl, ?_⟩
    rintro _ ⟨⟩ hexpressible
    exact ⟨_, rfl, h hexpressible⟩

end FrontEnds

/-- The method and the command send what they should exactly when they agree. -/
theorem sendsSame_iff (s : Sys) (c : JsCall) (hlisted : s.listed = true) :
    SendsSame s c ↔ c.Agrees s := by
  cases c with
  | invite target channel => exact sendsSame_invite hlisted target channel
  | mode target letters args =>
    -- the method throws whatever its arguments are
    refine iff_of_false ?_ id
    rintro ⟨⟨b, t, hcall, -⟩, -⟩
    rw [callMethod_mode] at hcall
    cases hcall
  | kick target channel reason =>
    match reason with
    | none => exact sendsSame_of_null (c := .kick target channel none) hlisted (by simp) rfl rfl rfl
    | some [] => exact sendsSame_kick_empty hlisted target channel
    | some (b :: reason) => exact iff_of_true (sendsSame_of_api hlisted (by simp) rfl rfl) trivial
  | part channel reason =>
    match reason with
    | none => exact sendsSame_of_null (c := .part channel none) hlisted (by simp) rfl rfl rfl
    | some [] =>
      -- `irc_server_part` takes an empty reason for none itself
      refine iff_of_true ((sendsSame_iff_lines hlisted (by simp)).2 ⟨rfl, ?_⟩) trivial
      rintro _ ⟨⟩ -
      exact ⟨_, rfl, rfl⟩
    | some (b :: reason) => exact iff_of_true (sendsSame_of_api hlisted (by simp) rfl rfl) trivial
  | _ => exact iff_of_true (sendsSame_of_api hlisted (by simp) rfl rfl) trivial

/-- Both front ends send the same message to a channel of a server that is listed. -/
theorem sendsSame_hello :
    ∃ s, Runs.exec step (Sys.start localServer)
        [.botServerAdd (some [⟨3, .done, .inProgress 0⟩]) ⟨none, [], []⟩,
          .conn (.ioEvent .evWrite), .conn (.resumeIo .again [])] = some s ∧
      SendsSame s (.message (cstr "#c") (cstr "hello")) := by
  have hrun : (Runs.exec step (Sys.start localServer)
      [.botServerAdd (some [⟨3, .done, .inProgress 0⟩]) ⟨none, [], []⟩,
        .conn (.ioEvent .evWrite), .conn (.resumeIo .again [])]).map Sys.listed = some true := by
    decide +kernel
  obtain ⟨s, hs, hlisted⟩ := Option.map_eq_some_iff.1 hrun
  exact ⟨s, hs, (sendsSame_iff s _ hlisted).2 trivial⟩

/-- `server.invite ("jean", "#staff")` sends `INVITE #staff jean`. -/
theorem not_sendsSame_invite :
    ∃ s, Runs.exec step (Sys.start localServer)
        [.botServerAdd (some [⟨3, .done, .inProgress 0⟩]) ⟨none, [], []⟩,
          .conn (.ioEvent .evWrite), .conn (.resumeIo .again [])] = some s ∧
      (∃ co ∈ s.server.coroutine, ircConnReady co.conn = true) ∧ s.listed = true ∧
      Clean (cstr "jean") ∧ Clean (cstr "#staff") ∧
      ¬ SendsSame s (.invite (cstr "jean") (cstr "#staff")) := by
  have hrun : (Runs.exec step (Sys.start localServer)
      [.botServerAdd (some [⟨3, .done, .inProgress 0⟩]) ⟨none, [], []⟩,
        .conn (.ioEvent .evWrite), .conn (.resumeIo .again [])]).map (fun s =>
      (s.listed, decide (Accepts s.server (cstr "INVITE jean #staff")))) =
      some (true, true) := by decide +kernel
  obtain ⟨s, hs, hstate⟩ := Option.map_eq_some_iff.1 hrun
  obtain ⟨hlisted, haccepts⟩ := Prod.mk.inj hstate
  have haccepts : Accepts s.server (cstr "INVITE jean #staff") := of_decide_eq_true haccepts
  obtain ⟨co, hco, hready, -⟩ := id haccepts
  refine ⟨s, hs, ⟨co, hco, hready⟩, hlisted, by decide, by decide, fun h => ?_⟩
  have hexchanged := (sendsSame_invite hlisted (cstr "jean") (cstr "#staff")).1 h haccepts
  exact absurd hexchanged (by decide +kernel)

end Irccd
