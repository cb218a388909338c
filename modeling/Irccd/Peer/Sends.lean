import Irccd.Peer.Handlers

/-!
# The commands that send a line (`peer.c`)

Eight commands of the control socket send one line to a server. Their handlers differ in the words
that they ask for and read, and in the text that they make of them.

* `SendKind`: the commands, each with its handler, its words and its text;
* `SendKind.handler_eq`: what all of the handlers do.
-/

namespace Irccd

namespace Daemon

/-- The commands that send a line to a server. -/
inductive SendKind
  | invite
  | kick
  | me
  | message
  | mode
  | notice
  | part
  | topic
  deriving DecidableEq

namespace SendKind

/-- The word for a command. -/
def name : SendKind → CStr
  | invite => cstr "SERVER-INVITE"
  | kick => cstr "SERVER-KICK"
  | me => cstr "SERVER-ME"
  | message => cstr "SERVER-MESSAGE"
  | mode => cstr "SERVER-MODE"
  | notice => cstr "SERVER-NOTICE"
  | part => cstr "SERVER-PART"
  | topic => cstr "SERVER-TOPIC"

def handler : SendKind → Handler
  | invite => fun _ => cmdServerInvite
  | kick => fun _ => cmdServerKick
  | me => fun _ => cmdServerMe
  | message => fun _ => cmdServerMessage
  | mode => fun _ => cmdServerMode
  | notice => fun _ => cmdServerNotice
  | part => fun _ => cmdServerPart
  | topic => fun _ => cmdServerTopic

/-- The words that a command takes, with the optional one. -/
def maxWords : SendKind → ℕ
  | kick | mode => 4
  | _ => 3

/-- The words that a command must have: what is optional may be left out. -/
def minWords : SendKind → ℕ
  | part => 2
  | _ => 3

/-- The words that the handler reads, also if they are not there. -/
def readWords : SendKind → ℕ
  | kick => 4
  | _ => 3

/-- The line that is to be sent. An empty reason counts as none. -/
def text (kind : SendKind) (words : List CStr) : CStr :=
  let channel := words.getD 1 []
  let what := words.getD 2 []
  match kind with
  | invite => cstr "INVITE " ++ what ++ cstr " " ++ channel
  | kick =>
    let reason := words.getD 3 []
    cstr "KICK " ++ channel ++ cstr " " ++ what ++
      if reason = [] then [] else cstr " :" ++ reason
  | me => cstr "PRIVMSG " ++ channel ++ cstr " :\x01ACTION " ++ what ++ cstr "\x01"
  | message => cstr "PRIVMSG " ++ channel ++ cstr " :" ++ what
  | mode => cstr "MODE " ++ channel ++ cstr " " ++ what ++ cstr " " ++ words.getD 3 []
  | notice => cstr "NOTICE " ++ channel ++ cstr " :" ++ what
  | part => cstr "PART " ++ channel ++ if what = [] then [] else cstr " :" ++ what
  | topic => cstr "TOPIC " ++ channel ++ cstr " :" ++ what

end SendKind

/-! ## Words -/

section Words

@[simp] theorem argument_cons_zero (w : CStr) (words : List CStr) :
    argument (w :: words) 0 = .ok w := rfl

@[simp] theorem argument_cons_succ (w : CStr) (words : List CStr) (i : ℕ) :
    argument (w :: words) (i + 1) = argument words i := rfl

/-- A word that is there is read. -/
theorem argument_of_lt {args : List CStr} {i : ℕ} (h : i < args.length) :
    argument args i = .ok (args.getD i []) := by
  unfold argument
  simp [h]

/-- A word that the handler looks at has to be there. -/
theorem unlessEmpty_eq {args : List CStr} {i : ℕ} :
    unlessEmpty args[i]? =
      if i < args.length then .ok (if args.getD i [] = [] then none else some (args.getD i []))
      else .error .nullString := by
  by_cases hi : i < args.length
  · simp [hi, unlessEmpty]
  · simp [hi, unlessEmpty]

/-- The words behind the name of the server. -/
theorem argument_two {α : Type} {args : List CStr} (hlen : 3 ≤ args.length) (f : CStr → CStr → α) :
    (do return f (← argument args 1) (← argument args 2)) =
      (.ok (f (args.getD 1 []) (args.getD 2 [])) : Except Fault α) := by
  rw [argument_of_lt (by omega), argument_of_lt (by omega), ok_bind, ok_bind]
  rfl

end Words

section Handlers

variable {env : PeerEnv} {d : Daemon} {line : CStr} {min max : ℕ}

/-- A handler is called with the words that it asks for. -/
theorem withServer_congr {call call' : BotServer → List CStr → Except Fault Sys}
    (h : ∀ s args, min ≤ args.length → call s args = call' s args) :
    d.withServer line min max call = d.withServer line min max call' := by
  rw [withServer, withServer, withArgs, withArgs]
  split
  · rfl
  · rename_i hlen
    simp only [h _ _ (not_lt.1 hlen)]

/-- The text of a command is sent, if the words that its handler reads are there. -/
def SendKind.call (kind : SendKind) (s : BotServer) (args : List CStr) : Except Fault Sys :=
  if kind.readWords ≤ args.length then .ok (ircServerSend s.sys (kind.text args)).2
  else .error .nullString

theorem SendKind.handler_eq (kind : SendKind) :
    kind.handler env d line = d.withServer line kind.minWords kind.maxWords kind.call := by
  have hcall {s : BotServer} {args : List CStr} (h : kind.readWords ≤ args.length) :
      kind.call s args = .ok (ircServerSend s.sys (kind.text args)).2 := if_pos h
  cases kind with
  -- the words that most handlers read are those that they ask for
  | invite =>
    show d.cmdServerInvite line = _
    exact withServer_congr fun s args hlen => (argument_two hlen _).trans (hcall hlen).symm
  | me =>
    show d.cmdServerMe line = _
    exact withServer_congr fun s args hlen => (argument_two hlen _).trans (hcall hlen).symm
  | message =>
    show d.cmdServerMessage line = _
    exact withServer_congr fun s args hlen => (argument_two hlen _).trans (hcall hlen).symm
  | mode =>
    show d.cmdServerMode line = _
    exact withServer_congr fun s args hlen => (argument_two hlen _).trans (hcall hlen).symm
  | notice =>
    show d.cmdServerNotice line = _
    exact withServer_congr fun s args hlen => (argument_two hlen _).trans (hcall hlen).symm
  | topic =>
    show d.cmdServerTopic line = _
    exact withServer_congr fun s args hlen => (argument_two hlen _).trans (hcall hlen).symm
  -- `kick` and `part` ask for fewer words than they read: the reason may be missing
  | kick =>
    show d.cmdServerKick line = _
    refine withServer_congr fun s args (hlen : 3 ≤ args.length) => ?_
    rw [unlessEmpty_eq]
    by_cases hmore : 3 < args.length
    · rw [if_pos hmore, hcall hmore, ok_bind, argument_two hlen]
      dsimp only [SendKind.text]
      generalize args.getD 3 [] = reason
      -- without a reason the message has no last parameter
      by_cases hreason : reason = [] <;> simp [hreason, ircServerKick]
    · exact (congrArg (· >>= _) (if_neg hmore)).trans (if_neg hmore).symm
  | part =>
    show d.cmdServerPart line = _
    refine withServer_congr fun s args (hlen : 2 ≤ args.length) => ?_
    rw [unlessEmpty_eq]
    by_cases hmore : 2 < args.length
    · rw [if_pos hmore, hcall hmore, ok_bind, argument_of_lt (by omega), ok_bind]
      dsimp only [SendKind.text, pure, Except.pure]
      generalize args.getD 2 [] = reason
      by_cases hreason : reason = []
      · simp [hreason, ircServerPart]
      · simp [hreason, ircServerPart, List.length_pos_iff]
    · exact (congrArg (· >>= _) (if_neg hmore)).trans (if_neg hmore).symm

end Handlers

end Daemon

end Irccd
