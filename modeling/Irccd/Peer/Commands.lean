import Mathlib.Data.List.TakeWhile
import Irccd.Foundations.Fields
import Irccd.Server.Api

/-!
# The commands of the control socket (`peer.c`)

A command is a line of words. The commands that send something name a server first.

* `parse`: the words that follow the command, the last of which may have spaces;
* `cmdServerMessage` and the like: the commands;
* `invoke`: what becomes of a line.
-/

namespace Irccd

open Fields

/-- The loop of `parse`: at most so many words. The last one has the rest of the line. -/
def parseWords : ℕ → CStr → List CStr
  | 0, _ => []
  | max + 1, line =>
    if SP ∈ line ∧ max ≠ 0 then
      line.takeWhile (· != SP) :: parseWords max ((line.dropWhile (· != SP)).drop 1)
    else [line]

/-- `parse`: the command is skipped, up to the first blank. -/
def parse (line : CStr) (max : ℕ) : List CStr :=
  let rest := (line.dropWhile (!isspace ·)).drop 1
  if rest = [] then [] else parseWords max rest

/-- The answer to a command. -/
inductive PeerReply
  | ok
  /-- The text of `EINVAL`. -/
  | invalid
  | serverNotFound (id : CStr)
  | commandNotFound
  deriving DecidableEq

/-- `require_server` -/
def requireServer (s : Sys) (id : CStr) : Bool := s.listed && s.server.name == id

/-- A command on a server. It has at least `min` words, of which it gets at most `max`. -/
def cmdServer (min max : ℕ) (call : List CStr → Except Fault (ℤ × Sys)) (s : Sys) (line : CStr) :
    Except Fault (PeerReply × Sys) :=
  let args := parse line max
  if args.length < min then .ok (.invalid, s)
  else if requireServer s (args.getD 0 []) then (call args).map fun r => (.ok, r.2)
  else .ok (.serverNotFound (args.getD 0 []), s)

/-- `arg[0] ? arg : NULL`, which reads `arg`. -/
def unlessEmpty : Option CStr → Except Fault (Option CStr)
  | some arg => .ok (if arg = [] then none else some arg)
  | none => .error .nullString

section Commands

variable (s : Sys) (line : CStr)

/-- `cmd_server_message` -/
def cmdServerMessage : Except Fault (PeerReply × Sys) :=
  cmdServer 3 3 (fun args => .ok (ircServerMessage s (args.getD 1 []) (args.getD 2 []))) s line

/-- `cmd_server_me` -/
def cmdServerMe : Except Fault (PeerReply × Sys) :=
  cmdServer 3 3 (fun args => .ok (ircServerMe s (args.getD 1 []) (args.getD 2 []))) s line

/-- `cmd_server_mode` -/
def cmdServerMode : Except Fault (PeerReply × Sys) :=
  cmdServer 3 4 (fun args => .ok (ircServerMode s (args.getD 1 []) (args.getD 2 []) args[3]?)) s
    line

/-- `cmd_server_notice` -/
def cmdServerNotice : Except Fault (PeerReply × Sys) :=
  cmdServer 3 3 (fun args => .ok (ircServerNotice s (args.getD 1 []) (args.getD 2 []))) s line

/-- `cmd_server_invite` -/
def cmdServerInvite : Except Fault (PeerReply × Sys) :=
  cmdServer 3 3 (fun args => .ok (ircServerInvite s (args.getD 1 []) (args.getD 2 []))) s line

/-- `cmd_server_join` -/
def cmdServerJoin : Except Fault (PeerReply × Sys) :=
  cmdServer 2 3 (fun args => .ok (ircServerJoin s (args.getD 1 []) args[2]?)) s line

/-- `cmd_server_kick` reads `args[3][0]` although there may be three words. -/
def cmdServerKick : Except Fault (PeerReply × Sys) :=
  cmdServer 3 4 (fun args => (unlessEmpty args[3]?).map fun reason =>
    ircServerKick s (args.getD 1 []) (args.getD 2 []) reason) s line

/-- `cmd_server_part` reads `args[2][0]` although there may be two words. -/
def cmdServerPart : Except Fault (PeerReply × Sys) :=
  cmdServer 2 3 (fun args => (unlessEmpty args[2]?).map fun reason =>
    ircServerPart s (args.getD 1 []) reason) s line

/-- `cmd_server_topic` -/
def cmdServerTopic : Except Fault (PeerReply × Sys) :=
  cmdServer 3 3 (fun args => .ok (ircServerTopic s (args.getD 1 []) (args.getD 2 []))) s line

end Commands

/-- `cmds`, those that send a line to a server. -/
def cmds : List (CStr × (Sys → CStr → Except Fault (PeerReply × Sys))) :=
  [(cstr "SERVER-INVITE", cmdServerInvite),
    (cstr "SERVER-JOIN", cmdServerJoin),
    (cstr "SERVER-KICK", cmdServerKick),
    (cstr "SERVER-ME", cmdServerMe),
    (cstr "SERVER-MESSAGE", cmdServerMessage),
    (cstr "SERVER-MODE", cmdServerMode),
    (cstr "SERVER-NOTICE", cmdServerNotice),
    (cstr "SERVER-PART", cmdServerPart),
    (cstr "SERVER-TOPIC", cmdServerTopic)]

/-- Each command is a word that `find` can recognise. -/
theorem cmds_words : ∀ command ∈ cmds.map Prod.fst,
    (∀ b ∈ command, isspace b = false) ∧ command ≠ [] ∧ command.length ≤ 31 := by
  decide +kernel

/-- The first word of a line, of which `find` keeps 31 bytes. -/
def firstWord (line : CStr) : CStr := ((line.dropWhile isspace).takeWhile (!isspace ·)).take 31

/-- `invoke` -/
def invoke (s : Sys) (line : CStr) : Except Fault (PeerReply × Sys) :=
  match cmds.find? (·.1 == firstWord line) with
  | some (_, call) => call s line
  | none => .ok (.commandNotFound, s)

/-! ## Words -/

/-- The words of a line, each after a space. -/
def spaced (words : List CStr) : CStr := words.flatMap (SP :: ·)

/-- A command and its words. -/
def controlLine (command : CStr) (words : List CStr) : CStr := command ++ spaced words

/-- Words that `parse` can give: only the last one may have spaces, and only if it is the last that
the command has room for. -/
def Expressible (max : ℕ) (words : List CStr) : Prop :=
  words.length ≤ max ∧ ∀ i w, words[i]? = some w → i + 1 < max → SP ∉ w

section Words

variable {max : ℕ} {line command w v : CStr} {words : List CStr}

theorem expressible_cons :
    Expressible (max + 1) (w :: words) ↔ (max ≠ 0 → SP ∉ w) ∧ Expressible max words :=
  joinable_cons

/-- The words of a line are its fields. -/
theorem parseWords_eq_fields : parseWords max line = fields SP max line := by
  induction max generalizing line with
  | zero => rfl
  | succ max ih => rw [parseWords, fields, ih]

theorem expressible_parseWords : Expressible max (parseWords max line) := by
  rw [parseWords_eq_fields]
  exact joinable_fields

/-- What `parse` gives is expressible. -/
theorem expressible_parse : Expressible max (parse line max) := by
  unfold parse
  dsimp only
  split
  · simp [Expressible]
  · exact expressible_parseWords

theorem intercalate_cons_eq_spaced : [SP].intercalate (w :: words) = w ++ spaced words := by
  induction words generalizing w with
  | nil => simp [spaced, List.intercalate]
  | cons v words ih =>
    rw [intercalate_cons_cons, ih]
    simp [spaced]

/-- What is expressible is read back. -/
theorem parseWords_spaced (h : Expressible max (w :: words)) :
    parseWords max (w ++ spaced words) = w :: words := by
  rw [parseWords_eq_fields, ← intercalate_cons_eq_spaced]
  exact fields_intercalate h (List.cons_ne_nil _ _)

/-- A token ends at the first separator. -/
theorem tokens_append_sep {rest : CStr} (hw : w ≠ []) (hspace : SP ∉ w) :
    tokens SP (w ++ SP :: rest) = w :: tokens SP rest := by
  rw [tokens, List.splitOn_append_cons_self_of_not_mem hspace, List.filter_cons_of_pos, ← tokens]
  simpa using hw

theorem tokens_singleton (hw : w ≠ []) (hspace : SP ∉ w) : tokens SP w = [w] := by
  simp [tokens, List.splitOn_eq_singleton hspace, hw]

@[simp] theorem tokens_nil : tokens SP [] = [] := by simp [tokens]

/-- Words with a space before each but the first are tokens. -/
theorem tokens_spaced (h : ∀ v ∈ w :: words, v ≠ [] ∧ SP ∉ v) :
    tokens SP (w ++ spaced words) = w :: words := by
  induction words generalizing w with
  | nil =>
    obtain ⟨hw, hspace⟩ := h w List.mem_cons_self
    rw [spaced, List.flatMap_nil, List.append_nil, tokens_singleton hw hspace]
  | cons v words ih =>
    obtain ⟨⟨hw, hspace⟩, hwords⟩ := List.forall_mem_cons.1 h
    have hspaced : spaced (v :: words) = SP :: (v ++ spaced words) := by simp [spaced]
    rw [hspaced, tokens_append_sep hw hspace, ih hwords]

/-- The line of a command with two words or more. -/
theorem parse_controlLine (hcommand : ∀ b ∈ command, isspace b = false)
    (h : Expressible max (w :: v :: words)) :
    parse (controlLine command (w :: v :: words)) max = w :: v :: words := by
  have hspaced : spaced (w :: v :: words) = SP :: (w ++ spaced (v :: words)) := by simp [spaced]
  have hdrop : (controlLine command (w :: v :: words)).dropWhile (!isspace ·) =
      SP :: (w ++ spaced (v :: words)) := by
    rw [controlLine, hspaced, List.dropWhile_append_of_pos fun b hb => by simp [hcommand b hb]]
    rfl
  -- the line goes on after the command
  have hne : w ++ spaced (v :: words) ≠ [] := by simp [spaced]
  rw [parse, hdrop, List.drop_one, List.tail_cons, if_neg hne, parseWords_spaced h]

/-- The command of such a line is the first word. -/
theorem firstWord_controlLine (hcommand : ∀ b ∈ command, isspace b = false)
    (hne : command ≠ []) (hlen : command.length ≤ 31) :
    firstWord (controlLine command (w :: words)) = command := by
  obtain ⟨b, command, rfl⟩ := List.exists_cons_of_ne_nil hne
  have hdrop : (controlLine (b :: command) (w :: words)).dropWhile isspace =
      controlLine (b :: command) (w :: words) := by
    simp [controlLine, hcommand b]
  have htake : (controlLine (b :: command) (w :: words)).takeWhile (!isspace ·) = b :: command := by
    rw [controlLine, List.takeWhile_append_of_pos fun c hc => by simp [hcommand c hc]]
    simp [spaced, isspace]
  rw [firstWord, hdrop, htake, List.take_of_length_le hlen]

end Words

end Irccd
