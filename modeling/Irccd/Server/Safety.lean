import Irccd.Server.Handlers
import Mathlib.Data.List.Forall2

/-!
# What the handlers read

The prefix and the arguments of a message come from the IRC server, which decides how many there
are. This module says what each handler needs in order not to read one that is not there.

* `modeReads`: the arguments that the mode letters of a MODE message call for;
* `requirements`: for each entry of the `handlers` table, what its handler needs;
* `defined_consume_iff`: the message that the consumer pulls is handled without undefined behaviour
  exactly when it brings what its handler needs.
-/

namespace Irccd

/-- The positions of the arguments that the loop of `irc_server_handle_mode` reads. -/
def modeReads (prefixes : List IrcServerUmode) : CStr → ℕ → List ℕ
  | [], _ => []
  | p :: ps, argindex =>
    if p = 43 ∨ p = 45 then modeReads prefixes ps argindex
    else if p ∈ modeSkipped ∨ ircServerModesFind prefixes p = 0 then
      modeReads prefixes ps (argindex + 1)
    else argindex :: modeReads prefixes ps (argindex + 1)

namespace ConnMsg

/-- The message has a prefix and at least `n` arguments. -/
def Brings (msg : ConnMsg) (n : ℕ) : Prop := msg.pfx.isSome ∧ n ≤ msg.argsz

/-- If the channel of a MODE message is known, the message has the arguments that its mode letters
call for. -/
def BringsModes (msg : ConnMsg) (server : IrcServer) : Prop :=
  (ircServerChannelsFind server.channels (msg.args.getD 0 [])).isSome →
    ∀ i ∈ modeReads server.prefixes (msg.args.getD 1 []) 2, i < msg.argsz

/-- The channel of a PART message is known, or it is the bot that leaves. -/
def BringsChannel (msg : ConnMsg) (server : IrcServer) : Prop :=
  ircServerIsSelf server (msg.pfx.getD []) ∨
    (ircServerChannelsFind server.channels (msg.args.getD 0 [])).isSome

end ConnMsg

/-- What the handlers need, in the order of the `handlers` table. -/
def requirements : List (CStr × (IrcServer → ConnMsg → Prop)) := [
  (cstr "000", fun _ _ => True),
  (cstr "001", fun _ _ => True),
  (cstr "005", fun _ _ => True),
  (cstr "311", fun _ msg => 6 ≤ msg.argsz),
  (cstr "353", fun _ msg => 4 ≤ msg.argsz),
  (cstr "366", fun _ msg => 2 ≤ msg.argsz),
  (cstr "433", fun _ _ => True),
  (cstr "ERROR", fun _ msg => 1 ≤ msg.argsz),
  (cstr "INVITE", fun _ msg => msg.Brings 2),
  (cstr "JOIN", fun _ msg => msg.Brings 1),
  (cstr "KICK", fun _ msg => msg.Brings 3),
  (cstr "MODE", fun server msg => msg.Brings 2 ∧ msg.BringsModes server),
  (cstr "NICK", fun _ msg => msg.Brings 1),
  (cstr "NOTICE", fun _ msg => msg.Brings 2),
  (cstr "PART", fun server msg => msg.Brings 2 ∧ msg.BringsChannel server),
  (cstr "PING", fun _ _ => True),
  (cstr "PRIVMSG", fun _ msg => msg.Brings 2),
  (cstr "TOPIC", fun _ msg => msg.Brings 2)]

/-- The message brings what its handler needs. -/
def ConnMsg.Complete (msg : ConnMsg) (server : IrcServer) : Prop :=
  match requirements.find? (·.1 == msg.cmd) with
  | some r => r.2 server msg
  | none => True

/-! ## Reading -/

section Reading

variable {α β : Type} {msg : ConnMsg} {s : Sys}

theorem arg_eq_ok_iff {i : ℕ} {a : CStr} : msg.arg i = .ok a ↔ msg.args[i]? = some a := by
  unfold ConnMsg.arg
  cases msg.args[i]? <;> simp

theorem exists_arg_iff {i : ℕ} : (∃ a, msg.args[i]? = some a) ↔ i < msg.argsz := by
  rw [← Option.isSome_iff_exists, ConnMsg.argsz]
  simp

theorem exists_pfx_iff : (∃ o, msg.pfx = some o) ↔ msg.pfx.isSome = true :=
  Option.isSome_iff_exists.symm

/-- A handler goes on after it has read an argument. -/
theorem defined_arg_bind_iff {i : ℕ} {f : CStr → Except Fault α} :
    Defined (msg.arg i >>= f) ↔ ∃ a, msg.args[i]? = some a ∧ Defined (f a) := by
  simp only [defined_bind_iff, arg_eq_ok_iff]

/-- A handler goes on after it has copied the prefix. -/
theorem defined_pfx_bind_iff {f : CStr → Except Fault α} :
    Defined (ircUtilStrdup msg.pfx >>= f) ↔ ∃ o, msg.pfx = some o ∧ Defined (f o) := by
  simp only [defined_bind_iff, ircUtilStrdup_eq_ok_iff]

theorem defined_returns_iff {h : Sys → ConnMsg → Except Fault Sys} :
    Defined (returns h s msg) ↔ Defined (h s msg) := defined_map_iff

end Reading

/-! ## Handlers -/

section Handlers

variable {msg : ConnMsg} {s : Sys}

theorem defined_ircServerHandleInvite_iff :
    Defined (ircServerHandleInvite s msg) ↔ msg.Brings 2 := by
  simp only [ircServerHandleInvite, defined_pfx_bind_iff, defined_arg_bind_iff, defined_pure,
    and_true, exists_and_right, exists_pfx_iff, exists_arg_iff]
  rfl

theorem defined_ircServerHandleJoin_iff :
    Defined (ircServerHandleJoin s msg) ↔ msg.Brings 1 := by
  simp only [ircServerHandleJoin, defined_pfx_bind_iff, defined_arg_bind_iff, defined_pure,
    and_true, exists_and_right, exists_pfx_iff, exists_arg_iff]
  rfl

theorem defined_ircServerHandleKick_iff :
    Defined (ircServerHandleKick s msg) ↔ msg.Brings 3 := by
  simp only [ircServerHandleKick, defined_pfx_bind_iff, defined_arg_bind_iff, defined_pure,
    and_true, exists_and_right, exists_pfx_iff, exists_arg_iff, ConnMsg.Brings]
  exact and_congr_right fun _ => by omega

theorem defined_modeLoop_iff {prefixes : List IrcServerUmode} {mode : CStr} {action : UInt8}
    {argindex : ℕ} {ch : IrcChannel} :
    Defined (modeLoop prefixes msg mode action argindex ch) ↔
      ∀ i ∈ modeReads prefixes mode argindex, i < msg.argsz := by
  induction mode generalizing action argindex ch with
  | nil => simp [modeLoop, modeReads]
  | cons p ps ih =>
    rw [modeLoop, modeReads]
    -- the four cases of a letter: a sign, a mode that is skipped, an unknown mode, a user's mode
    by_cases hsign : p = 43 ∨ p = 45
    · rw [if_pos hsign, if_pos hsign, ih]
    by_cases hskip : p ∈ modeSkipped
    · rw [if_neg hsign, if_neg hsign, if_pos hskip, if_pos (.inl hskip), ih]
    by_cases hmode : ircServerModesFind prefixes p = 0
    · rw [if_neg hsign, if_neg hsign, if_neg hskip, if_pos hmode, if_pos (.inr hmode), ih]
    · rw [if_neg hsign, if_neg hsign, if_neg hskip, if_neg hmode, if_neg (not_or.2 ⟨hskip, hmode⟩),
        List.forall_mem_cons, defined_arg_bind_iff, ← exists_arg_iff, ← exists_and_right]
      refine exists_congr fun nickname => and_congr_right fun _ => ?_
      -- the loop goes on at the next argument whether the user is known or not
      cases ircChannelGet ch nickname <;> exact ih

theorem defined_ircServerHandleMode_iff :
    Defined (ircServerHandleMode s msg) ↔ msg.Brings 2 ∧ msg.BringsModes s.server := by
  simp only [ircServerHandleMode, defined_pfx_bind_iff, defined_arg_bind_iff]
  constructor
  · rintro ⟨o, ho, channel, hchannel, mode, hmode, hdef⟩
    refine ⟨⟨exists_pfx_iff.1 ⟨o, ho⟩, exists_arg_iff.1 ⟨mode, hmode⟩⟩, ?_⟩
    intro hfind
    rw [List.getD_eq_getElem?_getD, hchannel] at hfind
    rw [List.getD_eq_getElem?_getD, hmode]
    obtain ⟨ch, hch⟩ := Option.isSome_iff_exists.1 hfind
    rw [Option.getD_some] at hch
    -- after the loop there is nothing left to read
    simp only [hch, defined_bind_iff] at hdef
    obtain ⟨ch', hloop, -⟩ := hdef
    exact defined_modeLoop_iff.1 ⟨ch', hloop⟩
  · rintro ⟨⟨hpfx, hargs⟩, hmodes⟩
    obtain ⟨o, ho⟩ := exists_pfx_iff.2 hpfx
    obtain ⟨channel, hchannel⟩ := exists_arg_iff.2 (show 0 < msg.argsz by omega)
    obtain ⟨mode, hmode⟩ := exists_arg_iff.2 (show 1 < msg.argsz by omega)
    refine ⟨o, ho, channel, hchannel, mode, hmode, ?_⟩
    unfold ConnMsg.BringsModes at hmodes
    rw [List.getD_eq_getElem?_getD, hchannel, List.getD_eq_getElem?_getD, hmode] at hmodes
    cases hch : ircServerChannelsFind s.server.channels channel with
    | none => exact defined_ok _
    | some ch =>
      have hloop : Defined (modeLoop s.server.prefixes msg mode 0 2 ch) :=
        defined_modeLoop_iff.2 (hmodes (by rw [Option.getD_some, hch]; rfl))
      exact (defined_bind_iff_left fun _ => defined_ok _).2 hloop

theorem defined_ircServerHandlePart_iff :
    Defined (ircServerHandlePart s msg) ↔ msg.Brings 2 ∧ msg.BringsChannel s.server := by
  simp only [ircServerHandlePart, defined_pfx_bind_iff, defined_arg_bind_iff]
  constructor
  · rintro ⟨o, ho, channel, hchannel, reason, hreason, hdef⟩
    refine ⟨⟨exists_pfx_iff.1 ⟨o, ho⟩, exists_arg_iff.1 ⟨reason, hreason⟩⟩, ?_⟩
    rw [ConnMsg.BringsChannel, ho, List.getD_eq_getElem?_getD, hchannel]
    -- somebody else leaves a channel that is not on the list
    by_contra hunknown
    rw [Option.getD_some, Option.getD_some, not_or] at hunknown
    rw [if_neg hunknown.1, if_neg hunknown.2] at hdef
    exact not_defined_error _ hdef
  · rintro ⟨⟨hpfx, hargs⟩, hknown⟩
    obtain ⟨o, ho⟩ := exists_pfx_iff.2 hpfx
    obtain ⟨channel, hchannel⟩ := exists_arg_iff.2 (show 0 < msg.argsz by omega)
    obtain ⟨reason, hreason⟩ := exists_arg_iff.2 (show 1 < msg.argsz by omega)
    refine ⟨o, ho, channel, hchannel, reason, hreason, ?_⟩
    rw [ConnMsg.BringsChannel, ho, List.getD_eq_getElem?_getD, hchannel, Option.getD_some,
      Option.getD_some] at hknown
    by_cases hself : ircServerIsSelf s.server o
    · rw [if_pos hself]; exact defined_ok _
    · rw [if_neg hself, if_pos (hknown.resolve_left hself)]; exact defined_ok _

/-- The text comes after the channel, so the message has a channel when it has a text. -/
theorem defined_ircServerHandleMsg_iff :
    Defined (ircServerHandleMsg s msg) ↔ msg.Brings 2 := by
  simp only [ircServerHandleMsg, defined_arg_bind_iff]
  constructor
  · rintro ⟨text, htext, hdef⟩
    refine ⟨?_, exists_arg_iff.1 ⟨text, htext⟩⟩
    split at hdef
    · obtain ⟨o, ho, -⟩ := defined_pfx_bind_iff.1 hdef
      exact exists_pfx_iff.1 ⟨o, ho⟩
    · obtain ⟨o, ho, -⟩ := defined_pfx_bind_iff.1 hdef
      exact exists_pfx_iff.1 ⟨o, ho⟩
  · rintro ⟨hpfx, hargs⟩
    obtain ⟨o, ho⟩ := exists_pfx_iff.2 hpfx
    obtain ⟨channel, hchannel⟩ := exists_arg_iff.2 (show 0 < msg.argsz by omega)
    obtain ⟨text, htext⟩ := exists_arg_iff.2 (show 1 < msg.argsz by omega)
    refine ⟨text, htext, ?_⟩
    split
    · refine defined_pfx_bind_iff.2 ⟨o, ho, ?_⟩
      split
      · exact defined_arg_bind_iff.2 ⟨channel, hchannel, defined_ok _⟩
      · exact defined_ok _
    · exact defined_pfx_bind_iff.2
        ⟨o, ho, defined_arg_bind_iff.2 ⟨channel, hchannel, defined_ok _⟩⟩

theorem defined_ircServerHandleNick_iff :
    Defined (ircServerHandleNick s msg) ↔ msg.Brings 1 := by
  simp only [ircServerHandleNick, defined_pfx_bind_iff, defined_arg_bind_iff, defined_pure,
    and_true, exists_and_right, exists_pfx_iff, exists_arg_iff]
  rfl

theorem defined_ircServerHandleNotice_iff :
    Defined (ircServerHandleNotice s msg) ↔ msg.Brings 2 := by
  simp only [ircServerHandleNotice, defined_pfx_bind_iff, defined_arg_bind_iff, defined_pure,
    and_true, exists_and_right, exists_pfx_iff, exists_arg_iff, ConnMsg.Brings]
  exact and_congr_right fun _ => by omega

theorem defined_ircServerHandleTopic_iff :
    Defined (ircServerHandleTopic s msg) ↔ msg.Brings 2 := by
  simp only [ircServerHandleTopic, defined_pfx_bind_iff, defined_arg_bind_iff, defined_pure,
    and_true, exists_and_right, exists_pfx_iff, exists_arg_iff, ConnMsg.Brings]
  exact and_congr_right fun _ => by omega

/-- The handler counts the arguments before it reads one. -/
theorem defined_ircServerHandlePing : Defined (ircServerHandlePing s msg) := by
  unfold ircServerHandlePing
  split
  · rename_i hargs
    obtain ⟨arg, harg⟩ := exists_arg_iff.2 hargs
    exact defined_arg_bind_iff.2 ⟨arg, harg, defined_ok _⟩
  · exact defined_ok _

theorem defined_ircServerHandleNames_iff :
    Defined (ircServerHandleNames s msg) ↔ 4 ≤ msg.argsz := by
  simp only [ircServerHandleNames, defined_arg_bind_iff, defined_pure, and_true, exists_and_right,
    exists_arg_iff]
  omega

theorem defined_ircServerHandleEndofnames_iff :
    Defined (ircServerHandleEndofnames s msg) ↔ 2 ≤ msg.argsz := by
  rw [ircServerHandleEndofnames, defined_arg_bind_iff, Nat.succ_le_iff, ← exists_arg_iff]
  refine exists_congr fun channel => and_iff_left ?_
  cases ircServerChannelsFind s.server.channels channel <;> exact defined_ok _

theorem defined_ircServerHandleError_iff :
    Defined (ircServerHandleError s msg) ↔ 1 ≤ msg.argsz := by
  simp only [ircServerHandleError, defined_arg_bind_iff, defined_pure, and_true, exists_arg_iff]
  rfl

theorem defined_ircServerHandleWhoisuser_iff :
    Defined (ircServerHandleWhoisuser msg) ↔ 6 ≤ msg.argsz := by
  simp only [ircServerHandleWhoisuser, defined_arg_bind_iff, defined_pure, and_true,
    exists_and_right, exists_arg_iff]
  omega

theorem defined_whoisPull_iff {ev : IrcEventWhois} :
    Defined (whoisPull s ev msg) ↔ (msg.cmd = cstr "319" → 3 ≤ msg.argsz) := by
  rw [whoisPull, defined_map_iff]
  by_cases h319 : msg.cmd = cstr "319"
  · simp only [h319, if_true, ircServerHandleWhoischannels, defined_arg_bind_iff, defined_pure,
      and_true, exists_arg_iff, true_imp_iff]
    rfl
  · rw [if_neg h319]
    exact iff_of_true (defined_ok _) fun h => absurd h h319

end Handlers

/-! ## The table -/

/-- The handler has a result exactly when its requirement is met. -/
def Meets (h : Sys → ConnMsg → Except Fault (Sys × Option IrcEventWhois))
    (r : IrcServer → ConnMsg → Prop) : Prop :=
  ∀ s msg, Defined (h s msg) ↔ r s.server msg

/-- Each handler has a result exactly when the message brings what it needs. -/
theorem handlers_requirements :
    List.Forall₂ (fun h r => h.1 = r.1 ∧ Meets h.2 r.2) handlers requirements :=
  .cons ⟨rfl, fun _ _ => iff_of_true (defined_ok (_, none)) trivial⟩ <|
  .cons ⟨rfl, fun _ _ => iff_of_true (defined_ok (_, none)) trivial⟩ <|
  .cons ⟨rfl, fun _ _ => iff_of_true (defined_ok (_, none)) trivial⟩ <|
  .cons ⟨rfl, fun _ _ => defined_map_iff.trans defined_ircServerHandleWhoisuser_iff⟩ <|
  .cons ⟨rfl, fun _ _ => defined_returns_iff.trans defined_ircServerHandleNames_iff⟩ <|
  .cons ⟨rfl, fun _ _ => defined_returns_iff.trans defined_ircServerHandleEndofnames_iff⟩ <|
  .cons ⟨rfl, fun _ _ => iff_of_true (defined_ok (_, none)) trivial⟩ <|
  .cons ⟨rfl, fun _ _ => defined_returns_iff.trans defined_ircServerHandleError_iff⟩ <|
  .cons ⟨rfl, fun _ _ => defined_returns_iff.trans defined_ircServerHandleInvite_iff⟩ <|
  .cons ⟨rfl, fun _ _ => defined_returns_iff.trans defined_ircServerHandleJoin_iff⟩ <|
  .cons ⟨rfl, fun _ _ => defined_returns_iff.trans defined_ircServerHandleKick_iff⟩ <|
  .cons ⟨rfl, fun _ _ => defined_returns_iff.trans defined_ircServerHandleMode_iff⟩ <|
  .cons ⟨rfl, fun _ _ => defined_returns_iff.trans defined_ircServerHandleNick_iff⟩ <|
  .cons ⟨rfl, fun _ _ => defined_returns_iff.trans defined_ircServerHandleNotice_iff⟩ <|
  .cons ⟨rfl, fun _ _ => defined_returns_iff.trans defined_ircServerHandlePart_iff⟩ <|
  .cons ⟨rfl, fun _ _ => iff_of_true (defined_returns_iff.2 defined_ircServerHandlePing) trivial⟩ <|
  .cons ⟨rfl, fun _ _ => defined_returns_iff.trans defined_ircServerHandleMsg_iff⟩ <|
  .cons ⟨rfl, fun _ _ => defined_returns_iff.trans defined_ircServerHandleTopic_iff⟩ <|
  .nil

/-- Two tables with the same keys, related entry by entry, have related entries under a key. -/
theorem forall₂_find? {κ α β : Type} [BEq κ] {R : α → β → Prop} {as : List (κ × α)}
    {bs : List (κ × β)} (h : List.Forall₂ (fun a b => a.1 = b.1 ∧ R a.2 b.2) as bs) (k : κ) :
    Option.Rel R ((as.find? (·.1 == k)).map Prod.snd) ((bs.find? (·.1 == k)).map Prod.snd) := by
  induction h with
  | nil => exact .none
  | @cons a b as bs hab _ ih =>
    rw [List.find?_cons, List.find?_cons, hab.1]
    cases b.1 == k with
    | true => exact .some hab.2
    | false => exact ih

/-- `irc_server_handle` has a result exactly when the message brings what its handler needs. -/
theorem defined_ircServerHandle_iff {s : Sys} {msg : ConnMsg} :
    Defined (ircServerHandle s msg) ↔ msg.Complete s.server := by
  have h := forall₂_find? handlers_requirements msg.cmd
  unfold ircServerHandle ConnMsg.Complete
  cases hh : handlers.find? (·.1 == msg.cmd) <;>
    cases hr : requirements.find? (·.1 == msg.cmd) <;>
    simp only [hh, hr, Option.map_none, Option.map_some] at h ⊢
  · simp
  · cases h
  · cases h
  · cases h with
    | some h => exact h s msg

/-- What the consumer needs of the message it pulls: the needs of its handler, or those of the loop
of `irc_server_handle_whoisuser` when it is that loop which pulls. -/
def ConnMsg.Handled (msg : ConnMsg) (server : IrcServer) : Option IrcEventWhois → Prop
  | none => msg.Complete server
  | some _ => msg.cmd = cstr "319" → 3 ≤ msg.argsz

/-- Whatever line the IRC server sends, the message parsed from it is handled without reading an
argument or a prefix that is not there, and without touching a channel that is not there, exactly
when it brings what is needed. -/
theorem defined_consume_iff (s : Sys) (k : Option IrcEventWhois) (line : CStr) :
    Defined (consume s k (ircConnMsgParse line line.length).2) ↔
      (ircConnMsgParse line line.length).2.Handled s.server k := by
  cases k with
  | none => exact defined_ircServerHandle_iff
  | some ev => exact defined_whoisPull_iff

/-- A PRIVMSG without argument makes `irc_server_handle_msg` read `args[1]`. -/
theorem not_defined_privmsg :
    ¬ Defined (ircServerHandle
      (Sys.start localServer)
      (ircConnMsgParse (cstr "PRIVMSG") 7).2) := by
  decide +kernel

end Irccd
