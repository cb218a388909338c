import Irccd.Server.Api
import Irccd.Server.Effects
import Irccd.Server.Sending
import Irccd.System.Basic

/-!
# Lines (`server.c`, `conn.c`)

Is what `irc_server_send` appends to the output buffer one line of the protocol, however long the
text is?

* `Cause`: what makes a server send something, a call of the API or a message that is handled;
* `OneLineEach`: each `irc_server_send` that succeeds appends one line;
* `oneLineEach_iff`: that is the case exactly when the texts have two bytes less than the buffer of
  `irc_server_send_va`, and the text of `ctime (3)` is not among them.
-/

namespace Irccd

/-- No CR and no LF. A C string has no NUL anyway. -/
def Clean (s : CStr) : Prop := ∀ b ∈ s, b ≠ CR ∧ b ≠ LF

instance (s : CStr) : Decidable (Clean s) := List.decidableBAll _ s

/-- A line of the protocol: at most 512 bytes with its CRLF, and no other CR or LF. -/
def IsLine (bytes : CStr) : Prop :=
  bytes.length ≤ 512 ∧ ∃ body, bytes = body ++ crlf ∧ Clean body

/-- The bytes in the output buffer. -/
def output (s : Sys) : CStr := (s.server.coroutine.map (·.conn.outb.contents)).getD []

/-- Each `irc_server_send` that succeeded from `s` to `t` appended one line to the output buffer. -/
def OneLineEach (s t : Sys) : Prop :=
  ∃ lines, pushedLines t.trace = pushedLines s.trace ++ lines ∧
    output t = output s ++ wire lines ∧ ∀ line ∈ lines, IsLine (line ++ crlf)

namespace ApiCall

/-- The string arguments of the call. -/
def strings : ApiCall → List CStr
  | invite channel target => [channel, target]
  | join name pass => name :: pass.toList
  | kick channel target reason => channel :: target :: reason.toList
  | part channel reason => channel :: reason.toList
  | topic channel text => [channel, text]
  | message chan msg => [chan, msg]
  | me chan text => [chan, text]
  | mode channel letters args => channel :: letters :: args.toList
  | names channel => [channel]
  | notice channel text => [channel, text]
  | whois target => [target]
  | setNickname nickname => [nickname]
  | send text => [text]

/-- The text that the call sends, if it sends one. -/
def texts (server : IrcServer) : ApiCall → List CStr
  | invite channel target => [cstr "INVITE " ++ target ++ cstr " " ++ channel]
  | join name pass => joinTexts server name pass
  | kick channel target reason => [cstr "KICK " ++ channel ++ cstr " " ++ target ++
      (reason.map (cstr " :" ++ ·)).getD []]
  | part channel reason => [cstr "PART " ++ channel ++
      if reason.getD [] = [] then [] else cstr " :" ++ reason.getD []]
  | topic channel text => [cstr "TOPIC " ++ channel ++ cstr " :" ++ text]
  | message chan msg => [cstr "PRIVMSG " ++ chan ++ cstr " :" ++ msg]
  | me chan text => [cstr "PRIVMSG " ++ chan ++ cstr " :\x01ACTION " ++ text ++ cstr "\x01"]
  | mode channel letters args =>
    [cstr "MODE " ++ channel ++ cstr " " ++ letters ++ cstr " " ++ args.getD []]
  | names channel => [cstr "NAMES " ++ channel]
  | notice channel text => [cstr "NOTICE " ++ channel ++ cstr " :" ++ text]
  | whois target => [cstr "WHOIS " ++ target]
  | setNickname nickname => if ircServerReady server then [cstr "NICK " ++ nickname] else []
  | send text => [text]

end ApiCall

/-- What makes a server send something. -/
inductive Cause
  | api (c : ApiCall)
  /-- The consumer handles a message. -/
  | handle (msg : ConnMsg) (k : Option IrcEventWhois)

namespace Cause

/-- The state after it, if it is defined. -/
def run (s : Sys) : Cause → Option Sys
  | api c => some (c.perform s)
  | handle msg k => (consume s k msg).toOption.map Prod.fst

/-- The texts that are sent, in order. -/
def texts (s : Sys) : Cause → List CStr
  | api c => c.texts s.server
  | handle msg k => answers s msg k

/-- The strings that are given: those of the call, or those of the message and of the server. -/
def strings (s : Sys) : Cause → List CStr
  | api c => c.strings
  | handle msg _ => msg.pfx.toList ++ msg.args ++ s.server.ctcpSource.toList ++
      s.server.ctcpVersion.toList ++
      s.server.channels.flatMap fun ch => ch.name :: ch.password.toList

/-- The message is a CTCP request for the time. -/
def AsksTime : Cause → Prop
  | handle msg none => msg.cmd = cstr "PRIVMSG" ∧ msg.args.getD 1 [] = cstr "\x01TIME\x01"
  | _ => False

end Cause

/-- Send the texts in order. -/
def sendAll (s : Sys) (texts : List CStr) : Sys :=
  texts.foldl (fun s text => (ircServerSend s text).2) s

/-- Those of the texts that are accepted when they are sent in order. -/
def accepted (s : Sys) : List CStr → List CStr
  | [] => []
  | text :: texts =>
    (if Accepts s.server text then [text] else []) ++ accepted (ircServerSend s text).2 texts

/-! ## What is sent -/

variable {s t : Sys}

theorem output_ircServerSend (s : Sys) (text : CStr) :
    output (ircServerSend s text).2 =
      output s ++ wire (if Accepts s.server text then [sentLine text] else []) := by
  rcases ircServerSend_cases s text with ⟨h, co, co', hco, hout, heq⟩ | ⟨h, _, _, heq⟩
  · rw [heq, if_pos h]
    simp [output, hco, hout, wire]
  · rw [heq, if_neg h]
    simp [wire]

/-- The output buffer and the accepted lines after some texts have been sent. -/
theorem sendAll_spec (s : Sys) (texts : List CStr) :
    output (sendAll s texts) = output s ++ wire ((accepted s texts).map sentLine) ∧
      pushedLines (sendAll s texts).trace =
        pushedLines s.trace ++ (accepted s texts).map sentLine := by
  induction texts generalizing s with
  | nil => simp [sendAll, accepted, wire]
  | cons text texts ih =>
    obtain ⟨hout, hpushed⟩ := ih (ircServerSend s text).2
    -- the first text makes one line or none
    have hhead : (if Accepts s.server text then [text] else []).map sentLine =
        if Accepts s.server text then [sentLine text] else [] := by
      split <;> rfl
    rw [sendAll, List.foldl_cons, ← sendAll, hout, hpushed, output_ircServerSend,
      pushedLines_ircServerSend, accepted, List.map_append, hhead]
    simp [wire, List.flatMap_append]

/-- Only the coroutines matter to what becomes of them. -/
theorem coroutine_ircServerSend_congr (h : t.server.coroutine = s.server.coroutine) (text : CStr) :
    (ircServerSend t text).2.server.coroutine = (ircServerSend s text).2.server.coroutine := by
  unfold ircServerSend
  rw [h]
  cases hco : s.server.coroutine with
  | none => rw [h, hco]
  | some co =>
    unfold connSendLine ircConnPush
    dsimp only
    split
    · split <;> rfl
    · rfl

/-- Whatever else happens, it is as if the texts had been sent one after the other. -/
theorem Says.sendAll {E : IrcEvent → Prop} {texts : List CStr} (h : Says E s texts t) :
    t.server.coroutine = (sendAll s texts).server.coroutine ∧
      pushedLines t.trace = pushedLines (sendAll s texts).trace := by
  induction h with
  | refl => exact ⟨rfl, rfl⟩
  | @send texts t text _ ih =>
    obtain ⟨hco, hpushed⟩ := ih
    -- the last text meets the coroutine that the others have left
    have hlast : Irccd.sendAll s (texts ++ [text]) =
        (ircServerSend (Irccd.sendAll s texts) text).2 := by
      rw [Irccd.sendAll, List.foldl_append]
      rfl
    have haccepts : Accepts t.server text ↔ Accepts (Irccd.sendAll s texts).server text := by
      rw [Accepts, Accepts, hco]
    rw [hlast]
    refine ⟨coroutine_ircServerSend_congr hco text, ?_⟩
    rw [pushedLines_ircServerSend, pushedLines_ircServerSend, hpushed]
    simp only [haccepts]
  | dispatch _ _ ih => exact ⟨ih.1, (pushedLines_dispatch _ _).trans ih.2⟩
  | update _ hserver ih => exact ⟨hserver.coroutine.trans ih.1, ih.2⟩

/-- The line that is made of a text is one of the protocol if nothing is cut, there is room for the
CRLF, and the text has no line end of its own. -/
theorem isLine_sentLine_iff {text : CStr} :
    IsLine (sentLine text ++ crlf) ↔ text.length + 2 ≤ messageLen ∧ Clean text := by
  have hlen : (sentLine text ++ crlf).length = min 511 text.length + 2 := by
    simp [sentLine, messageLen, crlf]
  rw [IsLine, hlen, messageLen]
  by_cases hshort : text.length + 2 ≤ 512
  · have hall : sentLine text = text := List.take_of_length_le (by rw [messageLen]; omega)
    simp only [hall, List.append_cancel_right_eq, exists_eq_left', hshort, true_and]
    exact and_iff_right (by omega)
  · exact iff_of_false (fun h => by omega) fun h => hshort h.1

/-- The texts that are accepted decide. -/
theorem Says.oneLineEach_texts_iff {E : IrcEvent → Prop} {texts : List CStr}
    (h : Says E s texts t) :
    OneLineEach s t ↔
      ∀ text ∈ accepted s texts, text.length + 2 ≤ messageLen ∧ Clean text := by
  obtain ⟨hco, hpushed⟩ := h.sendAll
  obtain ⟨hout, htrace⟩ := sendAll_spec s texts
  have hout' : output t = output s ++ wire ((accepted s texts).map sentLine) := by
    rw [← hout, output, output, hco]
  simp only [OneLineEach, hpushed, htrace, List.append_cancel_left_eq, exists_eq_left', hout',
    true_and, List.forall_mem_map, isLine_sentLine_iff]

/-! ## Clean texts -/

@[simp] theorem clean_nil : Clean [] := by simp [Clean]

@[simp] theorem clean_append {a b : CStr} : Clean (a ++ b) ↔ Clean a ∧ Clean b :=
  List.forall_mem_append

/-- A line end is no letter, and only letters are changed by `tolower`. -/
theorem eq_of_tolower_eq {b c : UInt8} (hc : c = CR ∨ c = LF) (h : tolower b = c) : b = c := by
  unfold tolower at h
  split at h
  · rename_i hletter
    have hnat := congrArg UInt8.toNat h
    simp only [UInt8.le_iff_toNat_le, UInt8.toNat_add] at hletter hnat
    have h65 : (65 : UInt8).toNat = 65 := rfl
    have h90 : (90 : UInt8).toNat = 90 := rfl
    have h32 : (32 : UInt8).toNat = 32 := rfl
    have hcr : CR.toNat = 13 := rfl
    have hlf : LF.toNat = 10 := rfl
    rcases hc with rfl | rfl <;> omega
  · exact h

theorem clean_foldCase {name : CStr} (h : Clean name) : Clean (foldCase name) := by
  intro c hc
  obtain ⟨b, hb, rfl⟩ := List.mem_map.1 hc
  obtain ⟨hcr, hlf⟩ := h b hb
  exact ⟨fun heq => hcr (eq_of_tolower_eq (.inl rfl) heq),
    fun heq => hlf (eq_of_tolower_eq (.inr rfl) heq)⟩

theorem userMatch_subset {origin : CStr} {u : IrcUser} (h : userMatch origin = some u) :
    u.nickname ⊆ origin := by
  intro b hb
  unfold userMatch at h
  dsimp only at h
  split at h
  · split at h
    · split at h
      · cases h
      · cases h
        exact (List.takeWhile_prefix _).subset hb
    · cases h
  · cases h

theorem userSearch_subset {origin : CStr} {u : IrcUser} (h : userSearch origin = some u) :
    u.nickname ⊆ origin := by
  induction origin with
  | nil => cases h
  | cons c origin ih =>
    rw [userSearch, Option.or_eq_some_iff] at h
    rcases h with h | ⟨-, h⟩
    · exact userMatch_subset h
    · exact fun b hb => List.mem_cons_of_mem c (ih h hb)

/-- The nickname is a part of the origin. -/
theorem clean_nickname {origin : CStr} (h : Clean origin) :
    Clean (ircUtilUserSplit origin).nickname := by
  intro b hb
  unfold ircUtilUserSplit at hb
  cases hu : userSearch origin with
  | none =>
    rw [hu] at hb
    exact h b hb
  | some u =>
    rw [hu] at hb
    exact h b (userSearch_subset hu hb)

/-- The name and the password of the channel are clean. -/
def IrcChannel.Clean (ch : IrcChannel) : Prop :=
  Irccd.Clean ch.name ∧ ∀ p ∈ ch.password, Irccd.Clean p

theorem clean_joinText {name : CStr} {pass : Option CStr} (hname : Clean name)
    (hpass : ∀ p ∈ pass, Clean p) : Clean (joinText name pass) := by
  cases pass with
  | none => simp +decide [joinText, hname]
  | some p => simp +decide [joinText, hname, hpass p rfl]

theorem clean_joinTexts {server : IrcServer} {name : CStr} {pass : Option CStr} (hname : Clean name)
    (hpass : ∀ p ∈ pass, Clean p) : ∀ text ∈ joinTexts server name pass, Clean text := by
  unfold joinTexts
  split
  · simpa using clean_joinText hname hpass
  · simp

theorem clean_rejoinTexts {server : IrcServer} (h : ∀ ch ∈ server.channels, ch.Clean) :
    ∀ text ∈ rejoinTexts server, Clean text := by
  intro text htext
  obtain ⟨ch, hch, htext⟩ := List.mem_flatMap.1 htext
  exact clean_joinTexts (h ch hch).1 (h ch hch).2 text htext

/-- The channel that is found after it was added is one of the list, or a new one. -/
theorem clean_of_find_add {chs : List IrcChannel} {name : CStr} {ch : IrcChannel}
    (h : ∀ ch ∈ chs, ch.Clean) (hname : Clean name)
    (hfind : ircServerChannelsFind (ircServerChannelsAdd chs name none true) name = some ch) :
    ch.Clean := by
  cases hold : ircServerChannelsFind chs name with
  | none =>
    rw [ircServerChannelsAdd, hold, Option.isSome_none, if_neg (by simp), ircServerChannelsFind,
      List.find?_cons_of_pos (by simp)] at hfind
    cases hfind
    exact ⟨clean_foldCase hname, by simp [ircChannelNew]⟩
  | some c =>
    obtain ⟨before, after, hat⟩ := exists_channelAt hold
    have hadd : ChannelAt (ircServerChannelsAdd chs name none true) name before
        { c with joined := c.joined || true } after := (hat.add none true).symm ▸ hat.replace rfl
    obtain rfl : _ = ch := Option.some.inj (hadd.find.symm.trans hfind)
    exact h c (List.mem_of_find?_eq_some hold)

theorem clean_kickTexts {server : IrcServer} {channel target : CStr}
    (h : ∀ ch, ircServerChannelsFind server.channels channel = some ch → ch.Clean) :
    ∀ text ∈ kickTexts server channel target, Clean text := by
  unfold kickTexts
  split
  · split
    · rename_i ch hfind
      simpa using clean_joinText (h ch hfind).1 (h ch hfind).2
    · simp
  · simp

theorem ApiCall.clean_texts {server : IrcServer} {c : ApiCall} (h : ∀ str ∈ c.strings, Clean str) :
    ∀ text ∈ c.texts server, Clean text := by
  cases c with
  | join name pass =>
    obtain ⟨hname, hpass⟩ := List.forall_mem_cons.1 h
    exact clean_joinTexts hname fun p hp => hpass p (by simpa using hp)
  | kick channel target reason =>
    cases reason <;> simp +decide [strings, texts] at h ⊢ <;> simp [h]
  | part channel reason =>
    cases reason with
    | none => simp +decide [strings, texts] at h ⊢; exact h
    | some reason =>
      simp +decide [strings, texts] at h ⊢
      refine ⟨h.1, ?_⟩
      split <;> simp +decide [h.2]
  | mode channel letters args =>
    cases args <;> simp +decide [strings, texts] at h ⊢ <;> simp [h]
  | setNickname nickname =>
    simp only [texts]
    split
    · simpa +decide [strings] using h
    · simp
  | _ => simpa +decide [strings, texts, and_comm] using h

/-- The strings of a message that is handled. -/
structure CleanMsg (s : Sys) (msg : ConnMsg) : Prop where
  pfx : Clean (msg.pfx.getD [])
  arg : ∀ i, Clean (msg.args.getD i [])
  source : ∀ source ∈ s.server.ctcpSource, Clean source
  version : ∀ version ∈ s.server.ctcpVersion, Clean version
  channels : ∀ ch ∈ s.server.channels, ch.Clean

theorem cleanMsg_of_strings {msg : ConnMsg} {k : Option IrcEventWhois}
    (h : ∀ str ∈ (Cause.handle msg k).strings s, Clean str) : CleanMsg s msg := by
  simp only [Cause.strings, List.forall_mem_append, Option.mem_toList, List.forall_mem_flatMap,
    List.forall_mem_cons] at h
  obtain ⟨⟨⟨⟨hpfx, hargs⟩, hsource⟩, hversion⟩, hchannels⟩ := h
  refine ⟨?_, fun i => ?_, hsource, hversion, hchannels⟩
  · cases hp : msg.pfx with
    | none => simp
    | some origin => exact hpfx origin hp
  · rw [List.getD_eq_getElem?_getD]
    cases ha : msg.args[i]? with
    | none => simp
    | some a => exact hargs a (List.mem_of_getElem? ha)

theorem clean_ctcpAnswer_iff {nickname answer : CStr} (h : Clean nickname) :
    Clean (ctcpAnswer nickname answer) ↔ Clean answer := by
  simp +decide [ctcpAnswer, h]

/-- Of the answers to CTCP requests only the one with the time may have a line end. -/
theorem clean_ctcpTexts_iff {nickname request text : CStr} {msg : ConnMsg} (hmsg : CleanMsg s msg)
    (hnick : Clean nickname) (htext : text ∈ ctcpTexts s nickname request) :
    Clean text ↔ (request = cstr "\x01TIME\x01" → Clean s.clock) := by
  unfold ctcpTexts at htext
  split at htext
  · rename_i hrequest
    obtain rfl := List.mem_singleton.1 htext
    rw [clean_ctcpAnswer_iff hnick, hrequest]
    exact iff_of_true (by decide) fun h => absurd h (by decide)
  split at htext
  · rename_i hrequest
    obtain ⟨source, hsource, rfl⟩ := Option.map_eq_some_iff.1 (Option.mem_toList.1 htext)
    rw [clean_ctcpAnswer_iff hnick, hrequest, clean_append]
    exact iff_of_true ⟨by decide, hmsg.source source hsource⟩ fun h => absurd h (by decide)
  split at htext
  · rename_i hrequest
    obtain rfl := List.mem_singleton.1 htext
    rw [clean_ctcpAnswer_iff hnick, clean_append]
    exact ⟨fun h _ => h.2, fun h => ⟨by decide, h hrequest⟩⟩
  split at htext
  · rename_i hrequest
    obtain ⟨version, hversion, rfl⟩ := Option.map_eq_some_iff.1 (Option.mem_toList.1 htext)
    rw [clean_ctcpAnswer_iff hnick, hrequest, clean_append]
    exact iff_of_true ⟨by decide, hmsg.version version hversion⟩ fun h => absurd h (by decide)
  · cases htext

theorem clean_replies_iff {msg : ConnMsg} {text : CStr} (hmsg : CleanMsg s msg)
    (htext : text ∈ replies s msg) :
    Clean text ↔ ((Cause.handle msg none).AsksTime → Clean s.clock) := by
  unfold replies at htext
  split at htext
  · rename_i r hfind
    have hkey : r.1 = msg.cmd := by simpa using List.find?_some hfind
    -- only a PRIVMSG can ask for the time
    have hother : r.1 ≠ cstr "PRIVMSG" → ((Cause.handle msg none).AsksTime → Clean s.clock) :=
      fun hne h => absurd (hkey.trans h.1) hne
    -- the handlers that reply: 001, INVITE, KICK, PING and PRIVMSG
    have hr := List.mem_of_find?_eq_some hfind
    simp only [replying, List.mem_cons, List.not_mem_nil, or_false] at hr
    rcases hr with rfl | rfl | rfl | rfl | rfl
    · exact iff_of_true (clean_rejoinTexts hmsg.channels text htext) (hother (by decide))
    · refine iff_of_true ?_ (hother (by decide))
      simp only [inviteTexts] at htext
      split at htext
      · exact clean_joinTexts (hmsg.arg 1) (by simp) text htext
      · cases htext
    · refine iff_of_true ?_ (hother (by decide))
      exact clean_kickTexts (fun ch hfind => clean_of_find_add hmsg.channels (hmsg.arg 0) hfind)
        text htext
    · refine iff_of_true ?_ (hother (by decide))
      simp only [pingTexts] at htext
      split at htext
      · obtain rfl := List.mem_singleton.1 htext
        exact clean_append.2 ⟨by decide, hmsg.arg 0⟩
      · cases htext
    · simp only [msgTexts] at htext
      split at htext
      · rw [clean_ctcpTexts_iff hmsg (clean_nickname hmsg.pfx) htext]
        have hcmd : msg.cmd = cstr "PRIVMSG" := hkey.symm
        simp only [Cause.AsksTime, hcmd, true_and]
      · cases htext
  · cases htext

/-- The texts are clean, but for the one with the time. -/
theorem Cause.clean_texts_iff {c : Cause} (h : ∀ str ∈ c.strings s, Clean str) {text : CStr}
    (htext : text ∈ c.texts s) : Clean text ↔ (c.AsksTime → Clean s.clock) := by
  cases c with
  | api c => exact iff_of_true (c.clean_texts h text htext) fun h => h.elim
  | handle msg k =>
    cases k with
    | none => exact clean_replies_iff (cleanMsg_of_strings h) htext
    | some ev => cases htext

/-! ## One line each -/

theorem ApiCall.says_texts (s : Sys) (c : ApiCall) :
    Says (fun _ => True) s (c.texts s.server) (c.perform s) := by
  cases c with
  | join name pass => exact says_ircServerJoin s name pass
  | kick channel target reason =>
    cases reason with
    | none =>
      simp only [texts, perform, ircServerKick, Option.map_none, Option.getD_none, List.append_nil]
      exact says_send s _
    | some reason =>
      simp only [texts, perform, ircServerKick, Option.map_some, Option.getD_some,
        ← List.append_assoc]
      exact says_send s _
  | part channel reason =>
    cases reason with
    | none =>
      simp only [texts, perform, ircServerPart, Option.getD_none, if_true, List.append_nil]
      exact says_send s _
    | some reason =>
      -- an empty reason is left out
      cases reason with
      | nil =>
        simp only [texts, perform, ircServerPart, Option.getD_some, if_true, List.append_nil]
        exact says_send s _
      | cons b reason =>
        simp only [texts, perform, ircServerPart, Option.getD_some, List.cons_ne_nil, if_false,
          List.length_cons, Nat.zero_lt_succ, if_true, ← List.append_assoc]
        exact says_send s _
  | setNickname nickname =>
    simp only [texts, perform, ircServerSetNickname]
    split
    · exact says_send s _
    · exact .update .refl ⟨rfl, .same⟩
  | _ => exact says_send s _

theorem Cause.says_texts {c : Cause} (h : c.run s = some t) :
    Says (fun _ => True) s (c.texts s) t := by
  cases c with
  | api c =>
    cases h
    exact c.says_texts s
  | handle msg k =>
    simp only [run, Option.map_eq_some_iff] at h
    obtain ⟨⟨u, k'⟩, hconsume, rfl⟩ := h
    cases hc : consume s k msg with
    | error e => simp [hc, Except.toOption] at hconsume
    | ok r =>
      obtain rfl : r = (u, k') := by simpa [hc, Except.toOption] using hconsume
      exact says_consume hc

theorem accepted_subset (s : Sys) (texts : List CStr) : accepted s texts ⊆ texts := by
  induction texts generalizing s with
  | nil => simp [accepted]
  | cons text texts ih =>
    intro text' h
    rcases List.mem_append.1 h with h | h
    · split at h
      · exact List.mem_cons.2 (.inl (List.mem_singleton.1 h))
      · cases h
    · exact List.mem_cons_of_mem _ (ih _ h)

/-- Each text that is accepted is appended as one line exactly when it has at least two bytes less
than the buffer of `irc_server_send_va`, and is not the answer to a request for the time unless
the time has no line end. -/
theorem oneLineEach_iff {c : Cause} (h : c.run s = some t)
    (hclean : ∀ str ∈ c.strings s, Clean str) :
    OneLineEach s t ↔ ∀ text ∈ accepted s (c.texts s),
      text.length + 2 ≤ messageLen ∧ (c.AsksTime → Clean s.clock) := by
  rw [(Cause.says_texts h).oneLineEach_texts_iff]
  refine forall_congr' fun text => forall_congr' fun htext => ?_
  rw [Cause.clean_texts_iff hclean (accepted_subset s _ htext)]

/-- A short message is one line. -/
theorem oneLineEach_hello :
    ∃ s, Runs.exec step (Sys.start localServer)
        [.serverConnect (some [⟨3, .done, .inProgress 0⟩]) ⟨none, [], []⟩,
          .conn (.ioEvent .evWrite), .conn (.resumeIo .again [])] = some s ∧
      OneLineEach s ((ApiCall.message (cstr "#c") (cstr "hello")).perform s) := by
  have hrun : (Runs.exec step (Sys.start localServer)
      [.serverConnect (some [⟨3, .done, .inProgress 0⟩]) ⟨none, [], []⟩,
        .conn (.ioEvent .evWrite), .conn (.resumeIo .again [])]).isSome := by decide +kernel
  obtain ⟨s, hs⟩ := Option.isSome_iff_exists.1 hrun
  refine ⟨s, hs, ?_⟩
  refine (oneLineEach_iff (c := .api (.message (cstr "#c") (cstr "hello"))) rfl ?_).2 ?_
  · show ∀ str ∈ [cstr "#c", cstr "hello"], Clean str
    decide
  · intro text htext
    have hmem : text ∈ [cstr "PRIVMSG " ++ cstr "#c" ++ cstr " :" ++ cstr "hello"] := by
      rcases List.mem_append.1 htext with h | h
      · split at h
        · exact h
        · cases h
      · cases h
    obtain rfl := List.mem_singleton.1 hmem
    exact ⟨by decide, fun h => h.elim⟩

/-- While the bot identifies itself a message of 500 bytes to `#c` is cut to 511 bytes, which make
513 with the CRLF. -/
theorem not_oneLineEach_message :
    ∃ s, Runs.exec step (Sys.start localServer)
        [.serverConnect (some [⟨3, .done, .inProgress 0⟩]) ⟨none, [], []⟩,
          .conn (.ioEvent .evWrite), .conn (.resumeIo .again [])] = some s ∧
      (∀ str ∈ (ApiCall.message (cstr "#c") (List.replicate 500 97)).strings, Clean str) ∧
      ¬ OneLineEach s ((ApiCall.message (cstr "#c") (List.replicate 500 97)).perform s) := by
  have hrun : (Runs.exec step (Sys.start localServer)
      [.serverConnect (some [⟨3, .done, .inProgress 0⟩]) ⟨none, [], []⟩,
        .conn (.ioEvent .evWrite), .conn (.resumeIo .again [])]).map (fun s => decide
      (Accepts s.server (cstr "PRIVMSG " ++ cstr "#c" ++ cstr " :" ++ List.replicate 500 97))) =
      some true := by decide +kernel
  obtain ⟨s, hs, haccepts⟩ := Option.map_eq_some_iff.1 hrun
  refine ⟨s, hs, by decide +kernel, fun h => ?_⟩
  have htext := ((ApiCall.says_texts s _).oneLineEach_texts_iff.1 h) _ (List.mem_append_left _ (by
    rw [if_pos (of_decide_eq_true haccepts)]
    exact List.mem_singleton_self _))
  exact absurd htext.1 (by decide +kernel)

end Irccd
