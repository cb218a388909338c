import Irccd.Conn.Parsing
import Irccd.Server.Api
import Irccd.Server.Sending

/-!
# Actions (`server.c`)

`irc_server_me` sends an action between two `\x01` bytes. The IRC server relays the line with the
origin before it, and `irc_server_handle_msg` takes the marks away.

* `actionLine`, `relayed`: the line that is sent, and the one that the other clients get;
* `ircConnMsgCtcp_actionText`: the marks are taken away, and nothing else;
* `ircServerMe_roundTrip`: the event has the text of the action.
-/

namespace Irccd

/-- The text of an action with its marks. -/
def actionText (text : CStr) : CStr := cstr "\x01ACTION " ++ text ++ cstr "\x01"

/-- The line of an action. -/
def actionLine (chan text : CStr) : CStr :=
  cstr "PRIVMSG" ++ formatArgs [chan] (some (actionText text))

/-- A line as the IRC server relays it. -/
def relayed (origin line : CStr) : CStr := cstr ":" ++ origin ++ cstr " " ++ line

section Actions

variable {origin chan text line : CStr}

theorem ircServerMe_eq (s : Sys) (chan text : CStr) :
    ircServerMe s chan text = ircServerSend s (actionLine chan text) := by
  rw [ircServerMe, actionLine, formatArgs, actionText]
  simp [cstr, SP]

/-- A text with marks is a CTCP request. -/
theorem ircConnMsgIsCtcp_actionText (text : CStr) :
    ircConnMsgIsCtcp (actionText text) = true := by
  have hlast : (actionText text).getLast? = some 1 := List.getLast?_concat
  have hlen : ¬ (actionText text).length < 2 := by
    simp [actionText, cstr]
  rw [ircConnMsgIsCtcp, if_neg hlen, hlast]
  rfl

/-- The marks are taken away, and nothing else. -/
theorem ircConnMsgCtcp_actionText (htext : 1 ∉ text) :
    ircConnMsgCtcp (actionText text) = text := by
  have hmark : cstr "\x01ACTION " = 1 :: cstr "ACTION " := rfl
  have hend : cstr "\x01" = [1] := rfl
  have hword : (1 : UInt8) ∉ cstr "ACTION " ++ text := by
    rw [List.mem_append, not_or]
    exact ⟨by decide, htext⟩
  have hline : (actionText text).drop 1 = cstr "ACTION " ++ text ++ [1] := by
    rw [actionText, hmark, hend]
    rfl
  have hcut : (cstr "ACTION " ++ text ++ [1]).takeWhile (· != 1) = cstr "ACTION " ++ text :=
    Terminated.takeWhile_of_not_mem hword []
  have hhead : ((actionText text).head? == some 1) = true := rfl
  have hlen : (cstr "ACTION ").length = 7 := by decide
  rw [ircConnMsgCtcp, if_pos hhead, hline, hcut, ← hlen, List.take_left, if_pos rfl, List.drop_left]

/-- The message of the relayed line. -/
theorem ircConnMsgParse_relayed (horigin : SP ∉ origin ∧ 0 ∉ origin) (hchan : MsgArg chan)
    (htext : 0 ∉ text) :
    (ircConnMsgParse (relayed origin (actionLine chan text))
      (relayed origin (actionLine chan text)).length).2 =
      ⟨some origin, cstr "PRIVMSG", [chan, actionText text]⟩ := by
  have hline : relayed origin (actionLine chan text) =
      formatMsg (some origin) (cstr "PRIVMSG") [chan] (some (actionText text)) := by
    simp [relayed, actionLine, formatMsg]
  have hmarked : 0 ∉ actionText text := by
    simp only [actionText, List.mem_append, not_or]
    exact ⟨⟨by decide, htext⟩, by decide⟩
  have hparse := @ircConnMsgParse_formatMsg (some origin) (some (actionText text))
    (cstr "PRIVMSG") [chan] (by simpa using horigin) (by decide) (by simpa using hchan)
    (by simpa using hmarked) []
  rw [List.append_nil] at hparse
  rw [hline, hparse]
  rfl

/-- The message is handled as an action. -/
theorem ircServerHandleMsg_action (t : Sys) (origin chan : CStr) (htext : 1 ∉ text) :
    ircServerHandleMsg t ⟨some origin, cstr "PRIVMSG", [chan, actionText text]⟩ =
      .ok (dispatch t (.me ⟨origin, chan, text⟩)) := by
  have harg : ConnMsg.arg ⟨some origin, cstr "PRIVMSG", [chan, actionText text]⟩ 1 =
      .ok (actionText text) := rfl
  have haction : (actionText text).take 7 = cstr "\x01ACTION" := rfl
  have horigin : ircUtilStrdup (some origin) = .ok origin := rfl
  rw [ircServerHandleMsg, harg, ok_bind, if_pos (ircConnMsgIsCtcp_actionText text), horigin,
    ok_bind, haction, if_pos rfl, ircConnMsgCtcp_actionText htext]
  rfl

/-- The line that `irc_server_me` has pushed. -/
theorem eq_sentLine_of_pushed {s : Sys} {text line : CStr}
    (hpush : (ircServerSend s text).2.trace = s.trace ++ [.push line]) : line = sentLine text := by
  rcases ircServerSend_cases s text with ⟨-, co, co', -, -, heq⟩ | ⟨-, rc, -, heq⟩
  · rw [heq] at hpush
    simpa using (List.append_cancel_left hpush).symm
  · rw [heq] at hpush
    simp at hpush

/-- When the relayed line is not too long, what `irc_server_me` pushes comes back as an ME event
with the origin, the channel and the text. -/
theorem ircServerMe_roundTrip (s t : Sys) (horigin : SP ∉ origin ∧ 0 ∉ origin)
    (hchan : MsgArg chan) (htext : 1 ∉ text ∧ 0 ∉ text)
    (hlen : (relayed origin (actionLine chan text)).length < messageLen)
    (hpush : (ircServerMe s chan text).2.trace = s.trace ++ [.push line]) :
    ircServerHandleMsg t
        (ircConnMsgParse (relayed origin line) (relayed origin line).length).2 =
      .ok (dispatch t (.me ⟨origin, chan, text⟩)) := by
  rw [ircServerMe_eq] at hpush
  -- the line is not cut
  have hshort : (actionLine chan text).length ≤ messageLen - 1 := by
    rw [relayed, List.length_append] at hlen
    omega
  obtain rfl : line = actionLine chan text := by
    rw [eq_sentLine_of_pushed hpush, sentLine, List.take_of_length_le hshort]
  rw [ircConnMsgParse_relayed horigin hchan htext.2]
  exact ircServerHandleMsg_action t origin chan htext.1

/-- A server with a connection that is ready. -/
def readyServer : Sys :=
  Sys.start { localServer with
    coroutine := some ⟨{ connAlloc ⟨none, [], []⟩ with state := .ready }, none⟩ }

/-- An action whose text starts with the keyword. -/
theorem ircServerMe_roundTrip_keyword :
    let line := cstr "PRIVMSG #games :\x01ACTION ACTION :bows\x01"
    ircServerHandleMsg readyServer
        (ircConnMsgParse (relayed (cstr "jean!j@host") line)
          (relayed (cstr "jean!j@host") line).length).2 =
      .ok (dispatch readyServer (.me ⟨cstr "jean!j@host", cstr "#games", cstr "ACTION :bows"⟩)) :=
  ircServerMe_roundTrip readyServer readyServer (by decide) (by decide) (by decide) (by decide) rfl

end Actions

end Irccd
