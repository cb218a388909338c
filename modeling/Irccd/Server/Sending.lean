import Irccd.Server.Rejoin

/-!
# Sending lines (`server.c`)

What `irc_server_send` does to a server, and to the lines accepted so far.

* `Accepts`: the text is accepted, which `irc_server_send` tells by its result;
* `pushedLines_ircServerSend`: an accepted text adds one line, any other text none.
-/

namespace Irccd

/-- The line that `irc_server_send` makes of a text: its buffer has room for one byte less than
`IRCCD_MESSAGE_LEN`. -/
def sentLine (text : CStr) : CStr := text.take (messageLen - 1)

/-- The connection of the server is ready, and has room for the line. -/
def Accepts (server : IrcServer) (text : CStr) : Prop :=
  ∃ co ∈ server.coroutine, ircConnReady co.conn = true ∧ co.conn.outb.Fits (sentLine text)

instance (server : IrcServer) (text : CStr) : Decidable (Accepts server text) :=
  inferInstanceAs (Decidable (∃ co ∈ server.coroutine, _))

variable (s : Sys) (text : CStr)

/-- An accepted text is in the output buffer, and the server is the same otherwise. A text that is
refused changes nothing. -/
theorem ircServerSend_cases :
    (Accepts s.server text ∧ ∃ co co' : IrcServerCoro, s.server.coroutine = some co ∧
      co'.conn.outb.contents = co.conn.outb.contents ++ sentLine text ++ crlf ∧
      ircServerSend s text = (0, { s with
        server := { s.server with coroutine := some co' }
        trace := s.trace ++ [.push (sentLine text)] })) ∨
    (¬ Accepts s.server text ∧ ∃ rc < 0, ircServerSend s text = (rc, s)) := by
  -- a connection that is put back unchanged
  have hsame : ∀ {co : IrcServerCoro}, s.server.coroutine = some co →
      s.setNet co ⟨co.conn, s.trace⟩ = s := by
    intro co hco
    obtain ⟨server, trace, listed, clock, stale⟩ := s
    cases server
    obtain rfl : _ = some co := hco
    rfl
  unfold ircServerSend
  cases hco : s.server.coroutine with
  | none => exact .inr ⟨by simp [Accepts, hco], -ENOTCONN, by decide, rfl⟩
  | some co =>
    cases hready : ircConnReady co.conn with
    | false =>
      refine .inr ⟨by simp [Accepts, hco, hready], -ENOTCONN, by decide, ?_⟩
      simp only [connSendLine, hready, Bool.and_false, Bool.false_eq_true, if_false]
      rw [hsame hco]
    | true =>
      simp only [connSendLine, hready, Bool.and_self, if_true, ircConnPush]
      by_cases hfits : co.conn.outb.Fits (text.take (messageLen - 1))
      · rw [dif_pos hfits]
        refine .inl ⟨⟨co, hco, hready, hfits⟩, co, ⟨{ co.conn with
          outb := co.conn.outb.append (text.take (messageLen - 1)) hfits
          io := nceIoReset co.conn.io co.conn.fd .evReadWrite }, co.consumer⟩, rfl, ?_, rfl⟩
        exact OutBuf.contents_append _ _ hfits
      · rw [dif_neg hfits]
        refine .inr ⟨?_, -ENOBUFS, by decide, ?_⟩
        · rintro ⟨co', hco', -, hfits'⟩
          obtain rfl : co = co' := Option.some.inj (hco.symm.trans hco')
          exact hfits hfits'
        · simp only
          rw [hsame hco]

theorem ircServerSend_server :
    (ircServerSend s text).2.server =
      { s.server with coroutine := (ircServerSend s text).2.server.coroutine } := by
  rcases ircServerSend_cases s text with ⟨_, _, _, _, _, heq⟩ | ⟨_, _, _, heq⟩ <;> rw [heq]

@[simp] theorem ircServerSend_channels :
    (ircServerSend s text).2.server.channels = s.server.channels := by
  rw [ircServerSend_server]

/-- Only the channels of a server are changed by `irc_server_join`, besides its connection. -/
theorem ircServerJoin_server (name : CStr) (pass : Option CStr) :
    (ircServerJoin s name pass).2.server =
      { s.server with
        channels := (ircServerJoin s name pass).2.server.channels
        coroutine := (ircServerJoin s name pass).2.server.coroutine } := by
  -- the channel is added to the list if it is not there
  obtain ⟨chs, hadd⟩ : ∃ chs, joinChannel s name pass = s.setChannels chs := by
    unfold joinChannel
    split
    · exact ⟨s.server.channels, rfl⟩
    · exact ⟨_, rfl⟩
  unfold ircServerJoin
  rw [hadd]
  dsimp only
  split
  · split
    · rw [ircServerSend_server]
      rfl
    · rfl
  · rfl

theorem pushedLines_ircServerSend :
    pushedLines (ircServerSend s text).2.trace =
      pushedLines s.trace ++ if Accepts s.server text then [sentLine text] else [] := by
  rcases ircServerSend_cases s text with ⟨h, _, _, _, _, heq⟩ | ⟨h, _, _, heq⟩
  · rw [heq, if_pos h]
    simp [pushedLines]
  · rw [heq, if_neg h, List.append_nil]

@[simp] theorem pushedLines_dispatch (ev : IrcEvent) :
    pushedLines (dispatch s ev).trace = pushedLines s.trace := by
  simp [dispatch, Sys.emit, pushedLines]

end Irccd
