import Irccd.Server.Basic

/-!
# The channel of a message (`server.c`)

The operations on the channel list act on one channel, the first with the name of the message.

* `ChannelAt`: that channel, with those before and after it;
* a lemma for each operation of the source on a list that is cut there.
-/

namespace Irccd

/-- The first channel of the list that has the name, ignoring case, is `ch`. -/
structure ChannelAt (chs : List IrcChannel) (name : CStr) (before : List IrcChannel)
    (ch : IrcChannel) (after : List IrcChannel) : Prop where
  eq : chs = before ++ ch :: after
  before : ∀ c ∈ before, strcasecmp c.name name = false
  name : strcasecmp ch.name name = true

variable {chs before after : List IrcChannel} {name : CStr} {ch : IrcChannel}

theorem exists_channelAt (h : ircServerChannelsFind chs name = some ch) :
    ∃ before after, ChannelAt chs name before ch after := by
  obtain ⟨hch, before, after, rfl, hbefore⟩ := List.find?_eq_some_iff_append.1 h
  exact ⟨before, after, rfl, fun c hc => by simpa using hbefore c hc, hch⟩

/-- There is nothing to change when no channel has the name. -/
theorem modifyChannel_of_find_eq_none (h : ircServerChannelsFind chs name = none)
    (f : IrcChannel → IrcChannel) : modifyChannel name f chs = chs := by
  induction chs with
  | nil => rfl
  | cons c chs ih =>
    obtain ⟨hc, hchs⟩ := List.forall_mem_cons.1 (List.find?_eq_none.1 h)
    rw [modifyChannel, if_neg hc, ih (List.find?_eq_none.2 hchs)]

namespace ChannelAt

theorem find (h : ChannelAt chs name before ch after) :
    ircServerChannelsFind chs name = some ch := by
  refine List.find?_eq_some_iff_append.2 ⟨h.name, before, after, h.eq, fun c hc => ?_⟩
  simp [h.before c hc]

/-- A channel that keeps its name is still the first one. -/
theorem replace (h : ChannelAt chs name before ch after) {ch' : IrcChannel}
    (hname : ch'.name = ch.name) :
    ChannelAt (before ++ ch' :: after) name before ch' after :=
  ⟨rfl, h.before, by rw [hname]; exact h.name⟩

/-- Names are compared ignoring case. -/
theorem congr (h : ChannelAt chs name before ch after) {name' : CStr}
    (hname : foldCase name' = foldCase name) : ChannelAt chs name' before ch after := by
  have hsame : ∀ c : IrcChannel, strcasecmp c.name name' = strcasecmp c.name name := by
    intro c
    rw [strcasecmp, strcasecmp, hname]
  exact ⟨h.eq, fun c hc => (hsame c).trans (h.before c hc), (hsame ch).trans h.name⟩

/-- The channel is also the first one under its own name. -/
theorem of_name (h : ChannelAt chs name before ch after) :
    ChannelAt chs ch.name before ch after :=
  h.congr (strcasecmp_iff.1 h.name)

theorem modify (h : ChannelAt chs name before ch after) (f : IrcChannel → IrcChannel) :
    modifyChannel name f chs = before ++ f ch :: after := by
  obtain ⟨rfl, hbefore, hname⟩ := h
  induction before with
  | nil => rw [List.nil_append, modifyChannel, if_pos hname, List.nil_append]
  | cons c before ih =>
    obtain ⟨hc, hbefore⟩ := List.forall_mem_cons.1 hbefore
    rw [List.cons_append, modifyChannel, hc, if_neg (by simp), ih hbefore, List.cons_append]

theorem remove (h : ChannelAt chs name before ch after) :
    ircServerChannelsRemove chs name = before ++ after := by
  obtain ⟨rfl, hbefore, hname⟩ := h
  rw [ircServerChannelsRemove, List.eraseP_append_right _ fun c hc => by simp [hbefore c hc],
    List.eraseP_cons, hname, cond_true]

/-- Adding a channel that is there only sets its flag. -/
theorem add (h : ChannelAt chs name before ch after) (password : Option CStr) (joined : Bool) :
    ircServerChannelsAdd chs name password joined =
      before ++ { ch with joined := ch.joined || joined } :: after := by
  rw [ircServerChannelsAdd, h.find, Option.isSome_some, if_pos rfl, h.modify]

/-- Adding a channel that is joined changes nothing. -/
theorem add_of_joined (h : ChannelAt chs name before ch after) (hjoined : ch.joined = true)
    (password : Option CStr) (joined : Bool) :
    ircServerChannelsAdd chs name password joined = chs := by
  -- the flag is set already
  have hsame : { ch with joined := ch.joined || joined } = ch := by
    rw [hjoined, Bool.true_or, ← hjoined]
  rw [h.add, hsame, ← h.eq]

end ChannelAt

end Irccd
