import Irccd.Server.Handlers

/-!
# The NAMES event (`server.c`)

At the end of a list of users `irc_server_handle_endofnames` counts the users of the channel, and
writes each of them to an array of that size. The index of the array is never incremented.

* `namesUsers_cons`: the array holds the last user, and no other;
* `listsUsers_iff`: exactly when the event lists the users of the channel.
-/

namespace Irccd

/-- The entry of a user in the array of the event. -/
def namesEntry (u : IrcChannelUser) : Option CStr × BitVec 32 := (some u.nickname, u.modes)

/-- Writing to the first entry only leaves the last value there. -/
theorem foldl_set_zero {α β : Type*} (f : β → α) (bs : List β) (a : α) (as : List α) :
    bs.foldl (fun array b => array.set 0 (f b)) (a :: as) = (bs.map f).getLastD a :: as := by
  induction bs generalizing a with
  | nil => rfl
  | cons b bs ih =>
    rw [List.foldl_cons, List.set_cons_zero, ih, List.map_cons]
    cases bs.map f <;> rfl

/-- The first entry is the last user, and the others are as `irc_util_calloc` leaves them. -/
theorem namesUsers_cons (u : IrcChannelUser) (us : List IrcChannelUser) :
    namesUsers (u :: us) =
      (us.map namesEntry).getLastD (namesEntry u) :: List.replicate us.length (none, 0) := by
  have hset := foldl_set_zero namesEntry (u :: us) (none, 0) (List.replicate us.length (none, 0))
  rw [List.map_cons] at hset
  show (u :: us).foldl (fun array u => array.set 0 (namesEntry u))
    (List.replicate (us.length + 1) (none, 0)) = _
  rw [List.replicate_succ, hset]
  cases us.map namesEntry <;> rfl

/-- The array has an entry for each user if and only if there are no two. -/
theorem namesUsers_eq_iff (users : List IrcChannelUser) :
    namesUsers users = users.map namesEntry ↔ users.length ≤ 1 := by
  rcases users with _ | ⟨u, _ | ⟨v, us⟩⟩
  · exact iff_of_true rfl (by simp)
  · exact iff_of_true rfl (by simp)
  · -- the second entry is not set
    refine iff_of_false (fun h => ?_) (by simp)
    rw [namesUsers_cons, List.length_cons, List.replicate_succ] at h
    simp only [List.map_cons, List.cons.injEq] at h
    have hnone := congrArg Prod.fst h.2.1
    simp [namesEntry] at hnone

/-- The message that ends the list of users of a channel is answered with a NAMES event, which has
an entry for each user of the channel, in order. -/
def ListsUsers (s : Sys) (msg : ConnMsg) (channel : CStr) (ch : IrcChannel) : Prop :=
  ircServerHandleEndofnames s msg =
    .ok (dispatch s (.names channel (ch.users.map namesEntry)))

theorem dispatch_inj {s : Sys} {ev ev' : IrcEvent} : dispatch s ev = dispatch s ev' ↔ ev = ev' := by
  refine ⟨fun h => ?_, fun h => by rw [h]⟩
  have htrace := congrArg Sys.trace h
  simpa [dispatch, Sys.emit] using htrace

/-- The event lists the users of a tracked channel if and only if the channel has no two users. -/
theorem listsUsers_iff (s : Sys) (msg : ConnMsg) (channel : CStr) (ch : IrcChannel)
    (hchannel : msg.args[1]? = some channel)
    (htracked : ircServerChannelsFind s.server.channels channel = some ch) :
    ListsUsers s msg channel ch ↔ ch.users.length ≤ 1 := by
  have harg : msg.arg 1 = .ok channel := by rw [ConnMsg.arg, hchannel]
  have hhandle : ircServerHandleEndofnames s msg =
      .ok (dispatch s (.names channel (namesUsers ch.users))) := by
    rw [ircServerHandleEndofnames, harg, ok_bind, htracked]
    rfl
  rw [← namesUsers_eq_iff, ListsUsers, hhandle, Except.ok.injEq, dispatch_inj,
    IrcEvent.names.injEq, and_iff_right rfl]

/-- A server that tracks the channel `#games`, with these users. -/
def gamesServer (users : List IrcChannelUser) : Sys :=
  Sys.start { localServer with channels := [⟨cstr "#games", none, true, users⟩] }

/-- The end of the users of `#games`. -/
def gamesEnd : ConnMsg := ⟨some (cstr "irc"), cstr "366", [cstr "bot", cstr "#games", cstr "End"]⟩

theorem listsUsers_one :
    ListsUsers (gamesServer [⟨cstr "jean", 1⟩]) gamesEnd (cstr "#games")
      ⟨cstr "#games", none, true, [⟨cstr "jean", 1⟩]⟩ :=
  (listsUsers_iff _ _ _ _ (by decide) (by decide)).2 (by decide)

/-- Of two users the last one is listed, and then an entry without a nickname. -/
theorem not_forall_listsUsers :
    ¬ ∀ (s : Sys) (msg : ConnMsg) (channel : CStr) (ch : IrcChannel),
      msg.args[1]? = some channel →
      ircServerChannelsFind s.server.channels channel = some ch → ListsUsers s msg channel ch := by
  intro h
  have hlists := h (gamesServer [⟨cstr "jean", 1⟩, ⟨cstr "francis", 0⟩]) gamesEnd (cstr "#games")
    ⟨cstr "#games", none, true, [⟨cstr "jean", 1⟩, ⟨cstr "francis", 0⟩]⟩ (by decide) (by decide)
  rw [ListsUsers] at hlists
  have hevent := dispatch_inj.1 (Except.ok.inj hlists)
  exact absurd hevent (by decide)

end Irccd
