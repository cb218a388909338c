import Irccd.Conn.Effects
import Irccd.Server.Effects
import Mathlib.Data.List.TakeDrop

/-!
# Joining the channels again (`server.c`)

What `irc_server_handle_connect` pushes.

* `DistinctNames`: the channels of a server have different names, ignoring case. Every operation on
  the channel list keeps that;
* `joinLines`: a JOIN line for every channel;
* `pushedLines_rejoin`: the channels that are flagged as joined get no line.
-/

namespace Irccd

/-! ## The channel list -/

/-- The names of the channels differ, ignoring case. -/
def DistinctNames (chs : List IrcChannel) : Prop := (chs.map fun ch => foldCase ch.name).Nodup

theorem map_name_modifyChannel {name : CStr} {f : IrcChannel → IrcChannel} {chs : List IrcChannel}
    (hf : ∀ ch, ircServerChannelsFind chs name = some ch → (f ch).name = ch.name) :
    (modifyChannel name f chs).map (foldCase ·.name) = chs.map (foldCase ·.name) := by
  induction chs with
  | nil => rfl
  | cons ch chs ih =>
    rw [modifyChannel]
    by_cases hname : strcasecmp ch.name name = true
    · have hfch : (f ch).name = ch.name := hf ch (by simp [ircServerChannelsFind, hname])
      rw [if_pos hname, List.map_cons, List.map_cons, hfch]
    · rw [if_neg hname, List.map_cons, List.map_cons, ih fun c hc => hf c ?_]
      simpa [ircServerChannelsFind, hname] using hc

theorem ChannelsOp.distinctNames {chs chs' : List IrcChannel} (h : ChannelsOp chs chs')
    (hd : DistinctNames chs) : DistinctNames chs' := by
  cases h with
  | same => exact hd
  | modify name hf =>
    unfold DistinctNames at hd ⊢
    rwa [map_name_modifyChannel hf]
  | remove name =>
    exact hd.sublist ((List.eraseP_sublist).map _)
  | add name password joined =>
    unfold ircServerChannelsAdd
    cases hfind : ircServerChannelsFind chs name with
    | some ch =>
      have hmap := @map_name_modifyChannel name
        (fun ch => { ch with joined := ch.joined || joined }) chs fun _ _ => rfl
      rw [Option.isSome_some, if_pos rfl, DistinctNames, hmap]
      exact hd
    | none =>
      -- the new name is stored in lower case, and `strcasecmp` found no channel with it
      rw [Option.isSome_none, if_neg (by simp), DistinctNames, List.map_cons, List.nodup_cons]
      refine ⟨fun hmem => ?_, hd⟩
      obtain ⟨ch, hch, hname⟩ := List.mem_map.1 hmem
      have hne := List.find?_eq_none.1 hfind ch hch
      simp [hname] at hne

theorem DistinctNames.clear {chs : List IrcChannel} (hd : DistinctNames chs) :
    DistinctNames (ircServerChannelsClear chs) := by
  unfold DistinctNames ircServerChannelsClear at *
  rw [List.map_map]
  exact hd

/-- A channel of the list is the one found under its name. -/
theorem DistinctNames.find_eq {chs : List IrcChannel} (hd : DistinctNames chs) {ch : IrcChannel}
    (hch : ch ∈ chs) : ircServerChannelsFind chs ch.name = some ch := by
  induction chs with
  | nil => cases hch
  | cons c chs ih =>
    rw [DistinctNames, List.map_cons, List.nodup_cons] at hd
    obtain ⟨hc, hd⟩ := hd
    rw [ircServerChannelsFind, List.find?_cons]
    rcases List.mem_cons.1 hch with rfl | hch
    · rw [strcasecmp_self]
    · have hne : strcasecmp c.name ch.name = false := by
        rw [Bool.eq_false_iff, ne_eq, strcasecmp_iff]
        exact fun heq => hc (List.mem_map.2 ⟨ch, hch, heq.symm⟩)
      rw [hne]
      exact ih hd hch

/-! ## JOIN lines -/

/-- The lines accepted by `irc__conn_push`. -/
def pushedLines (trace : List Call) : List CStr :=
  trace.filterMap fun c =>
    match c with
    | .push line => some line
    | _ => none

/-- The JOIN line of a channel, with its password if it has one. -/
def joinLine (ch : IrcChannel) : CStr := joinText ch.name ch.password

/-- A JOIN line for every channel. -/
def joinLines (server : IrcServer) : List CStr := server.channels.map joinLine

/-- `irc_server_send` on a connection that is ready and has room for the text. -/
theorem ircServerSend_of_fits {s : Sys} {co : IrcServerCoro}
    (hco : s.server.coroutine = some co) (hready : ircConnReady co.conn = true) {text : CStr}
    (hfits : co.conn.outb.Fits (text.take (messageLen - 1))) :
    ∃ co', (ircServerSend s text).2 = { s with
        server := { s.server with coroutine := some co' }
        trace := s.trace ++ [.push (text.take (messageLen - 1))] } ∧
      ircConnReady co'.conn = true ∧
      co'.conn.outb.outsz = co.conn.outb.outsz + (text.take (messageLen - 1)).length + 2 := by
  have hready' : ircConnReady (⟨co.conn, s.trace⟩ : Net).conn = true := hready
  unfold ircServerSend
  rw [hco]
  rcases connSendLine_cases hready' text with ⟨hfits', heq⟩ | ⟨hnot, -⟩
  · refine ⟨{ co with conn := { co.conn with
      outb := co.conn.outb.append (text.take (messageLen - 1)) hfits'
      io := nceIoReset co.conn.io co.conn.fd .evReadWrite } }, ?_, hready, rfl⟩
    simp only [Sys.setNet, heq]
  · exact absurd hfits hnot

theorem ircServerJoin_of_mem {s : Sys} (hd : DistinctNames s.server.channels) {ch : IrcChannel}
    (hch : ch ∈ s.server.channels) :
    (ircServerJoin s ch.name ch.password).2 =
      if !ch.joined && ircServerReady s.server then (ircServerSend s (joinLine ch)).2 else s :=
  ircServerJoin_of_find (hd.find_eq hch) ch.password

/-- The loop of `irc_server_handle_connect` on a connection that is ready. -/
theorem pushedLines_foldl_join (chs : List IrcChannel) {s : Sys} {co : IrcServerCoro}
    (hco : s.server.coroutine = some co) (hready : ircConnReady co.conn = true)
    (hd : DistinctNames s.server.channels) (hchs : ∀ ch ∈ chs, ch ∈ s.server.channels)
    (hroom : co.conn.outb.outsz + (wire (chs.map joinLine)).length < connOutSize) :
    pushedLines (chs.foldl (fun s ch => (ircServerJoin s ch.name ch.password).2) s).trace =
      pushedLines s.trace ++
        (chs.filter (!·.joined)).map fun ch => (joinLine ch).take (messageLen - 1) := by
  -- each line takes its part of the room, which the next connection has less of
  induction chs generalizing s co with
  | nil => simp
  | cons ch chs ih =>
    obtain ⟨hch, hchs⟩ := List.forall_mem_cons.1 hchs
    have hready' : ircServerReady s.server = true := (ircServerReady_of_some hco).trans hready
    have hwire : (wire ((ch :: chs).map joinLine)).length =
        (joinLine ch).length + 2 + (wire (chs.map joinLine)).length := by
      simp [wire, crlf]
      omega
    rw [List.foldl_cons, ircServerJoin_of_mem hd hch, hready', Bool.and_true]
    cases hjoined : ch.joined with
    | true =>
      -- `irc_server_join` does nothing for a channel that is flagged
      rw [Bool.not_true, if_neg (by simp), ih hco hready hd hchs (by omega), List.filter_cons,
        hjoined, Bool.not_true, if_neg (by simp)]
    | false =>
      have hlen : ((joinLine ch).take (messageLen - 1)).length ≤ (joinLine ch).length := by
        rw [List.length_take]
        omega
      have hfits : co.conn.outb.Fits ((joinLine ch).take (messageLen - 1)) := by
        rw [OutBuf.Fits]
        omega
      obtain ⟨co', heq, hready'', hsize⟩ := ircServerSend_of_fits hco hready hfits
      rw [Bool.not_false, if_pos rfl, heq]
      have hrest := @ih { s with
          server := { s.server with coroutine := some co' }
          trace := s.trace ++ [.push ((joinLine ch).take (messageLen - 1))] } co' rfl hready'' hd
        hchs (by omega)
      rw [hrest]
      simp [pushedLines, hjoined]

/-- A connection that is not ready gets no JOIN line. -/
theorem foldl_join_of_not_ready (chs : List IrcChannel) {s : Sys}
    (hready : ircServerReady s.server = false) (hd : DistinctNames s.server.channels)
    (hchs : ∀ ch ∈ chs, ch ∈ s.server.channels) :
    chs.foldl (fun s ch => (ircServerJoin s ch.name ch.password).2) s = s := by
  induction chs with
  | nil => rfl
  | cons ch chs ih =>
    obtain ⟨hch, hchs⟩ := List.forall_mem_cons.1 hchs
    rw [List.foldl_cons, ircServerJoin_of_mem hd hch, hready, Bool.and_false, if_neg (by simp),
      ih hchs]

/-- Selecting and mapping gives the image of the whole list exactly when everything is selected and
mapped as in the image. -/
theorem map_filter_eq_map_iff {α β : Type*} {l : List α} {p : α → Bool} {f g : α → β} :
    (l.filter p).map f = l.map g ↔ ∀ x ∈ l, p x = true ∧ f x = g x := by
  induction l with
  | nil => simp
  | cons a l ih =>
    rw [List.forall_mem_cons, ← ih, List.filter_cons]
    cases hp : p a with
    | true => simp
    | false =>
      refine iff_of_false (fun heq => ?_) (by simp)
      have hlen := congrArg List.length heq
      have := List.length_filter_le p l
      simp only [Bool.false_eq_true, if_false, List.length_map, List.length_cons] at hlen
      omega

/-- `irc_server_handle_connect` pushes a JOIN line for every channel exactly when the connection is
ready, no channel is flagged as joined, and every line is short enough. -/
theorem pushedLines_rejoin_iff {s : Sys} {co : IrcServerCoro} (hco : s.server.coroutine = some co)
    (hd : DistinctNames s.server.channels)
    (hroom : co.conn.outb.outsz + (wire (joinLines s.server)).length < connOutSize) :
    pushedLines (rejoin s).trace = pushedLines s.trace ++ joinLines s.server ↔
      ∀ ch ∈ s.server.channels,
        ircConnReady co.conn = true ∧ ch.joined = false ∧ (joinLine ch).length < messageLen := by
  have htake : ∀ line : CStr, line.take (messageLen - 1) = line ↔ line.length < messageLen := by
    intro line
    rw [List.take_eq_self_iff, messageLen]
    omega
  cases hready : ircConnReady co.conn with
  | true =>
    rw [rejoin, pushedLines_foldl_join _ hco hready hd (fun _ h => h) hroom,
      List.append_cancel_left_eq, joinLines, map_filter_eq_map_iff]
    simp only [htake, Bool.not_eq_true', true_and]
  | false =>
    have hready' : ircServerReady s.server = false := (ircServerReady_of_some hco).trans hready
    rw [rejoin, foldl_join_of_not_ready _ hready' hd fun _ h => h]
    simp only [Bool.false_eq_true, false_and, List.self_eq_append_right, joinLines,
      List.map_eq_nil_iff, imp_false]
    exact List.eq_nil_iff_forall_not_mem

end Irccd
