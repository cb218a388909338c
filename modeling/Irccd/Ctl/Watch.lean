import Irccd.Peer.Commands
import Mathlib.Data.List.Find

/-!
# Watching events (`irccdctl.c`)

The daemon prints an event as a line with `irc_event_str`. `irccdctl watch` cuts the line in words,
and prints each of them beside a label.

* `ircEventStr`: `irc_event_str`, into a buffer of some size;
* `watchtable`, `showEvent`: the printers of irccdctl, and `show`;
* `Survives`: irccdctl prints the fields of the event;
* `ShownCond`: when it does.
-/

namespace Irccd

/-! ## The line of an event -/

/-- The text that `irc_event_str` gives to `snprintf`. Events of the other types have none. -/
def eventText (server : CStr) : IrcEvent → CStr
  | .connect => cstr "EVENT-CONNECT" ++ spaced [server]
  | .disconnect => cstr "EVENT-DISCONNECT" ++ spaced [server]
  | .invite origin channel => cstr "EVENT-INVITE" ++ spaced [server, origin, channel]
  | .join origin channel => cstr "EVENT-JOIN" ++ spaced [server, origin, channel]
  | .kick origin channel target reason =>
    cstr "EVENT-KICK" ++ spaced [server, origin, channel, target, reason.getD []]
  | .me m => cstr "EVENT-ME" ++ spaced [server, m.origin, m.channel, m.message]
  | .message m => cstr "EVENT-MESSAGE" ++ spaced [server, m.origin, m.channel, m.message]
  | .mode origin channel mode _ =>
    cstr "EVENT-MODE" ++ spaced [server, origin, channel, mode] ++ [SP]
  | .nick origin nickname => cstr "EVENT-NICK" ++ spaced [server, origin, nickname]
  | .notice origin channel notice =>
    cstr "EVENT-NOTICE" ++ spaced [server, origin, channel, notice]
  | .part origin channel reason =>
    cstr "EVENT-PART" ++ spaced [server, origin, channel, reason.getD []]
  | .topic origin channel topic => cstr "EVENT-TOPIC" ++ spaced [server, origin, channel, topic]
  | .whois w =>
    cstr "EVENT-WHOIS" ++ spaced [server, w.nickname, w.username, w.realname, w.hostname]
  | .unknown => []
  | .command _ => []
  | .names _ _ => []

/-- `irc_util_strlcat (str, text, strsz)`: the length it tries to make, and the string. -/
def ircUtilStrlcat (str text : CStr) (strsz : ℕ) : ℕ × CStr :=
  (str.length + text.length, (str ++ text).take (strsz - 1))

/-- `irc_event_str` into a buffer that is empty at first: the status and the buffer. -/
def ircEventStr (server : CStr) (ev : IrcEvent) (strsz : ℕ) : ℤ × CStr :=
  let text := eventText server ev
  let str := text.take (strsz - 1)
  let (written, str) :=
    match ev with
    -- what counts is the last argument added, and there may be none
    | .mode _ _ _ args => args.foldl (fun r arg => ircUtilStrlcat r.2 arg strsz) (0, str)
    -- the result of `snprintf` is dropped
    | .whois _ => (0, str)
    | _ => (text.length, str)
  (if written = 0 then -1 else 0, str)

/-! ## The printers of irccdctl -/

/-- `printf ("%-16s%s\n", label, value)` -/
def printField (field : String × CStr) : CStr :=
  let label := cstr field.1
  label ++ List.replicate (16 - label.length) SP ++ field.2 ++ [LF]

/-- `irc_util_split` on spaces, whose loop is the one of `parse`. -/
def ircUtilSplit (line : CStr) (max : ℕ) : List CStr :=
  if line = [] then [] else parseWords max line

/-- `args[i]` for `%s`, which prints a NULL as `(null)`. -/
def argText (args : List CStr) (i : ℕ) : CStr := args[i]?.getD (cstr "(null)")

/-- A printer: it cuts the line in at most `max` words, and prints nothing unless there are
enough. -/
def showFields (max : ℕ) (enough : ℕ → Bool) (fields : List CStr → List (String × CStr))
    (line : CStr) : CStr :=
  let args := ircUtilSplit line max
  if enough args.length then (fields args).flatMap printField else []

/-- `show_connect` -/
def showConnect : CStr → CStr := showFields 2 (· == 2) fun args =>
  [("event:", cstr "onConnect"), ("server:", argText args 0)]

/-- `show_disconnect` -/
def showDisconnect : CStr → CStr := showFields 2 (· == 2) fun args =>
  [("event:", cstr "onDisonnect"), ("server:", argText args 0)]

/-- `show_invite` -/
def showInvite : CStr → CStr := showFields 5 (· == 5) fun args =>
  [("event:", cstr "onInvite"), ("server:", argText args 1), ("origin:", argText args 2),
    ("channel:", argText args 3), ("nickname:", argText args 4)]

/-- `show_join` -/
def showJoin : CStr → CStr := showFields 4 (· == 4) fun args =>
  [("event:", cstr "onJoin"), ("server:", argText args 1), ("origin:", argText args 2),
    ("channel:", argText args 3)]

/-- `show_kick` -/
def showKick : CStr → CStr := showFields 6 (5 ≤ ·) fun args =>
  [("event:", cstr "onKick"), ("server:", argText args 1), ("origin:", argText args 2),
    ("channel:", argText args 3), ("target:", argText args 4), ("reason:", args.getD 5 [])]

/-- `show_me` -/
def showMe : CStr → CStr := showFields 5 (· == 5) fun args =>
  [("event:", cstr "onMe"), ("server:", argText args 1), ("origin:", argText args 2),
    ("channel:", argText args 3), ("message:", argText args 4)]

/-- `show_message` -/
def showMessage : CStr → CStr := showFields 5 (· == 5) fun args =>
  [("event:", cstr "onMessage"), ("server:", argText args 1), ("origin:", argText args 2),
    ("channel:", argText args 3), ("message:", argText args 4)]

/-- `show_mode`: each word after the channel, with a space behind it. -/
def showMode : CStr → CStr := showFields 8 (5 ≤ ·) fun args =>
  [("event:", cstr "onMode"), ("server:", argText args 1), ("origin:", argText args 2),
    ("channel:", argText args 3), ("mode: ", (args.drop 4).flatMap (· ++ [SP]))]

/-- `show_nick` -/
def showNick : CStr → CStr := showFields 4 (· == 4) fun args =>
  [("event:", cstr "onNick"), ("server:", argText args 1), ("origin:", argText args 2),
    ("nickname:", argText args 3)]

/-- `show_notice` -/
def showNotice : CStr → CStr := showFields 5 (· == 5) fun args =>
  [("event:", cstr "onNotice"), ("server:", argText args 1), ("origin:", argText args 2),
    ("channel:", argText args 3), ("message:", argText args 4)]

/-- `show_part` -/
def showPart : CStr → CStr := showFields 5 (4 ≤ ·) fun args =>
  [("event:", cstr "onPart"), ("server:", argText args 1), ("origin:", argText args 2),
    ("channel:", argText args 3), ("reason:", args.getD 4 [])]

/-- `show_topic` -/
def showTopic : CStr → CStr := showFields 5 (4 ≤ ·) fun args =>
  [("event:", cstr "onTopic"), ("server:", argText args 1), ("origin:", argText args 2),
    ("channel:", argText args 3), ("topic:", argText args 4)]

/-- `show_whois` -/
def showWhois : CStr → CStr := showFields 6 (4 ≤ ·) fun args =>
  [("event:", cstr "onWhois"), ("server:", argText args 1), ("nickname:", argText args 2),
    ("username:", argText args 3), ("hostname:", argText args 4), ("username:", argText args 5)]

/-- `watchtable` -/
def watchtable : List (CStr × (CStr → CStr)) := [
  (cstr "EVENT-CONNECT", showConnect),
  (cstr "EVENT-DISCONNECT", showDisconnect),
  (cstr "EVENT-INVITE", showInvite),
  (cstr "EVENT-JOIN", showJoin),
  (cstr "EVENT-KICK", showKick),
  (cstr "EVENT-MESSAGE", showMessage),
  (cstr "EVENT-ME", showMe),
  (cstr "EVENT-MODE", showMode),
  (cstr "EVENT-NICK", showNick),
  (cstr "EVENT-NOTICE", showNotice),
  (cstr "EVENT-PART", showPart),
  (cstr "EVENT-TOPIC", showTopic),
  (cstr "EVENT-WHOIS", showWhois)]

/-- The entry of the table that `show` uses: the first that the line starts with. -/
def watchEntry (ev : CStr) : Option (CStr × (CStr → CStr)) :=
  watchtable.find? fun entry => strncmp entry.1 ev entry.1.length

/-- `show`: what is printed. -/
def showEvent (ev : CStr) : CStr :=
  match watchEntry ev with
  | some entry => entry.2 ev ++ [LF]
  | none => []

/-! ## What should be printed -/

/-- The entry of an event, and the name that its printer gives to it. -/
def watchName : IrcEvent → CStr × CStr
  | .connect => (cstr "EVENT-CONNECT", cstr "onConnect")
  | .disconnect => (cstr "EVENT-DISCONNECT", cstr "onDisonnect")
  | .invite _ _ => (cstr "EVENT-INVITE", cstr "onInvite")
  | .join _ _ => (cstr "EVENT-JOIN", cstr "onJoin")
  | .kick _ _ _ _ => (cstr "EVENT-KICK", cstr "onKick")
  | .me _ => (cstr "EVENT-ME", cstr "onMe")
  | .message _ => (cstr "EVENT-MESSAGE", cstr "onMessage")
  | .mode _ _ _ _ => (cstr "EVENT-MODE", cstr "onMode")
  | .nick _ _ => (cstr "EVENT-NICK", cstr "onNick")
  | .notice _ _ _ => (cstr "EVENT-NOTICE", cstr "onNotice")
  | .part _ _ _ => (cstr "EVENT-PART", cstr "onPart")
  | .topic _ _ _ => (cstr "EVENT-TOPIC", cstr "onTopic")
  | .whois _ => (cstr "EVENT-WHOIS", cstr "onWhois")
  | .unknown => ([], [])
  | .command _ => ([], [])
  | .names _ _ => ([], [])

/-- The fields of an event under their labels. An absent reason is empty, and the words of a MODE
have a space behind them. -/
def eventFields (server : CStr) : IrcEvent → List (String × CStr)
  | .connect => [("server:", server)]
  | .disconnect => [("server:", server)]
  | .invite origin channel => [("server:", server), ("origin:", origin), ("channel:", channel)]
  | .join origin channel => [("server:", server), ("origin:", origin), ("channel:", channel)]
  | .kick origin channel target reason =>
    [("server:", server), ("origin:", origin), ("channel:", channel), ("target:", target),
      ("reason:", reason.getD [])]
  | .me m =>
    [("server:", server), ("origin:", m.origin), ("channel:", m.channel), ("message:", m.message)]
  | .message m =>
    [("server:", server), ("origin:", m.origin), ("channel:", m.channel), ("message:", m.message)]
  | .mode origin channel mode args =>
    [("server:", server), ("origin:", origin), ("channel:", channel),
      ("mode: ", (mode :: args).flatMap (· ++ [SP]))]
  | .nick origin nickname => [("server:", server), ("origin:", origin), ("nickname:", nickname)]
  | .notice origin channel notice =>
    [("server:", server), ("origin:", origin), ("channel:", channel), ("message:", notice)]
  | .part origin channel reason =>
    [("server:", server), ("origin:", origin), ("channel:", channel),
      ("reason:", reason.getD [])]
  | .topic origin channel topic =>
    [("server:", server), ("origin:", origin), ("channel:", channel), ("topic:", topic)]
  | .whois w =>
    [("server:", server), ("nickname:", w.nickname), ("username:", w.username),
      ("hostname:", w.hostname), ("realname:", w.realname)]
  | .unknown => []
  | .command _ => []
  | .names _ _ => []

/-- The event with all of its fields. -/
def report (server : CStr) (ev : IrcEvent) : CStr :=
  (("event:", (watchName ev).2) :: eventFields server ev).flatMap printField ++ [LF]

/-- The daemon makes a line of the event, for which irccdctl calls the printer of the event. It
prints all of its fields. -/
def Survives (server : CStr) (ev : IrcEvent) (strsz : ℕ) : Prop :=
  let (status, line) := ircEventStr server ev strsz
  status = 0 ∧ (watchEntry line).map Prod.fst = some (watchName ev).1 ∧
    showEvent line = report server ev

/-- A field that is not free text. -/
def EventWord (w : CStr) : Prop := w ≠ [] ∧ SP ∉ w

instance (w : CStr) : Decidable (EventWord w) := inferInstanceAs (Decidable (_ ∧ _))

/-- An event that irccdctl knows. Its fields are words, but for the last one when it is free
text. -/
def Watchable (server : CStr) (ev : IrcEvent) : Prop :=
  EventWord server ∧
    match ev with
    | .connect => True
    | .disconnect => True
    | .invite origin channel => EventWord origin ∧ EventWord channel
    | .join origin channel => EventWord origin ∧ EventWord channel
    | .kick origin channel target _ => EventWord origin ∧ EventWord channel ∧ EventWord target
    | .me m => EventWord m.origin ∧ EventWord m.channel
    | .message m => EventWord m.origin ∧ EventWord m.channel
    | .mode origin channel mode args =>
      EventWord origin ∧ EventWord channel ∧ EventWord mode ∧ ∀ a ∈ args, EventWord a
    | .nick origin nickname => EventWord origin ∧ EventWord nickname
    | .notice origin channel _ => EventWord origin ∧ EventWord channel
    | .part origin channel _ => EventWord origin ∧ EventWord channel
    | .topic origin channel _ => EventWord origin ∧ EventWord channel
    | .whois w => EventWord w.nickname ∧ EventWord w.username
    | .unknown => False
    | .command _ => False
    | .names _ _ => False

/-- The text of an event, with no limit. -/
def eventLine (server : CStr) (ev : IrcEvent) : CStr :=
  eventText server ev ++
    match ev with
    | .mode _ _ _ args => args.flatten
    | _ => []

/-- The events whose text is written in one go, and counted. -/
def isPlain : IrcEvent → Bool
  | .mode _ _ _ _ => false
  | .whois _ => false
  | _ => true

/-- The events that are printed right. The printers of CONNECT and DISCONNECT take the first word of
the line for the server. The arguments of a MODE run together, and there has to be one. -/
def ShownCond (server : CStr) : IrcEvent → Prop
  | .connect => server = cstr "EVENT-CONNECT"
  | .disconnect => server = cstr "EVENT-DISCONNECT"
  | .invite _ _ => False
  | .mode _ _ _ args => args.length = 1
  | .whois _ => False
  | _ => True

/-! ## Words -/

section Words

variable {server word : CStr} {words : List CStr} {max strsz : ℕ} {ev : IrcEvent}

theorem ircUtilSplit_spaced (hword : word ≠ []) (h : Expressible max (word :: words)) :
    ircUtilSplit (word ++ spaced words) max = word :: words := by
  have hne : word ++ spaced words ≠ [] := by simp [hword]
  rw [ircUtilSplit, if_neg hne, parseWords_spaced h]

/-- Fewer words than there is room for, none of which has a space. -/
theorem expressible_of_forall (hlen : words.length ≤ max) (hwords : ∀ w ∈ words, SP ∉ w) :
    Expressible max words :=
  ⟨hlen, fun _ w hw _ => hwords w (List.mem_of_getElem? hw)⟩

/-- The last word that there is room for may have spaces. -/
theorem expressible_append_last (words : List CStr) (last : CStr) (hlen : words.length + 1 = max)
    (hwords : ∀ w ∈ words, SP ∉ w) : Expressible max (words ++ [last]) := by
  refine ⟨by simp [hlen], fun i w hw hi => hwords w ?_⟩
  rw [List.getElem?_append_left (by omega)] at hw
  exact List.mem_of_getElem? hw

/-- A printer gets the words of the line. -/
theorem showFields_spaced {enough : ℕ → Bool} {fields : List CStr → List (String × CStr)}
    (hword : word ≠ []) (h : Expressible max (word :: words))
    (henough : enough (words.length + 1) = true) :
    showFields max enough fields (word ++ spaced words) =
      (fields (word :: words)).flatMap printField := by
  rw [showFields, ircUtilSplit_spaced hword h]
  exact if_pos henough

/-- Too few words for the printer. -/
theorem showFields_of_few {enough : ℕ → Bool} {fields : List CStr → List (String × CStr)}
    (hword : word ≠ []) (h : Expressible max (word :: words))
    (henough : enough (words.length + 1) = false) :
    showFields max enough fields (word ++ spaced words) = [] := by
  rw [showFields, ircUtilSplit_spaced hword h]
  exact if_neg (by simp [henough])

theorem showEvent_of_watchEntry {line : CStr} {entry : CStr × (CStr → CStr)}
    (h : watchEntry line = some entry) : showEvent line = entry.2 line ++ [LF] := by
  rw [showEvent, h]

/-- The arguments of a MODE are added one after the other. -/
theorem foldl_ircUtilStrlcat (args : List CStr) (written : ℕ) {str : CStr}
    (hfits : (str ++ args.flatten).length < strsz) :
    args.foldl (fun r arg => ircUtilStrlcat r.2 arg strsz) (written, str) =
      (if args = [] then written else (str ++ args.flatten).length, str ++ args.flatten) := by
  induction args generalizing written str with
  | nil => simp
  | cons arg args ih =>
    rw [List.flatten_cons, ← List.append_assoc] at hfits ⊢
    have hlen : (str ++ arg).length ≤ strsz - 1 := by
      rw [List.length_append] at hfits
      omega
    have hcat : ircUtilStrlcat str arg strsz = ((str ++ arg).length, str ++ arg) := by
      rw [ircUtilStrlcat, List.take_of_length_le hlen, List.length_append]
    rw [List.foldl_cons, hcat, ih _ hfits, if_neg (List.cons_ne_nil _ _)]
    split
    · rename_i hnil
      rw [hnil, List.flatten_nil, List.append_nil]
    · rfl

/-- An event that is neither MODE nor WHOIS: its text is the line. -/
theorem ircEventStr_of_plain (hplain : isPlain ev = true) (hne : eventText server ev ≠ [])
    (hfits : (eventLine server ev).length < strsz) :
    ircEventStr server ev strsz = (0, eventText server ev) := by
  have hline : eventLine server ev = eventText server ev := by
    cases ev with
    | mode o c m args => cases hplain
    | _ => exact List.append_nil _
  rw [hline] at hfits
  have htake : (eventText server ev).take (strsz - 1) = eventText server ev :=
    List.take_of_length_le (by omega)
  have hlen : (eventText server ev).length ≠ 0 := by simpa using hne
  unfold ircEventStr
  dsimp only
  rw [htake]
  cases ev with
  | mode o c m args => cases hplain
  | whois w => cases hplain
  | _ => simp only [hlen, if_false]

/-- The line of a MODE, which needs an argument. -/
theorem ircEventStr_mode (origin channel mode : CStr) (args : List CStr)
    (hfits : (eventLine server (.mode origin channel mode args)).length < strsz) :
    ircEventStr server (.mode origin channel mode args) strsz =
      (if args = [] then -1 else 0, eventLine server (.mode origin channel mode args)) := by
  have hfits' : (eventText server (.mode origin channel mode args) ++ args.flatten).length <
    strsz := hfits
  have htake : (eventText server (.mode origin channel mode args)).take (strsz - 1) =
      eventText server (.mode origin channel mode args) := by
    rw [List.length_append] at hfits'
    exact List.take_of_length_le (by omega)
  have hne : (eventText server (.mode origin channel mode args) ++ args.flatten).length ≠ 0 := by
    simp [eventText]
  unfold ircEventStr
  dsimp only
  rw [htake, foldl_ircUtilStrlcat args 0 hfits']
  by_cases hargs : args = []
  · simp only [hargs, if_true]
    rfl
  · simp only [hargs, if_false, hne]
    rfl

/-- A word of the table is compared with the first word of the line. -/
theorem strncmp_spaced {w : CStr} (hword : SP ∉ word) :
    strncmp word (w ++ spaced words) word.length = word.isPrefixOf w := by
  have hiff : strncmp word (w ++ spaced words) word.length = true ↔ word <+: w ++ spaced words := by
    rw [strncmp, beq_iff_eq, List.take_length, List.prefix_iff_eq_take]
  rw [Bool.eq_iff_iff, hiff, List.isPrefixOf_iff_prefix]
  refine ⟨fun h => ?_, fun h => h.trans (List.prefix_append w _)⟩
  rcases List.prefix_or_prefix_of_prefix h (List.prefix_append w _) with h' | ⟨rest, rfl⟩
  · exact h'
  · -- what is left of the word would start with a space
    rw [List.prefix_append_right_inj] at h
    cases rest with
    | nil => simp
    | cons c rest =>
      cases words with
      | nil => simp [spaced] at h
      | cons v words =>
        obtain ⟨rfl, -⟩ : c = SP ∧ _ := List.cons_prefix_cons.1 h
        exact absurd (by simp) hword

/-- A word of the table does not start with one that comes before it. -/
theorem watchtable_pairwise :
    (watchtable.map Prod.fst).Pairwise fun v w => v.isPrefixOf w = false := by decide +kernel

theorem watchtable_words : ∀ word ∈ watchtable.map Prod.fst, EventWord word := by decide +kernel

/-- A line whose first word is in the table gets its own entry. -/
theorem watchEntry_of_mem {entry : CStr × (CStr → CStr)} (hentry : entry ∈ watchtable)
    (words : List CStr) : watchEntry (entry.1 ++ spaced words) = some entry := by
  have hfind : watchEntry (entry.1 ++ spaced words) =
      watchtable.find? (·.1.isPrefixOf entry.1) :=
    List.find?_congr fun e he =>
      strncmp_spaced (watchtable_words e.1 (List.mem_map_of_mem he)).2
  obtain ⟨before, after, htable⟩ := List.append_of_mem hentry
  have hpairwise := watchtable_pairwise
  rw [htable, List.map_append, List.pairwise_append] at hpairwise
  rw [hfind, htable, List.find?_eq_some_iff_append]
  refine ⟨List.isPrefixOf_iff_prefix.2 (List.prefix_refl _), before, after, rfl, fun e he => ?_⟩
  rw [hpairwise.2.2 e.1 (List.mem_map_of_mem he) entry.1 (by simp)]
  rfl

/-- Whether an event survives is up to its printer. -/
theorem survives_iff_of_watchEntry {line : CStr} {printer : CStr → CStr}
    (hstr : ircEventStr server ev strsz = (0, line))
    (hentry : watchEntry line = some ((watchName ev).1, printer)) :
    Survives server ev strsz ↔
      printer line =
        (("event:", (watchName ev).2) :: eventFields server ev).flatMap printField := by
  simp only [Survives, hstr, hentry, showEvent_of_watchEntry hentry, report, Option.map_some,
    List.append_cancel_right_eq, true_and]

end Words

/-! ## Which events survive -/

section Events

variable {server : CStr} {ev : IrcEvent} {strsz : ℕ}

/-- Fields that differ in the last one only. -/
theorem flatMap_printField_iff (fields : List (String × CStr)) {label : String} {v w : CStr} :
    (fields ++ [(label, v)]).flatMap printField = (fields ++ [(label, w)]).flatMap printField ↔
      v = w := by
  simp only [List.flatMap_append, List.flatMap_cons, List.flatMap_nil, List.append_nil,
    List.append_cancel_left_eq, printField, List.append_cancel_right_eq]

/-- An event whose line has enough words for its printer. -/
theorem survives_iff_shown {word : CStr} {words : List CStr} {max : ℕ} {enough : ℕ → Bool}
    {fields : List CStr → List (String × CStr)}
    (hstr : ircEventStr server ev strsz = (0, word ++ spaced words))
    (hentry : (word, showFields max enough fields) ∈ watchtable) (hname : (watchName ev).1 = word)
    (hexp : Expressible max (word :: words)) (henough : enough (words.length + 1) = true) :
    Survives server ev strsz ↔
      (fields (word :: words)).flatMap printField =
        (("event:", (watchName ev).2) :: eventFields server ev).flatMap printField := by
  have hword : word ≠ [] := (watchtable_words word (List.mem_map_of_mem hentry)).1
  have hwatch := watchEntry_of_mem hentry words
  rw [← hname] at hwatch
  rw [survives_iff_of_watchEntry (hname ▸ hstr) hwatch, hname,
    showFields_spaced hword hexp henough]

theorem survives_iff_connect (hfits : (eventLine server .connect).length < strsz) :
    Survives server .connect strsz ↔ server = cstr "EVENT-CONNECT" := by
  have hstr := ircEventStr_of_plain rfl (by simp [eventText, spaced]) hfits
  have hentry : (cstr "EVENT-CONNECT", showConnect) ∈ watchtable := by simp [watchtable]
  have hexp : Expressible 2 [cstr "EVENT-CONNECT", server] :=
    expressible_append_last [_] server rfl (by decide)
  rw [survives_iff_shown hstr hentry rfl hexp rfl]
  -- the printer takes the first word for the server
  exact (flatMap_printField_iff [("event:", _)]).trans eq_comm

theorem survives_iff_disconnect (hfits : (eventLine server .disconnect).length < strsz) :
    Survives server .disconnect strsz ↔ server = cstr "EVENT-DISCONNECT" := by
  have hstr := ircEventStr_of_plain rfl (by simp [eventText, spaced]) hfits
  have hentry : (cstr "EVENT-DISCONNECT", showDisconnect) ∈ watchtable := by simp [watchtable]
  have hexp : Expressible 2 [cstr "EVENT-DISCONNECT", server] :=
    expressible_append_last [_] server rfl (by decide)
  rw [survives_iff_shown hstr hentry rfl hexp rfl]
  -- the printer takes the first word for the server
  exact (flatMap_printField_iff [("event:", _)]).trans eq_comm

/-- The printer of INVITE asks for a word more than there are. -/
theorem not_survives_invite {origin channel : CStr} (hserver : EventWord server)
    (horigin : EventWord origin) (hchannel : EventWord channel)
    (hfits : (eventLine server (.invite origin channel)).length < strsz) :
    ¬ Survives server (.invite origin channel) strsz := by
  have hstr := ircEventStr_of_plain rfl (by simp [eventText, spaced]) hfits
  have hentry : (cstr "EVENT-INVITE", showInvite) ∈ watchtable := by simp [watchtable]
  have hcmd : SP ∉ cstr "EVENT-INVITE" := by decide
  have hexp : Expressible 5 [cstr "EVENT-INVITE", server, origin, channel] :=
    expressible_of_forall (by simp) (by simp [hcmd, hserver.2, horigin.2, hchannel.2])
  have hwatch := watchEntry_of_mem hentry [server, origin, channel]
  rw [survives_iff_of_watchEntry hstr hwatch]
  have hnone : showInvite (eventText server (.invite origin channel)) = [] :=
    showFields_of_few (by decide) hexp rfl
  rw [hnone]
  simp [printField]

/-- The arguments of a MODE run together. -/
theorem survives_iff_mode {origin channel mode : CStr} {args : List CStr}
    (hserver : EventWord server) (horigin : EventWord origin) (hchannel : EventWord channel)
    (hmode : EventWord mode) (hargs : ∀ a ∈ args, EventWord a)
    (hfits : (eventLine server (.mode origin channel mode args)).length < strsz) :
    Survives server (.mode origin channel mode args) strsz ↔ args.length = 1 := by
  have hstr := ircEventStr_mode origin channel mode args hfits
  by_cases hnil : args = []
  · subst hnil
    simp only [Survives, hstr]
    simp
  · have hline : eventLine server (.mode origin channel mode args) =
        cstr "EVENT-MODE" ++ spaced [server, origin, channel, mode, args.flatten] := by
      simp [eventLine, eventText, spaced]
    rw [if_neg hnil, hline] at hstr
    have hentry : (cstr "EVENT-MODE", showMode) ∈ watchtable := by simp [watchtable]
    have hcmd : SP ∉ cstr "EVENT-MODE" := by decide
    have hflat : SP ∉ args.flatten := by
      rw [List.mem_flatten]
      rintro ⟨a, ha, hmem⟩
      exact (hargs a ha).2 hmem
    have hexp : Expressible 8
        [cstr "EVENT-MODE", server, origin, channel, mode, args.flatten] :=
      expressible_of_forall (by simp)
        (by simp only [List.forall_mem_cons, hcmd, hserver.2, horigin.2, hchannel.2, hmode.2, hflat,
          List.not_mem_nil, false_imp_iff, implies_true, not_false_eq_true, and_self])
    rw [survives_iff_shown hstr hentry rfl hexp rfl]
    have hone : (args.flatten ++ [SP] = args.flatMap (· ++ [SP])) ↔ args.length = 1 := by
      constructor
      · intro heq
        have hlen := congrArg List.length heq
        have hspaces : (args.flatMap (· ++ [SP])).length = args.flatten.length + args.length := by
          clear * -
          induction args with
          | nil => rfl
          | cons a args ih => simp [ih]; omega
        rw [hspaces, List.length_append, List.length_singleton] at hlen
        omega
      · intro hlen
        obtain ⟨a, rfl⟩ := List.length_eq_one_iff.1 hlen
        simp
    -- both print the mode, then the arguments with a space at the end or one behind each
    refine (flatMap_printField_iff [("event:", _), ("server:", server), ("origin:", origin),
      ("channel:", channel)]).trans (Iff.trans ?_ hone)
    simp

/-- An event whose printer gets as many words as it has room for. -/
theorem survives_of_full {word last : CStr} (words : List CStr) {max : ℕ} {enough : ℕ → Bool}
    {fields : List CStr → List (String × CStr)} (hfits : (eventLine server ev).length < strsz)
    (hplain : isPlain ev = true) (htext : eventText server ev = word ++ spaced (words ++ [last]))
    (hentry : (word, showFields max enough fields) ∈ watchtable) (hname : (watchName ev).1 = word)
    (hmax : words.length + 2 = max) (hwords : ∀ w ∈ words, SP ∉ w) (henough : enough max = true)
    (hfields : fields (word :: (words ++ [last])) =
      ("event:", (watchName ev).2) :: eventFields server ev) :
    Survives server ev strsz := by
  have hword := watchtable_words word (List.mem_map_of_mem hentry)
  have hstr := ircEventStr_of_plain hplain (by simp [htext, hword.1]) hfits
  have hexp : Expressible max (word :: (words ++ [last])) :=
    expressible_append_last (word :: words) last hmax (List.forall_mem_cons.2 ⟨hword.2, hwords⟩)
  have hlen : (words ++ [last]).length + 1 = max := by simpa using hmax
  rw [survives_iff_shown (htext ▸ hstr) hentry hname hexp (hlen ▸ henough), hfields]

/-- An event survives exactly when its encoder and its printer agree. -/
theorem survives_iff_shownCond (hwatch : Watchable server ev)
    (hfits : (eventLine server ev).length < strsz) :
    Survives server ev strsz ↔ ShownCond server ev := by
  obtain ⟨hserver, hwords⟩ := hwatch
  cases ev with
  | unknown => exact hwords.elim
  | command m => exact hwords.elim
  | names channel users => exact hwords.elim
  | connect => exact survives_iff_connect hfits
  | disconnect => exact survives_iff_disconnect hfits
  -- the printer of an invitation asks for a word that the line does not have
  | invite origin channel =>
    exact iff_of_false (not_survives_invite hserver hwords.1 hwords.2 hfits) id
  | mode origin channel mode args =>
    obtain ⟨horigin, hchannel, hmode, hargs⟩ := hwords
    exact survives_iff_mode hserver horigin hchannel hmode hargs hfits
  -- the status of `irc_event_str` is that of an empty text
  | whois w => exact iff_of_false (fun h => absurd h.1 (by decide)) id
  -- for the events below, the encoder writes the words that the printer asks for
  | join origin channel =>
    obtain ⟨horigin, -⟩ := hwords
    have hentry : (cstr "EVENT-JOIN", showJoin) ∈ watchtable := by simp [watchtable]
    exact iff_of_true (survives_of_full [_, _] hfits rfl rfl hentry rfl rfl
      (by simp [hserver.2, horigin.2]) rfl rfl) trivial
  | nick origin nickname =>
    obtain ⟨horigin, -⟩ := hwords
    have hentry : (cstr "EVENT-NICK", showNick) ∈ watchtable := by simp [watchtable]
    exact iff_of_true (survives_of_full [_, _] hfits rfl rfl hentry rfl rfl
      (by simp [hserver.2, horigin.2]) rfl rfl) trivial
  | kick origin channel target reason =>
    obtain ⟨horigin, hchannel, htarget⟩ := hwords
    have hentry : (cstr "EVENT-KICK", showKick) ∈ watchtable := by simp [watchtable]
    exact iff_of_true (survives_of_full [_, _, _, _] hfits rfl rfl hentry rfl rfl
      (by simp [hserver.2, horigin.2, hchannel.2, htarget.2]) rfl rfl) trivial
  | me m =>
    obtain ⟨horigin, hchannel⟩ := hwords
    have hentry : (cstr "EVENT-ME", showMe) ∈ watchtable := by simp [watchtable]
    exact iff_of_true (survives_of_full [_, _, _] hfits rfl rfl hentry rfl rfl
      (by simp [hserver.2, horigin.2, hchannel.2]) rfl rfl) trivial
  | message m =>
    obtain ⟨horigin, hchannel⟩ := hwords
    have hentry : (cstr "EVENT-MESSAGE", showMessage) ∈ watchtable := by simp [watchtable]
    exact iff_of_true (survives_of_full [_, _, _] hfits rfl rfl hentry rfl rfl
      (by simp [hserver.2, horigin.2, hchannel.2]) rfl rfl) trivial
  | notice origin channel notice =>
    obtain ⟨horigin, hchannel⟩ := hwords
    have hentry : (cstr "EVENT-NOTICE", showNotice) ∈ watchtable := by simp [watchtable]
    exact iff_of_true (survives_of_full [_, _, _] hfits rfl rfl hentry rfl rfl
      (by simp [hserver.2, horigin.2, hchannel.2]) rfl rfl) trivial
  | part origin channel reason =>
    obtain ⟨horigin, hchannel⟩ := hwords
    have hentry : (cstr "EVENT-PART", showPart) ∈ watchtable := by simp [watchtable]
    exact iff_of_true (survives_of_full [_, _, _] hfits rfl rfl hentry rfl rfl
      (by simp [hserver.2, horigin.2, hchannel.2]) rfl rfl) trivial
  | topic origin channel topic =>
    obtain ⟨horigin, hchannel⟩ := hwords
    have hentry : (cstr "EVENT-TOPIC", showTopic) ∈ watchtable := by simp [watchtable]
    exact iff_of_true (survives_of_full [_, _, _] hfits rfl rfl hentry rfl rfl
      (by simp [hserver.2, horigin.2, hchannel.2]) rfl rfl) trivial

/-- The operator mode is taken away from somebody. -/
theorem survives_iff_shownCond_mode :
    Survives (cstr "local") (.mode (cstr "jean") (cstr "#x") (cstr "-o") [cstr "paul"]) 512 ↔
      ShownCond (cstr "local")
        (.mode (cstr "jean") (cstr "#x") (cstr "-o") [cstr "paul"]) :=
  survives_iff_shownCond ⟨by decide, by decide, by decide, by decide, by decide⟩ (by decide)

/-- The server of a CONNECT is printed as `EVENT-CONNECT`. -/
theorem not_survives_connect : ¬ Survives (cstr "local") .connect 512 := by
  rintro ⟨-, -, h⟩
  exact absurd h (by decide)

end Events

end Irccd
