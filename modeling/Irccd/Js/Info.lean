import Irccd.Peer.Daemon

/-!
# The information about a server (`jsapi-server.c`)

`Server_prototype_info` builds an object with an array of the channels, each with an array of its
users. The index of the users is not set back to zero for the next channel.

* `JsArray`: an array, which may have holes;
* `serverPrototypeInfo`: the object;
* `infoChannels_eq`: where the users of a channel are in its array;
* `reportsChannels_iff`: exactly when each array is dense.
-/

namespace Irccd

/-! ## Arrays -/

/-- A JavaScript array: the elements that it has, and its length. -/
@[ext]
structure JsArray (α : Type) where
  get? : ℕ → Option α
  length : ℕ

namespace JsArray

variable {α : Type}

/-- `duk_push_array` -/
def empty : JsArray α := ⟨fun _ => none, 0⟩

/-- `duk_put_prop_index` -/
def put (a : JsArray α) (i : ℕ) (v : α) : JsArray α :=
  ⟨Function.update a.get? i (some v), max a.length (i + 1)⟩

/-- Put elements one after the other, from the index `i` on. -/
def putFrom (a : JsArray α) : ℕ → List α → JsArray α
  | _, [] => a
  | i, v :: vs => (a.put i v).putFrom (i + 1) vs

/-- The dense array of some elements. -/
def ofList (l : List α) : JsArray α := ⟨fun i => l[i]?, l.length⟩

theorem get?_putFrom (a : JsArray α) (i : ℕ) (l : List α) (j : ℕ) :
    (a.putFrom i l).get? j = if i ≤ j ∧ j < i + l.length then l[j - i]? else a.get? j := by
  induction l generalizing a i with
  | nil =>
    have hnot : ¬ (i ≤ j ∧ j < i + ([] : List α).length) := by
      rw [List.length_nil]
      omega
    rw [putFrom, if_neg hnot]
  | cons v l ih =>
    rw [putFrom, ih, put, List.length_cons]
    dsimp only
    rcases Nat.lt_trichotomy i j with hlt | rfl | hgt
    · have hsub : j - i = j - (i + 1) + 1 := by omega
      rw [Function.update_of_ne (by omega), hsub, List.getElem?_cons_succ]
      congr 1
      rw [eq_iff_iff]
      omega
    · rw [Function.update_self, Nat.sub_self, List.getElem?_cons_zero, if_neg (by omega),
        if_pos (by omega)]
    · rw [Function.update_of_ne (by omega), if_neg (by omega), if_neg (by omega)]

theorem length_putFrom (a : JsArray α) (i : ℕ) (l : List α) :
    (a.putFrom i l).length = if l = [] then a.length else max a.length (i + l.length) := by
  induction l generalizing a i with
  | nil => rfl
  | cons v l ih =>
    rw [putFrom, ih, put, if_neg (List.cons_ne_nil v l), List.length_cons]
    by_cases hl : l = []
    · rw [if_pos hl, hl]
      rfl
    · rw [if_neg hl]
      dsimp only
      omega

/-- What is put into an empty array from the beginning is dense. -/
theorem putFrom_zero (l : List α) : (empty : JsArray α).putFrom 0 l = ofList l := by
  ext : 1
  · funext j
    rw [get?_putFrom, ofList]
    dsimp only
    by_cases hj : j < l.length
    · rw [if_pos (by omega), Nat.sub_zero]
    · rw [if_neg (by omega), List.getElem?_eq_none (by omega)]
      rfl
  · rw [length_putFrom, ofList]
    by_cases hl : l = []
    · rw [if_pos hl, hl]
      rfl
    · rw [if_neg hl]
      show max 0 (0 + l.length) = l.length
      omega

/-- An array that starts behind the first index is not dense. -/
theorem putFrom_eq_ofList_iff (i : ℕ) (l : List α) :
    (empty : JsArray α).putFrom i l = ofList l ↔ i = 0 ∨ l = [] := by
  constructor
  · intro h
    by_contra hnot
    obtain ⟨hi, hl⟩ := not_or.1 hnot
    -- the array is too long
    have hlen := congrArg JsArray.length h
    rw [length_putFrom, if_neg hl, ofList] at hlen
    have hmax : max (empty : JsArray α).length (i + l.length) = i + l.length := Nat.zero_max _
    rw [hmax] at hlen
    dsimp only at hlen
    omega
  · rintro (rfl | rfl)
    · exact putFrom_zero l
    · rw [← putFrom_zero, putFrom, putFrom]

theorem ofList_injective : Function.Injective (ofList : List α → JsArray α) := by
  intro l l' h
  have hget := congrArg JsArray.get? h
  exact List.ext_getElem? fun i => congrFun hget i

end JsArray

/-! ## The object -/

/-- A user of a channel. -/
structure JsUser where
  nickname : CStr
  modes : ℤ
  deriving DecidableEq

/-- A channel. -/
structure JsChannel where
  name : CStr
  joined : Bool
  users : JsArray JsUser

/-- An entry of the PREFIX table. -/
structure JsPrefix where
  mode : CStr
  symbol : CStr

/-- What `Server.info` returns. A string is `none` where it is `null`. -/
structure JsInfo where
  name : CStr
  hostname : CStr
  port : ℕ
  ssl : Bool
  pfx : CStr
  realname : CStr
  nickname : CStr
  username : CStr
  ctcpVersion : Option CStr
  ctcpSource : Option CStr
  prefixes : JsArray JsPrefix
  channels : JsArray JsChannel

/-- The object of a user. -/
def jsUser (u : IrcChannelUser) : JsUser := ⟨u.nickname, u.modes.toInt⟩

/-- The string of one byte, which a NUL ends. -/
def charString (c : UInt8) : CStr := if c = 0 then [] else [c]

/-- The loop on the PREFIX table, from the index `i` on. An entry without a mode leaves a hole. -/
def infoPrefixes : ℕ → List IrcServerUmode → JsArray JsPrefix → JsArray JsPrefix
  | _, [], array => array
  | i, p :: ps, array =>
    if p.mode = 0 then infoPrefixes (i + 1) ps array
    else infoPrefixes (i + 1) ps (array.put i ⟨charString p.mode, charString p.symbol⟩)

/-- The loop on the users of a channel, with the index `ui` of the next one. -/
def infoUsers : ℕ → List IrcChannelUser → JsArray JsUser → ℕ × JsArray JsUser
  | ui, [], array => (ui, array)
  | ui, u :: us, array => infoUsers (ui + 1) us (array.put ui (jsUser u))

/-- The loop on the channels, with the indices of the next channel and the next user. -/
def infoChannels : ℕ → ℕ → List IrcChannel → JsArray JsChannel → JsArray JsChannel
  | _, _, [], array => array
  | ci, ui, c :: cs, array =>
    let (ui, users) := infoUsers ui c.users .empty
    infoChannels (ci + 1) ui cs (array.put ci ⟨c.name, c.joined, users⟩)

/-- `Server_prototype_info` -/
def serverPrototypeInfo (s : BotServer) : JsInfo where
  name := s.name
  hostname := s.hostname
  port := s.port.toNat
  ssl := s.sys.server.flags.ssl
  pfx := s.sys.server.pfx
  realname := s.sys.server.realname
  nickname := s.sys.server.nickname
  username := s.sys.server.username
  ctcpVersion := s.sys.server.ctcpVersion
  ctcpSource := s.sys.server.ctcpSource
  prefixes := infoPrefixes 0 s.sys.server.prefixes .empty
  channels := infoChannels 0 0 s.sys.server.channels .empty

/-! ## The loops -/

section Loops

variable (ui : ℕ)

theorem infoUsers_eq (users : List IrcChannelUser) (array : JsArray JsUser) :
    infoUsers ui users array = (ui + users.length, array.putFrom ui (users.map jsUser)) := by
  induction users generalizing ui array with
  | nil => rfl
  | cons u users ih =>
    rw [infoUsers, ih, List.length_cons, List.map_cons, JsArray.putFrom, Nat.add_assoc,
      Nat.add_comm 1]

/-- The objects of the channels, when the index of the users starts at `ui`. -/
def channelObjects : ℕ → List IrcChannel → List JsChannel
  | _, [] => []
  | ui, c :: cs =>
    ⟨c.name, c.joined, JsArray.empty.putFrom ui (c.users.map jsUser)⟩ ::
      channelObjects (ui + c.users.length) cs

theorem infoChannels_eq (ci : ℕ) (channels : List IrcChannel) (array : JsArray JsChannel) :
    infoChannels ci ui channels array = array.putFrom ci (channelObjects ui channels) := by
  induction channels generalizing ci ui array with
  | nil => rfl
  | cons c channels ih =>
    rw [infoChannels, infoUsers_eq]
    dsimp only
    rw [ih, channelObjects, JsArray.putFrom]

/-- The object of a channel with the dense array of its users. -/
def channelObject (c : IrcChannel) : JsChannel :=
  ⟨c.name, c.joined, .ofList (c.users.map jsUser)⟩

/-- The users of a channel are in place if there is none before them. -/
theorem channelObjects_eq_iff (channels : List IrcChannel) :
    channelObjects ui channels = channels.map channelObject ↔
      (channels.filter (·.users ≠ [])).length ≤ if ui = 0 then 1 else 0 := by
  induction channels generalizing ui with
  | nil => simp [channelObjects]
  | cons c channels ih =>
    have hplace : (⟨c.name, c.joined, JsArray.empty.putFrom ui (c.users.map jsUser)⟩ : JsChannel) =
        channelObject c ↔ ui = 0 ∨ c.users = [] := by
      rw [channelObject, JsChannel.mk.injEq, and_iff_right rfl, and_iff_right rfl,
        JsArray.putFrom_eq_ofList_iff, List.map_eq_nil_iff]
    rw [channelObjects, List.map_cons, List.cons.injEq, hplace, ih]
    by_cases hempty : c.users = []
    · rw [List.filter_cons_of_neg (by simpa using hempty), hempty, List.length_nil, Nat.add_zero]
      simp
    · -- the channel takes the place
      have hnext : ui + c.users.length ≠ 0 := by
        have := List.length_pos_iff.2 hempty
        omega
      rw [List.filter_cons_of_pos (by simpa using hempty), List.length_cons, if_neg hnext,
        or_iff_left hempty]
      by_cases hui : ui = 0
      · rw [if_pos hui]
        omega
      · rw [if_neg hui]
        omega

end Loops

/-- The object has an entry for each channel, in order, with the dense array of its users. -/
def ReportsChannels (s : BotServer) : Prop :=
  (serverPrototypeInfo s).channels = .ofList (s.sys.server.channels.map channelObject)

/-- The channels are reported if and only if no two of them have users. -/
theorem reportsChannels_iff (s : BotServer) :
    ReportsChannels s ↔ (s.sys.server.channels.filter (·.users ≠ [])).length ≤ 1 := by
  have hobjects := channelObjects_eq_iff 0 s.sys.server.channels
  rw [if_pos rfl] at hobjects
  rw [← hobjects, ReportsChannels, serverPrototypeInfo]
  dsimp only
  rw [infoChannels_eq, JsArray.putFrom_zero]
  exact JsArray.ofList_injective.eq_iff

/-- A server with two channels, of a user each. -/
def twoChannels : BotServer where
  sys := Sys.start { localServer with
    channels := [⟨cstr "#staff", none, true, [⟨cstr "jean", 1⟩]⟩,
      ⟨cstr "#games", none, true, [⟨cstr "francis", 0⟩]⟩] }
  hostname := cstr "localhost"
  port := 6697
  port_ne := by decide

/-- The array of the second channel has a hole before its user. -/
theorem not_forall_reportsChannels : ¬ ∀ s : BotServer, ReportsChannels s := by
  intro h
  have husers := congrArg (fun a => (a.get? 1).map fun c => c.users.get? 0) (h twoChannels)
  exact absurd husers (by decide)

end Irccd
