import Mathlib.Data.List.Palindrome
import Mathlib.Data.List.Perm.Basic
import Irccd.Js.Info

/-!
# The constructor of the JavaScript object `Server` (`jsapi-server.c`)

The constructor reads the properties of its argument one after the other, and stores them with the
functions of the API.

* `JsParameters`: the documented properties;
* `serverConstructor`: the server that is made, unless the constructor throws or stops;
* `expectedInfo`: what `info` should report of the server;
* `reports_iff`: exactly when it does.
-/

namespace Irccd

/-! ## The parameters -/

/-- An element of the property `channels`. -/
structure JsChannelParameter where
  name : CStr
  password : Option CStr

/-- The property `ctcp`. -/
structure JsCtcp where
  version : Option CStr
  source : Option CStr

/-- The object given to the constructor. A property is `none` where it is undefined; a port is one
that is documented. -/
structure JsParameters where
  name : Option CStr := none
  hostname : Option CStr := none
  port : Option { port : ℕ // 1 ≤ port ∧ port ≤ 65535 } := none
  ssl : Option Bool := none
  nickname : Option CStr := none
  username : Option CStr := none
  realname : Option CStr := none
  pfx : Option CStr := none
  channels : Option (List JsChannelParameter) := none
  ctcp : Option JsCtcp := none

/-- Why the constructor does not return. -/
inductive ConstructorStop
  /-- It throws an error with this message. -/
  | throws (message : CStr)
  /-- An assertion fails. -/
  | asserts
  deriving DecidableEq

/-- `IRC_SERVER_DEFAULT_PORT` -/
def IRC_SERVER_DEFAULT_PORT : ℕ := 6667

/-! ## The constructor -/

/-- `get_string (ctx, obj_idx, n, NULL)`, and the error where it gives no string. -/
def getRequired (n : String) (value : Option CStr) : Except ConstructorStop CStr :=
  match value with
  | some value => .ok value
  | none => .error (.throws (cstr "missing required '" ++ cstr n ++ cstr "' property"))

/-- `get_port` -/
def getPort (port : Option { port : ℕ // 1 ≤ port ∧ port ≤ 65535 }) : ℕ :=
  match port with
  | some port => port
  | none => IRC_SERVER_DEFAULT_PORT

theorem getPort_mem (port : Option { port : ℕ // 1 ≤ port ∧ port ≤ 65535 }) :
    1 ≤ getPort port ∧ getPort port ≤ 65535 := by
  cases port with
  | none => decide
  | some port => exact port.2

theorem getPort_ne (port : Option { port : ℕ // 1 ≤ port ∧ port ≤ 65535 }) :
    BitVec.ofNat 32 (getPort port) ≠ 0 := by
  have hport := getPort_mem port
  intro hzero
  have hnat : getPort port % 2 ^ 32 = 0 := congrArg BitVec.toNat hzero
  omega

/-- `get_channels` -/
def getChannels (s : Sys) (channels : Option (List JsChannelParameter)) : Sys :=
  (channels.getD []).foldl (fun s channel => (ircServerJoin s channel.name channel.password).2) s

/-- The string given to `irc_server_set_ctcp`, where `NULL` is `none`. -/
def ctcpArgument (value current : Option CStr) : Option CStr :=
  match value with
  | some value => if value.length = 0 then none else some value
  | none => current

/-- `get_ctcp`. The version is given to `irc_server_set_ctcp` as its key. -/
def getCtcp (s : Sys) (ctcp : Option JsCtcp) : Except ConstructorStop Sys :=
  match ctcp with
  | none => .ok s
  | some ctcp =>
    -- the setter asserts that neither is `NULL`
    match ctcpArgument ctcp.version s.server.ctcpVersion,
        ctcpArgument ctcp.source s.server.ctcpSource with
    | some version, some source =>
      match ircServerSet s.server (.ctcp version source) with
      | some server => .ok { s with server }
      | none => .error .asserts
    | _, _ => .error .asserts

/-- `Server_constructor`: `get_name`, `get_ident`, `get_params`, `get_channels` and `get_ctcp`. -/
def serverConstructor (p : JsParameters) : Except ConstructorStop BotServer := do
  let name ← getRequired "name" p.name
  let nickname ← getRequired "nickname" p.nickname
  let username ← getRequired "username" p.username
  let realname ← getRequired "realname" p.realname
  let server := ircServerNew name nickname username realname
  let hostname ← getRequired "hostname" p.hostname
  let server := { server with flags := { ssl := p.ssl.getD false } }
  let sys ← getCtcp (getChannels (Sys.start server) p.channels) p.ctcp
  return { sys, hostname, port := BitVec.ofNat 32 (getPort p.port), port_ne := getPort_ne p.port }

/-! ## What is reported -/

/-- The parameters are as the documentation requires: the name and the hostname are there, no
channel is twice in the list, and no string of `ctcp` is empty. -/
structure JsParameters.Valid (p : JsParameters) : Prop where
  name : p.name.isSome = true
  hostname : p.hostname.isSome = true
  channels : ((p.channels.getD []).map fun channel => foldCase channel.name).Nodup
  version : ∀ ctcp, p.ctcp = some ctcp → ctcp.version ≠ some []
  source : ∀ ctcp, p.ctcp = some ctcp → ctcp.source ≠ some []

/-- The channels in the order of the list, none of them joined. -/
def expectedChannels (p : JsParameters) : List JsChannel :=
  (p.channels.getD []).map fun channel => ⟨foldCase channel.name, false, .empty⟩

/-- What `info` should report: the values of the properties, and the defaults of those that are
absent. The channels are `channels`. -/
def expectedInfo (p : JsParameters) (channels : List JsChannel) : JsInfo where
  name := p.name.getD []
  hostname := p.hostname.getD []
  port := getPort p.port
  ssl := p.ssl.getD false
  pfx := p.pfx.getD (cstr "!")
  realname := p.realname.getD (cstr "IRC Client Daemon")
  nickname := p.nickname.getD (cstr "irccd")
  username := p.username.getD (cstr "irccd")
  ctcpVersion := some ((p.ctcp.bind (·.version)).getD (cstr "IRC Client Daemon"))
  ctcpSource := some ((p.ctcp.bind (·.source)).getD (cstr "http://hg.malikania.fr/irccd"))
  prefixes := .empty
  channels := .ofList channels

/-- The constructor returns a server, of which `info` reports the channels in some order. -/
def Reports (p : JsParameters) (channels : List JsChannel → Prop) : Prop :=
  ∃ s, serverConstructor p = .ok s ∧
    ∃ cs, channels cs ∧ serverPrototypeInfo s = expectedInfo p cs

/-- The properties that the constructor does not take as they are documented: the identity has to
be there, the prefix and the strings of `ctcp` are the defaults. -/
structure JsParameters.IsTaken (p : JsParameters) : Prop where
  nickname : p.nickname.isSome = true
  username : p.username.isSome = true
  realname : p.realname.isSome = true
  pfx : p.pfx.getD (cstr "!") = cstr "!"
  version : (p.ctcp.bind (·.version)).getD (cstr "IRC Client Daemon") = cstr "IRC Client Daemon"
  source : (p.ctcp.bind (·.source)).getD (cstr "http://hg.malikania.fr/irccd") =
    cstr "http://hg.malikania.fr/irccd"

/-! ## What the constructor stores -/

section Stores

variable {p : JsParameters} {s : Sys}

/-- A channel that is not on the list yet comes first. -/
theorem ircServerJoin_of_new {name : CStr} (password : Option CStr)
    (hcoroutine : s.server.coroutine = none)
    (hnew : ∀ channel ∈ s.server.channels, foldCase channel.name ≠ foldCase name) :
    (ircServerJoin s name password).2 =
      s.setChannels (ircChannelNew name password false :: s.server.channels) := by
  have hfind : ircServerChannelsFind s.server.channels name = none := by
    rw [ircServerChannelsFind, List.find?_eq_none]
    exact fun channel hchannel => by simpa using hnew channel hchannel
  have hadd : joinChannel s name password =
      s.setChannels (ircChannelNew name password false :: s.server.channels) := by
    rw [joinChannel, hfind, ircServerChannelsAdd, hfind]
    rfl
  have hready : ircServerReady
      (s.setChannels (ircChannelNew name password false :: s.server.channels)).server = false := by
    rw [ircServerReady, Sys.setChannels]
    dsimp only
    rw [hcoroutine]
  rw [ircServerJoin, hadd]
  split
  · rw [hready, Bool.and_false]
    rfl
  · rfl

/-- The channels of the list come in the other order. -/
theorem foldl_ircServerJoin {channels : List JsChannelParameter}
    (hcoroutine : s.server.coroutine = none)
    (hnodup : (channels.map fun channel => foldCase channel.name).Nodup)
    (hnew : ∀ old ∈ s.server.channels, ∀ channel ∈ channels,
      foldCase old.name ≠ foldCase channel.name) :
    channels.foldl (fun s channel => (ircServerJoin s channel.name channel.password).2) s =
      s.setChannels ((channels.map fun channel =>
        ircChannelNew channel.name channel.password false).reverse ++ s.server.channels) := by
  induction channels generalizing s with
  | nil => rfl
  | cons channel channels ih =>
    obtain ⟨hfirst, hnodup⟩ := List.nodup_cons.1 hnodup
    -- a channel is searched by its name in lower case
    have hjoin := ircServerJoin_of_new channel.password hcoroutine
      fun old hold => hnew old hold channel List.mem_cons_self
    have hrest : ∀ old ∈ ircChannelNew channel.name channel.password false :: s.server.channels,
        ∀ other ∈ channels, foldCase old.name ≠ foldCase other.name := by
      intro old hold other hother
      rcases List.mem_cons.1 hold with rfl | hold
      · intro heq
        refine hfirst (List.mem_map.2 ⟨other, hother, ?_⟩)
        dsimp only
        rw [← heq]
        simp [ircChannelNew]
      · exact hnew old hold other (List.mem_cons_of_mem _ hother)
    have ih := ih (s := s.setChannels (ircChannelNew channel.name channel.password false ::
      s.server.channels)) hcoroutine hnodup hrest
    rw [List.foldl_cons, hjoin, ih]
    simp [Sys.setChannels]

/-- The strings that `get_ctcp` leaves in a new server. -/
def ctcpStored (version source : CStr) : CStr × CStr :=
  if strcasecmp version (cstr "version") then (source, cstr "http://hg.malikania.fr/irccd")
  else if strcasecmp version (cstr "source") then (cstr "IRC Client Daemon", source)
  else (cstr "IRC Client Daemon", cstr "http://hg.malikania.fr/irccd")

/-- The strings that are given are stored only if they are those that are there. -/
theorem ctcpStored_eq_iff {version source : CStr} :
    ctcpStored version source = (version, source) ↔
      version = cstr "IRC Client Daemon" ∧ source = cstr "http://hg.malikania.fr/irccd" := by
  constructor
  · intro h
    rw [ctcpStored] at h
    split at h
    · next hversion =>
      obtain ⟨hsame, hsource⟩ := Prod.mk.inj h
      rw [← hsame, ← hsource] at hversion
      exact absurd hversion (by decide)
    · split at h
      · next hsource =>
        obtain ⟨hversion, -⟩ := Prod.mk.inj h
        rw [← hversion] at hsource
        exact absurd hsource (by decide)
      · obtain ⟨hversion, hsource⟩ := Prod.mk.inj h
        exact ⟨hversion.symm, hsource.symm⟩
  · rintro ⟨rfl, rfl⟩
    decide

/-- The version and the source of a new server. -/
def HasDefaults (server : IrcServer) : Prop :=
  server.ctcpVersion = some (cstr "IRC Client Daemon") ∧
    server.ctcpSource = some (cstr "http://hg.malikania.fr/irccd")

theorem ircServerSet_ctcp {server : IrcServer} (h : HasDefaults server) (version source : CStr) :
    ircServerSet server (.ctcp version source) = some { server with
      ctcpVersion := some (ctcpStored version source).1
      ctcpSource := some (ctcpStored version source).2 } := by
  cases server
  obtain ⟨hv, hs⟩ := h
  cases hv
  cases hs
  rw [ircServerSet, ctcpStored]
  split
  · rfl
  · split <;> rfl

/-- What `get_ctcp` does to a new server, if no string is empty. -/
theorem getCtcp_eq {ctcp : Option JsCtcp}
    (hversion : ∀ c, ctcp = some c → c.version ≠ some [])
    (hsource : ∀ c, ctcp = some c → c.source ≠ some [])
    (hserver : HasDefaults s.server) :
    getCtcp s ctcp = .ok { s with
      server := { s.server with
        ctcpVersion := some (ctcpStored
          ((ctcp.bind (·.version)).getD (cstr "IRC Client Daemon"))
          ((ctcp.bind (·.source)).getD (cstr "http://hg.malikania.fr/irccd"))).1
        ctcpSource := some (ctcpStored
          ((ctcp.bind (·.version)).getD (cstr "IRC Client Daemon"))
          ((ctcp.bind (·.source)).getD (cstr "http://hg.malikania.fr/irccd"))).2 } } := by
  have hargument {value : Option CStr} {current : CStr} (hne : value ≠ some []) :
      ctcpArgument value (some current) = some (value.getD current) := by
    rcases value with _ | _ | ⟨c, value⟩
    · rfl
    · exact absurd rfl hne
    · rfl
  cases ctcp with
  | none =>
    -- nothing is set, and the defaults would be stored as they are
    have hsame : ircServerSet s.server (.ctcp (cstr "IRC Client Daemon")
        (cstr "http://hg.malikania.fr/irccd")) = some s.server := by
      rw [ircServerSet, if_neg (by decide), if_neg (by decide)]
    rw [ircServerSet_ctcp hserver] at hsame
    rw [getCtcp, Option.bind_none, Option.bind_none, Option.getD_none, Option.getD_none,
      Option.some.inj hsame]
  | some ctcp =>
    obtain ⟨hv, hs⟩ := hserver
    rw [getCtcp, hv, hs]
    dsimp only
    rw [hargument (hversion ctcp rfl), hargument (hsource ctcp rfl)]
    dsimp only
    rw [ircServerSet_ctcp ⟨hv, hs⟩]
    rfl

end Stores

/-! ## What is reported in fact -/

section Info

variable {p : JsParameters}

/-- The channels without users are reported in their order. -/
theorem infoChannels_of_new (channels : List JsChannelParameter) :
    infoChannels 0 0 ((channels.map fun channel =>
        ircChannelNew channel.name channel.password false).reverse ++ []) .empty =
      .ofList (channels.map fun channel =>
        (⟨foldCase channel.name, false, .empty⟩ : JsChannel)).reverse := by
  have hempty : ∀ c ∈ (channels.map fun channel =>
      ircChannelNew channel.name channel.password false).reverse, c.users = [] := by
    intro c hc
    obtain ⟨channel, -, rfl⟩ := List.mem_map.1 (List.mem_reverse.1 hc)
    rfl
  have hobjects := (channelObjects_eq_iff 0 (channels.map fun channel =>
      ircChannelNew channel.name channel.password false).reverse).2 (by
    rw [List.filter_eq_nil_iff.2 fun c hc => by simp [hempty c hc]]
    exact Nat.zero_le 1)
  rw [List.append_nil, infoChannels_eq, JsArray.putFrom_zero, hobjects, List.map_reverse,
    List.map_map]
  congr 2

/-- What is reported of the server, if the identity is there. -/
theorem info_serverConstructor (h : p.Valid) (hnickname : p.nickname.isSome = true)
    (husername : p.username.isSome = true) (hrealname : p.realname.isSome = true) :
    ∃ s, serverConstructor p = .ok s ∧
      serverPrototypeInfo s = { expectedInfo p (expectedChannels p).reverse with
        pfx := cstr "!"
        ctcpVersion := some (ctcpStored
          ((p.ctcp.bind (·.version)).getD (cstr "IRC Client Daemon"))
          ((p.ctcp.bind (·.source)).getD (cstr "http://hg.malikania.fr/irccd"))).1
        ctcpSource := some (ctcpStored
          ((p.ctcp.bind (·.version)).getD (cstr "IRC Client Daemon"))
          ((p.ctcp.bind (·.source)).getD (cstr "http://hg.malikania.fr/irccd"))).2 } := by
  obtain ⟨name, hname⟩ := Option.isSome_iff_exists.1 h.name
  obtain ⟨hostname, hhostname⟩ := Option.isSome_iff_exists.1 h.hostname
  obtain ⟨nickname, hnickname⟩ := Option.isSome_iff_exists.1 hnickname
  obtain ⟨username, husername⟩ := Option.isSome_iff_exists.1 husername
  obtain ⟨realname, hrealname⟩ := Option.isSome_iff_exists.1 hrealname
  generalize hstart : Sys.start { ircServerNew name nickname username realname with
    flags := { ssl := p.ssl.getD false } } = start
  have hchannels := foldl_ircServerJoin (s := start) (by rw [← hstart]; rfl) h.channels
    fun old hold => by rw [← hstart] at hold; cases hold
  have hdefaults : HasDefaults (getChannels start p.channels).server := by
    rw [getChannels, hchannels, ← hstart]
    exact ⟨rfl, rfl⟩
  have hctcp := getCtcp_eq h.version h.source hdefaults
  -- a port fits in the field of the server
  have hport : (BitVec.ofNat 32 (getPort p.port)).toNat = getPort p.port := by
    have hle := (getPort_mem p.port).2
    rw [BitVec.toNat_ofNat]
    exact Nat.mod_eq_of_lt (by omega)
  obtain ⟨T, hT⟩ : ∃ T, getCtcp (getChannels start p.channels) p.ctcp = .ok T := ⟨_, hctcp⟩
  refine ⟨⟨T, hostname, BitVec.ofNat 32 (getPort p.port), getPort_ne p.port⟩, ?_, ?_⟩
  · rw [serverConstructor, hname, hnickname, husername, hrealname, hhostname]
    show (getCtcp (getChannels (Sys.start _) p.channels) p.ctcp >>= fun sys => pure _) = _
    rw [hstart, hT]
    rfl
  · rw [hT] at hctcp
    rw [getChannels, hchannels, ← hstart] at hctcp
    rw [serverPrototypeInfo, Except.ok.inj hctcp, expectedInfo, hport, hname, hnickname, husername,
      hrealname, hhostname, expectedChannels,
      ← infoChannels_of_new (p.channels.getD [])]
    rfl

/-- The constructor throws if a property of the identity is absent. -/
theorem isSome_of_serverConstructor {s : BotServer} (h : serverConstructor p = .ok s) :
    p.nickname.isSome = true ∧ p.username.isSome = true ∧ p.realname.isSome = true := by
  rw [serverConstructor] at h
  cases hname : p.name with
  | none => rw [hname] at h; cases h
  | some name =>
    cases hnickname : p.nickname with
    | none => rw [hname, hnickname] at h; cases h
    | some nickname =>
      cases husername : p.username with
      | none => rw [hname, hnickname, husername] at h; cases h
      | some username =>
        cases hrealname : p.realname with
        | none => rw [hname, hnickname, husername, hrealname] at h; cases h
        | some realname => exact ⟨rfl, rfl, rfl⟩

/-- The channels are reported from the last one to the first one. -/
theorem reports_iff_reverse (h : p.Valid) (channels : List JsChannel → Prop) :
    Reports p channels ↔ p.IsTaken ∧ channels (expectedChannels p).reverse := by
  constructor
  · rintro ⟨s, hs, cs, hcs, hexpected⟩
    obtain ⟨hnickname, husername, hrealname⟩ := isSome_of_serverConstructor hs
    obtain ⟨s', hs', hinfo⟩ := info_serverConstructor h hnickname husername hrealname
    rw [hs, Except.ok.injEq] at hs'
    rw [← hs', hexpected] at hinfo
    have hpfx := congrArg JsInfo.pfx hinfo
    have hversion := Option.some.inj (congrArg JsInfo.ctcpVersion hinfo)
    have hsource := Option.some.inj (congrArg JsInfo.ctcpSource hinfo)
    have hchannels := JsArray.ofList_injective (congrArg JsInfo.channels hinfo)
    obtain ⟨hversion, hsource⟩ := ctcpStored_eq_iff.1 (Prod.ext hversion.symm hsource.symm)
    exact ⟨⟨hnickname, husername, hrealname, hpfx, hversion, hsource⟩, hchannels ▸ hcs⟩
  · rintro ⟨⟨hnickname, husername, hrealname, hpfx, hversion, hsource⟩, hcs⟩
    obtain ⟨s, hs, hinfo⟩ := info_serverConstructor h hnickname husername hrealname
    refine ⟨s, hs, _, hcs, ?_⟩
    have hstored := ctcpStored_eq_iff.2 ⟨hversion, hsource⟩
    rw [hinfo, hstored, ← hpfx]
    rfl

theorem expectedChannels_reverse_eq_iff (h : p.Valid) :
    (expectedChannels p).reverse = expectedChannels p ↔ (p.channels.getD []).length ≤ 1 := by
  have hnames : (expectedChannels p).map (·.name) =
      (p.channels.getD []).map fun channel => foldCase channel.name := by
    rw [expectedChannels, List.map_map]
    rfl
  constructor
  · intro heq
    have hsame := congrArg (List.map (·.name)) heq
    rw [List.map_reverse, hnames] at hsame
    have hnodup := h.channels
    rw [← List.length_map fun channel : JsChannelParameter => foldCase channel.name]
    generalize ((p.channels.getD []).map fun channel => foldCase channel.name) = names at *
    -- the first name of a longer list is the last one
    cases List.Palindrome.of_reverse_eq hsame with
    | nil => exact Nat.zero_le 1
    | singleton name => exact Nat.le_refl 1
    | cons_concat name hrest =>
      obtain ⟨hfirst, -⟩ := List.nodup_cons.1 hnodup
      exact absurd (List.mem_append_right _ (List.mem_singleton.2 rfl)) hfirst
  · intro hlength
    rw [expectedChannels]
    match p.channels.getD [], hlength with
    | [], _ => rfl
    | [_], _ => rfl

/-- The parameters are reported if and only if the identity is there and no other prefix, version
or source is given. The channels are reported in their order if there is at most one. -/
theorem reports_iff (h : p.Valid) :
    (Reports p (·.Perm (expectedChannels p)) ↔ p.IsTaken) ∧
      (Reports p (· = expectedChannels p) ↔
        p.IsTaken ∧ (p.channels.getD []).length ≤ 1) := by
  rw [reports_iff_reverse h, reports_iff_reverse h, expectedChannels_reverse_eq_iff h]
  exact ⟨and_iff_left (List.reverse_perm _), Iff.rfl⟩

end Info

/-- A server with its whole identity. -/
def liberaParameters : JsParameters where
  name := some (cstr "libera")
  hostname := some (cstr "irc.libera.chat")
  port := some ⟨6697, by decide⟩
  ssl := some true
  nickname := some (cstr "jean")
  username := some (cstr "jean")
  realname := some (cstr "Jean")
  channels := some [⟨cstr "#Staff", none⟩]

theorem liberaParameters_valid : liberaParameters.Valid where
  name := rfl
  hostname := rfl
  channels := List.nodup_singleton _
  version := fun _ h => absurd h.symm (Option.some_ne_none _)
  source := fun _ h => absurd h.symm (Option.some_ne_none _)

theorem reports_libera :
    liberaParameters.Valid ∧
      Reports liberaParameters (· = expectedChannels liberaParameters) :=
  ⟨liberaParameters_valid,
    (reports_iff liberaParameters_valid).2.2
      ⟨⟨rfl, rfl, rfl, rfl, rfl, rfl⟩, Nat.le_refl 1⟩⟩

/-- The prefix of the parameters is not stored. -/
theorem not_forall_reports :
    ¬ ∀ p : JsParameters, p.Valid → Reports p (·.Perm (expectedChannels p)) := by
  intro h
  have hvalid : JsParameters.Valid { liberaParameters with pfx := some (cstr "?") } :=
    ⟨rfl, rfl, List.nodup_singleton _, fun _ h => absurd h.symm (Option.some_ne_none _),
      fun _ h => absurd h.symm (Option.some_ne_none _)⟩
  have htaken := ((reports_iff_reverse hvalid _).1 (h _ hvalid)).1
  exact absurd htaken.pfx (by decide)

end Irccd
