import Irccd.Conf.Printing

/-!
# Servers, printed and read back

A server can be described by its values, and the description can be written as a section of the
configuration file: its directives in any order, its values in quotes, blanks in between.

* `ServerDescription`: the values of a server;
* `ServerDescription.Printed`: the section of a description, in one of its forms;
* `readsBack_iff`: when the parser gets the values back.
-/

namespace Irccd

open Programs

/-! ## Descriptions -/

/-- A channel to join. `with` would be read as the word of the syntax. -/
structure JoinDescription where
  channel : CStr
  key : Option CStr
  ne : channel ≠ cstr "with"

/-- The options of a server. -/
inductive ServerOption
  | autoRejoin
  | joinInvite
  deriving DecidableEq

/-- The name of an option. -/
def ServerOption.name : ServerOption → CStr
  | autoRejoin => cstr "AUTO-REJOIN"
  | joinInvite => cstr "JOIN-INVITE"

/-- The values of a server. -/
structure ServerValues where
  name : CStr
  hostname : CStr
  port : ℕ
  nickname : CStr
  username : CStr
  realname : CStr
  pfx : Option CStr
  password : Option CStr
  ssl : Bool
  joins : List JoinDescription
  ctcp : Option (List (CStr × CStr))
  options : Option (List ServerOption)

namespace ServerValues

variable (v : ServerValues)

/-- The strings of a server. -/
def strings : List CStr :=
  [v.name, v.hostname, v.nickname, v.username, v.realname] ++ v.pfx.toList ++ v.password.toList ++
    (v.joins.flatMap fun j => j.channel :: j.key.toList) ++
    (v.ctcp.getD []).flatMap fun entry => [entry.1, entry.2]

/-- The directive of a channel. -/
def joinDirective (j : JoinDescription) : ServerDirective :=
  match j.key with
  | none => .join j.channel j.ne
  | some key => .joinWith j.channel key

/-- The directives of a server, in one order. -/
def directives : List ServerDirective :=
  [.hostname v.hostname, .port (decimal v.port), .ident v.nickname v.username v.realname] ++
    v.pfx.toList.map .pfx ++ v.password.toList.map .password ++
    (if v.ssl then [.ssl] else []) ++ v.joins.map joinDirective ++ v.ctcp.toList.map .ctcp ++
    v.options.toList.map fun options => .optionsBlock (options.map ServerOption.name)

theorem mem_directives {directive : ServerDirective} (h : directive ∈ v.directives) :
    directive = .hostname v.hostname ∨ directive = .port (decimal v.port) ∨
      directive = .ident v.nickname v.username v.realname ∨
      (∃ pfx, v.pfx = some pfx ∧ directive = .pfx pfx) ∨
      (∃ password, v.password = some password ∧ directive = .password password) ∨
      directive = .ssl ∨ (∃ j ∈ v.joins, directive = joinDirective j) ∨
      (∃ pairs, v.ctcp = some pairs ∧ directive = .ctcp pairs) ∨
      ∃ options, v.options = some options ∧
        directive = .optionsBlock (options.map ServerOption.name) := by
  have hssl : directive ∈ (if v.ssl then [ServerDirective.ssl] else []) → directive = .ssl := by
    cases v.ssl <;> simp
  simp only [directives, List.mem_append, List.mem_cons, List.not_mem_nil, or_false, List.mem_map,
    Option.mem_toList] at h
  rcases h with ((((((h | h | h) | ⟨_, h, rfl⟩) | ⟨_, h, rfl⟩) | h) | ⟨j, h, rfl⟩) | ⟨_, h, rfl⟩) |
    ⟨_, h, rfl⟩
  · exact .inl h
  · exact .inr (.inl h)
  · exact .inr (.inr (.inl h))
  · exact .inr (.inr (.inr (.inl ⟨_, h, rfl⟩)))
  · exact .inr (.inr (.inr (.inr (.inl ⟨_, h, rfl⟩))))
  · exact .inr (.inr (.inr (.inr (.inr (.inl (hssl h))))))
  · exact .inr (.inr (.inr (.inr (.inr (.inr (.inl ⟨j, h, rfl⟩))))))
  · exact .inr (.inr (.inr (.inr (.inr (.inr (.inr (.inl ⟨_, h, rfl⟩)))))))
  · exact .inr (.inr (.inr (.inr (.inr (.inr (.inr (.inr ⟨_, h, rfl⟩)))))))

/-- The value of the last entry with this key. -/
def ctcpValue (key : CStr) (value : CStr) (entries : List (CStr × CStr)) : CStr :=
  entries.foldl (fun value entry => if strcasecmp entry.1 key then entry.2 else value) value

/-- The server with these values, and these channels. -/
def server (channels : List IrcChannel) : ConfServer where
  name := v.name
  hostname := some v.hostname
  port := BitVec.ofNat 32 v.port
  pfx := v.pfx.getD (cstr "!")
  nickname := some v.nickname
  username := some v.username
  realname := some v.realname
  password := v.password
  ctcpVersion := ctcpValue (cstr "version") (cstr "IRC Client Daemon") (v.ctcp.getD [])
  ctcpSource := ctcpValue (cstr "source") (cstr "http://hg.malikania.fr/irccd") (v.ctcp.getD [])
  flags :=
    { ssl := v.ssl
      autoRejoin := (v.options.getD []).contains .autoRejoin
      joinInvite := (v.options.getD []).contains .joinInvite }
  channels

/-- The channels of the server, not joined yet. -/
def channels : List IrcChannel := v.joins.map fun j => ircChannelNew j.channel j.key false

end ServerValues

/-- The values of a server that can be printed. -/
structure ServerDescription extends ServerValues where
  port_pos : 0 < port
  port_le : port ≤ 65535
  distinct : (joins.map fun j => foldCase j.channel).Nodup
  quotable : ∀ s ∈ toServerValues.strings, ∀ b ∈ s, quotedByte b = true

namespace ServerDescription

/-- The pieces of a section up to its closing brace, behind the word `server`. -/
def sectionPieces (d : ServerDescription) (ds : List ServerDirective) : List Piece :=
  .quoted d.name :: .blkBegin :: ds.flatMap ServerDirective.pieces

/-- A printed section: its directives in some order, and the blanks in it. -/
structure Printed (d : ServerDescription) where
  ds : List ServerDirective
  pieces : List (Piece × Blank)
  perm : ds.Perm d.directives
  map_fst : pieces.map Prod.fst = d.sectionPieces ds

/-- The text of a printed section, behind the word `server`. -/
def Printed.text {d : ServerDescription} (printed : d.Printed) : List UInt8 :=
  Piece.printed printed.pieces ++ [TokenType.blkEnd.char]

end ServerDescription

/-- The parser adds the server of a description to the configuration, and the text behind the
section is left. -/
def ReadsBack (n : ℕ) (m : Coroutines) (conf : Conf) (d : ServerDescription) (rest : List UInt8) :
    Prop :=
  ∃ m' channels, channels.Perm d.channels ∧
    run (withConf Op.answer) (confParseServer n) (m, conf) =
      (.ok (), (m', { conf with servers := conf.servers ++ [d.server channels] })) ∧
    m'.Offers (lexTokens (rest.dropWhile isspace))

/-! ## The tokens of a printed section -/

section Printed

variable {d : ServerDescription}

theorem isdigit_quotedByte {b : UInt8} (hb : isdigit b = true) : quotedByte b = true := by
  simp only [isdigit, Bool.and_eq_true, decide_eq_true_eq] at hb
  have h0 : b ≠ 0 := by rintro rfl; exact absurd hb.1 (by decide)
  have hquote : b ≠ TokenType.string.char := by rintro rfl; exact absurd hb.1 (by decide)
  simp [quotedByte, h0, hquote]

theorem ok_bare {s : String} (h : cstr s ≠ [] ∧ (cstr s).all wordByte = true) :
    (Piece.bare (cstr s)).Ok :=
  ⟨h.1, List.all_eq_true.1 h.2⟩

/-- The port is printed with digits. -/
theorem ok_decimal (n : ℕ) : (Piece.quoted (decimal n)).Ok :=
  fun _ hb => isdigit_quotedByte (isdigit_of_mem_decimal hb)

/-- Every piece of a directive is one token. -/
theorem ServerDescription.ok_of_mem_directives {directive : ServerDirective}
    (hd : directive ∈ d.directives) : ∀ piece ∈ directive.pieces, piece.Ok := by
  have hstrings : ∀ s, s ∈ d.strings ↔ (s = d.name ∨ s = d.hostname ∨ s = d.nickname ∨
      s = d.username ∨ s = d.realname) ∨ d.pfx = some s ∨ d.password = some s ∨
      (∃ j ∈ d.joins, s = j.channel ∨ j.key = some s) ∨
      ∃ entry ∈ d.ctcp.getD [], s = entry.1 ∨ s = entry.2 := by
    simp [ServerValues.strings, or_assoc]
  have hok (s : CStr) (hs : s ∈ d.strings) : (Piece.quoted s).Ok := d.quotable s hs
  -- in the order of `mem_directives`; the name of a directive is always a bare word
  rcases d.mem_directives hd with rfl | rfl | rfl | ⟨pfx, hpfx, rfl⟩ | ⟨password, hpassword, rfl⟩ |
    rfl | ⟨j, hj, rfl⟩ | ⟨pairs, hpairs, rfl⟩ | ⟨options, hoptions, rfl⟩
  · exact List.forall_mem_cons.2 ⟨ok_bare (by decide), by
      simpa [ServerDirective.argPieces] using hok _ ((hstrings _).2 (by simp))⟩
  · exact List.forall_mem_cons.2 ⟨ok_bare (by decide), by
      simpa [ServerDirective.argPieces] using ok_decimal d.port⟩
  · exact List.forall_mem_cons.2 ⟨ok_bare (by decide), by
      simp [ServerDirective.argPieces, hok, hstrings]⟩
  · exact List.forall_mem_cons.2 ⟨ok_bare (by decide), by
      simpa [ServerDirective.argPieces] using hok _ ((hstrings _).2 (by simp [hpfx]))⟩
  · exact List.forall_mem_cons.2 ⟨ok_bare (by decide), by
      simpa [ServerDirective.argPieces] using hok _ ((hstrings _).2 (by simp [hpassword]))⟩
  · exact List.forall_mem_cons.2 ⟨ok_bare (by decide), by simp [ServerDirective.argPieces]⟩
  · have hchannel := hok j.channel ((hstrings _).2 (.inr (.inr (.inr (.inl ⟨j, hj, .inl rfl⟩)))))
    rw [ServerValues.joinDirective]
    cases hkey : j.key with
    | none =>
      exact List.forall_mem_cons.2 ⟨ok_bare (by decide), by
        simpa [ServerDirective.argPieces] using hchannel⟩
    | some key =>
      have hpass := hok key ((hstrings _).2 (.inr (.inr (.inr (.inl ⟨j, hj, .inr hkey⟩)))))
      have hwith : (Piece.bare (cstr "with")).Ok := ok_bare (by decide)
      have hword : (Piece.bare (cstr "password")).Ok := ok_bare (by decide)
      exact List.forall_mem_cons.2 ⟨ok_bare (by decide), by
        simp [ServerDirective.argPieces, hchannel, hpass, hwith, hword]⟩
  · have hentry : ∀ entry ∈ pairs, (Piece.quoted entry.1).Ok ∧ (Piece.quoted entry.2).Ok := by
      intro entry hentry
      have hmem : entry ∈ d.ctcp.getD [] := by simpa [hpairs] using hentry
      exact ⟨hok _ ((hstrings _).2 (.inr (.inr (.inr (.inr ⟨entry, hmem, .inl rfl⟩))))),
        hok _ ((hstrings _).2 (.inr (.inr (.inr (.inr ⟨entry, hmem, .inr rfl⟩)))))⟩
    refine List.forall_mem_cons.2 ⟨ok_bare (by decide), ?_⟩
    intro piece hpiece
    simp only [ServerDirective.argPieces, pairPieces, List.mem_cons, List.mem_append,
      List.mem_flatMap, List.not_mem_nil, or_false] at hpiece
    rcases hpiece with rfl | ⟨entry, hmem, rfl | rfl⟩ | rfl
    · trivial
    · exact (hentry entry hmem).1
    · exact (hentry entry hmem).2
    · trivial
  · refine List.forall_mem_cons.2 ⟨ok_bare (by decide), ?_⟩
    intro piece hpiece
    simp only [ServerDirective.argPieces, List.mem_cons, List.mem_append, List.mem_map,
      List.not_mem_nil, or_false] at hpiece
    rcases hpiece with rfl | ⟨name, ⟨option, -, rfl⟩, rfl⟩ | rfl
    · trivial
    · cases option with
      | autoRejoin => exact fun b hb => List.all_eq_true.1 (by decide) b hb
      | joinInvite => exact fun b hb => List.all_eq_true.1 (by decide) b hb
    · trivial

theorem ServerDescription.ok_sectionPieces {ds : List ServerDirective}
    (hperm : ds.Perm d.directives) : ∀ piece ∈ d.sectionPieces ds, piece.Ok := by
  intro piece hpiece
  simp only [sectionPieces, List.mem_cons, List.mem_flatMap] at hpiece
  rcases hpiece with rfl | rfl | ⟨directive, hd, hpiece⟩
  · exact d.quotable _ (by simp [ServerValues.strings])
  · trivial
  · exact d.ok_of_mem_directives (hperm.mem_iff.1 hd) piece hpiece

theorem foldr_cons (toks : List (Token CStr)) (ts : Tokens) :
    toks.foldr Tokens.cons ts = ⟨toks ++ ts.toks, ts.stop⟩ := by
  induction toks with
  | nil => rfl
  | cons t toks ih => rw [List.foldr_cons, ih]; rfl

theorem map_token_printed (printed : d.Printed) :
    (printed.pieces.map fun p => p.1.token) =
      .str d.name :: tokBegin :: printed.ds.flatMap ServerDirective.tokens := by
  have hmap : (printed.pieces.map fun p => p.1.token) =
      (printed.pieces.map Prod.fst).map Piece.token := by
    rw [List.map_map]
    rfl
  rw [hmap, printed.map_fst, ServerDescription.sectionPieces, List.map_cons, List.map_cons,
    List.map_flatMap]
  simp only [map_token_pieces]
  rfl

/-- The tokens of a section, behind the word `server`. -/
theorem lexTokens_section (printed : d.Printed) (rest : List UInt8) :
    lexTokens (printed.text ++ rest) =
      ⟨(ConfSection.server d.name printed.ds).args ++ (lexTokens (rest.dropWhile isspace)).toks,
        (lexTokens (rest.dropWhile isspace)).stop⟩ := by
  have hok : ∀ p ∈ printed.pieces, p.1.Ok := fun p hp =>
    d.ok_sectionPieces printed.perm p.1 (by rw [← printed.map_fst]; exact List.mem_map_of_mem hp)
  -- the section starts with a quote, and not with a blank
  have hdrop : (printed.text ++ rest).dropWhile isspace = printed.text ++ rest := by
    have hfst := printed.map_fst
    match hpieces : printed.pieces with
    | [] => simp [hpieces, ServerDescription.sectionPieces] at hfst
    | p :: pieces =>
      have hp : p.1.Ok := hok p (by rw [hpieces]; simp)
      rw [ServerDescription.Printed.text, hpieces, Piece.printed, List.flatMap_cons,
        List.append_assoc, List.append_assoc, List.append_assoc, p.1.dropWhile_text hp]
  rw [← hdrop, ServerDescription.Printed.text, List.append_assoc,
    lexTokens_printed printed.pieces hok, map_token_printed, foldr_cons]
  have hend : lexTokens (([TokenType.blkEnd.char] ++ rest).dropWhile isspace) =
      (lexTokens (rest.dropWhile isspace)).cons tokEnd := lexTokens_blkEnd
  rw [hend]
  simp [Tokens.cons, ConfSection.args]

end Printed

/-! ## The server of a description -/

section Fold

variable {σ δ γ κ : Type} {f : σ → δ → Option σ} {ds : List δ} {s s' : σ}

/-- One step that always fails. -/
theorem foldlM_eq_none {d : δ} (hd : d ∈ ds) (h : ∀ s, f s d = none) (s : σ) :
    ds.foldlM f s = none := by
  induction ds generalizing s with
  | nil => simp at hd
  | cons d' ds ih =>
    rw [List.foldlM_cons]
    rcases List.mem_cons.1 hd with rfl | hd
    · rw [h s]
      rfl
    · cases f s d' with
      | none => rfl
      | some s' => exact ih hd s'

/-- No step fails. -/
theorem exists_foldlM_eq_some (h : ∀ d ∈ ds, ∀ s, ∃ s', f s d = some s') (s : σ) :
    ∃ s', ds.foldlM f s = some s' := by
  induction ds generalizing s with
  | nil => exact ⟨s, rfl⟩
  | cons d ds ih =>
    obtain ⟨s', hs'⟩ := h d (by simp) s
    obtain ⟨s'', hs''⟩ := ih (fun d hd => h d (List.mem_cons_of_mem _ hd)) s'
    exact ⟨s'', by rw [List.foldlM_cons, hs']; exact hs''⟩

/-- A part of the state that only the steps picked by `pick` change. -/
theorem foldlM_field {g : σ → γ} {pick : δ → Option κ} {change : γ → κ → γ}
    (h : ∀ d ∈ ds, ∀ s s', f s d = some s' → g s' = (pick d).elim (g s) (change (g s)))
    (hs : ds.foldlM f s = some s') : g s' = (ds.filterMap pick).foldl change (g s) := by
  induction ds generalizing s with
  | nil =>
    obtain rfl : s = s' := Option.some.inj hs
    rfl
  | cons d ds ih =>
    rw [List.foldlM_cons] at hs
    obtain ⟨s₁, hd, hs⟩ := Option.bind_eq_some_iff.1 hs
    rw [ih (fun d hd => h d (List.mem_cons_of_mem _ hd)) hs, h d (by simp) s s₁ hd]
    cases hpick : pick d with
    | none => rw [List.filterMap_cons_none hpick]; rfl
    | some k => rw [List.filterMap_cons_some hpick]; rfl

/-- Lists with at most one element have one order. -/
theorem eq_of_perm_of_length_le_one {l l' : List κ} (h : l.Perm l') (hl : l'.length ≤ 1) :
    l = l' := by
  match l', hl with
  | [], _ => exact h.eq_nil
  | [k], _ => exact List.perm_singleton.1 h

end Fold

section Server

variable {d : ServerDescription} {ds : List ServerDirective} {server : ConfServer}

theorem ConfServer.channels_join (server : ConfServer) (name : CStr) (pass : Option CStr) :
    (server.join name pass).channels =
      if (ircServerChannelsFind server.channels name).isSome then server.channels
      else ircChannelNew name pass false :: server.channels := by
  rw [ConfServer.join]
  split
  · rfl
  · rename_i h
    simp only [ircServerChannelsAdd, if_neg h]

/-- Joining channels that differ. -/
theorem foldl_join {joins : List (CStr × Option CStr)} {channels : List IrcChannel}
    (hdistinct : (joins.map fun j => foldCase j.1).Nodup)
    (hnew : ∀ j ∈ joins, ∀ ch ∈ channels, strcasecmp ch.name j.1 = false) :
    joins.foldl (fun channels j =>
        if (ircServerChannelsFind channels j.1).isSome then channels
        else ircChannelNew j.1 j.2 false :: channels) channels =
      (joins.map fun j => ircChannelNew j.1 j.2 false).reverse ++ channels := by
  induction joins generalizing channels with
  | nil => rfl
  | cons j joins ih =>
    rw [List.map_cons, List.nodup_cons] at hdistinct
    have hfind : ircServerChannelsFind channels j.1 = none := by
      rw [ircServerChannelsFind, List.find?_eq_none]
      exact fun ch hch => by simp [hnew j (by simp) ch hch]
    rw [List.foldl_cons, hfind, if_neg (by simp), ih hdistinct.2]
    · simp
    · intro j' hj' ch hch
      rcases List.mem_cons.1 hch with rfl | hch
      · have hne : foldCase j.1 ≠ foldCase j'.1 := fun heq =>
          hdistinct.1 (List.mem_map.2 ⟨j', hj', heq.symm⟩)
        simp [strcasecmp, ircChannelNew, hne]
      · exact hnew j' (List.mem_cons_of_mem _ hj') ch hch

/-- The number of a port. -/
def portValue (value : CStr) : BitVec 32 :=
  match ircUtilStoi value with
  | .ok n => BitVec.ofInt 32 n
  | .error _ => 0

/-- What a directive that is accepted does, apart from options without a block. -/
def ServerDirective.apply (server : ConfServer) : ServerDirective → ConfServer
  | hostname value => { server with hostname := some value }
  | port value => { server with port := portValue value }
  | pfx value => { server with pfx := value }
  | ident nickname username realname =>
    { server with
      nickname := some nickname, username := some username, realname := some realname }
  | password value => { server with password := some value }
  | join channel _ => server.join channel none
  | joinWith channel key => server.join channel (some key)
  | ctcp pairs => pairs.foldl (fun server entry => server.setCtcp entry.1 entry.2) server
  | ssl => { server with flags := { server.flags with ssl := true } }
  | options _ => server
  | optionsBlock _ => server
  | other _ _ => server

theorem ServerDirective.eq_apply {directive : ServerDirective} {s s' : ConfServer}
    (hne : ∀ names, directive ≠ .options names) (h : directive.meaning s = some s') :
    s' = directive.apply s := by
  cases directive with
  | port value =>
    rw [meaning] at h
    rw [apply, portValue]
    cases hstoi : ircUtilStoi value with
    | error e => simp [hstoi] at h
    | ok n =>
      rw [hstoi] at h
      dsimp only at h
      split at h
      · exact (Option.some.inj h).symm
      · simp at h
  | options names => exact absurd rfl (hne names)
  | optionsBlock names => simp [meaning] at h
  | _ => exact (Option.some.inj h).symm

theorem not_options_of_mem {directive : ServerDirective} (hd : directive ∈ d.directives)
    (names : List CStr) : directive ≠ .options names := by
  rintro rfl
  rcases d.mem_directives hd with h | h | h | ⟨_, _, h⟩ | ⟨_, _, h⟩ | h | ⟨j, _, h⟩ | ⟨_, _, h⟩ |
    ⟨_, _, h⟩
  case inr.inr.inr.inr.inr.inr.inl =>
    rw [ServerValues.joinDirective] at h
    split at h <;> cases h
  all_goals cases h

/-- A field of the server, from the directives that change it. -/
theorem exists_field {γ κ : Type} (g : ConfServer → γ) (pick : ServerDirective → Option κ)
    (change : γ → κ → γ) (hperm : ds.Perm d.directives)
    (hserver : serverMeaning d.name ds = some server)
    (h : ∀ directive s, g (ServerDirective.apply s directive) =
      (pick directive).elim (g s) (change (g s))) :
    ∃ picks : List κ, picks.Perm (d.directives.filterMap pick) ∧
      g server = picks.foldl change (g { name := d.name }) := by
  refine ⟨ds.filterMap pick, hperm.filterMap pick, ?_⟩
  refine foldlM_field (fun directive hd s s' hs => ?_) hserver
  rw [ServerDirective.eq_apply (not_options_of_mem (hperm.mem_iff.1 hd)) hs, h]

/-- A field that at most one directive changes. -/
theorem field_eq {γ κ : Type} (g : ConfServer → γ) (pick : ServerDirective → Option κ)
    (change : γ → κ → γ) {picks : List κ} (hperm : ds.Perm d.directives)
    (hserver : serverMeaning d.name ds = some server)
    (h : ∀ directive s, g (ServerDirective.apply s directive) =
      (pick directive).elim (g s) (change (g s)))
    (hpicks : d.directives.filterMap pick = picks) (hlen : picks.length ≤ 1) :
    g server = picks.foldl change (g { name := d.name }) := by
  obtain ⟨picks', hperm', hg⟩ := exists_field g pick change hperm hserver h
  rw [hpicks] at hperm'
  rw [hg, eq_of_perm_of_length_le_one hperm' hlen]

/-- The directives other than those of the channels. -/
theorem filterMap_directives {κ : Type} {pick : ServerDirective → Option κ}
    (hoptions : d.options = none) (hjoin : ∀ channel ne, pick (.join channel ne) = none)
    (hjoinWith : ∀ channel key, pick (.joinWith channel key) = none) :
    d.directives.filterMap pick =
      (pick (.hostname d.hostname)).toList ++ (pick (.port (decimal d.port))).toList ++
        (pick (.ident d.nickname d.username d.realname)).toList ++
        (d.pfx.bind fun pfx => pick (.pfx pfx)).toList ++
        (d.password.bind fun password => pick (.password password)).toList ++
        (if d.ssl then (pick .ssl).toList else []) ++
        (d.ctcp.bind fun pairs => pick (.ctcp pairs)).toList := by
  have hjoins : d.joins.filterMap (fun j => pick (ServerValues.joinDirective j)) = [] := by
    rw [List.filterMap_eq_nil_iff]
    intro j _
    rw [ServerValues.joinDirective]
    split
    · exact hjoin ..
    · exact hjoinWith ..
  -- each directive is picked by itself
  have hone (directive : ServerDirective) (ds : List ServerDirective) :
      (directive :: ds).filterMap pick = (pick directive).toList ++ ds.filterMap pick := by
    cases h : pick directive with
    | none => rw [List.filterMap_cons_none h]; rfl
    | some k => rw [List.filterMap_cons_some h]; rfl
  have hopt {τ : Type} (o : Option τ) (directive : τ → ServerDirective) :
      (o.toList.map directive).filterMap pick = (o.bind fun t => pick (directive t)).toList := by
    cases o with
    | none => rfl
    | some t => simp [hone]
  rw [ServerValues.directives, hoptions]
  simp only [List.filterMap_append, hone, hopt, List.filterMap_map, Function.comp_def, hjoins,
    Option.toList_none, List.map_nil, List.filterMap_nil, List.append_nil, List.append_assoc]
  cases d.ssl with
  | true => simp [hone]
  | false => simp

theorem setCtcp_ctcpVersion (pairs : List (CStr × CStr)) (s : ConfServer) :
    (pairs.foldl (fun server entry => server.setCtcp entry.1 entry.2) s).ctcpVersion =
      ServerValues.ctcpValue (cstr "version") s.ctcpVersion pairs := by
  induction pairs generalizing s with
  | nil => rfl
  | cons entry pairs ih =>
    rw [List.foldl_cons, ih, ServerValues.ctcpValue, ServerValues.ctcpValue, List.foldl_cons]
    congr 1
    rw [ConfServer.setCtcp]
    split
    · rfl
    · split <;> rfl

theorem setCtcp_ctcpSource (pairs : List (CStr × CStr)) (s : ConfServer) :
    (pairs.foldl (fun server entry => server.setCtcp entry.1 entry.2) s).ctcpSource =
      ServerValues.ctcpValue (cstr "source") s.ctcpSource pairs := by
  induction pairs generalizing s with
  | nil => rfl
  | cons entry pairs ih =>
    rw [List.foldl_cons, ih, ServerValues.ctcpValue, ServerValues.ctcpValue, List.foldl_cons]
    congr 1
    rw [ConfServer.setCtcp]
    -- a key is not `version` and `source` at once
    by_cases hversion : strcasecmp entry.1 (cstr "version") = true
    · have hsource : strcasecmp entry.1 (cstr "source") = false := by
        rw [strcasecmp_iff] at hversion
        rw [strcasecmp, hversion]
        decide
      rw [if_pos hversion, hsource]
      simp
    · rw [if_neg hversion]
      split <;> rfl

theorem ircUtilStoi_decimal {n : ℕ} (hn : n ≤ 65535) : ircUtilStoi (decimal n) = .ok (n : ℤ) := by
  have hscan : scanNumber (decimal n ++ []) = some ((n : ℤ), []) :=
    scanNumber_decimal fun b hb => by simp at hb
  rw [List.append_nil] at hscan
  rw [ircUtilStoi, hscan]
  dsimp only
  rw [if_pos]
  constructor <;> omega

theorem portValue_decimal {n : ℕ} (hn : n ≤ 65535) : portValue (decimal n) = BitVec.ofNat 32 n := by
  rw [portValue, ircUtilStoi_decimal hn]
  rfl

/-- Entries of `ctcp` change nothing else. -/
theorem exists_foldl_setCtcp (pairs : List (CStr × CStr)) (s : ConfServer) :
    ∃ ctcpVersion ctcpSource,
      pairs.foldl (fun server entry => server.setCtcp entry.1 entry.2) s =
        { s with ctcpVersion, ctcpSource } := by
  induction pairs generalizing s with
  | nil => exact ⟨_, _, rfl⟩
  | cons entry pairs ih =>
    obtain ⟨version, source, hrest⟩ := ih (s.setCtcp entry.1 entry.2)
    refine ⟨version, source, ?_⟩
    rw [List.foldl_cons, hrest, ConfServer.setCtcp]
    split
    · rfl
    · split <;> rfl

/-- A channel changes nothing else. -/
theorem exists_join (server : ConfServer) (name : CStr) (pass : Option CStr) :
    ∃ channels, server.join name pass = { server with channels } := by
  rw [ConfServer.join]
  split
  · exact ⟨_, rfl⟩
  · exact ⟨_, rfl⟩

/-- The channel of a directive. -/
def joinOf : ServerDirective → Option (CStr × Option CStr)
  | .join channel _ => some (channel, none)
  | .joinWith channel key => some (channel, some key)
  | _ => none

theorem joinOf_joinDirective (j : JoinDescription) :
    joinOf (ServerValues.joinDirective j) = some (j.channel, j.key) := by
  rw [ServerValues.joinDirective]
  cases j.key <;> rfl

theorem filterMap_joinOf (v : ServerValues) :
    v.directives.filterMap joinOf = v.joins.map fun j => (j.channel, j.key) := by
  have hjoins : v.joins.filterMap (joinOf ∘ ServerValues.joinDirective) =
      v.joins.map fun j => (j.channel, j.key) := by
    rw [show joinOf ∘ ServerValues.joinDirective = some ∘ fun j => (j.channel, j.key) from
      funext joinOf_joinDirective, List.filterMap_eq_map]
  have hnone {τ : Type} (directive : τ → ServerDirective) (o : List τ)
      (h : ∀ t, joinOf (directive t) = none) : (o.map directive).filterMap joinOf = [] := by
    rw [List.filterMap_map, List.filterMap_eq_nil_iff]
    exact fun t _ => h t
  have hssl : (if v.ssl then [ServerDirective.ssl] else []).filterMap joinOf = [] := by
    cases v.ssl <;> rfl
  have hpfx := hnone .pfx v.pfx.toList fun _ => rfl
  have hpassword := hnone .password v.password.toList fun _ => rfl
  have hctcp := hnone .ctcp v.ctcp.toList fun _ => rfl
  have hoptions := hnone (fun options => .optionsBlock (options.map ServerOption.name))
    v.options.toList fun _ => rfl
  have hfirst : [ServerDirective.hostname v.hostname, .port (decimal v.port),
      .ident v.nickname v.username v.realname].filterMap joinOf = [] := rfl
  rw [ServerValues.directives]
  simp only [List.filterMap_append, hfirst, hpfx, hpassword, hssl, hctcp, hoptions,
    List.nil_append, List.append_nil]
  rw [List.filterMap_map, hjoins]

/-- The channels of the server are those of the description. -/
theorem perm_channels (hperm : ds.Perm d.directives)
    (hserver : serverMeaning d.name ds = some server) : server.channels.Perm d.channels := by
  obtain ⟨picks, hpicks, hchannels⟩ := exists_field ConfServer.channels joinOf
    (fun channels j =>
      if (ircServerChannelsFind channels j.1).isSome then channels
      else ircChannelNew j.1 j.2 false :: channels) hperm hserver fun directive s => by
        cases directive with
        | join channel ne => exact s.channels_join channel none
        | joinWith channel key => exact s.channels_join channel (some key)
        | ctcp pairs =>
          obtain ⟨version, source, heq⟩ := exists_foldl_setCtcp pairs s
          rw [ServerDirective.apply, heq]
          rfl
        | _ => rfl
  rw [filterMap_joinOf] at hpicks
  have hdistinct : (picks.map fun j => foldCase j.1).Nodup := by
    refine (hpicks.map _).nodup_iff.2 ?_
    rw [List.map_map]
    exact d.distinct
  rw [hchannels, foldl_join hdistinct fun j _ ch hch => by simp at hch, List.append_nil]
  refine (List.reverse_perm _).trans ((hpicks.map _).trans ?_)
  rw [List.map_map]
  exact .refl _

/-- A directive that is neither a channel nor a list of entries. -/
def IsPlain : ServerDirective → Prop
  | .join _ _ => False
  | .joinWith _ _ => False
  | .ctcp _ => False
  | _ => True

/-- A field that at most one plain directive changes. -/
theorem plain_field {γ κ : Type} (g : ConfServer → γ) (pick : ServerDirective → Option κ)
    (change : γ → κ → γ) (hperm : ds.Perm d.directives)
    (hserver : serverMeaning d.name ds = some server) (hoptions : d.options = none)
    (hg : ∀ (s : ConfServer) channels ctcpVersion ctcpSource,
      g { s with channels, ctcpVersion, ctcpSource } = g s)
    (hnone : ∀ directive, ¬ IsPlain directive → pick directive = none)
    (h : ∀ directive s, IsPlain directive → g (ServerDirective.apply s directive) =
      (pick directive).elim (g s) (change (g s)))
    (picks : List κ) (hlen : picks.length ≤ 1)
    (hpicks : (pick (.hostname d.hostname)).toList ++ (pick (.port (decimal d.port))).toList ++
        (pick (.ident d.nickname d.username d.realname)).toList ++
        (d.pfx.bind fun pfx => pick (.pfx pfx)).toList ++
        (d.password.bind fun password => pick (.password password)).toList ++
        (if d.ssl then (pick .ssl).toList else []) = picks) :
    g server = picks.foldl change (g { name := d.name }) := by
  refine field_eq g pick change hperm hserver (fun directive s => ?_) ?_ hlen
  -- only `join`, `join-with` and `ctcp` are not plain, and they change no plain field
  · cases directive with
    | join channel ne =>
      obtain ⟨channels, heq⟩ := exists_join s channel none
      rw [ServerDirective.apply, heq, hnone _ id, Option.elim_none]
      exact hg s channels _ _
    | joinWith channel key =>
      obtain ⟨channels, heq⟩ := exists_join s channel (some key)
      rw [ServerDirective.apply, heq, hnone _ id, Option.elim_none]
      exact hg s channels _ _
    | ctcp pairs =>
      obtain ⟨version, source, heq⟩ := exists_foldl_setCtcp pairs s
      rw [ServerDirective.apply, heq, hnone _ id, Option.elim_none]
      exact hg s _ version source
    | _ => exact h _ s trivial
  · rw [filterMap_directives hoptions (fun _ _ => hnone _ id) (fun _ _ => hnone _ id), hpicks]
    have hctcp : (d.ctcp.bind fun pairs => pick (.ctcp pairs)) = none := by
      rw [Option.bind_eq_none_iff]
      exact fun pairs _ => hnone _ id
    rw [hctcp, Option.toList_none, List.append_nil]

/-- The entry list of a directive. -/
def ctcpOf : ServerDirective → Option (List (CStr × CStr))
  | .ctcp pairs => some pairs
  | _ => none

theorem filterMap_ctcpOf (hoptions : d.options = none) :
    d.directives.filterMap ctcpOf = d.ctcp.toList := by
  rw [filterMap_directives hoptions (fun _ _ => rfl) (fun _ _ => rfl)]
  cases d.pfx <;> cases d.password <;> cases d.ssl <;> cases d.ctcp <;> rfl

/-- A reply to a CTCP query. -/
theorem ctcp_field (g : ConfServer → CStr) (key : CStr) (hperm : ds.Perm d.directives)
    (hserver : serverMeaning d.name ds = some server) (hoptions : d.options = none)
    (hctcp : ∀ pairs s, g (pairs.foldl (fun server entry => server.setCtcp entry.1 entry.2) s) =
      ServerValues.ctcpValue key (g s) pairs)
    (hg : ∀ (s : ConfServer) channels, g { s with channels } = g s)
    (h : ∀ directive s, IsPlain directive → g (ServerDirective.apply s directive) = g s) :
    g server = ServerValues.ctcpValue key (g { name := d.name }) (d.ctcp.getD []) := by
  have hfield := field_eq g ctcpOf (ServerValues.ctcpValue key) hperm hserver
    (fun directive s => by
      cases directive with
      | join channel ne =>
        obtain ⟨channels, heq⟩ := exists_join s channel none
        rw [ServerDirective.apply, heq]
        exact hg s channels
      | joinWith channel key =>
        obtain ⟨channels, heq⟩ := exists_join s channel (some key)
        rw [ServerDirective.apply, heq]
        exact hg s channels
      | ctcp pairs => exact hctcp pairs s
      | _ => exact h _ s trivial)
    (filterMap_ctcpOf hoptions) (by cases d.ctcp <;> simp)
  rw [hfield]
  cases d.ctcp <;> rfl

attribute [ext] ConfServer

/-- The fields of the server. -/
theorem eq_server (hperm : ds.Perm d.directives)
    (hserver : serverMeaning d.name ds = some server) (hoptions : d.options = none) :
    server = d.server server.channels := by
  -- each field is that of the one directive that sets it, wherever it stands in the block
  have hname : server.name = d.name :=
    plain_field ConfServer.name (fun _ => (none : Option Unit)) (fun name _ => name) hperm hserver
      hoptions (fun _ _ _ _ => rfl) (fun _ _ => rfl)
      (fun directive s h => by cases directive <;> first | rfl | exact h.elim) [] (by simp)
      (by simp)
  have hhostname : server.hostname = some d.hostname :=
    plain_field ConfServer.hostname (fun | .hostname value => some value | _ => none)
      (fun _ value => some value) hperm hserver hoptions (fun _ _ _ _ => rfl)
      (fun directive h => by cases directive <;> first | rfl | exact absurd trivial h)
      (fun directive s h => by cases directive <;> first | rfl | exact h.elim) [d.hostname]
      (by simp) (by cases d.pfx <;> cases d.password <;> cases d.ssl <;> rfl)
  have hport : server.port = portValue (decimal d.port) :=
    plain_field ConfServer.port (fun | .port value => some value | _ => none)
      (fun _ value => portValue value) hperm hserver hoptions (fun _ _ _ _ => rfl)
      (fun directive h => by cases directive <;> first | rfl | exact absurd trivial h)
      (fun directive s h => by cases directive <;> first | rfl | exact h.elim) [decimal d.port]
      (by simp) (by cases d.pfx <;> cases d.password <;> cases d.ssl <;> rfl)
  have hnickname : server.nickname = some d.nickname :=
    plain_field ConfServer.nickname (fun | .ident nickname _ _ => some nickname | _ => none)
      (fun _ value => some value) hperm hserver hoptions (fun _ _ _ _ => rfl)
      (fun directive h => by cases directive <;> first | rfl | exact absurd trivial h)
      (fun directive s h => by cases directive <;> first | rfl | exact h.elim) [d.nickname]
      (by simp) (by cases d.pfx <;> cases d.password <;> cases d.ssl <;> rfl)
  have husername : server.username = some d.username :=
    plain_field ConfServer.username (fun | .ident _ username _ => some username | _ => none)
      (fun _ value => some value) hperm hserver hoptions (fun _ _ _ _ => rfl)
      (fun directive h => by cases directive <;> first | rfl | exact absurd trivial h)
      (fun directive s h => by cases directive <;> first | rfl | exact h.elim) [d.username]
      (by simp) (by cases d.pfx <;> cases d.password <;> cases d.ssl <;> rfl)
  have hrealname : server.realname = some d.realname :=
    plain_field ConfServer.realname (fun | .ident _ _ realname => some realname | _ => none)
      (fun _ value => some value) hperm hserver hoptions (fun _ _ _ _ => rfl)
      (fun directive h => by cases directive <;> first | rfl | exact absurd trivial h)
      (fun directive s h => by cases directive <;> first | rfl | exact h.elim) [d.realname]
      (by simp) (by cases d.pfx <;> cases d.password <;> cases d.ssl <;> rfl)
  -- the fields that no directive need set keep their defaults
  have hpfx : server.pfx = d.pfx.getD (cstr "!") := by
    have hfield := plain_field ConfServer.pfx (fun | .pfx value => some value | _ => none)
      (fun _ value => value) hperm hserver hoptions (fun _ _ _ _ => rfl)
      (fun directive h => by cases directive <;> first | rfl | exact absurd trivial h)
      (fun directive s h => by cases directive <;> first | rfl | exact h.elim) d.pfx.toList
      (by cases d.pfx <;> simp) (by cases d.pfx <;> cases d.password <;> cases d.ssl <;> rfl)
    rw [hfield]
    cases d.pfx <;> rfl
  have hpassword : server.password = d.password := by
    have hfield := plain_field ConfServer.password (fun | .password value => some value | _ => none)
      (fun _ value => some value) hperm hserver hoptions (fun _ _ _ _ => rfl)
      (fun directive h => by cases directive <;> first | rfl | exact absurd trivial h)
      (fun directive s h => by cases directive <;> first | rfl | exact h.elim) d.password.toList
      (by cases d.password <;> simp) (by cases d.pfx <;> cases d.password <;> cases d.ssl <;> rfl)
    rw [hfield]
    cases d.password <;> rfl
  have hflags : server.flags = { ssl := d.ssl } := by
    have hfield := plain_field ConfServer.flags (fun | .ssl => some () | _ => none)
      (fun flags _ => { flags with ssl := true }) hperm hserver hoptions (fun _ _ _ _ => rfl)
      (fun directive h => by cases directive <;> first | rfl | exact absurd trivial h)
      (fun directive s h => by cases directive <;> first | rfl | exact h.elim)
      (if d.ssl then [()] else []) (by cases d.ssl <;> simp)
      (by cases d.pfx <;> cases d.password <;> cases d.ssl <;> rfl)
    rw [hfield]
    cases d.ssl <;> rfl
  -- the directive `ctcp` sets two fields
  have hversion : server.ctcpVersion = (d.server server.channels).ctcpVersion :=
    ctcp_field ConfServer.ctcpVersion (cstr "version") hperm hserver hoptions setCtcp_ctcpVersion
      (fun _ _ => rfl) fun directive s h => by cases directive <;> first | rfl | exact h.elim
  have hsource : server.ctcpSource = (d.server server.channels).ctcpSource :=
    ctcp_field ConfServer.ctcpSource (cstr "source") hperm hserver hoptions setCtcp_ctcpSource
      (fun _ _ => rfl) fun directive s h => by cases directive <;> first | rfl | exact h.elim
  rw [portValue_decimal d.port_le] at hport
  have hoff : (d.server server.channels).flags = { ssl := d.ssl } := by
    simp [ServerValues.server, hoptions]
  exact ConfServer.ext hname hhostname hport hpfx hnickname husername hrealname hpassword hversion
    hsource (hflags.trans hoff.symm) rfl

/-- The values of a description are accepted, but for the greatest port and for options. -/
theorem exists_serverMeaning_iff (hperm : ds.Perm d.directives) :
    (∃ server, serverMeaning d.name ds = some server) ↔ d.port < 65535 ∧ d.options = none := by
  constructor
  · rintro ⟨server, hserver⟩
    have hne {directive : ServerDirective} (hd : directive ∈ d.directives)
        (h : ∀ s, ServerDirective.meaning s directive = none) : False := by
      have := foldlM_eq_none (hperm.mem_iff.2 hd) h { name := d.name }
      rw [show ds.foldlM ServerDirective.meaning { name := d.name } = some server from hserver]
        at this
      cases this
    constructor
    -- the directive of the port 65535 is refused
    · by_contra hport
      have heq : d.port = 65535 := le_antisymm d.port_le (not_lt.1 hport)
      have hmem : ServerDirective.port (decimal d.port) ∈ d.directives := by
        simp [ServerValues.directives]
      refine hne hmem fun s => ?_
      rw [ServerDirective.meaning, ircUtilStoi_decimal d.port_le, heq]
      rfl
    -- a block of options is refused at its brace
    · by_contra hoptions
      obtain ⟨options, hsome⟩ := Option.ne_none_iff_exists'.1 hoptions
      have hmem : ServerDirective.optionsBlock (options.map ServerOption.name) ∈ d.directives := by
        simp [ServerValues.directives, hsome]
      exact hne hmem fun s => rfl
  · rintro ⟨hport, hoptions⟩
    refine exists_foldlM_eq_some (fun directive hd s => ?_) _
    rcases d.mem_directives (hperm.mem_iff.1 hd) with rfl | rfl | rfl | ⟨_, -, rfl⟩ | ⟨_, -, rfl⟩ |
      rfl | ⟨j, -, rfl⟩ | ⟨_, -, rfl⟩ | ⟨_, hsome, -⟩
    case inr.inl =>
      have haccepted : PortAccepted (d.port : ℤ) := by
        have := d.port_pos
        rw [PortAccepted]
        omega
      rw [ServerDirective.meaning, ircUtilStoi_decimal d.port_le]
      exact ⟨_, if_pos haccepted⟩
    case inr.inr.inr.inr.inr.inr.inl =>
      rw [ServerValues.joinDirective]
      split
      · exact ⟨_, rfl⟩
      · exact ⟨_, rfl⟩
    case inr.inr.inr.inr.inr.inr.inr.inr => simp [hoptions] at hsome
    all_goals exact ⟨_, rfl⟩

end Server

/-! ## Reading a server back -/

section ReadsBack

variable {d : ServerDescription}

/-- A printed section does not have more tokens than bytes. -/
theorem length_args_le (printed : d.Printed) :
    (ConfSection.server d.name printed.ds).args.length ≤ printed.text.length := by
  have hpieces : printed.pieces.length ≤ (Piece.printed printed.pieces).length := by
    refine length_le_length_flatMap fun p _ => ?_
    rw [List.length_append]
    exact Nat.add_pos_right _ (List.length_pos_iff.2 p.2.ne_nil)
  have htokens := congrArg List.length (map_token_printed printed)
  simp only [List.length_map, List.length_cons] at htokens
  simp only [ConfSection.args, ServerDescription.Printed.text, List.length_cons,
    List.length_append, List.length_nil]
  omega

/-- The server of a description passes the checks. -/
theorem check_server (channels : List IrcChannel) : (d.server channels).check = .ok () := by
  have hport : BitVec.ofNat 32 d.port ≠ 0 := by
    intro heq
    have := congrArg BitVec.toNat heq
    rw [BitVec.toNat_ofNat, Nat.mod_eq_of_lt (by have := d.port_le; omega)] at this
    exact absurd this (Nat.ne_of_gt d.port_pos)
  simpa [ConfServer.check, ServerValues.server] using hport

/-- What the section means: the server of the description, if it is accepted. -/
theorem meaning_section (printed : d.Printed) (env : ConfEnv) (conf : Conf)
    (h : d.port < 65535 ∧ d.options = none ∧ conf.servers.all (·.name != d.name) = true) :
    ∃ channels : List IrcChannel, channels.Perm d.channels ∧
      (ConfSection.server d.name printed.ds).meaning env conf =
        some { conf with servers := conf.servers ++ [d.server channels] } := by
  obtain ⟨hport, hoptions, hname⟩ := h
  obtain ⟨server, hserver⟩ := (exists_serverMeaning_iff printed.perm).2 ⟨hport, hoptions⟩
  have heq := eq_server printed.perm hserver hoptions
  refine ⟨server.channels, perm_channels printed.perm hserver, ?_⟩
  have hdup : ¬ conf.servers.any (·.name == d.name) = true := by
    simpa [List.all_eq_true, bne_iff_ne] using hname
  rw [ConfSection.meaning, if_neg hdup, hserver, Option.bind_some]
  rw [heq]
  simp only [check_server]
  rfl

theorem meaning_section_eq_none (printed : d.Printed) (env : ConfEnv) (conf : Conf)
    (h : ¬ (d.port < 65535 ∧ d.options = none ∧ conf.servers.all (·.name != d.name) = true)) :
    (ConfSection.server d.name printed.ds).meaning env conf = none := by
  rw [ConfSection.meaning]
  split
  · rfl
  · rename_i hdup
    have hname : conf.servers.all (·.name != d.name) = true := by
      simpa [List.all_eq_true, bne_iff_ne] using hdup
    cases hserver : serverMeaning d.name printed.ds with
    | none => rfl
    | some server =>
      obtain ⟨hport, hoptions⟩ := (exists_serverMeaning_iff printed.perm).1 ⟨server, hserver⟩
      exact absurd ⟨hport, hoptions, hname⟩ h

/-- How the parser runs on a printed section. -/
theorem does_printed (printed : d.Printed) {rest : List UInt8} {n : ℕ} {m : Coroutines}
    (hm : m.Offers (lexTokens (printed.text ++ rest))) (hn : printed.text.length < n)
    (conf : Conf) :
    ∃ x, Related OffersConf SameConf (run (withConf Op.answer) (confParseServer n) (m, conf)) x ∧
      Continues x (fun conf => (.ok (), (lexTokens (rest.dropWhile isspace), conf)))
        ((ConfSection.server d.name printed.ds).meaning bareEnv conf) := by
  rw [lexTokens_section] at hm
  exact ⟨_, run_coroutines_related (confParseServer n) hm conf,
    does_server d.name printed.ds ((length_args_le printed).trans_lt hn) bareEnv⟩

theorem readsBack_of_accepted (printed : d.Printed) {rest : List UInt8} {n : ℕ} {m : Coroutines}
    {conf : Conf} (hm : m.Offers (lexTokens (printed.text ++ rest)))
    (hn : printed.text.length < n)
    (h : d.port < 65535 ∧ d.options = none ∧ conf.servers.all (·.name != d.name) = true) :
    ReadsBack n m conf d rest := by
  obtain ⟨x, hrel, hdoes⟩ := does_printed printed hm hn conf
  obtain ⟨channels, hperm, hmeaning⟩ := meaning_section printed bareEnv conf h
  rw [hmeaning] at hdoes
  obtain rfl := hdoes
  obtain ⟨a, ⟨m', conf'⟩, t, hrun, ht, hoffers, hconf⟩ | ⟨why, s, t, -, ht, -⟩ := hrel.ok_or_error
  · cases ht
    obtain rfl : conf' = _ := hconf
    exact ⟨m', channels, hperm, hrun, hoffers⟩
  · cases ht

theorem not_readsBack_of_refused (printed : d.Printed) {rest : List UInt8} {n : ℕ}
    {m : Coroutines} {conf : Conf} (hm : m.Offers (lexTokens (printed.text ++ rest)))
    (hn : printed.text.length < n)
    (h : ¬ (d.port < 65535 ∧ d.options = none ∧ conf.servers.all (·.name != d.name) = true)) :
    ¬ ReadsBack n m conf d rest := by
  rintro ⟨m', channels, -, hrun, -⟩
  obtain ⟨x, hrel, hdoes⟩ := does_printed printed hm hn conf
  rw [meaning_section_eq_none printed _ conf h] at hdoes
  obtain ⟨message, s, rfl⟩ := hdoes
  rw [hrun] at hrel
  exact hrel

/-- The parser gets the values of a printed description back unless the port is the greatest one,
there are options, or the name is already taken. -/
theorem readsBack_iff (d : ServerDescription) (printed : d.Printed) (rest : List UInt8) (n : ℕ)
    (m : Coroutines) (conf : Conf) (hm : m.Offers (lexTokens (printed.text ++ rest)))
    (hn : printed.text.length < n) :
    ReadsBack n m conf d rest ↔
      d.port < 65535 ∧ d.options = none ∧ conf.servers.all (·.name != d.name) = true :=
  ⟨fun h => by_contra fun hn' => not_readsBack_of_refused printed hm hn hn' h,
    readsBack_of_accepted printed hm hn⟩

end ReadsBack

/-! ### One server -/

/-- A description with one space behind every piece, and its directives in the order of the
values. -/
def ServerDescription.print (d : ServerDescription) : d.Printed where
  ds := d.directives
  pieces := (d.sectionPieces d.directives).map fun piece =>
    (piece, ⟨[SP], List.cons_ne_nil _ _, List.all_eq_true.1 (by decide)⟩)
  perm := .refl _
  map_fst := by rw [List.map_map]; exact List.map_id _

/-- The values of a server with a name, a port and options, and little else. -/
def plainServer (port : ℕ) (options : Option (List ServerOption)) : ServerValues where
  name := cstr "s"
  hostname := cstr "h"
  port := port
  nickname := cstr "n"
  username := cstr "u"
  realname := cstr "r"
  pfx := none
  password := none
  ssl := false
  joins := []
  ctcp := none
  options := options

theorem forall_quoted_of_all {v : ServerValues} (h : v.strings.all (·.all quotedByte) = true) :
    ∀ s ∈ v.strings, ∀ b ∈ s, quotedByte b = true := fun s hs =>
  List.all_eq_true.1 (List.all_eq_true.1 h s hs)

/-- A server at the standard port. -/
def standardServer : ServerDescription where
  toServerValues := plainServer 6667 none
  port_pos := by decide
  port_le := by decide
  distinct := .nil
  quotable := forall_quoted_of_all (by decide)

/-- A server at the greatest port. -/
def lastServer : ServerDescription where
  toServerValues := plainServer 65535 none
  port_pos := by decide
  port_le := by decide
  distinct := .nil
  quotable := forall_quoted_of_all (by decide)

/-- A file with a server at the standard port. -/
theorem readsBack_iff_standardServer :
    ReadsBack 100 (spawn standardServer.print.text) {} standardServer [0] ↔
      standardServer.port < 65535 ∧ standardServer.options = none ∧
        ({} : Conf).servers.all (·.name != standardServer.name) = true :=
  readsBack_iff standardServer standardServer.print [0] 100 _ {}
    (offers_spawn standardServer.print.text) (by decide)

/-- A server at the greatest port is refused. -/
theorem not_forall_readsBack :
    ¬ ∀ (d : ServerDescription) (printed : d.Printed) (rest : List UInt8) (n : ℕ)
      (m : Coroutines) (conf : Conf), m.Offers (lexTokens (printed.text ++ rest)) →
      printed.text.length < n → conf.servers.all (·.name != d.name) = true →
      ReadsBack n m conf d rest := fun h =>
  not_readsBack_of_refused lastServer.print (offers_spawn lastServer.print.text)
    (show _ < 100 by decide) (by decide) (h lastServer lastServer.print [0] 100 _ {}
      (offers_spawn lastServer.print.text) (by decide) (by decide))

end Irccd
