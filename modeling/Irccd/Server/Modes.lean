import Irccd.Server.Identity
import Irccd.Server.Prefixes
import Mathlib.Data.List.Nodup

/-!
# The modes of the users (`server.c`)

A MODE message gives and takes modes under a running sign, with a list of arguments of which each
letter consumes at most one. `irc_server_handle_mode` keeps the modes of the users of a channel as
bits.

* `ModeChange`: a bit that is set or cleared for a user;
* `refChanges`: what a message says;
* `codeChanges`: what the loop of the handler makes of it;
* `ModesAligned`: the condition under which both agree;
* `LetterSays`: the cases of `refChanges` for one letter;
* `codeChanges_of_aligned`, `exists_missed`: what becomes of the changes when it holds, and when
  not;
* `modesRight_iff_aligned`: the handler is right exactly when it holds.
-/

namespace Irccd

/-- A bit that is set or cleared for a user. -/
structure ModeChange where
  plus : Bool
  index : ℕ
  nickname : CStr
  deriving DecidableEq

namespace ModeChange

/-- The modes after the change. -/
def apply (c : ModeChange) (modes : BitVec 32) : BitVec 32 :=
  if c.plus then modes ||| 1#32 <<< c.index else modes &&& ~~~(1#32 <<< c.index)

/-- The modes of the user `n` after the change, which may be about another user. -/
def applyTo (n : CStr) (modes : BitVec 32) (c : ModeChange) : BitVec 32 :=
  if foldCase c.nickname = foldCase n then c.apply modes else modes

/-- The change as the handler makes it. -/
def onChannel (ch : IrcChannel) (c : ModeChange) : IrcChannel :=
  match ircChannelGet ch c.nickname with
  | none => ch
  | some u => ircChannelSet ch u.nickname (c.apply u.modes)

end ModeChange

/-! ## What a message says -/

/-- The letter is in the PREFIX table. -/
def isMode (prefixes : List IrcServerUmode) (c : UInt8) : Bool := prefixes.any (·.mode == c)

/-- The letter consumes an argument under the sign. -/
def takesArg (prefixes : List IrcServerUmode) (sign c : UInt8) : Bool :=
  c ∈ cstr "beIk" || isMode prefixes c || (c == 108 && sign == 43)

/-- What a MODE message says, with the sign for its next letter and the arguments that are left. It
is `none` when a letter has no sign or lacks its argument. -/
def refChanges (prefixes : List IrcServerUmode) :
    CStr → UInt8 → List CStr → Option (List ModeChange)
  | [], _, _ => some []
  | c :: cs, sign, params =>
    if c = 43 ∨ c = 45 then refChanges prefixes cs c params
    else if sign ≠ 43 ∧ sign ≠ 45 then none
    else if takesArg prefixes sign c then
      match params with
      | [] => none
      | a :: params =>
        if isMode prefixes c then
          (refChanges prefixes cs sign params).map
            (⟨sign == 43, prefixes.findIdx (·.mode == c), a⟩ :: ·)
        else refChanges prefixes cs sign params
    else refChanges prefixes cs sign params

/-- The PREFIX table has at most 15 letters, all different, and none with another meaning. Its
symbols are different. -/
structure PrefixTable (prefixes : List IrcServerUmode) : Prop where
  length_le : prefixes.length ≤ 15
  modes : (prefixes.map (·.mode)).Nodup
  symbols : (prefixes.map (·.symbol)).Nodup
  letters : ∀ u ∈ prefixes, u.mode ∉ cstr "beIkl+-"

/-- The first letter of the PREFIX table does not occur, and no letter of the table comes after a
letter that takes no argument. -/
def ModesAligned (prefixes : List IrcServerUmode) : CStr → UInt8 → Prop
  | [], _ => True
  | c :: cs, sign =>
    if c = 43 ∨ c = 45 then ModesAligned prefixes cs c
    else if takesArg prefixes sign c then
      prefixes.head?.map (·.mode) ≠ some c ∧ ModesAligned prefixes cs sign
    else ∀ d ∈ cs, isMode prefixes d = false

instance decidableModesAligned (prefixes : List IrcServerUmode) :
    (modes : CStr) → (sign : UInt8) → Decidable (ModesAligned prefixes modes sign)
  | [], _ => isTrue trivial
  | c :: cs, sign => by
    have := decidableModesAligned prefixes cs c
    have := decidableModesAligned prefixes cs sign
    unfold ModesAligned
    infer_instance

/-! ## What the handler makes of it -/

/-- The changes that the loop of `irc_server_handle_mode` makes, from the argument `argindex` on. It
is `none` when an argument is read that is not there. -/
def codeChanges (prefixes : List IrcServerUmode) (args : List CStr) :
    CStr → UInt8 → ℕ → Option (List ModeChange)
  | [], _, _ => some []
  | c :: cs, action, argindex =>
    if c = 43 ∨ c = 45 then codeChanges prefixes args cs c argindex
    else if c ∈ modeSkipped ∨ ircServerModesFind prefixes c = 0 then
      codeChanges prefixes args cs action (argindex + 1)
    else
      match args[argindex]? with
      | none => none
      | some a => (codeChanges prefixes args cs action (argindex + 1)).map
          (⟨action == 43, ircServerModesFind prefixes c, a⟩ :: ·)

theorem modeLoop_eq {prefixes : List IrcServerUmode} {msg : ConnMsg} {modes : CStr} {action : UInt8}
    {argindex : ℕ} {ch ch' : IrcChannel} :
    modeLoop prefixes msg modes action argindex ch = .ok ch' ↔
      ∃ cs, codeChanges prefixes msg.args modes action argindex = some cs ∧
        cs.foldl ModeChange.onChannel ch = ch' := by
  induction modes generalizing action argindex ch with
  | nil => simp [modeLoop, codeChanges]
  | cons c cs ih =>
    rw [modeLoop, codeChanges]
    by_cases hsign : c = 43 ∨ c = 45
    · rw [if_pos hsign, if_pos hsign, ih]
    by_cases hskip : c ∈ modeSkipped
    · rw [if_neg hsign, if_neg hsign, if_pos hskip, if_pos (.inl hskip), ih]
    by_cases hmode : ircServerModesFind prefixes c = 0
    · rw [if_neg hsign, if_neg hsign, if_neg hskip, if_pos hmode, if_pos (.inr hmode), ih]
    · rw [if_neg hsign, if_neg hsign, if_neg hskip, if_neg hmode, if_neg (not_or.2 ⟨hskip, hmode⟩),
        bind_eq_ok_iff]
      simp only [arg_eq_ok_iff]
      cases harg : msg.args[argindex]? with
      | none => simp
      | some a =>
        -- the change is the first of the list, whether the user is known or not
        have hcons : ∀ (c : ModeChange) (x : Option (List ModeChange)),
            (∃ chs, x.map (c :: ·) = some chs ∧ chs.foldl ModeChange.onChannel ch = ch') ↔
              ∃ chs, x = some chs ∧ chs.foldl ModeChange.onChannel (c.onChannel ch) = ch' := by
          rintro c (_ | chs) <;> simp
        simp only [Option.some.injEq, exists_eq_left', hcons, ModeChange.onChannel,
          ModeChange.apply, beq_iff_eq]
        cases ircChannelGet ch a with
        | none => exact ih
        | some u => exact ih

/-! ## The users of the channel -/

section Users

variable {ch : IrcChannel}

theorem ircChannelGet_congr {n m : CStr} (h : foldCase n = foldCase m) :
    ircChannelGet ch n = ircChannelGet ch m := by
  simp only [ircChannelGet, strcasecmp, h]

theorem foldCase_of_ircChannelGet {n : CStr} {u : IrcChannelUser}
    (h : ircChannelGet ch n = some u) : foldCase u.nickname = foldCase n := by
  simpa using List.find?_some h

theorem map_nickname_setModes (n : CStr) (modes : BitVec 32) (us : List IrcChannelUser) :
    (setModes n modes us).map (·.nickname) = us.map (·.nickname) := by
  induction us with
  | nil => rfl
  | cons u us ih =>
    rw [setModes]
    split
    · rfl
    · rw [List.map_cons, List.map_cons, ih]

/-- The first user with a key, after the modes of the first user with the nickname `m` changed. -/
theorem find?_key_setModes (key m : CStr) (modes : BitVec 32) (us : List IrcChannelUser) :
    (setModes m modes us).find? (foldCase ·.nickname == key) =
      if foldCase m = key then
        (us.find? (foldCase ·.nickname == key)).map fun u => { u with modes }
      else us.find? (foldCase ·.nickname == key) := by
  induction us with
  | nil => simp [setModes]
  | cons u us ih =>
    rw [setModes]
    by_cases hu : foldCase u.nickname = foldCase m
    · rw [if_pos (strcasecmp_iff.2 hu)]
      by_cases hn : foldCase m = key
      · simp [hn, hu.trans hn]
      · have hne : foldCase u.nickname ≠ key := fun h => hn (hu.symm.trans h)
        simp [hn, hne]
    · rw [if_neg (by simpa using hu), List.find?_cons, List.find?_cons, ih]
      by_cases hn : foldCase u.nickname = key
      · have hne : foldCase m ≠ key := fun h => hu (hn.trans h.symm)
        simp [hn, hne]
      · have hne : (foldCase u.nickname == key) = false := by simpa using hn
        simp [hne]

theorem find?_setModes (n m : CStr) (modes : BitVec 32) (us : List IrcChannelUser) :
    (setModes m modes us).find? (strcasecmp ·.nickname n) =
      if foldCase m = foldCase n then
        (us.find? (strcasecmp ·.nickname n)).map fun u => { u with modes }
      else us.find? (strcasecmp ·.nickname n) :=
  find?_key_setModes (foldCase n) m modes us

/-- A change only touches the modes of the user that it names. -/
theorem ircChannelGet_onChannel (c : ModeChange) (n : CStr) :
    ircChannelGet (c.onChannel ch) n =
      (ircChannelGet ch n).map fun u => { u with modes := c.applyTo n u.modes } := by
  unfold ModeChange.onChannel ModeChange.applyTo
  cases hget : ircChannelGet ch c.nickname with
  | none =>
    -- the user of the change is not there, so `n` is another one
    cases hn : ircChannelGet ch n with
    | none => rfl
    | some u =>
      have hne : foldCase c.nickname ≠ foldCase n := by
        intro h
        rw [ircChannelGet_congr h, hn] at hget
        cases hget
      simp [hne]
  | some v =>
    -- the user of the change is there, under a name that is the same ignoring case
    have hv := foldCase_of_ircChannelGet hget
    have hset := find?_setModes n v.nickname (c.apply v.modes) ch.users
    rw [hv] at hset
    by_cases hn : foldCase c.nickname = foldCase n
    · have hget' : ircChannelGet ch n = some v := (ircChannelGet_congr hn).symm.trans hget
      have hfind : ch.users.find? (strcasecmp ·.nickname n) = some v := hget'
      rw [if_pos hn, hfind] at hset
      simp only [hget', hn, if_true, Option.map_some]
      exact hset
    · rw [if_neg hn] at hset
      simp only [hn, if_false]
      exact hset.trans Option.map_id'.symm

theorem onChannel_frame (ch : IrcChannel) (c : ModeChange) :
    ∃ users, c.onChannel ch = { ch with users } ∧
      users.map (·.nickname) = ch.users.map (·.nickname) := by
  unfold ModeChange.onChannel
  cases ircChannelGet ch c.nickname with
  | none => exact ⟨ch.users, rfl, rfl⟩
  | some u => exact ⟨_, rfl, map_nickname_setModes _ _ _⟩

/-- After a list of changes each user has the modes that the changes about him leave. -/
theorem ircChannelGet_foldl (cs : List ModeChange) (n : CStr) :
    ircChannelGet (cs.foldl ModeChange.onChannel ch) n =
      (ircChannelGet ch n).map fun u =>
        { u with modes := cs.foldl (ModeChange.applyTo n) u.modes } := by
  induction cs generalizing ch with
  | nil => exact Option.map_id'.symm
  | cons c cs ih =>
    rw [List.foldl_cons, ih, ircChannelGet_onChannel, Option.map_map]
    rfl

theorem foldl_onChannel_frame (ch : IrcChannel) (cs : List ModeChange) :
    ∃ users, cs.foldl ModeChange.onChannel ch = { ch with users } ∧
      users.map (·.nickname) = ch.users.map (·.nickname) := by
  induction cs generalizing ch with
  | nil => exact ⟨ch.users, rfl, rfl⟩
  | cons c cs ih =>
    obtain ⟨users, heq, hnames⟩ := onChannel_frame ch c
    obtain ⟨users', heq', hnames'⟩ := ih { ch with users }
    exact ⟨users', by rw [List.foldl_cons, heq, heq'], hnames'.trans hnames⟩

end Users

/-! ## Letters that take an argument -/

section Changes

variable {prefixes : List IrcServerUmode} {args params : List CStr} {modes : CStr} {sign : UInt8}
  {k : ℕ} {chs : List ModeChange}

theorem isMode_eq_true_iff {c : UInt8} : isMode prefixes c = true ↔ ∃ u ∈ prefixes, u.mode = c := by
  simp [isMode]

/-- The table gives no other meaning to its letters. -/
theorem PrefixTable.not_mem_modeSkipped (hp : PrefixTable prefixes) {c : UInt8}
    (hc : isMode prefixes c = true) : c ∉ modeSkipped := by
  obtain ⟨u, hu, rfl⟩ := isMode_eq_true_iff.1 hc
  have hsub : modeSkipped ⊆ cstr "beIkl+-" := by decide
  exact fun hmem => hp.letters u hu (hsub hmem)

theorem PrefixTable.not_sign (hp : PrefixTable prefixes) {c : UInt8}
    (hc : isMode prefixes c = true) : ¬ (c = 43 ∨ c = 45) := by
  obtain ⟨u, hu, rfl⟩ := isMode_eq_true_iff.1 hc
  rintro (h | h)
  · exact hp.letters u hu (by rw [h]; decide)
  · exact hp.letters u hu (by rw [h]; decide)

theorem ircServerModesFind_of_isMode {c : UInt8} (hc : isMode prefixes c = true) :
    ircServerModesFind prefixes c = prefixes.findIdx (·.mode == c) := by
  rw [ircServerModesFind, ← isMode, if_pos hc]

theorem ircServerModesFind_of_not_isMode {c : UInt8} (hc : isMode prefixes c = false) :
    ircServerModesFind prefixes c = 0 := by
  rw [ircServerModesFind, ← isMode, hc, if_neg (by simp)]

theorem findIdx_lt_of_isMode {c : UInt8} (hc : isMode prefixes c = true) :
    prefixes.findIdx (·.mode == c) < prefixes.length :=
  List.findIdx_lt_length.2 (isMode_eq_true_iff.1 hc |>.imp fun u hu => ⟨hu.1, by simpa using hu.2⟩)

theorem ircServerModesFind_lt {c : UInt8} (hc : ircServerModesFind prefixes c ≠ 0) :
    ircServerModesFind prefixes c < prefixes.length := by
  cases hmode : isMode prefixes c with
  | true =>
    rw [ircServerModesFind_of_isMode hmode]
    exact findIdx_lt_of_isMode hmode
  | false => exact absurd (ircServerModesFind_of_not_isMode hmode) hc

theorem isMode_of_first {c : UInt8} (h : prefixes.head?.map (·.mode) = some c) :
    isMode prefixes c = true := by
  obtain ⟨u, hu, rfl⟩ := Option.map_eq_some_iff.1 h
  exact isMode_eq_true_iff.2 ⟨u, List.mem_of_head? hu, rfl⟩

/-- Index 0 is that of the first letter. -/
theorem findIdx_eq_zero_iff {c : UInt8} (hc : isMode prefixes c = true) :
    prefixes.findIdx (·.mode == c) = 0 ↔ prefixes.head?.map (·.mode) = some c := by
  cases prefixes with
  | nil => simp [isMode] at hc
  | cons u us =>
    by_cases hu : u.mode = c
    · simp [List.findIdx_cons, hu]
    · have hne : (u.mode == c) = false := by simpa using hu
      simp [List.findIdx_cons, hne, hu]

/-! ## One letter -/

/-- What the first letter of a message says, which leaves the rest of it to say the rest. -/
inductive LetterSays (prefixes : List IrcServerUmode) (c : UInt8) (cs : CStr) (sign : UInt8)
    (params : List CStr) (chs : List ModeChange) : Prop
  /-- The sign of the letters that follow. -/
  | sign (hsign : c = 43 ∨ c = 45) (hrest : refChanges prefixes cs c params = some chs)
  /-- A mode of a user. -/
  | mode (hsign : ¬ (c = 43 ∨ c = 45)) (hmode : isMode prefixes c = true) (a : CStr)
    (rest : List CStr) (later : List ModeChange) (hparams : params = a :: rest)
    (hchs : chs = ⟨sign == 43, prefixes.findIdx (·.mode == c), a⟩ :: later)
    (hrest : refChanges prefixes cs sign rest = some later)
  /-- A mode of the channel that has an argument. -/
  | setting (hsign : ¬ (c = 43 ∨ c = 45)) (hmode : isMode prefixes c = false)
    (htakes : takesArg prefixes sign c = true) (a : CStr) (rest : List CStr)
    (hparams : params = a :: rest) (hrest : refChanges prefixes cs sign rest = some chs)
  /-- A mode of the channel that has none. -/
  | bare (hsign : ¬ (c = 43 ∨ c = 45)) (hmode : isMode prefixes c = false)
    (htakes : takesArg prefixes sign c = false)
    (hrest : refChanges prefixes cs sign params = some chs)

theorem letterSays_of_refChanges {c : UInt8} {cs : CStr}
    (h : refChanges prefixes (c :: cs) sign params = some chs) :
    LetterSays prefixes c cs sign params chs := by
  rw [refChanges.eq_def] at h
  dsimp only at h
  by_cases hsign : c = 43 ∨ c = 45
  · rw [if_pos hsign] at h
    exact .sign hsign h
  rw [if_neg hsign] at h
  split at h
  · cases h
  -- a letter that is no sign, with its argument or without one
  cases htakes : takesArg prefixes sign c with
  | true =>
    rw [htakes, if_pos rfl] at h
    cases params with
    | nil => cases h
    | cons a rest =>
      cases hmode : isMode prefixes c with
      | true =>
        simp only [hmode, if_true] at h
        obtain ⟨later, hlater, rfl⟩ := Option.map_eq_some_iff.1 h
        exact .mode hsign hmode a rest later rfl rfl hlater
      | false =>
        simp only [hmode, Bool.false_eq_true, if_false] at h
        exact .setting hsign hmode htakes a rest rfl h
  | false =>
    rw [htakes, if_neg (by simp)] at h
    have hmode : isMode prefixes c = false := by
      simp only [takesArg, Bool.or_eq_false_iff] at htakes
      exact htakes.1.2
    exact .bare hsign hmode htakes h

theorem takesArg_of_isMode {c : UInt8} (hmode : isMode prefixes c = true) :
    takesArg prefixes sign c = true := by
  simp [takesArg, hmode]

theorem codeChanges_sign {c : UInt8} {cs : CStr} (hsign : c = 43 ∨ c = 45) :
    codeChanges prefixes args (c :: cs) sign k = codeChanges prefixes args cs c k := by
  rw [codeChanges, if_pos hsign]

/-- The handler counts an argument for every letter that is not in the table. -/
theorem codeChanges_skip {c : UInt8} {cs : CStr} (hsign : ¬ (c = 43 ∨ c = 45))
    (hmode : isMode prefixes c = false) :
    codeChanges prefixes args (c :: cs) sign k = codeChanges prefixes args cs sign (k + 1) := by
  rw [codeChanges, if_neg hsign, if_pos (.inr (ircServerModesFind_of_not_isMode hmode))]

theorem codeChanges_read (hp : PrefixTable prefixes) {c : UInt8} {cs a : CStr}
    (hmode : isMode prefixes c = true) (hfirst : prefixes.head?.map (·.mode) ≠ some c)
    (harg : args[k]? = some a) :
    codeChanges prefixes args (c :: cs) sign k = (codeChanges prefixes args cs sign (k + 1)).map
      (⟨sign == 43, prefixes.findIdx (·.mode == c), a⟩ :: ·) := by
  have hfind : ircServerModesFind prefixes c ≠ 0 := by
    rwa [ircServerModesFind_of_isMode hmode, ne_eq, findIdx_eq_zero_iff hmode]
  rw [codeChanges, if_neg (hp.not_sign hmode),
    if_neg (not_or.2 ⟨hp.not_mem_modeSkipped hmode, hfind⟩), harg]
  simp only [ircServerModesFind_of_isMode hmode]

/-- A change is made for the first letter, with the argument at `k` and not for the first bit, or
for a later letter. -/
theorem codeChanges_later {c : UInt8} {cs : CStr} (hsign : ¬ (c = 43 ∨ c = 45))
    (h : codeChanges prefixes args (c :: cs) sign k = some chs) :
    ∃ later, codeChanges prefixes args cs sign (k + 1) = some later ∧ ∀ d ∈ chs, d ∈ later ∨
      args[k]? = some d.nickname ∧ d.index ≠ 0 ∧ d.index < prefixes.length := by
  rw [codeChanges, if_neg hsign] at h
  split at h
  · exact ⟨chs, h, fun d hd => .inl hd⟩
  · rename_i hread
    split at h
    · cases h
    · rename_i a harg
      obtain ⟨later, hlater, rfl⟩ := Option.map_eq_some_iff.1 h
      refine ⟨later, hlater, fun d hd => ?_⟩
      rcases List.mem_cons.1 hd with rfl | hd
      · have hfind := (not_or.1 hread).2
        exact .inr ⟨harg, hfind, ircServerModesFind_lt hfind⟩
      · exact .inl hd

/-! ## When the handler does what the message says -/

theorem refChanges_of_no_mode (hnone : ∀ c ∈ modes, isMode prefixes c = false)
    (h : refChanges prefixes modes sign params = some chs) : chs = [] := by
  induction modes generalizing sign params with
  | nil => simpa [refChanges] using h.symm
  | cons c cs ih =>
    obtain ⟨hc, hcs⟩ := List.forall_mem_cons.1 hnone
    cases letterSays_of_refChanges h with
    | sign _ hrest => exact ih hcs hrest
    | mode _ hmode => exact absurd hmode (by simp [hc])
    | setting _ _ _ _ _ _ hrest => exact ih hcs hrest
    | bare _ _ _ hrest => exact ih hcs hrest

theorem codeChanges_of_no_mode (hnone : ∀ c ∈ modes, isMode prefixes c = false) :
    codeChanges prefixes args modes sign k = some [] := by
  induction modes generalizing sign k with
  | nil => rfl
  | cons c cs ih =>
    obtain ⟨hc, hcs⟩ := List.forall_mem_cons.1 hnone
    by_cases hsign : c = 43 ∨ c = 45
    · rw [codeChanges_sign hsign]
      exact ih hcs
    · rw [codeChanges_skip hsign hc]
      exact ih hcs

/-- The argument that the loop of the handler is at, and those after it. -/
theorem args_of_drop {a : CStr} {rest : List CStr} (h : args.drop k = a :: rest) :
    args[k]? = some a ∧ args.drop (k + 1) = rest := by
  rw [← List.head?_drop, ← List.tail_drop, h]
  exact ⟨rfl, rfl⟩

/-- As long as each letter consumes an argument, the loop of the handler reads the arguments that
the letters come with. -/
theorem codeChanges_of_aligned (hp : PrefixTable prefixes)
    (h : refChanges prefixes modes sign params = some chs)
    (haligned : ModesAligned prefixes modes sign) (hparams : args.drop k = params) :
    codeChanges prefixes args modes sign k = some chs := by
  induction modes generalizing sign params chs k with
  | nil => simpa [refChanges, codeChanges] using h
  | cons c cs ih =>
    rw [ModesAligned] at haligned
    cases letterSays_of_refChanges h with
    | sign hsign hrest =>
      rw [if_pos hsign] at haligned
      rw [codeChanges_sign hsign]
      exact ih hrest haligned hparams
    | mode hsign hmode a rest later hcons hchs hrest =>
      rw [if_neg hsign, if_pos (takesArg_of_isMode hmode)] at haligned
      obtain ⟨harg, hdrop⟩ := args_of_drop (hparams.trans hcons)
      rw [codeChanges_read hp hmode haligned.1 harg, ih hrest haligned.2 hdrop, hchs]
      rfl
    | setting hsign hmode htakes a rest hcons hrest =>
      rw [if_neg hsign, if_pos htakes] at haligned
      rw [codeChanges_skip hsign hmode]
      exact ih hrest haligned.2 (args_of_drop (hparams.trans hcons)).2
    | bare hsign hmode htakes hrest =>
      -- no letter of the table follows, so the arguments do not matter any more
      rw [if_neg hsign, if_neg (by simp [htakes])] at haligned
      rw [codeChanges_skip hsign hmode, refChanges_of_no_mode haligned hrest]
      exact codeChanges_of_no_mode haligned

/-! ## When it does not -/

/-- The users of the changes are among the arguments, in order, and their bits in the table. -/
theorem refChanges_mem (h : refChanges prefixes modes sign params = some chs) :
    (chs.map (·.nickname)).Sublist params ∧ ∀ d ∈ chs, d.index < prefixes.length := by
  induction modes generalizing sign params chs with
  | nil =>
    obtain rfl : [] = chs := by simpa [refChanges] using h
    exact ⟨List.nil_sublist _, by simp⟩
  | cons c cs ih =>
    cases letterSays_of_refChanges h with
    | sign _ hrest => exact ih hrest
    | mode _ hmode a rest later hcons hchs hrest =>
      obtain ⟨hsub, hlt⟩ := ih hrest
      subst hcons hchs
      exact ⟨hsub.cons_cons a, List.forall_mem_cons.2 ⟨findIdx_lt_of_isMode hmode, hlt⟩⟩
    | setting _ _ _ a rest hcons hrest =>
      subst hcons
      exact ⟨(ih hrest).1.cons a, (ih hrest).2⟩
    | bare _ _ _ hrest => exact ih hrest

/-- The loop of the handler reads its arguments from `k` on, and never changes the first bit. -/
theorem codeChanges_mem (h : codeChanges prefixes args modes sign k = some chs) :
    ∀ d ∈ chs, d.nickname ∈ args.drop k ∧ d.index ≠ 0 ∧ d.index < prefixes.length := by
  induction modes generalizing sign k chs with
  | nil =>
    obtain rfl : [] = chs := by simpa [codeChanges] using h
    simp
  | cons c cs ih =>
    by_cases hsign : c = 43 ∨ c = 45
    · rw [codeChanges_sign hsign] at h
      exact ih h
    obtain ⟨later, hlater, hmem⟩ := codeChanges_later hsign h
    intro d hd
    rcases hmem d hd with hd | ⟨harg, hindex⟩
    · obtain ⟨hnickname, hindex⟩ := ih hlater d hd
      rw [← List.tail_drop] at hnickname
      exact ⟨List.mem_of_mem_tail hnickname, hindex⟩
    · rw [← List.head?_drop] at harg
      exact ⟨List.mem_of_head? harg, hindex⟩

/-- Once the loop of the handler is ahead of the letters, it never reads the argument of the next
letter of the table. -/
theorem exists_unread {i : ℕ} (hp : PrefixTable prefixes)
    (h : refChanges prefixes modes sign params = some chs)
    (hnodup : (params.map foldCase).Nodup) (hmode : ∃ d ∈ modes, isMode prefixes d = true)
    (hargs : args.drop k = params.drop (i + 1)) :
    ∃ c ∈ chs, ∀ ds, codeChanges prefixes args modes sign k = some ds →
      ∀ d ∈ ds, foldCase d.nickname ≠ foldCase c.nickname := by
  induction modes generalizing sign params chs k i with
  | nil => simp at hmode
  | cons c cs ih =>
    have hnext : args.drop (k + 1) = params.drop (i + 2) := by
      rw [← List.tail_drop, hargs, List.tail_drop]
    -- a letter that is not in the table leaves the others to come
    have hothers : isMode prefixes c = false → ∃ d ∈ cs, isMode prefixes d = true := by
      intro hc
      obtain ⟨d, hd, hdmode⟩ := hmode
      rcases List.mem_cons.1 hd with rfl | hd
      · rw [hc] at hdmode
        cases hdmode
      · exact ⟨d, hd, hdmode⟩
    cases letterSays_of_refChanges h with
    | sign hsign hrest =>
      have hc : isMode prefixes c = false := by
        by_contra hc
        exact hp.not_sign (by simpa using hc) hsign
      simp only [codeChanges_sign hsign]
      exact ih hrest hnodup (hothers hc) hargs
    | mode hsign hmode a rest later hcons hchs hrest =>
      subst hcons hchs
      refine ⟨_, List.mem_cons_self, fun ds hds d hd heq => ?_⟩
      -- the arguments from `k` on are all different from `a`
      have hmem := (codeChanges_mem hds d hd).1
      rw [hargs, List.drop_succ_cons] at hmem
      rw [List.map_cons, List.nodup_cons] at hnodup
      exact hnodup.1 (List.mem_map.2 ⟨_, List.mem_of_mem_drop hmem, heq⟩)
    | setting hsign hmode _ a rest hcons hrest =>
      subst hcons
      rw [List.map_cons, List.nodup_cons] at hnodup
      rw [codeChanges_skip hsign hmode]
      exact ih hrest hnodup.2 (hothers hmode) hnext
    | bare hsign hmode _ hrest =>
      rw [codeChanges_skip hsign hmode]
      exact ih hrest hnodup (hothers hmode) hnext

/-- The users of the changes differ from an argument that does not occur. -/
theorem foldCase_ne_of_mem_refChanges {a : CStr} {e : ModeChange}
    (h : refChanges prefixes modes sign params = some chs)
    (ha : foldCase a ∉ params.map foldCase) (he : e ∈ chs) :
    foldCase e.nickname ≠ foldCase a := by
  have hmem : e.nickname ∈ params := (refChanges_mem h).1.subset (List.mem_map_of_mem he)
  exact fun heq => ha (heq ▸ List.mem_map_of_mem hmem)

/-- A mode whose bit is not the first is missed later if it is missed by the letters that follow. -/
theorem missed_of_later {c : UInt8} {cs a : CStr} {e : ModeChange} (hsign : ¬ (c = 43 ∨ c = 45))
    (harg : args[k]? = some a) (hne : foldCase e.nickname ≠ foldCase a)
    (hmissed : ∀ ds, codeChanges prefixes args cs sign (k + 1) = some ds →
      ∀ d ∈ ds, foldCase d.nickname = foldCase e.nickname → d.index ≠ e.index) :
    ∀ ds, codeChanges prefixes args (c :: cs) sign k = some ds →
      ∀ d ∈ ds, foldCase d.nickname = foldCase e.nickname → d.index ≠ e.index := by
  intro ds hds d hd heq
  obtain ⟨later, hlater, hmem⟩ := codeChanges_later hsign hds
  rcases hmem d hd with hd | ⟨hread, -⟩
  · exact hmissed later hlater d hd heq
  · -- the letter itself reads `a`
    obtain rfl := Option.some.inj (harg.symm.trans hread)
    exact absurd heq.symm hne

/-- When the letters are not aligned, some change is missed: the handler does not change that bit of
that user. -/
theorem exists_missed (hp : PrefixTable prefixes)
    (h : refChanges prefixes modes sign params = some chs)
    (hnodup : (params.map foldCase).Nodup) (haligned : ¬ ModesAligned prefixes modes sign)
    (hargs : args.drop k = params) :
    ∃ c ∈ chs, ∀ ds, codeChanges prefixes args modes sign k = some ds →
      ∀ d ∈ ds, foldCase d.nickname = foldCase c.nickname → d.index ≠ c.index := by
  induction modes generalizing sign params chs k with
  | nil => exact absurd trivial haligned
  | cons c cs ih =>
    rw [ModesAligned] at haligned
    cases letterSays_of_refChanges h with
    | sign hsign hrest =>
      rw [if_pos hsign] at haligned
      simp only [codeChanges_sign hsign]
      exact ih hrest hnodup haligned hargs
    | mode hsign hmode a rest later hcons hchs hrest =>
      rw [if_neg hsign, if_pos (takesArg_of_isMode hmode)] at haligned
      obtain ⟨harg, hdrop⟩ := args_of_drop (hargs.trans hcons)
      subst hcons hchs
      rw [List.map_cons, List.nodup_cons] at hnodup
      by_cases hfirst : prefixes.head?.map (·.mode) = some c
      · -- the first letter: its bit is never changed
        refine ⟨_, List.mem_cons_self, fun ds hds d hd _ => ?_⟩
        rw [(findIdx_eq_zero_iff hmode).2 hfirst]
        exact (codeChanges_mem hds d hd).2.1
      · have haligned' : ¬ ModesAligned prefixes cs sign := fun hal => haligned ⟨hfirst, hal⟩
        obtain ⟨e, he, hmissed⟩ := ih hrest hnodup.2 haligned' hdrop
        -- the missed change is one of the rest, whose arguments differ from `a`
        have hne := foldCase_ne_of_mem_refChanges hrest hnodup.1 he
        exact ⟨e, List.mem_cons_of_mem _ he, missed_of_later hsign harg hne hmissed⟩
    | setting hsign hmode htakes a rest hcons hrest =>
      rw [if_neg hsign, if_pos htakes] at haligned
      obtain ⟨harg, hdrop⟩ := args_of_drop (hargs.trans hcons)
      subst hcons
      rw [List.map_cons, List.nodup_cons] at hnodup
      have hfirst : prefixes.head?.map (·.mode) ≠ some c := fun hfirst =>
        absurd (isMode_of_first hfirst) (by simp [hmode])
      have haligned' : ¬ ModesAligned prefixes cs sign := fun hal => haligned ⟨hfirst, hal⟩
      obtain ⟨e, he, hmissed⟩ := ih hrest hnodup.2 haligned' hdrop
      have hne := foldCase_ne_of_mem_refChanges hrest hnodup.1 he
      exact ⟨e, he, missed_of_later hsign harg hne hmissed⟩
    | bare hsign hmode htakes hrest =>
      -- from the next letter on the handler is ahead
      rw [if_neg hsign, if_neg (by simp [htakes])] at haligned
      have hothers : ∃ d ∈ cs, isMode prefixes d = true := by simpa using haligned
      have hahead : args.drop (k + 1) = params.drop (0 + 1) := by
        rw [← List.tail_drop, hargs, List.drop_one]
      obtain ⟨e, he, hunread⟩ := exists_unread hp hrest hnodup hothers hahead
      refine ⟨e, he, fun ds hds d hd heq => ?_⟩
      rw [codeChanges_skip hsign hmode] at hds
      exact absurd heq (hunread ds hds d hd)

end Changes

/-! ## Bits -/

/-- A change sets or clears its bit, and leaves the others alone. -/
theorem ModeChange.getLsbD_apply {c : ModeChange} (hc : c.index < 32) (modes : BitVec 32) (i : ℕ) :
    (c.apply modes).getLsbD i = if i = c.index then c.plus else modes.getLsbD i := by
  unfold ModeChange.apply
  cases hplus : c.plus with
  | true =>
    rw [if_pos rfl, BitVec.getLsbD_or, getLsbD_bit hc]
    by_cases hi : i = c.index <;> simp [hi]
  | false =>
    rw [if_neg (by simp), BitVec.getLsbD_and, BitVec.getLsbD_not, getLsbD_bit hc]
    by_cases hi : i = c.index
    · simp [hi]
    · by_cases hlt : i < 32
      · simp [hi, hlt]
      · simp [hi, BitVec.getLsbD_of_ge _ i (Nat.le_of_not_lt hlt)]

/-- A bit that no change is about stays as it is. -/
theorem getLsbD_foldl_of_missed {cs : List ModeChange} {n : CStr} {i : ℕ}
    (hlt : ∀ d ∈ cs, d.index < 32)
    (hmissed : ∀ d ∈ cs, foldCase d.nickname = foldCase n → d.index ≠ i) (modes : BitVec 32) :
    (cs.foldl (ModeChange.applyTo n) modes).getLsbD i = modes.getLsbD i := by
  induction cs generalizing modes with
  | nil => rfl
  | cons d cs ih =>
    obtain ⟨hd, hcs⟩ := List.forall_mem_cons.1 hlt
    obtain ⟨hmd, hmcs⟩ := List.forall_mem_cons.1 hmissed
    rw [List.foldl_cons, ih hcs hmcs, ModeChange.applyTo]
    split
    · rename_i heq
      rw [ModeChange.getLsbD_apply hd, if_neg fun hi => hmd heq hi.symm]
    · rfl

/-- A bit that one change is about is what this change makes of it. -/
theorem getLsbD_foldl_of_unique {cs : List ModeChange} {c : ModeChange} (hc : c ∈ cs)
    (hlt : ∀ d ∈ cs, d.index < 32)
    (hunique : ∀ d ∈ cs, foldCase d.nickname = foldCase c.nickname → d = c) (modes : BitVec 32) :
    (cs.foldl (ModeChange.applyTo c.nickname) modes).getLsbD c.index = c.plus := by
  -- `c` is in the rest of the list, or has been applied
  have hgoal : ∀ modes : BitVec 32, c ∈ cs ∨ modes.getLsbD c.index = c.plus →
      (cs.foldl (ModeChange.applyTo c.nickname) modes).getLsbD c.index = c.plus := by
    clear hc
    induction cs with
    | nil => simp
    | cons d cs ih =>
      obtain ⟨hd, hcs⟩ := List.forall_mem_cons.1 hlt
      obtain ⟨hud, hucs⟩ := List.forall_mem_cons.1 hunique
      intro modes hmodes
      rw [List.foldl_cons]
      refine ih hcs hucs _ ?_
      by_cases heq : foldCase d.nickname = foldCase c.nickname
      · obtain rfl := hud heq
        exact .inr (by rw [ModeChange.applyTo, if_pos rfl, ModeChange.getLsbD_apply hd, if_pos rfl])
      · rw [ModeChange.applyTo, if_neg heq]
        refine hmodes.imp_left fun hmem => ?_
        rcases List.mem_cons.1 hmem with rfl | hmem
        · exact absurd rfl heq
        · exact hmem
  exact hgoal modes (.inl hc)

/-- Modes whose bit is not what the change makes of it. -/
def ModeChange.opposite (c : ModeChange) : BitVec 32 := if c.plus then 0 else 1#32 <<< c.index

theorem ModeChange.getLsbD_opposite {c : ModeChange} (hc : c.index < 32) :
    c.opposite.getLsbD c.index = !c.plus := by
  unfold ModeChange.opposite
  cases c.plus with
  | true => simp
  | false =>
    have hbit := getLsbD_bit hc c.index
    simpa using hbit

/-- Changes that miss one which the others make leave other modes to its user. -/
theorem foldl_ne_of_missed {cs ds : List ModeChange} {c : ModeChange} (hc : c ∈ cs)
    (hcs : ∀ d ∈ cs, d.index < 32) (hds : ∀ d ∈ ds, d.index < 32)
    (hunique : ∀ d ∈ cs, foldCase d.nickname = foldCase c.nickname → d = c)
    (hmissed : ∀ d ∈ ds, foldCase d.nickname = foldCase c.nickname → d.index ≠ c.index) :
    ds.foldl (ModeChange.applyTo c.nickname) c.opposite ≠
      cs.foldl (ModeChange.applyTo c.nickname) c.opposite := by
  intro h
  have hbit := congrArg (BitVec.getLsbD · c.index) h
  rw [getLsbD_foldl_of_missed hds hmissed, getLsbD_foldl_of_unique hc hcs hunique,
    ModeChange.getLsbD_opposite (hcs c hc)] at hbit
  simp at hbit

/-! ## The handler -/

/-- A MODE message. -/
def modeMsg (origin channel modes : CStr) (params : List CStr) : ConnMsg :=
  ⟨some origin, cstr "MODE", channel :: modes :: params⟩

/-- The MODE message is handled, and the users of its channel have the modes that the changes leave.
Nothing else of the channels is different. -/
def ModesRight (s : Sys) (origin channel modes : CStr) (params : List CStr)
    (cs : List ModeChange) : Prop :=
  ∃ t, ircServerHandle s (modeMsg origin channel modes params) = .ok (t, none) ∧
    ∀ before ch after, ChannelAt s.server.channels channel before ch after →
      ∃ users, t.server.channels = before ++ { ch with users } :: after ∧
        users.map (·.nickname) = ch.users.map (·.nickname) ∧
        ∀ n, ircChannelGet { ch with users } n =
          (ircChannelGet ch n).map fun u =>
            { u with modes := cs.foldl (ModeChange.applyTo n) u.modes }

section Handler

variable {s : Sys} {before after : List IrcChannel} {ch : IrcChannel}
  {origin channel modes : CStr} {params : List CStr} {cs : List ModeChange}

theorem ircServerHandle_mode (hat : ChannelAt s.server.channels channel before ch after) {t : Sys} :
    ircServerHandle s (modeMsg origin channel modes params) = .ok (t, none) ↔
      ∃ ds, codeChanges s.server.prefixes (channel :: modes :: params) modes 0 2 = some ds ∧
        t = dispatch (s.setChannels (before ++ ds.foldl ModeChange.onChannel ch :: after))
          (.mode origin channel modes params) := by
  have hcmd : (modeMsg origin channel modes params).cmd = cstr "MODE" := rfl
  have hhandle : ircServerHandle s (modeMsg origin channel modes params) =
      returns ircServerHandleMode s (modeMsg origin channel modes params) :=
    ircServerHandle_of_find (by rw [hcmd]; rfl)
  have hmode : ircServerHandleMode s (modeMsg origin channel modes params) =
      (modeLoop s.server.prefixes (modeMsg origin channel modes params) modes 0 2 ch >>= fun ch' =>
        .ok (dispatch (s.setChannels (before ++ ch' :: after))
          (.mode origin channel modes params))) := by
    simp only [ircServerHandleMode, modeMsg, ircUtilStrdup_some, ConnMsg.arg,
      List.getElem?_cons_succ, List.getElem?_cons_zero, ok_bind, hat.find, hat.modify]
    rfl
  rw [hhandle, returns, hmode]
  constructor
  · intro h
    cases hloop : modeLoop s.server.prefixes (modeMsg origin channel modes params) modes 0 2 ch with
    | error e => simp [hloop, Except.map] at h
    | ok ch' =>
      obtain ⟨ds, hds, rfl⟩ := modeLoop_eq.1 hloop
      rw [hloop, ok_bind] at h
      exact ⟨ds, hds, (Prod.mk.inj (Except.ok.inj h)).1.symm⟩
  · rintro ⟨ds, hds, rfl⟩
    rw [modeLoop_eq.2 ⟨ds, hds, rfl⟩, ok_bind]
    rfl

/-- The handler is right when it makes the changes of the message. -/
theorem modesRight_of_codeChanges (hat : ChannelAt s.server.channels channel before ch after)
    (h : codeChanges s.server.prefixes (channel :: modes :: params) modes 0 2 = some cs) :
    ModesRight s origin channel modes params cs := by
  refine ⟨_, (ircServerHandle_mode hat).2 ⟨cs, h, rfl⟩, fun before' ch' after' hat' => ?_⟩
  obtain ⟨users, heq, hnames⟩ := foldl_onChannel_frame ch' cs
  refine ⟨users, ?_, hnames, fun n => ?_⟩
  · -- the channel of a message is found in one way only
    obtain rfl : ch = ch' := Option.some.inj (hat.find.symm.trans hat'.find)
    rw [← heq]
    exact (hat.modify _).symm.trans (hat'.modify fun _ => cs.foldl ModeChange.onChannel ch)
  · rw [← heq, ircChannelGet_foldl]

/-- Where the handler is right, it makes some changes that leave the same modes to every user. -/
theorem ModesRight.codeChanges (h : ModesRight s origin channel modes params cs)
    (hat : ChannelAt s.server.channels channel before ch after) :
    ∃ ds, codeChanges s.server.prefixes (channel :: modes :: params) modes 0 2 = some ds ∧
      ∀ n u, ircChannelGet ch n = some u →
        ds.foldl (ModeChange.applyTo n) u.modes = cs.foldl (ModeChange.applyTo n) u.modes := by
  obtain ⟨t, ht, hright⟩ := h
  obtain ⟨ds, hds, rfl⟩ := (ircServerHandle_mode hat).1 ht
  refine ⟨ds, hds, fun n u hu => ?_⟩
  obtain ⟨users, heq, -, hmodes⟩ := hright before ch after hat
  have hch : ds.foldl ModeChange.onChannel ch = { ch with users } :=
    (List.cons.inj (List.append_cancel_left heq)).1
  have hn := hmodes n
  rw [← hch, ircChannelGet_foldl, hu, Option.map_some, Option.map_some, Option.some.injEq,
    IrcChannelUser.mk.injEq] at hn
  exact hn.2

end Handler

/-- A letter of the table and the symbol of the same entry have the same bit. -/
theorem PrefixTable.findIdx_eq {prefixes : List IrcServerUmode} (hp : PrefixTable prefixes)
    {u : IrcServerUmode} {i : ℕ} (hu : prefixes[i]? = some u) :
    prefixes.findIdx (·.mode == u.mode) = i := by
  obtain ⟨hi, rfl⟩ := List.getElem?_eq_some_iff.1 hu
  rw [List.findIdx_eq hi]
  refine ⟨by simp, fun j hj => ?_⟩
  -- a letter before it is different
  have hne := (List.pairwise_map.1 hp.modes)
  rw [List.pairwise_iff_getElem] at hne
  simpa using hne j i (by omega) hi hj

theorem PrefixTable.strip_bit {prefixes : List IrcServerUmode} (hp : PrefixTable prefixes)
    {word : CStr} (hword : (leading prefixes word).Sublist (prefixes.map (·.symbol)))
    {u : IrcServerUmode} (hu : u ∈ prefixes) :
    (ircServerStrip prefixes word).1.getLsbD (prefixes.findIdx (·.mode == u.mode)) = true ↔
      u.symbol ∈ leading prefixes word := by
  obtain ⟨i, hi⟩ := List.mem_iff_getElem?.1 hu
  have hlen := hp.length_le
  rw [ircServerStrip_bit (by omega) hp.symbols hword, hp.findIdx_eq hi, hi]
  simp

/-- If the letters are aligned, the handler is right on every channel. If the arguments are all
different, it is right on every channel only then. The bits are those that `irc_server_strip` sets
for the symbols before a nickname. -/
theorem modesRight_iff_aligned (prefixes : List IrcServerUmode) (modes : CStr) (params : List CStr)
    (cs : List ModeChange) (hp : PrefixTable prefixes)
    (href : refChanges prefixes modes 0 params = some cs) :
    (ModesAligned prefixes modes 0 → ∀ s origin channel before ch after,
        s.server.prefixes = prefixes → ChannelAt s.server.channels channel before ch after →
        ModesRight s origin channel modes params cs) ∧
      ((params.map foldCase).Nodup → (∀ s origin channel before ch after,
          s.server.prefixes = prefixes → ChannelAt s.server.channels channel before ch after →
          ModesRight s origin channel modes params cs) →
        ModesAligned prefixes modes 0) ∧
      ∀ word, (leading prefixes word).Sublist (prefixes.map (·.symbol)) → ∀ u ∈ prefixes,
        ((ircServerStrip prefixes word).1.getLsbD (prefixes.findIdx (·.mode == u.mode)) = true ↔
          u.symbol ∈ leading prefixes word) := by
  refine ⟨?_, ?_, fun word hword u hu => hp.strip_bit hword hu⟩
  · rintro haligned s origin channel before ch after rfl hat
    exact modesRight_of_codeChanges hat (codeChanges_of_aligned hp href haligned rfl)
  · intro hnodup hright
    by_contra haligned
    obtain ⟨c, hc, hmissed⟩ := exists_missed hp href hnodup haligned
      (show (cstr "#c" :: modes :: params).drop 2 = params from rfl)
    have hlen := hp.length_le
    obtain ⟨hsub, hltref⟩ := refChanges_mem href
    -- a channel with the user of the missed change, whose bit is the other one
    let ch : IrcChannel := ⟨cstr "#c", none, true, [⟨c.nickname, c.opposite⟩]⟩
    have hat : ChannelAt [ch] (cstr "#c") [] ch [] := ⟨rfl, by simp, strcasecmp_self _⟩
    obtain ⟨ds, hds, hsame⟩ := (hright (Sys.start { localServer with prefixes, channels := [ch] })
      [] (cstr "#c") [] ch [] rfl hat).codeChanges hat
    have huser : ircChannelGet ch c.nickname = some ⟨c.nickname, c.opposite⟩ := by
      simp [ch, ircChannelGet]
    have hlt : ∀ d ∈ cs, d.index < 32 := fun d hd => by
      have := hltref d hd
      omega
    have hltcode : ∀ d ∈ ds, d.index < 32 := fun d hd => by
      have : d.index < prefixes.length := (codeChanges_mem hds d hd).2.2
      omega
    -- the change of the message is the only one about its user
    have hunique : ∀ d ∈ cs, foldCase d.nickname = foldCase c.nickname → d = c := by
      intro d hd heq
      have hcs : (cs.map (foldCase ·.nickname)).Nodup := by
        have := (hsub.map foldCase).nodup hnodup
        rwa [List.map_map] at this
      exact List.inj_on_of_nodup_map hcs hd hc heq
    exact foldl_ne_of_missed hc hlt hltcode hunique (hmissed ds hds) (hsame _ _ huser)

/-- The table `(ov)@+`. -/
def opVoice : List IrcServerUmode := [⟨111, 64⟩, ⟨118, 43⟩]

theorem opVoice_prefixTable : PrefixTable opVoice :=
  ⟨by decide, by decide, by decide, by decide⟩

/-- The bot on a channel with one user. -/
def userServer : IrcServer :=
  { localServer with
    channels := [⟨cstr "#c", none, true, [⟨cstr "jean", 0⟩]⟩]
    prefixes := opVoice }

theorem userServer_channelAt :
    ChannelAt (Sys.start userServer).server.channels (cstr "#c") []
      ⟨cstr "#c", none, true, [⟨cstr "jean", 0⟩]⟩ [] :=
  ⟨rfl, by simp, strcasecmp_self _⟩

/-- A ban and a voice. -/
theorem modesRight_voice :
    ModesRight (Sys.start userServer) (cstr "al") (cstr "#c") (cstr "+bv")
      [cstr "*!*@h", cstr "Jean"] [⟨true, 1, cstr "Jean"⟩] :=
  (modesRight_iff_aligned opVoice (cstr "+bv") [cstr "*!*@h", cstr "Jean"]
    [⟨true, 1, cstr "Jean"⟩] opVoice_prefixTable (by decide)).1 (by decide) _ _ _ _ _ _ rfl
      userServer_channelAt

/-- An operator: the bit of the first letter is never set. -/
theorem not_modesRight_op :
    refChanges opVoice (cstr "+o") 0 [cstr "jean"] = some [⟨true, 0, cstr "jean"⟩] ∧
      ¬ ModesRight (Sys.start userServer) (cstr "al") (cstr "#c") (cstr "+o") [cstr "jean"]
        [⟨true, 0, cstr "jean"⟩] := by
  refine ⟨by decide, fun h => ?_⟩
  obtain ⟨ds, hds, hsame⟩ := h.codeChanges userServer_channelAt
  have hnone :
      codeChanges opVoice [cstr "#c", cstr "+o", cstr "jean"] (cstr "+o") 0 2 = some [] := by
    decide
  obtain rfl : [] = ds := Option.some.inj (hnone.symm.trans hds)
  exact absurd (hsame (cstr "jean") ⟨cstr "jean", 0⟩ (by decide)) (by decide)

end Irccd
