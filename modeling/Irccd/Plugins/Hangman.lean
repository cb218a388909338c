import Irccd.Foundations.Draws
import Irccd.Foundations.Runs
import Irccd.Plugins.Basic

/-!
# The plugin hangman (`hangman.js`)

A game is kept under its server and its channel. Its word is taken from the bag of words of the
server and channel, which is filled from the list of all words.

* `Hangman`: the games, the words and the messages sent;
* `Game.propose`: what a proposition does to a game;
* `step`: a command, a message, or the file of words loaded again;
* `trace_selections`: the words that the games of a run draw from the bags;
* `run_games`: what holds of every game, and when games end.
-/

namespace Irccd

namespace Hangman

/-! ## Games -/

/-- The argument of `propose`: the code of a letter, or a word. -/
inductive Proposition
  | letter (ch : ℕ)
  | word (text : CStr)
  deriving DecidableEq

/-- What `Hangman.prototype.propose` returns. -/
inductive Status
  | found
  | wrongPlayer
  | wrongLetter
  | asked
  | wrongWord
  | dead
  | win
  deriving DecidableEq

/-- `Hangman`. The server is known by its name. The table tells for each letter of the word if it
was found. -/
structure Game where
  server : CStr
  channel : CStr
  tries : ℤ
  word : CStr
  table : ℕ → Option Bool
  query : Bool
  last : Option CStr

/-- The keys of `Plugin.templates`. -/
inductive Template
  | running
  | start
  | status (st : Status)
  deriving DecidableEq

/-- The object `kw` of the functions that send messages. -/
structure Keywords where
  channel : CStr
  command : CStr
  nickname : CStr
  origin : CStr
  plugin : CStr
  server : CStr
  word : Option CStr := none
  letter : Option CStr := none
  deriving DecidableEq

/-- A call of `server.message` with what `Util.format` makes of a template. -/
structure Sent where
  server : CStr
  channel : CStr
  template : Template
  kw : Keywords
  deriving DecidableEq

end Hangman

/-- The plugin: `Hangman.map`, `Hangman.words` and the messages. -/
structure Hangman where
  map : JsMap Hangman.Game
  all : List CStr
  registry : JsMap (List CStr)
  sent : List Hangman.Sent

namespace Hangman

/-- The key of the games and of the words of a server and channel. -/
def gameId (server channel : CStr) : CStr := server ++ cstr "@" ++ channel

/-- `Hangman.isWord` -/
def isWord (env : JsEnv) (word : CStr) : Bool :=
  !(env.charCodes word).isEmpty && (env.charCodes word).all env.isLetter

namespace Game

variable (env : JsEnv) (g : Game)

/-- The key of the game. -/
def id : CStr := gameId g.server g.channel

/-- Has the letter been found? -/
def isFound (ch : ℕ) : Bool := g.table ch == some true

/-- `Hangman.prototype.formatWord` -/
def formatWord : CStr :=
  List.intercalate [SP] ((env.charCodes g.word).map fun ch =>
    if g.isFound ch then env.fromCharCode ch else cstr "_")

/-- A failure. -/
def fail : Game := { g with tries := g.tries - 1 }

/-- A letter is found. -/
def reveal (ch : ℕ) : Game := { g with table := Function.update g.table ch (some true) }

/-- The branches of `propose` on the type of the proposition. -/
def guess : Proposition → Status × Game
  | .letter ch =>
    match g.table ch with
    | none => (.wrongLetter, g.fail)
    -- to ask for a letter again takes a try, too
    | some true => (.asked, g.fail)
    | some false => (.found, g.reveal ch)
  | .word text => if g.word ≠ text then (.wrongWord, g.fail) else (.win, g)

/-- The end of `propose`: the player is dead, unless all letters are found. -/
def verdict (st : Status) : Status :=
  if (env.charCodes g.word).all g.isFound then .win
  else if g.tries ≤ 0 then .dead
  else st

/-- In collaborative mode, nobody proposes twice in a row. -/
def isRefused (collaborative : Bool) (nickname : CStr) : Bool :=
  collaborative && !g.query && g.last == some nickname

/-- The player is remembered in collaborative mode. -/
def remember (collaborative : Bool) (nickname : CStr) : Game :=
  if collaborative && !g.query then { g with last := some nickname } else g

/-- `Hangman.prototype.propose` -/
def propose (collaborative : Bool) (ch : Proposition) (nickname : CStr) : Status × Game :=
  if g.isRefused collaborative nickname then (.wrongPlayer, g)
  else
    let (st, g) := (g.remember collaborative nickname).guess ch
    (g.verdict env st, g)

end Game

/-! ## The functions of the script -/

section Functions

variable (env : JsEnv) (info : CStr → ServerInfo) (s : Hangman)

/-- The plugin before the words are loaded. -/
def start : Hangman := { map := ∅, all := [], registry := ∅, sent := [] }

/-- `Hangman.loadWords`, which throws if the file has no word, once the list is empty. -/
def loadWords (lines : List CStr) : Hangman := { s with all := lines.filter (isWord env) }

/-- `Hangman.find` -/
def find (server channel : CStr) : Option Game := s.map.lookup (gameId server channel)

/-- The words left for each key. -/
def bags (id : CStr) : List CStr := (s.registry.lookup id).getD []

/-- The words left for a server and channel, or all words if there are none. -/
def words (server channel : CStr) : List CStr :=
  Draws.filled s.all (s.bags (gameId server channel))

/-- The word that `Hangman.prototype.select` takes, if there is one. -/
def selected (server channel : CStr) (random : Random) : Option CStr :=
  (s.words server channel)[random.below (s.words server channel).length]?

/-- `Hangman.prototype.select` on the registry -/
def select (server channel : CStr) (random : Random) : Hangman :=
  let left := s.words server channel
  { s with registry :=
            s.registry.insert (gameId server channel) (left.eraseIdx (random.below left.length)) }

/-- The game that the constructor makes. -/
def newGame (server channel word : CStr) (query : Bool) : Game where
  server
  channel
  tries := 10
  word
  table ch := if ch ∈ env.charCodes word then some false else none
  query
  last := none

/-- `Hangman.remove` -/
def remove (g : Game) : Hangman := { s with map := s.map.erase g.id }

/-- The object `kw` -/
def keywords (server origin channel : CStr) : Keywords where
  channel
  command := (info server).pfx ++ env.plugin
  nickname := splituser origin
  origin
  plugin := env.plugin
  server

/-- `server.message(channel, Util.format(Plugin.templates[template], kw))` -/
def message (server channel : CStr) (template : Template) (kw : Keywords) : Hangman :=
  { s with sent := s.sent ++ [⟨server, channel, template, kw⟩] }

/-- `kw.word` where it is a proposition: `Util.format` reads no number. -/
def Proposition.asWord : Proposition → CStr
  | .letter _ => []
  | .word text => text

/-- `String.fromCharCode(proposition)`, the character zero for a word. -/
def Proposition.asLetter : Proposition → CStr
  | .letter ch => env.fromCharCode ch
  | .word _ => []

/-- `propose`, where `game` was found. -/
def propose (server channel origin : CStr) (game : Game) (proposition : Proposition)
    (collaborative : Bool) : Hangman :=
  let kw := keywords env info server origin channel
  let (st, game) := game.propose env collaborative proposition kw.nickname
  -- the game is an object, which `Hangman.prototype.propose` has changed
  let s := { s with map := s.map.insert (gameId server channel) game }
  match st with
  | .found => s.message server channel (.status st) { kw with word := some (game.formatWord env) }
  | .wrongLetter | .wrongPlayer | .wrongWord =>
    s.message server channel (.status st)
      { kw with word := some proposition.asWord, letter := some (proposition.asLetter env) }
  | .asked =>
    s.message server channel (.status st) { kw with letter := some (proposition.asLetter env) }
  | .dead | .win =>
    -- the message first, and then `Hangman.remove`
    (s.message server channel (.status st) { kw with word := some game.word }).remove game

/-- The channel that the handlers use: the origin in a query. -/
def target (server origin channel : CStr) : CStr :=
  if (info server).isSelf channel then origin else env.toLowerCase channel

/-- `message.split(" \t")[0]` -/
def firstPart : CStr → CStr
  | [] => []
  -- the separator is the whole string, and no set of characters
  | c :: message => if (cstr " \t").isPrefixOf (c :: message) then [] else c :: firstPart message

/-- `onCommand` -/
def onCommand (server origin channel message : CStr) (collaborative : Bool) (random : Random) :
    Hangman :=
  let isquery := (info server).isSelf channel
  let channel := target env info server origin channel
  let kw := keywords env info server origin channel
  match s.find server channel with
  | some game =>
    -- a game is running: the message may be the word
    if (firstPart message).isEmpty then
      s.message server channel .running { kw with word := some (game.formatWord env) }
    else if isWord env (firstPart message) then
      s.propose env info server channel origin game (.word (firstPart message)) collaborative
    else s
  | none =>
    match s.selected server channel random with
    | some word =>
      -- `new Hangman`, and `Hangman.map[id]`
      let s := s.select server channel random
      let game := newGame env server channel word isquery
      ({ s with map := s.map.insert (gameId server channel) game }).message server channel .start
        { kw with word := some (game.formatWord env) }
    -- the word is undefined, which has no length
    | none => s.select server channel random

/-- `onMessage` -/
def onMessage (server origin channel message : CStr) (collaborative : Bool) : Hangman :=
  let channel := target env info server origin channel
  match s.find server channel, env.charCodes message with
  -- a message of one letter is a proposition
  | some game, [ch] =>
    if env.isLetter ch then
      s.propose env info server channel origin game (.letter ch) collaborative
    else s
  | _, _ => s

end Functions

/-- What happens to the plugin. -/
inductive Event
  | command (server origin channel message : CStr) (random : Random)
  | message (server origin channel message : CStr)
  | reload (lines : List CStr)

/-- An event, with the option `collaborative` and the state of the servers at that time. -/
structure Action where
  info : CStr → ServerInfo
  collaborative : Bool
  event : Event

/-- One event. -/
def step (env : JsEnv) (s : Hangman) (a : Action) : Hangman :=
  match a.event with
  | .command server origin channel message random =>
    s.onCommand env a.info server origin channel message a.collaborative random
  | .message server origin channel message =>
    s.onMessage env a.info server origin channel message a.collaborative
  | .reload lines => s.loadWords env lines

/-! ## Selections -/

section Selections

variable {env : JsEnv} {info : CStr → ServerInfo} {s : Hangman} {server channel : CStr}

/-- The word that an event selects for the game of a server and channel. -/
def selection (env : JsEnv) (s : Hangman) (a : Action) :
    Option (Draws.Drawn (CStr × CStr) CStr) :=
  match a.event with
  | .command server origin channel _ random =>
    let channel := target env a.info server origin channel
    if (s.find server channel).isSome then none
    else (s.selected server channel random).map fun word =>
      { owner := (server, channel), choice := random.below, element := word }
  | .message _ _ _ _ => none
  | .reload _ => none

/-- The words that a run selects. -/
def selections (env : JsEnv) : Hangman → List Action → List (Draws.Drawn (CStr × CStr) CStr)
  | _, [] => []
  | s, a :: as => (s.selection env a).toList ++ selections env (s.step env a) as

/-- The event loads the words. -/
def Event.isReload : Event → Bool
  | .command _ _ _ _ _ => false
  | .message _ _ _ _ => false
  | .reload _ => true

@[simp] theorem all_select (s : Hangman) (server channel : CStr) (random : Random) :
    (s.select server channel random).all = s.all := rfl

theorem bags_select (s : Hangman) (server channel : CStr) (random : Random) :
    (s.select server channel random).bags =
      Function.update s.bags (gameId server channel)
        ((s.words server channel).eraseIdx (random.below (s.words server channel).length)) := by
  funext id
  -- only the words of one key are changed
  by_cases hid : id = gameId server channel
  · subst hid
    rw [Function.update_self, bags, select, AList.lookup_insert, Option.getD_some]
  · rw [Function.update_of_ne hid, bags, select, AList.lookup_insert_ne hid, bags]

/-- A word is missing only if there is none, and then the bags do not change. -/
theorem bags_select_of_selected {random : Random} (h : s.selected server channel random = none) :
    (s.select server channel random).bags = s.bags := by
  have hnil : s.words server channel = [] := by
    by_contra hne
    -- the index is one of the list
    have hlt := random.below_lt (List.length_pos_of_ne_nil hne)
    exact absurd h (by simp [selected, List.getElem?_eq_getElem hlt])
  have hbag : s.bags (gameId server channel) = [] := by
    by_contra hne
    exact hne (by rwa [words, Draws.filled_of_ne_nil hne] at hnil)
  rw [bags_select, hnil, List.eraseIdx_nil, ← hbag, Function.update_eq_self]

theorem draw_selected {random : Random} {word : CStr}
    (h : s.selected server channel random = some word) :
    Draws.draw s.all (s.bags (gameId server channel)) random.below =
      some (word, (s.words server channel).eraseIdx
        (random.below (s.words server channel).length)) := by
  rw [Draws.draw]
  exact congrArg _ h

@[simp] theorem all_propose (origin : CStr) (game : Game) (p : Proposition)
    (collaborative : Bool) :
    (s.propose env info server channel origin game p collaborative).all = s.all := by
  rw [propose]
  dsimp only
  split <;> rfl

@[simp] theorem registry_propose (origin : CStr) (game : Game) (p : Proposition)
    (collaborative : Bool) :
    (s.propose env info server channel origin game p collaborative).registry = s.registry := by
  rw [propose]
  dsimp only
  split <;> rfl

theorem bags_propose (origin : CStr) (game : Game) (p : Proposition) (collaborative : Bool) :
    (s.propose env info server channel origin game p collaborative).bags = s.bags := by
  funext id
  rw [bags, registry_propose, bags]

/-- A message selects no word. -/
theorem words_onMessage (server origin channel message : CStr) (collaborative : Bool) :
    (s.onMessage env info server origin channel message collaborative).all = s.all ∧
      (s.onMessage env info server origin channel message collaborative).bags = s.bags := by
  rw [onMessage]
  split
  · split
    · exact ⟨all_propose _ _ _ _, bags_propose _ _ _ _⟩
    · exact ⟨rfl, rfl⟩
  · exact ⟨rfl, rfl⟩

/-- A command selects no word where there is a game. -/
theorem words_onCommand_of_game {origin message : CStr} {collaborative : Bool} {random : Random}
    {game : Game} (h : s.find server (target env info server origin channel) = some game) :
    (s.onCommand env info server origin channel message collaborative random).all = s.all ∧
      (s.onCommand env info server origin channel message collaborative random).bags =
        s.bags := by
  rw [onCommand]
  simp only [h]
  split
  · exact ⟨rfl, rfl⟩
  · split
    · exact ⟨all_propose _ _ _ _, bags_propose _ _ _ _⟩
    · exact ⟨rfl, rfl⟩

/-- A command selects a word where there is no game. -/
theorem words_onCommand_of_none {origin : CStr} (message : CStr) (collaborative : Bool)
    (random : Random) (h : s.find server (target env info server origin channel) = none) :
    (s.onCommand env info server origin channel message collaborative random).all = s.all ∧
      (s.onCommand env info server origin channel message collaborative random).bags =
        (s.select server (target env info server origin channel) random).bags := by
  rw [onCommand]
  simp only [h]
  split <;> exact ⟨rfl, rfl⟩

/-- The words do not change, and each word selected is drawn from the bag of its key. -/
theorem draw_of_step (env : JsEnv) (s : Hangman) {a : Action} (ha : a.event.isReload = false) :
    (s.step env a).all = s.all ∧
      match s.selection env a with
      | some d => ∃ rest, Draws.draw s.all (s.bags (gameId d.owner.1 d.owner.2)) d.choice =
            some (d.element, rest) ∧
          (s.step env a).bags = Function.update s.bags (gameId d.owner.1 d.owner.2) rest
      | none => (s.step env a).bags = s.bags := by
  obtain ⟨info, collaborative, event⟩ := a
  cases event with
  | command server origin channel message random =>
    rw [step, selection]
    dsimp only
    cases hfind : s.find server (target env info server origin channel) with
    | some game => exact words_onCommand_of_game hfind
    | none =>
      obtain ⟨hall, hbags⟩ := words_onCommand_of_none message collaborative random hfind
      refine ⟨hall, ?_⟩
      rw [hbags, if_neg (by simp)]
      cases hselected : s.selected server (target env info server origin channel) random with
      | some word => exact ⟨_, draw_selected hselected, bags_select _ _ _ _⟩
      | none => exact bags_select_of_selected hselected
  | message server origin channel message =>
    exact words_onMessage server origin channel message collaborative
  | reload lines => cases ha

/-- The words that a run selects are drawn from the bags. -/
theorem trace_selections (env : JsEnv) {as : List Action}
    (has : ∀ a ∈ as, a.event.isReload = false) (s : Hangman) :
    Draws.Trace (fun p : CStr × CStr => gameId p.1 p.2) (fun _ => s.all) s.bags
      (selections env s as) := by
  induction as generalizing s with
  | nil => exact .nil _
  | cons a as ih =>
    obtain ⟨ha, has⟩ := List.forall_mem_cons.1 has
    obtain ⟨hall, hstep⟩ := draw_of_step env s ha
    have ih := ih has (s.step env a)
    rw [hall] at ih
    rw [selections]
    cases hselection : s.selection env a with
    | some d =>
      rw [hselection] at hstep
      obtain ⟨rest, hdraw, hbags⟩ := hstep
      rw [hbags] at ih
      exact .cons hdraw ih
    | none =>
      rw [hselection] at hstep
      rwa [hstep] at ih

end Selections

/-! ## What was proposed -/

/-- Is a proposition a failure, after the propositions `before`? It is a letter that is not in the
word or that was proposed, or another word. -/
def isFailure (env : JsEnv) (word : CStr) (before : List Proposition) : Proposition → Bool
  | .letter ch => ch ∉ env.charCodes word || .letter ch ∈ before
  | .word text => text ≠ word

/-- The number of failures. The last proposition is the first of the list. -/
def failures (env : JsEnv) (word : CStr) : List Proposition → ℕ
  | [] => 0
  | p :: before => failures env word before + (isFailure env word before p).toNat

/-- A proposition ends a game: it is the word, the last letter of the word that was not proposed, or
the tenth failure. -/
def Ends (env : JsEnv) (word : CStr) (before : List Proposition) (p : Proposition) : Prop :=
  p = .word word ∨
    (∃ ch ∈ env.charCodes word, p = .letter ch ∧ .letter ch ∉ before ∧
      ∀ c ∈ env.charCodes word, c ≠ ch → .letter c ∈ before) ∨
    (isFailure env word before p = true ∧ failures env word before = 9)

namespace Game

/-- A game is what the propositions made of it: it has a try less for each failure, one at least is
left, its table tells the letters that were proposed, and some letter was not. -/
structure Fits (env : JsEnv) (g : Game) (plays : List Proposition) : Prop where
  tries_eq : g.tries = 10 - failures env g.word plays
  tries_pos : 1 ≤ g.tries
  table_eq : ∀ ch, g.table ch =
    if ch ∈ env.charCodes g.word then some (decide (.letter ch ∈ plays)) else none
  missing : ∃ ch ∈ env.charCodes g.word, .letter ch ∉ plays

section Fits

variable {env : JsEnv} {g : Game} {plays : List Proposition} {p : Proposition}
  {collaborative : Bool} {nickname : CStr}

/-- A new game has had no proposition. -/
theorem fits_newGame {server channel word : CStr} {query : Bool} (h : isWord env word = true) :
    (newGame env server channel word query).Fits env [] where
  tries_eq := rfl
  tries_pos := Int.le.intro_sub 9 rfl
  table_eq ch := by simp [newGame]
  missing := by
    rw [isWord, Bool.and_eq_true, Bool.not_eq_true', List.isEmpty_eq_false_iff] at h
    obtain ⟨ch, hch⟩ := List.exists_mem_of_ne_nil _ h.1
    exact ⟨ch, hch, List.not_mem_nil⟩

/-- To remember the player changes nothing else. -/
theorem Fits.remember (h : g.Fits env plays) (collaborative : Bool) (nickname : CStr) :
    (g.remember collaborative nickname).Fits env plays := by
  rw [Game.remember]
  split
  · exact ⟨h.tries_eq, h.tries_pos, h.table_eq, h.missing⟩
  · exact h

@[simp] theorem word_remember (g : Game) (collaborative : Bool) (nickname : CStr) :
    (g.remember collaborative nickname).word = g.word := by
  rw [Game.remember]
  split <;> rfl

@[simp] theorem id_remember : (g.remember collaborative nickname).id = g.id := by
  rw [Game.remember]
  split <;> rfl

@[simp] theorem word_guess : (g.guess p).2.word = g.word := by
  cases p with
  | letter ch =>
    rw [guess]
    split <;> rfl
  | word text =>
    rw [guess]
    split <;> rfl

@[simp] theorem id_guess : (g.guess p).2.id = g.id := by
  cases p with
  | letter ch =>
    rw [guess]
    split <;> rfl
  | word text =>
    rw [guess]
    split <;> rfl

theorem Fits.isFound_iff (h : g.Fits env plays) {ch : ℕ} (hch : ch ∈ env.charCodes g.word) :
    g.isFound ch = true ↔ .letter ch ∈ plays := by
  rw [isFound, h.table_eq, if_pos hch]
  simp

/-- Some letter is not found. -/
theorem Fits.not_all_isFound (h : g.Fits env plays) :
    (env.charCodes g.word).all g.isFound = false := by
  obtain ⟨ch, hch, hmissing⟩ := h.missing
  rw [List.all_eq_false]
  exact ⟨ch, hch, by rwa [h.isFound_iff hch]⟩

/-- A failure takes one try, and changes nothing else. -/
theorem Fits.guess_of_isFailure (h : g.Fits env plays)
    (hfail : isFailure env g.word plays p = true) :
    (g.guess p).2 = g.fail ∧ (g.guess p).1 ≠ .win ∧ (g.guess p).1 ≠ .dead := by
  cases p with
  | letter ch =>
    rw [isFailure, Bool.or_eq_true, decide_eq_true_iff, decide_eq_true_iff] at hfail
    by_cases hch : ch ∈ env.charCodes g.word
    · have hasked : g.table ch = some true := by
        rw [h.table_eq, if_pos hch, decide_eq_true (hfail.resolve_left (not_not_intro hch))]
      simp [guess, hasked]
    · have hwrong : g.table ch = none := by rw [h.table_eq, if_neg hch]
      simp [guess, hwrong]
  | word text =>
    have hne : g.word ≠ text := fun heq => by simp [isFailure, heq] at hfail
    simp [guess, hne]

/-- A letter of the word that was not proposed is found. -/
theorem Fits.guess_of_letter (h : g.Fits env plays) {ch : ℕ} (hch : ch ∈ env.charCodes g.word)
    (hnew : .letter ch ∉ plays) :
    g.guess (.letter ch) = (.found, g.reveal ch) := by
  have hfound : g.table ch = some false := by
    rw [h.table_eq, if_pos hch, decide_eq_false hnew]
  rw [guess, hfound]

theorem guess_word : g.guess (.word g.word) = (.win, g) := by
  rw [guess, if_neg (by simp)]

/-- The propositions that the table can tell from one another. -/
theorem mem_cons_of_isFailure (hfail : isFailure env g.word plays p = true) {ch : ℕ}
    (hch : ch ∈ env.charCodes g.word) :
    Proposition.letter ch ∈ p :: plays ↔ .letter ch ∈ plays := by
  refine ⟨fun hmem => ?_, List.mem_cons_of_mem p⟩
  rcases List.mem_cons.1 hmem with rfl | hmem
  · simpa [isFailure, hch] using hfail
  · exact hmem

theorem Fits.fail (h : g.Fits env plays) (hfail : isFailure env g.word plays p = true)
    (hlast : failures env g.word plays ≠ 9) : g.fail.Fits env (p :: plays) where
  tries_eq := by
    have htries := h.tries_eq
    simp only [Game.fail, failures, hfail, Bool.toNat_true]
    omega
  tries_pos := by
    have htries := h.tries_eq
    have hpos := h.tries_pos
    simp only [Game.fail]
    omega
  table_eq ch := by
    refine (h.table_eq ch).trans ?_
    by_cases hch : ch ∈ env.charCodes g.word
    · rw [Game.fail, if_pos hch, if_pos hch, decide_eq_decide.2 (mem_cons_of_isFailure hfail hch)]
    · rw [Game.fail, if_neg hch, if_neg hch]
  missing := by
    obtain ⟨ch, hch, hmissing⟩ := h.missing
    exact ⟨ch, hch, by rwa [mem_cons_of_isFailure hfail hch]⟩

/-- What the proposition of a letter that is found makes of the game. -/
theorem Fits.reveal (h : g.Fits env plays) {ch : ℕ} (hch : ch ∈ env.charCodes g.word)
    (hnew : .letter ch ∉ plays)
    (hmissing : ∃ c ∈ env.charCodes g.word, c ≠ ch ∧ .letter c ∉ plays) :
    (g.reveal ch).Fits env (.letter ch :: plays) where
  tries_eq := by
    have hfail : isFailure env g.word plays (.letter ch) = false := by simp [isFailure, hch, hnew]
    simp only [Game.reveal, failures, hfail, Bool.toNat_false, Nat.add_zero]
    exact h.tries_eq
  tries_pos := h.tries_pos
  table_eq c := by
    by_cases hc : c = ch
    · subst hc
      simp [Game.reveal, hch]
    · simp [Game.reveal, hc, h.table_eq]
  missing := by
    obtain ⟨c, hc, hne, hmissing⟩ := hmissing
    exact ⟨c, hc, by simpa [hne] using hmissing⟩

/-- All letters are found after a proposition only if it was the last one. -/
theorem Fits.all_isFound_reveal (h : g.Fits env plays) {ch : ℕ} :
    (env.charCodes (g.reveal ch).word).all (g.reveal ch).isFound = true ↔
      ∀ c ∈ env.charCodes g.word, c ≠ ch → .letter c ∈ plays := by
  rw [List.all_eq_true, Game.reveal]
  refine forall_congr' fun c => forall_congr' fun hc => ?_
  by_cases hne : c = ch
  · subst hne
    simp [isFound]
  · rw [← h.isFound_iff hc]
    simp [isFound, hne]

/-- A failure ends a game only if it is the tenth. -/
theorem ends_iff_of_isFailure (hfail : isFailure env g.word plays p = true) :
    Ends env g.word plays p ↔ failures env g.word plays = 9 := by
  refine ⟨?_, fun hnine => .inr (.inr ⟨hfail, hnine⟩)⟩
  -- neither the word nor a new letter is a failure
  rintro (rfl | ⟨ch, hch, rfl, hnew, -⟩ | ⟨-, hnine⟩)
  · simp [isFailure] at hfail
  · simp [isFailure, hch, hnew] at hfail
  · exact hnine

/-- A letter that is found ends a game only if it is the last one. -/
theorem ends_letter_iff {ch : ℕ} (hch : ch ∈ env.charCodes g.word) (hnew : .letter ch ∉ plays) :
    Ends env g.word plays (.letter ch) ↔
      ∀ c ∈ env.charCodes g.word, c ≠ ch → .letter c ∈ plays := by
  refine ⟨?_, fun hlast => .inr (.inl ⟨ch, hch, rfl, hnew, hlast⟩)⟩
  rintro (hword | ⟨c, -, heq, -, hlast⟩ | ⟨hfail, -⟩)
  · cases hword
  · cases heq
    exact hlast
  · simp [isFailure, hch, hnew] at hfail

/-- A proposition that is accepted: it wins or loses exactly when it ends the game, and otherwise
the game goes on. -/
theorem Fits.propose (h : g.Fits env plays)
    (haccepted : g.isRefused collaborative nickname = false) :
    let (st, g') := g.propose env collaborative p nickname
    (Ends env g.word plays p → st = .win ∨ st = .dead) ∧
      (¬ Ends env g.word plays p → st ≠ .win ∧ st ≠ .dead ∧ g'.Fits env (p :: plays)) := by
  rw [Game.propose, if_neg (by simp [haccepted])]
  have h := h.remember collaborative nickname
  rw [← word_remember g collaborative nickname]
  generalize g.remember collaborative nickname = g at h
  dsimp only
  by_cases hfail : isFailure env g.word plays p = true
  · -- a try less, and the player is dead if there was only one
    obtain ⟨hguess, hwin, hdead⟩ := h.guess_of_isFailure hfail
    have hall : (env.charCodes g.fail.word).all g.fail.isFound = false := h.not_all_isFound
    have htries := h.tries_eq
    have hpos := h.tries_pos
    rw [hguess, verdict, hall, if_neg Bool.false_ne_true, ends_iff_of_isFailure hfail]
    refine ⟨fun hnine => .inr (if_pos (by simp only [Game.fail]; omega)), fun hnine => ?_⟩
    rw [if_neg (by simp only [Game.fail]; omega)]
    exact ⟨hwin, hdead, h.fail hfail hnine⟩
  · cases p with
    | letter ch =>
      -- a new letter of the word, and the game is won if no other one is missing
      obtain ⟨hch, hnew⟩ : ch ∈ env.charCodes g.word ∧ .letter ch ∉ plays := by
        simpa [isFailure] using hfail
      rw [h.guess_of_letter hch hnew, verdict, ends_letter_iff hch hnew]
      dsimp only
      constructor
      · intro hlast
        exact .inl (if_pos (h.all_isFound_reveal.2 hlast))
      · intro hlast
        rw [if_neg (fun hall => hlast (h.all_isFound_reveal.1 hall)),
          if_neg (by have := h.tries_pos; simp only [Game.reveal]; omega)]
        push Not at hlast
        exact ⟨by decide, by decide, h.reveal hch hnew hlast⟩
    | word text =>
      -- `Hangman.prototype.propose` has won, whatever letters are missing
      obtain rfl : text = g.word := by simpa [isFailure] using hfail
      have hpos := h.tries_pos
      rw [guess_word, verdict, h.not_all_isFound, if_neg Bool.false_ne_true,
        if_neg (by dsimp only; omega)]
      exact ⟨fun _ => .inl rfl, fun hends => absurd (.inl rfl) hends⟩

@[simp] theorem word_propose :
    (g.propose env collaborative p nickname).2.word = g.word := by
  rw [Game.propose]
  split
  · rfl
  · simp

@[simp] theorem id_propose : (g.propose env collaborative p nickname).2.id = g.id := by
  rw [Game.propose]
  split
  · rfl
  · simp

/-- A proposition that is refused changes nothing. -/
theorem propose_of_isRefused (h : g.isRefused collaborative nickname = true) :
    g.propose env collaborative p nickname = (.wrongPlayer, g) := by
  rw [Game.propose, if_pos h]

end Fits

end Game

/-! ## Runs -/

/-- The proposition that an event makes to a game, with the key of the game and the player. -/
def attempt (env : JsEnv) (s : Hangman) (a : Action) : Option (CStr × CStr × Proposition) :=
  match a.event with
  | .command server origin channel message _ =>
    let channel := target env a.info server origin channel
    if (s.find server channel).isSome && !(firstPart message).isEmpty &&
        isWord env (firstPart message) then
      some (gameId server channel, splituser origin, .word (firstPart message))
    else none
  | .message server origin channel message =>
    let channel := target env a.info server origin channel
    match env.charCodes message with
    | [ch] =>
      if (s.find server channel).isSome && env.isLetter ch then
        some (gameId server channel, splituser origin, .letter ch)
      else none
    | _ => none
  | .reload _ => none

/-- The proposition that an event makes to a game, if it is not refused. -/
def accepted (env : JsEnv) (s : Hangman) (a : Action) : Option (CStr × Proposition) :=
  (s.attempt env a).bind fun (id, nickname, p) =>
    (s.map.lookup id).bind fun game =>
      if game.isRefused a.collaborative nickname then none else some (id, p)

/-- The plugin, and the propositions accepted by the last game of each key, from the last one. -/
structure Tracked where
  state : Hangman
  plays : CStr → List Proposition

/-- One event. A new game has no propositions. -/
def Tracked.step (env : JsEnv) (t : Tracked) (a : Action) : Option Tracked :=
  some
    { state := t.state.step env a
      plays :=
        match t.state.accepted env a, t.state.selection env a with
        | some (id, p), _ => Function.update t.plays id (p :: t.plays id)
        | none, some d => Function.update t.plays (gameId d.owner.1 d.owner.2) []
        | none, none => t.plays }

section Steps

variable {env : JsEnv} {s : Hangman}

/-- What an event does to the games: it makes a proposition, starts a game, or does nothing. -/
theorem step_cases (env : JsEnv) (s : Hangman) (a : Action) :
    (∃ server channel origin game p, s.find server channel = some game ∧
      s.attempt env a = some (gameId server channel, splituser origin, p) ∧
      s.selection env a = none ∧
      s.step env a = s.propose env a.info server channel origin game p a.collaborative) ∨
    (∃ d query, s.attempt env a = none ∧ s.selection env a = some d ∧
      s.map.lookup (gameId d.owner.1 d.owner.2) = none ∧
      (s.step env a).map = s.map.insert (gameId d.owner.1 d.owner.2)
        (newGame env d.owner.1 d.owner.2 d.element query)) ∨
    (s.attempt env a = none ∧ s.selection env a = none ∧ (s.step env a).map = s.map) := by
  obtain ⟨info, collaborative, event⟩ := a
  cases event with
  | command server origin channel message random =>
    simp only [step, attempt, selection, onCommand]
    cases hfind : s.find server (target env info server origin channel) with
    | some game =>
      by_cases hempty : (firstPart message).isEmpty = true
      · exact .inr (.inr (by simp [hempty, Hangman.message]))
      · by_cases hword : isWord env (firstPart message) = true
        · refine .inl ⟨server, target env info server origin channel, origin, game,
            .word (firstPart message), hfind, ?_⟩
          simp [hempty, hword]
        · exact .inr (.inr (by simp [hempty, hword]))
    | none =>
      cases hselected : s.selected server (target env info server origin channel) random with
      | some word =>
        exact .inr (.inl ⟨⟨(server, target env info server origin channel), random.below, word⟩,
          (info server).isSelf channel, by simp, by simp, hfind, rfl⟩)
      | none => exact .inr (.inr (by simp [select]))
  | message server origin channel message =>
    simp only [step, attempt, selection, onMessage]
    cases hfind : s.find server (target env info server origin channel) with
    | some game =>
      -- only a message of one character is a proposition
      rcases hcodes : env.charCodes message with _ | ⟨ch, _ | ⟨ch', rest⟩⟩
      · exact .inr (.inr (by simp))
      · by_cases hletter : env.isLetter ch = true
        · refine .inl ⟨server, target env info server origin channel, origin, game, .letter ch,
            hfind, ?_⟩
          simp [hletter]
        · exact .inr (.inr (by simp [hletter]))
      · exact .inr (.inr (by simp))
    | none =>
      refine .inr (.inr ⟨?_, by simp⟩)
      rcases env.charCodes message with _ | ⟨ch, _ | ⟨ch', rest⟩⟩ <;> rfl
  | reload lines => exact .inr (.inr ⟨rfl, rfl, rfl⟩)

/-- What a proposition does to the games. -/
theorem lookup_propose (info : CStr → ServerInfo) {server channel : CStr} {game : Game}
    (hid : game.id = gameId server channel) (env : JsEnv) (s : Hangman) (origin : CStr)
    (p : Proposition) (collaborative : Bool) (id : CStr) :
    (s.propose env info server channel origin game p collaborative).map.lookup id =
      let (st, game) := game.propose env collaborative p (splituser origin)
      if id = gameId server channel then
        if st = .win ∨ st = .dead then none else some game
      else s.map.lookup id := by
  have hid' : (game.propose env collaborative p (splituser origin)).2.id =
      gameId server channel := by rw [Game.id_propose, hid]
  have hnickname : (keywords env info server origin channel).nickname = splituser origin := rfl
  rw [propose, hnickname]
  generalize game.propose env collaborative p (splituser origin) = out at hid'
  obtain ⟨st, game'⟩ := out
  -- the game is written back, and removed when the status ends it
  by_cases heq : id = gameId server channel
  · subst heq
    cases st <;> simp [message, remove, hid']
  · cases st <;> simp [message, remove, hid', heq, AList.lookup_insert_ne]

/-- All words that a game can get are words. -/
structure HasWords (env : JsEnv) (s : Hangman) : Prop where
  all : ∀ word ∈ s.all, isWord env word = true
  bags : ∀ id, ∀ word ∈ s.bags id, isWord env word = true

theorem HasWords.filled (h : HasWords env s) (id : CStr) :
    ∀ word ∈ Draws.filled s.all (s.bags id), isWord env word = true := by
  intro word hword
  rw [Draws.filled] at hword
  split at hword
  · exact h.all word hword
  · exact h.bags id word hword

theorem hasWords_start (env : JsEnv) (lines : List CStr) :
    HasWords env (start.loadWords env lines) where
  all word hword := (List.mem_filter.1 hword).2
  bags id word hword := by simp [loadWords, start, Hangman.bags] at hword

/-- An event keeps the words, and what it selects is a word. -/
theorem HasWords.step (h : HasWords env s) (a : Action) :
    HasWords env (s.step env a) ∧
      ∀ d, s.selection env a = some d → isWord env d.element = true := by
  by_cases ha : a.event.isReload = true
  · -- `loadWords` keeps the words only
    obtain ⟨info, collaborative, event⟩ := a
    cases event with
    | command => cases ha
    | message => cases ha
    | reload lines =>
      exact ⟨⟨fun word hword => (List.mem_filter.1 hword).2, h.bags⟩, fun d hd => by cases hd⟩
  · obtain ⟨hall, hstep⟩ := draw_of_step env s (Bool.not_eq_true _ ▸ ha)
    cases hselection : s.selection env a with
    | none =>
      rw [hselection] at hstep
      exact ⟨⟨by rw [hall]; exact h.all, by rw [hstep]; exact h.bags⟩, fun d hd => by cases hd⟩
    | some d =>
      rw [hselection] at hstep
      -- the word, and what is left of its bag, were in the bag or in the list of all words
      obtain ⟨rest, hdraw, hbags⟩ := hstep
      have hperm := Draws.perm_of_draw hdraw
      have hfilled := h.filled (gameId d.owner.1 d.owner.2)
      refine ⟨⟨by rw [hall]; exact h.all, fun id word hword => ?_⟩, ?_⟩
      · rw [hbags] at hword
        by_cases hid : id = gameId d.owner.1 d.owner.2
        · subst hid
          rw [Function.update_self] at hword
          exact hfilled word (hperm.subset (List.mem_cons_of_mem _ hword))
        · rw [Function.update_of_ne hid] at hword
          exact h.bags id word hword
      · rintro _ ⟨⟩
        exact hfilled _ (hperm.subset List.mem_cons_self)

end Steps

namespace Tracked

/-- What the game of a key shows after the propositions made to it: how many tries are left, that
some letter is not proposed, and the letters that are. -/
structure Shows (env : JsEnv) (game : Game) (plays : List Proposition) : Prop where
  tries_pos : 1 ≤ game.tries
  tries_le : game.tries ≤ 10
  tries_eq : game.tries = 10 - failures env game.word plays
  missing : ∃ ch ∈ env.charCodes game.word, .letter ch ∉ plays
  formatWord_eq : game.formatWord env =
    List.intercalate [SP] ((env.charCodes game.word).map fun ch =>
      if .letter ch ∈ plays then env.fromCharCode ch else cstr "_")

/-- Every game shows the propositions made to it. -/
def AllShow (env : JsEnv) (t : Tracked) : Prop :=
  ∀ id game, t.state.map.lookup id = some game → Shows env game (t.plays id)

/-- A game leaves the map if and only if a proposition ends it, and else keeps its word. -/
def LeaveAtEnd (env : JsEnv) (t : Tracked) (a : Action) (t' : Tracked) : Prop :=
  ∀ id game, t.state.map.lookup id = some game →
    (t'.state.map.lookup id = none ↔
      ∃ p, t.state.accepted env a = some (id, p) ∧ Ends env game.word (t.plays id) p) ∧
    ∀ game', t'.state.map.lookup id = some game' → game'.word = game.word

/-- The plugin once it is loaded. -/
def start (env : JsEnv) (lines : List CStr) : Tracked where
  state := Hangman.start.loadWords env lines
  plays _ := []

/-- What holds throughout a run. -/
structure Inv (env : JsEnv) (t : Tracked) : Prop where
  words : HasWords env t.state
  kept : ∀ id game, t.state.map.lookup id = some game → game.id = id
  fits : ∀ id game, t.state.map.lookup id = some game → game.Fits env (t.plays id)

section Inv

variable {env : JsEnv} {t t' : Tracked} {a : Action}

theorem shows_of_fits {game : Game} {plays : List Proposition}
    (h : game.Fits env plays) : Shows env game plays where
  tries_pos := h.tries_pos
  tries_le := by
    have := h.tries_eq
    omega
  tries_eq := h.tries_eq
  missing := h.missing
  formatWord_eq := by
    rw [Game.formatWord]
    congr 1
    exact List.map_congr_left fun ch hch => if_congr (h.isFound_iff hch) rfl rfl

theorem Inv.allShow (h : Inv env t) : AllShow env t :=
  fun id game hgame => shows_of_fits (h.fits id game hgame)

theorem inv_start (env : JsEnv) (lines : List CStr) : Inv env (start env lines) where
  words := hasWords_start env lines
  kept id game hgame := by cases hgame
  fits id game hgame := by cases hgame

/-- The games after an event in which no game is lost. -/
theorem leaveAtEnd_of_lookup (haccepted : t.state.accepted env a = none)
    (hlookup : ∀ id game, t.state.map.lookup id = some game →
      t'.state.map.lookup id = some game) : LeaveAtEnd env t a t' := by
  intro id game hgame
  have hgame' := hlookup id game hgame
  refine ⟨⟨fun hnone => ?_, fun ⟨p, hp, _⟩ => ?_⟩, fun game₁ hgame₁ => ?_⟩
  · rw [hgame'] at hnone
    cases hnone
  · rw [haccepted] at hp
    cases hp
  · rw [hgame'] at hgame₁
    rw [Option.some.inj hgame₁]

/-- An event makes no proposition to a game and starts none. -/
theorem Inv.step_of_idle (h : Inv env t) (hwords : HasWords env t'.state)
    (haccepted : t.state.accepted env a = none) (hplays : t'.plays = t.plays)
    (hlookup : ∀ id, t'.state.map.lookup id = t.state.map.lookup id) :
    Inv env t' ∧ LeaveAtEnd env t a t' := by
  refine ⟨⟨hwords, fun id game hgame => ?_, fun id game hgame => ?_⟩,
    leaveAtEnd_of_lookup haccepted fun id game hgame => by rw [hlookup, hgame]⟩
  · exact h.kept id game (by rwa [hlookup] at hgame)
  · rw [hplays]
    exact h.fits id game (by rwa [hlookup] at hgame)

/-- An event starts a game. -/
theorem Inv.step_of_selection (h : Inv env t) (hwords : HasWords env t'.state)
    (haccepted : t.state.accepted env a = none) {server channel word : CStr} {query : Bool}
    (hword : isWord env word = true) (hnone : t.state.map.lookup (gameId server channel) = none)
    (hplays : t'.plays = Function.update t.plays (gameId server channel) [])
    (hmap : t'.state.map = t.state.map.insert (gameId server channel)
      (newGame env server channel word query)) :
    Inv env t' ∧ LeaveAtEnd env t a t' := by
  -- a game is the new one, or one of those before
  have hcases : ∀ id game, t'.state.map.lookup id = some game →
      (id = gameId server channel ∧ game = newGame env server channel word query) ∨
        (id ≠ gameId server channel ∧ t.state.map.lookup id = some game) := by
    intro id game hgame
    rw [hmap] at hgame
    by_cases hid : id = gameId server channel
    · rw [hid, AList.lookup_insert] at hgame
      exact .inl ⟨hid, (Option.some.inj hgame).symm⟩
    · rw [AList.lookup_insert_ne hid] at hgame
      exact .inr ⟨hid, hgame⟩
  refine ⟨⟨hwords, fun id game hgame => ?_, fun id game hgame => ?_⟩,
    leaveAtEnd_of_lookup haccepted fun id game hgame => ?_⟩
  · rcases hcases id game hgame with ⟨rfl, rfl⟩ | ⟨-, hold⟩
    · rfl
    · exact h.kept id game hold
  · rcases hcases id game hgame with ⟨rfl, rfl⟩ | ⟨hne, hold⟩
    · rw [hplays, Function.update_self]
      exact Game.fits_newGame hword
    · rw [hplays, Function.update_of_ne hne]
      exact h.fits id game hold
  · have hne : id ≠ gameId server channel := by
      rintro rfl
      rw [hnone] at hgame
      cases hgame
    rw [hmap, AList.lookup_insert_ne hne, hgame]

/-- The games after an event that makes a proposition to one of them: it is gone if the proposition
ends it. -/
structure PlaysTo (env : JsEnv) (t : Tracked) (id : CStr) (game : Game) (p : Proposition)
    (out : Status × Game) (t' : Tracked) : Prop where
  word_eq : out.2.word = game.word
  ends : Ends env game.word (t.plays id) p → out.1 = .win ∨ out.1 = .dead
  goes : ¬ Ends env game.word (t.plays id) p →
    out.1 ≠ .win ∧ out.1 ≠ .dead ∧ out.2.Fits env (p :: t.plays id)
  lookup_eq : ∀ id', t'.state.map.lookup id' =
    if id' = id then if out.1 = .win ∨ out.1 = .dead then none else some out.2
    else t.state.map.lookup id'

namespace PlaysTo

variable {id : CStr} {game : Game} {p : Proposition} {out : Status × Game}

/-- A game after the event is the one that goes on, or another one. -/
theorem cases (h : PlaysTo env t id game p out t') {id' : CStr} {game' : Game}
    (hgame' : t'.state.map.lookup id' = some game') :
    (id' = id ∧ game' = out.2 ∧ ¬ Ends env game.word (t.plays id) p) ∨
      (id' ≠ id ∧ t.state.map.lookup id' = some game') := by
  rw [h.lookup_eq] at hgame'
  split at hgame'
  · next heq =>
    split at hgame'
    · cases hgame'
    · next hst => exact .inl ⟨heq, (Option.some.inj hgame').symm, fun hend => hst (h.ends hend)⟩
  · next hne => exact .inr ⟨hne, hgame'⟩

/-- The game is gone if and only if the proposition ends it. -/
theorem lookup_eq_none_iff (h : PlaysTo env t id game p out t') :
    t'.state.map.lookup id = none ↔ Ends env game.word (t.plays id) p := by
  rw [h.lookup_eq, if_pos rfl]
  constructor
  · intro hnone
    by_contra hend
    obtain ⟨hwin, hdead, -⟩ := h.goes hend
    rw [if_neg (by simp [hwin, hdead])] at hnone
    cases hnone
  · intro hend
    exact if_pos (h.ends hend)

theorem leaveAtEnd (h : PlaysTo env t id game p out t')
    (hgame : t.state.map.lookup id = some game)
    (haccepted : t.state.accepted env a = some (id, p)) : LeaveAtEnd env t a t' := by
  intro id' game₁ hgame₁
  rw [haccepted]
  by_cases heq : id' = id
  · subst heq
    rw [hgame] at hgame₁
    obtain rfl := Option.some.inj hgame₁
    refine ⟨h.lookup_eq_none_iff.trans ⟨fun hend => ⟨p, rfl, hend⟩, ?_⟩, fun game' hgame' => ?_⟩
    · rintro ⟨p', hp', hend⟩
      cases hp'
      exact hend
    · rcases h.cases hgame' with ⟨-, rfl, -⟩ | ⟨hne, -⟩
      · exact h.word_eq
      · exact absurd rfl hne
  · -- the other games do not change
    rw [h.lookup_eq, if_neg heq, hgame₁]
    refine ⟨⟨fun hnone => absurd hnone (Option.some_ne_none _), ?_⟩, fun game' hgame' => ?_⟩
    · rintro ⟨p', hp', -⟩
      cases hp'
      exact absurd rfl heq
    · rw [Option.some.inj hgame']

end PlaysTo

/-- An event makes a proposition that is accepted. -/
theorem Inv.step_of_accepted (h : Inv env t) (hwords : HasWords env t'.state) {id : CStr}
    {game : Game} {p : Proposition} {nickname : CStr} (hgame : t.state.map.lookup id = some game)
    (hfree : game.isRefused a.collaborative nickname = false)
    (haccepted : t.state.accepted env a = some (id, p))
    (hplays : t'.plays = Function.update t.plays id (p :: t.plays id))
    (hlookup : ∀ id', t'.state.map.lookup id' =
      let (st, game') := game.propose env a.collaborative p nickname
      if id' = id then if st = .win ∨ st = .dead then none else some game'
      else t.state.map.lookup id') :
    Inv env t' ∧ LeaveAtEnd env t a t' := by
  have hspec := (h.fits id game hgame).propose (p := p) hfree
  have hid : (game.propose env a.collaborative p nickname).2.id = game.id := Game.id_propose
  have hto : PlaysTo env t id game p (game.propose env a.collaborative p nickname) t' :=
    ⟨Game.word_propose, hspec.1, hspec.2, hlookup⟩
  refine ⟨⟨hwords, fun id' game' hgame' => ?_, fun id' game' hgame' => ?_⟩,
    hto.leaveAtEnd hgame haccepted⟩
  · rcases hto.cases hgame' with ⟨rfl, rfl, -⟩ | ⟨-, hold⟩
    · rw [hid, h.kept _ game hgame]
    · exact h.kept id' game' hold
  · -- the propositions made in this game are those before and this one
    rcases hto.cases hgame' with ⟨rfl, rfl, hend⟩ | ⟨hne, hold⟩
    · rw [hplays, Function.update_self]
      exact (hto.goes hend).2.2
    · rw [hplays, Function.update_of_ne hne]
      exact h.fits id' game' hold

/-- Every event keeps the invariant, and games leave when they end. -/
theorem Inv.step (h : Inv env t) (hstep : t.step env a = some t') :
    Inv env t' ∧ LeaveAtEnd env t a t' := by
  obtain rfl := Option.some.inj hstep
  obtain ⟨hwords, hselected⟩ := h.words.step a
  rcases step_cases env t.state a with
    ⟨server, channel, origin, game, p, hfind, hattempt, hselection, hs⟩ |
    ⟨d, query, hattempt, hselection, hnone, hmap⟩ | ⟨hattempt, hselection, hmap⟩
  · have hlookup := lookup_propose a.info (h.kept _ _ hfind) env t.state origin p a.collaborative
    have haccepted : t.state.accepted env a =
        if game.isRefused a.collaborative (splituser origin) then none
        else some (gameId server channel, p) := by
      rw [find] at hfind
      simp [accepted, hattempt, hfind]
    by_cases hrefused : game.isRefused a.collaborative (splituser origin) = true
    · -- the game is written back as it was
      rw [if_pos hrefused] at haccepted
      refine h.step_of_idle hwords haccepted (by rw [haccepted, hselection]) fun id => ?_
      rw [hs, hlookup, Game.propose_of_isRefused hrefused]
      dsimp only
      split
      · next heq =>
        subst heq
        rw [if_neg (by decide)]
        exact hfind.symm
      · rfl
    · rw [if_neg hrefused] at haccepted
      refine h.step_of_accepted hwords hfind (Bool.not_eq_true _ ▸ hrefused) haccepted
        (by rw [haccepted]) fun id => ?_
      rw [hs, hlookup]
  · have haccepted : t.state.accepted env a = none := by rw [accepted, hattempt]; rfl
    exact h.step_of_selection hwords haccepted (hselected d hselection) hnone
      (by rw [haccepted, hselection]) hmap
  · have haccepted : t.state.accepted env a = none := by rw [accepted, hattempt]; rfl
    exact h.step_of_idle hwords haccepted (by rw [haccepted, hselection])
      fun id => by rw [hmap]

/-- In every state of a run, each game shows the propositions made to it, and a game leaves the map
if and only if its word is proposed, its last letter is found, or the tenth failure occurs. -/
theorem run_games (env : JsEnv) (lines : List CStr) (as : List Action) :
    Runs.AllStates (Tracked.step env) (AllShow env) (start env lines) as ∧
      Runs.AllSteps (Tracked.step env) (LeaveAtEnd env) (start env lines) as := by
  have hinv := inv_start env lines
  constructor
  · have hrun : Runs.AllStates (Tracked.step env) (Inv env) (start env lines) as :=
      Runs.AllStates.of_keeps (fun t a t' h hstep => (h.step hstep).1) hinv
    exact hrun.mono fun t h => h.allShow
  · exact Runs.AllSteps.of_keeps (fun t a t' h hstep => (h.step hstep).symm) hinv

end Inv

/-- jean starts a game for the word `sky`, proposes two of its letters, and then the last one. -/
def skyRun : List Action :=
  let info (_ : CStr) : ServerInfo := { pfx := cstr "!", nickname := cstr "irccd", channels := [] }
  (.command (cstr "local") (cstr "jean") (cstr "#games") [] ⟨0, 1, by decide⟩ ::
    ["s", "k", "y"].map fun letter =>
      .message (cstr "local") (cstr "jean") (cstr "#games") (cstr letter)).map (⟨info, false, ·⟩)

/-- The game is there until the last letter is found. -/
example : (List.range 5).map (fun n =>
    (((skyRun.take n).foldl (Hangman.step (asciiEnv (cstr "hangman")))
      (start (asciiEnv (cstr "hangman")) [cstr "sky"]).state).find (cstr "local")
        (cstr "#games")).map (·.word)) =
      [none, some (cstr "sky"), some (cstr "sky"), some (cstr "sky"), none] := by
  decide

end Tracked

end Hangman

end Irccd
