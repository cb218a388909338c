import Mathlib.Data.List.Infix
import Irccd.Foundations.Runs
import Irccd.Plugins.Basic

/-!
# The plugin tictactoe (`tictactoe.js`)

A game is registered under its channel and its server. `Game.show` starts a timer, whose callback
keeps the game; only a move stops it.

* `Tictactoe`: the games, the registry, the timers and the messages sent;
* `onCommand` and the like: the handlers;
* `step`: an event, the firing of a timer included;
* `onDisconnect_iff`: exactly when a disconnection ends the games of its server only;
* `timers_iff`: exactly when each timer that fires finds its own game registered.
-/

namespace Irccd

namespace Tictactoe

/-! ## Games -/

/-- A square of the grid. -/
inductive Square
  | empty
  | x
  | o
  deriving DecidableEq

/-- The character of a square. -/
def Square.text : Square → CStr
  | empty => cstr "."
  | x => cstr "x"
  | o => cstr "o"

/-- A row and a column. -/
abbrev Grid := Fin 3 → Fin 3 → Square

/-- `Game`. The server is known by its name, and the timer by its place in the list of timers. -/
structure Game where
  server : CStr
  origin : CStr
  target : CStr
  channel : CStr
  players : Fin 2 → CStr
  player : Fin 2
  grid : Grid
  timer : Option ℕ

/-- A timer, with the game that its callback keeps. -/
structure Timer where
  game : ℕ
  running : Bool
  deriving DecidableEq

/-- The keys of `Plugin.templates`. -/
inductive Template
  | draw
  | invalid
  | running
  | turn
  | used
  | win
  | timeout
  deriving DecidableEq

/-- The object that `Game.keywords` returns. -/
structure Keywords where
  channel : CStr
  command : CStr
  plugin : CStr
  server : CStr
  origin : Option CStr := none
  nickname : Option CStr := none
  deriving DecidableEq

/-- A text, or what `Util.format` makes of a template. -/
inductive Text
  | raw (text : CStr)
  | format (template : Template) (kw : Keywords)
  deriving DecidableEq

/-- A call of `server.message`. -/
structure Sent where
  server : CStr
  channel : CStr
  text : Text
  deriving DecidableEq

end Tictactoe

/-- The plugin: the games that it has created, `Game.map` with their places in that list, the
timers, and the messages. Nothing is ever put into `Game.requests`. -/
structure Tictactoe where
  games : List Tictactoe.Game
  map : JsMap ℕ
  timers : List Tictactoe.Timer
  sent : List Tictactoe.Sent

namespace Tictactoe

/-- The plugin when it is loaded. -/
def start : Tictactoe := { games := [], map := ∅, timers := [], sent := [] }

/-- `Game.id` -/
def gameId (server channel : CStr) : CStr := channel ++ cstr "@" ++ server

namespace Game

/-- The key of the game in the registry. -/
def id (g : Game) : CStr := gameId g.server g.channel

/-- The lines that win. -/
def lines : List ((Fin 3 × Fin 3) × (Fin 3 × Fin 3) × (Fin 3 × Fin 3)) :=
  [((0, 0), (0, 1), (0, 2)),
    ((1, 0), (1, 1), (1, 2)),
    ((2, 0), (2, 1), (2, 2)),
    ((0, 0), (1, 0), (2, 0)),
    ((0, 1), (1, 1), (2, 1)),
    ((0, 2), (1, 2), (2, 2)),
    ((0, 0), (1, 1), (2, 2)),
    ((0, 2), (1, 1), (2, 0))]

/-- `Game.prototype.hasWinner` -/
def hasWinner (g : Game) : Bool :=
  lines.any fun (p1, p2, p3) =>
    g.grid p1.1 p1.2 == g.grid p2.1 p2.2 && g.grid p2.1 p2.2 == g.grid p3.1 p3.2 &&
      g.grid p3.1 p3.2 != .empty

/-- `Game.prototype.hasDraw` -/
def hasDraw (g : Game) : Bool :=
  (List.finRange 3).all fun r => (List.finRange 3).all fun c => g.grid r c != .empty

/-- `Game.prototype.isTurn` -/
def isTurn (g : Game) (nickname : CStr) : Bool := g.players g.player == nickname

/-- The end of the game. -/
def isOver (g : Game) : Bool := g.hasWinner || g.hasDraw

/-- The other player. -/
def otherPlayer (g : Game) : Fin 2 := if g.player = 0 then 1 else 0

/-- The square of the current player. -/
def mark (g : Game) : Square := if g.player = 0 then .x else .o

/-- The grid after the current player has taken a square. -/
def marked (g : Game) (row column : Fin 3) : Grid :=
  Function.update g.grid row (Function.update (g.grid row) column g.mark)

/-- The game after the current player has taken a square. -/
def take (g : Game) (row column : Fin 3) : Game :=
  let g := { g with grid := g.marked row column }
  if g.isOver then g else { g with player := g.otherPlayer }

@[simp] theorem id_take (g : Game) (row column : Fin 3) : (g.take row column).id = g.id := by
  rw [take]
  dsimp only
  split <;> rfl

@[simp] theorem timer_take (g : Game) (row column : Fin 3) :
    (g.take row column).timer = g.timer := by
  rw [take]
  dsimp only
  split <;> rfl

/-- A row as `Game.prototype.show` prints it. -/
def rowText (g : Game) (r : Fin 3) : CStr :=
  List.intercalate [SP] ((List.finRange 3).map fun c => (g.grid r c).text)

end Game

/-! ## The functions of the script -/

section Functions

variable (env : JsEnv) (info : CStr → ServerInfo) (s : Tictactoe)

/-- `server.message(channel, text)` -/
def message (server channel : CStr) (text : Text) : Tictactoe :=
  { s with sent := s.sent ++ [⟨server, channel, text⟩] }

/-- `Game.find` -/
def find (server channel : CStr) : Option ℕ := s.map.lookup (gameId server channel)

/-- `Game.keywords` -/
def keywords (server channel : CStr) (origin : Option CStr) : Keywords where
  channel
  command := (info server).pfx ++ env.plugin
  plugin := env.plugin
  server
  origin
  nickname := origin.map splituser

/-- `Game.exists` -/
def gameExists (server channel : CStr) : Bool := (s.find server channel).isSome

/-- `Game.remove` -/
def remove (server channel : CStr) : Tictactoe :=
  { s with map := s.map.erase (gameId server channel) }

/-- `Game.clear` -/
def clear (server user channel : CStr) : Tictactoe :=
  let nickname := splituser user
  match (s.find server channel).bind (s.games[·]?) with
  | some game =>
    if game.players 0 = nickname ∨ game.players 1 = nickname then s.remove server channel else s
  | none => s

/-- `Game.isValid`. There is no result when it throws, on a channel that the server does not
have. -/
def isValid (server channel nickname target : CStr) : Option Bool :=
  if target = [] ∨ target = nickname ∨ target = (info server).nickname then some false
  else ((info server).channels.find? (·.1 == channel)).map fun ch => ch.2.contains target

/-- `Game.timeout` -/
def timeout (g : ℕ) : Tictactoe :=
  match s.games[g]? with
  | some game =>
    let kw := keywords env info game.server game.channel none
    let kw := { kw with nickname := some (game.players game.player) }
    (s.message game.server game.channel (.format .timeout kw)).remove game.server game.channel
  | none => s

/-- Change a game. -/
def setGame (g : ℕ) (game : Game) : Tictactoe := { s with games := s.games.set g game }

/-- `timer.stop()` -/
def stop (t : ℕ) : Tictactoe :=
  { s with timers := s.timers.modify t fun timer => { timer with running := false } }

/-- The last line of `Game.prototype.show`. -/
def lastLine (game : Game) : Text :=
  let kw := keywords env info game.server game.channel none
  let kw := { kw with nickname := some (game.players game.player) }
  if game.hasWinner then .format .win kw
  else if game.hasDraw then .format .draw kw
  else .format .turn kw

/-- `Game.prototype.show` -/
def «show» (g : ℕ) : Tictactoe :=
  match s.games[g]? with
  | some game =>
    let s := s.message game.server game.channel (.raw (cstr "  a b c"))
    let s := s.message game.server game.channel (.raw (cstr "1 " ++ game.rowText 0))
    let s := s.message game.server game.channel (.raw (cstr "2 " ++ game.rowText 1))
    let s := s.message game.server game.channel (.raw (cstr "3 " ++ game.rowText 2))
    let s := s.message game.server game.channel (lastLine env info game)
    let s := s.setGame g { game with timer := some s.timers.length }
    { s with timers := s.timers ++ [⟨g, true⟩] }
  | none => s

/-- `Game.prototype.place` on a game: whether the square was free. -/
def place (g : ℕ) (game : Game) (column row : Fin 3) (origin : CStr) :
    Option (Bool × Tictactoe) :=
  if game.grid row column ≠ .empty then
    let kw := keywords env info game.server game.channel (some origin)
    some (false, s.message game.server game.channel (.format .used kw))
  else
    -- without a timer the call of `stop` throws
    game.timer.map fun t => (true, (s.stop t).setGame g (game.take row column))

/-! ## The handlers -/

/-- `/^([abc]) ?([123])$/`: the column and the row. -/
def square (message : CStr) : Option (Fin 3 × Fin 3) :=
  match message with
  | [c, r] => parse c r
  | [c, 32, r] => parse c r
  | _ => none
where
  parse (c r : UInt8) : Option (Fin 3 × Fin 3) := do
    let column ← match c with
      | 97 => some 0
      | 98 => some 1
      | 99 => some 2
      | _ => none
    let row ← match r with
      | 49 => some 0
      | 50 => some 1
      | 51 => some 2
      | _ => none
    return (column, row)

/-- `onCommand`, where `r` is what `Math.random()` gives to the constructor `Game`. -/
def onCommand (server origin channel message : CStr) (r : Random) : Tictactoe :=
  let channel := env.toLowerCase channel
  let target := env.trim message
  let nickname := splituser origin
  let kw := keywords env info server channel (some origin)
  if s.gameExists server channel then s.message server channel (.format .running kw)
  else
    match isValid info server channel nickname target with
    -- `isValid` throws before a game is created
    | none => s
    | some false => s.message server channel (.format .invalid kw)
    | some true =>
      let players := fun i : Fin 2 => if i = 0 then nickname else target
      let player := ⟨r.below 2, r.below_lt (by decide)⟩
      let grid := fun _ _ => Square.empty
      let game : Game := { server, origin, target, channel, players, player, grid, timer := none }
      let g := s.games.length
      let s := { s with games := s.games ++ [game] }
      let s := { s with map := s.map.insert (gameId server channel) g }
      s.show env info g

/-- `onMessage` -/
def onMessage (server origin channel message : CStr) : Tictactoe :=
  let channel := env.toLowerCase channel
  let nickname := splituser origin
  match s.find server channel with
  | none => s
  | some g =>
    match s.games[g]? with
    | none => s
    | some game =>
      if game.isTurn nickname then
        match square (env.trim message) with
        | none => s
        | some (column, row) =>
          match s.place env info g game column row origin with
          | none => s
          | some (placed, s) =>
            let s := if placed then s.show env info g else s
            if (s.games[g]?).any Game.isOver then s.remove server channel else s
      else s

/-- `onDisconnect` -/
def onDisconnect (server : CStr) : Tictactoe :=
  let drop (map : JsMap ℕ) (key : CStr) := if server.isSuffixOf key then map.erase key else map
  { s with map := s.map.keys.foldl drop s.map }

/-- `onKick` -/
def onKick (server channel target : CStr) : Tictactoe :=
  s.clear server target (env.toLowerCase channel)

/-- `onPart` -/
def onPart (server origin channel : CStr) : Tictactoe :=
  s.clear server origin (env.toLowerCase channel)

end Functions

/-! ## Events -/

/-- An event of the bot for the plugin, or a timer of the plugin. The garbage collector stops no
timer: the finalizer of one raises an error before `stimer_stop`. -/
inductive Event
  | command (server origin channel message : CStr) (r : Random)
  | message (server origin channel message : CStr)
  | disconnect (server : CStr)
  | kick (server channel target : CStr)
  | part (server origin channel : CStr)
  /-- The callback of a timer is called. -/
  | fire (t : ℕ)

/-- An event, with what `server.info()` returns for each server at that time. -/
structure Action where
  info : CStr → ServerInfo
  event : Event

/-- What happens at an event. A timer is called once, while it runs. -/
def step (env : JsEnv) (s : Tictactoe) (a : Action) : Option Tictactoe :=
  match a.event with
  | .command server origin channel message r =>
    some (s.onCommand env a.info server origin channel message r)
  | .message server origin channel message =>
    some (s.onMessage env a.info server origin channel message)
  | .disconnect server => some (s.onDisconnect server)
  | .kick server channel target => some (s.onKick env server channel target)
  | .part server origin channel => some (s.onPart env server origin channel)
  | .fire t =>
    match s.timers[t]? with
    | some timer => if timer.running then some ((s.stop t).timeout env a.info timer.game) else none
    | none => none

/-! ## The registry -/

section Registry

variable {env : JsEnv} {info : CStr → ServerInfo} {s : Tictactoe} {server channel key : CStr}
  {g : ℕ}

/-- The keys of the games that the plugin has created. -/
def ids (s : Tictactoe) : List CStr := s.games.map Game.id

/-- The registry has each of its games under the key of the game. -/
def WellKept (s : Tictactoe) : Prop := ∀ key g, s.map.lookup key = some g → s.ids[g]? = some key

/-- The game is the one that is registered for its server and its channel. -/
def Registered (s : Tictactoe) (g : ℕ) : Prop :=
  ∃ key, s.ids[g]? = some key ∧ s.map.lookup key = some g

@[simp] theorem ids_message (text : Tictactoe.Text) :
    (s.message server channel text).ids = s.ids := rfl

@[simp] theorem ids_stop (t : ℕ) : (s.stop t).ids = s.ids := rfl

@[simp] theorem ids_remove : (s.remove server channel).ids = s.ids := rfl

theorem ids_setGame {game game' : Game} (hgame : s.games[g]? = some game)
    (hid : game'.id = game.id) : (s.setGame g game').ids = s.ids := by
  have hlt := (List.getElem?_eq_some_iff.1 hgame).1
  rw [ids, setGame, List.map_set, hid]
  refine List.ext_getElem? fun i => ?_
  rw [List.getElem?_set]
  by_cases hi : g = i
  · subst hi
    rw [if_pos rfl, if_pos (by rwa [List.length_map]), ids, List.getElem?_map, hgame]
    rfl
  · rw [if_neg hi, ids]

theorem lookup_remove :
    (s.remove server channel).map.lookup key =
      if key = gameId server channel then none else s.map.lookup key := by
  rw [remove]
  split
  · rename_i hkey
    rw [hkey, AList.lookup_erase]
  · rename_i hkey
    rw [AList.lookup_erase_ne hkey]

/-- The loop of `onDisconnect`. -/
theorem lookup_onDisconnect :
    (s.onDisconnect server).map.lookup key =
      if server <:+ key then none else s.map.lookup key := by
  rw [onDisconnect]
  dsimp only
  -- the loop runs over the keys that there are when it begins
  have hloop (keys : List CStr) (map : JsMap ℕ) :
      (keys.foldl (fun map key => if server.isSuffixOf key then map.erase key else map) map).lookup
          key = if key ∈ keys ∧ server <:+ key then none else map.lookup key := by
    induction keys generalizing map with
    | nil => simp
    | cons k keys ih =>
      rw [List.foldl_cons, ih]
      by_cases hk : key = k
      · subst hk
        by_cases hsuffix : server <:+ key
        · simp [hsuffix]
        · simp [hsuffix]
      · by_cases hsuffix : server <:+ k
        · simp [hsuffix, hk, AList.lookup_erase_ne hk]
        · simp [hsuffix, hk]
  rw [hloop]
  by_cases hkey : key ∈ s.map.keys
  · simp [hkey]
  · have hnone : s.map.lookup key = none := AList.lookup_eq_none.2 hkey
    simp [hnone]

/-- A key ends with a name if the name of its server does, or if the name goes on with a separator
into the channel. -/
theorem suffix_gameId_iff {name : CStr} :
    name <:+ gameId server channel ↔
      name <:+ server ∨ ∃ part, part <:+ channel ∧ name = gameId server part := by
  have hsep : cstr "@" = [64] := by decide
  rw [gameId, hsep, List.append_assoc, List.singleton_append]
  constructor
  · rintro ⟨before, hbefore⟩
    rcases List.append_eq_append_iff.1 hbefore with ⟨part, hpart, hname⟩ | ⟨rest, hrest, hname⟩
    · exact .inr ⟨part, ⟨before, hpart.symm⟩, by rw [gameId, hsep, hname]; simp⟩
    · -- the name starts behind the channel
      cases rest with
      | nil => exact .inr ⟨[], List.nil_suffix, by rw [gameId, hsep]; exact hname.symm⟩
      | cons b rest => exact .inl ⟨rest, (List.cons.inj hname).2.symm⟩
  · rintro (⟨before, rfl⟩ | ⟨part, ⟨before, rfl⟩, rfl⟩)
    · exact ⟨channel ++ 64 :: before, by simp⟩
    · exact ⟨before, by simp [gameId, hsep]⟩

end Registry

/-! ## Disconnections -/

/-- A disconnection removes the games that were started on the server, and leaves every other game
as it is. -/
def EndsItsGames (s : Tictactoe) (server : CStr) : Prop :=
  (s.onDisconnect server).games = s.games ∧
    ∀ key g game, s.map.lookup key = some g → s.games[g]? = some game →
      (s.onDisconnect server).map.lookup key = if game.server = server then none else some g

/-- The name of another server, of a registered game, is not taken for that of the server: it does
not end with it, and neither does a part of the channel with a separator and the other name. -/
def NamesApart (s : Tictactoe) (server : CStr) : Prop :=
  ∀ key g game, s.map.lookup key = some g → s.games[g]? = some game → game.server ≠ server →
    ¬ server <:+ game.server ∧ ∀ part, part <:+ game.channel → server ≠ gameId game.server part

/-- A disconnection ends the games of its server only, if and only if no other server of a game has
a name that is taken for it. -/
theorem onDisconnect_iff {s : Tictactoe} (h : s.WellKept) (server : CStr) :
    s.EndsItsGames server ↔ s.NamesApart server := by
  rw [EndsItsGames, and_iff_right (by rfl), NamesApart]
  refine forall_congr' fun key => forall_congr' fun g => forall_congr' fun game =>
    forall_congr' fun hlookup => forall_congr' fun hgame => ?_
  -- the keys of the registry are those of their games, in which the name is searched
  have hsuffix : server <:+ key ↔ server <:+ game.server ∨
      ∃ part, part <:+ game.channel ∧ server = gameId game.server part := by
    have hkey := h key g hlookup
    rw [ids, List.getElem?_map, hgame] at hkey
    rw [← Option.some.inj hkey]
    exact suffix_gameId_iff
  rw [lookup_onDisconnect, hlookup]
  by_cases hserver : game.server = server
  · have hkey : server <:+ key := hsuffix.2 (.inl (hserver ▸ List.suffix_rfl))
    simp [hkey, hserver]
  · simp [hsuffix, hserver]

/-- A registry of one game. -/
def oneGame (server channel : CStr) : Tictactoe where
  games := [{
    server, channel
    origin := cstr "jean"
    target := cstr "paul"
    players := fun i => if i = 0 then cstr "jean" else cstr "paul"
    player := 0
    grid := fun _ _ => .empty
    timer := none }]
  map := (∅ : JsMap ℕ).insert (gameId server channel) 0
  timers := []
  sent := []

theorem eq_of_lookup_oneGame {server channel key : CStr} {g : ℕ}
    (h : (oneGame server channel).map.lookup key = some g) :
    key = gameId server channel ∧ g = 0 := by
  rw [oneGame] at h
  dsimp only at h
  by_cases hkey : key = gameId server channel
  · rw [hkey, AList.lookup_insert, Option.some.injEq] at h
    exact ⟨hkey, h.symm⟩
  · rw [AList.lookup_insert_ne hkey, AList.lookup_empty] at h
    cases h

theorem wellKept_oneGame (server channel : CStr) : (oneGame server channel).WellKept := by
  intro key g hlookup
  obtain ⟨rfl, rfl⟩ := eq_of_lookup_oneGame hlookup
  rfl

/-- A registry of a game on each of two servers. -/
def twoGames : Tictactoe where
  games := (oneGame (cstr "libera") (cstr "#games")).games ++
    (oneGame (cstr "oftc") (cstr "#games")).games
  map := (oneGame (cstr "libera") (cstr "#games")).map.insert
    (gameId (cstr "oftc") (cstr "#games")) 1
  timers := []
  sent := []

theorem eq_of_lookup_twoGames {key : CStr} {g : ℕ} (h : twoGames.map.lookup key = some g) :
    (key = gameId (cstr "oftc") (cstr "#games") ∧ g = 1) ∨
      (key = gameId (cstr "libera") (cstr "#games") ∧ g = 0) := by
  rw [twoGames] at h
  dsimp only at h
  by_cases hkey : key = gameId (cstr "oftc") (cstr "#games")
  · rw [hkey, AList.lookup_insert, Option.some.injEq] at h
    exact .inl ⟨hkey, h.symm⟩
  · rw [AList.lookup_insert_ne hkey] at h
    exact .inr (eq_of_lookup_oneGame h)

theorem wellKept_twoGames : twoGames.WellKept := by
  intro key g hlookup
  rcases eq_of_lookup_twoGames hlookup with ⟨rfl, rfl⟩ | ⟨rfl, rfl⟩ <;> rfl

/-- The game on the other server goes on. -/
theorem endsItsGames_oftc : twoGames.EndsItsGames (cstr "oftc") := by
  refine (onDisconnect_iff wellKept_twoGames _).2 ?_
  intro key g game hlookup hgame hserver
  rcases eq_of_lookup_twoGames hlookup with ⟨rfl, rfl⟩ | ⟨rfl, rfl⟩
  · obtain rfl := Option.some.inj hgame
    exact absurd rfl hserver
  · obtain rfl := Option.some.inj hgame
    have hparts : ∀ part ∈ (cstr "#games").tails, cstr "oftc" ≠ gameId (cstr "libera") part := by
      decide
    exact ⟨by decide, fun part hpart => hparts part ((List.mem_tails part _).2 hpart)⟩

/-- The game of the server `gamenet` is removed when the server `net` disconnects. -/
theorem not_forall_endsItsGames :
    ¬ ∀ (s : Tictactoe) (server : CStr), s.WellKept → s.EndsItsGames server := by
  intro h
  have hends := (h (oneGame (cstr "gamenet") (cstr "#games")) (cstr "net") (wellKept_oneGame _ _)).2
  have hgone := hends (gameId (cstr "gamenet") (cstr "#games")) 0 _ rfl rfl
  exact absurd hgone (by decide)

/-! ## Timers -/

section Timers

variable (env : JsEnv) (s : Tictactoe)

/-- The game that a message ends: it is over after the move. -/
def lastMove (server origin channel message : CStr) : Option ℕ := do
  let g ← s.find server (env.toLowerCase channel)
  let game ← s.games[g]?
  if game.isTurn (splituser origin) then
    let (column, row) ← square (env.trim message)
    let game := if game.grid row column = .empty then game.take row column else game
    if game.isOver then some g else none
  else none

/-- The game that is cleared when a user leaves: one of its players. -/
def leftGame (server user channel : CStr) : Option ℕ :=
  (s.find server channel).filter fun g =>
    (s.games[g]?).any fun game =>
      game.players 0 = splituser user ∨ game.players 1 = splituser user

/-- The games that end at an event: by the last move, when a player leaves, when the server
disconnects, and when a timer removes what is registered for its server and channel. -/
def endings (a : Action) : List ℕ :=
  match a.event with
  | .message server origin channel message =>
    (s.lastMove env server origin channel message).toList
  | .disconnect server => (s.map.entries.filter (server.isSuffixOf ·.1)).map (·.2)
  | .kick server channel target => (s.leftGame server target (env.toLowerCase channel)).toList
  | .part server origin channel => (s.leftGame server origin (env.toLowerCase channel)).toList
  | .fire t =>
    ((s.timers[t]?).bind fun timer => (s.games[timer.game]?).bind fun game =>
      s.find game.server game.channel).toList
  | .command _ _ _ _ _ => []

/-- A timer that fires sends a message, or removes a game, only when its own game is registered. -/
def ConcernsItsGame (s : Tictactoe) (a : Action) (s' : Tictactoe) : Prop :=
  ∀ t timer, a.event = .fire t → s.timers[t]? = some timer →
    s'.sent ≠ s.sent ∨ s'.map ≠ s.map → s.Registered timer.game

/-- No timer fires after the end of its game, when the games `ended` have ended before. -/
def NoLateTimer (env : JsEnv) : Tictactoe → List ℕ → List Action → Prop
  | _, _, [] => True
  | s, ended, a :: as =>
    (∀ t timer, a.event = .fire t → s.timers[t]? = some timer → timer.running = true →
      timer.game ∉ ended) ∧
    ∀ s', step env s a = some s' → NoLateTimer env s' (ended ++ s.endings env a) as

end Timers

/-- What holds throughout a run: each game that was created has a timer, and is registered until it
ends. -/
structure Inv (s : Tictactoe) (ended : List ℕ) : Prop where
  kept : s.WellKept
  armed : ∀ game ∈ s.games, game.timer.isSome = true
  timers : ∀ timer ∈ s.timers, timer.game < s.games.length
  created : ∀ g ∈ ended, g < s.games.length
  registered_iff : ∀ g < s.games.length, s.Registered g ↔ g ∉ ended

section Invariant

variable {env : JsEnv} {info : CStr → ServerInfo} {s s' : Tictactoe} {ended : List ℕ}
  {server channel : CStr} {g : ℕ} {game : Game}

theorem inv_start : Inv start [] where
  kept key g h := by
    rw [start, AList.lookup_empty] at h
    cases h
  armed game hgame := absurd hgame List.not_mem_nil
  timers timer htimer := absurd htimer List.not_mem_nil
  created g hg := absurd hg List.not_mem_nil
  registered_iff g hg := absurd hg (Nat.not_lt_zero g)

theorem length_games_of_ids (h : s'.ids = s.ids) : s'.games.length = s.games.length := by
  simpa [ids] using congrArg List.length h

/-- What changes neither the registry nor the keys of the games. -/
theorem Inv.congr (h : Inv s ended) (hmap : s'.map = s.map) (hids : s'.ids = s.ids)
    (harmed : ∀ game ∈ s'.games, game.timer.isSome = true)
    (htimers : ∀ timer ∈ s'.timers, timer.game < s.games.length) : Inv s' ended := by
  have hlen := length_games_of_ids hids
  refine ⟨?_, harmed, by rwa [hlen], by rw [hlen]; exact h.created, ?_⟩
  · rw [WellKept, hmap, hids]
    exact h.kept
  · rw [hlen]
    intro g hg
    rw [← h.registered_iff g hg, Registered, Registered, hmap, hids]

theorem Inv.message (h : Inv s ended) (text : Tictactoe.Text) :
    Inv (s.message server channel text) ended :=
  h.congr rfl rfl h.armed h.timers

theorem Inv.stop (h : Inv s ended) (t : ℕ) : Inv (s.stop t) ended := by
  refine h.congr rfl rfl h.armed fun timer htimer => ?_
  obtain ⟨i, hi, rfl⟩ := List.getElem_of_mem htimer
  have hlt : i < s.timers.length := by simpa [Tictactoe.stop] using hi
  have hsame : ((s.stop t).timers[i]).game = (s.timers[i]).game := by
    simp only [Tictactoe.stop, List.getElem_modify]
    split <;> rfl
  rw [hsame]
  exact h.timers _ (List.getElem_mem hlt)

theorem Inv.setGame (h : Inv s ended) {game' : Game} (hgame : s.games[g]? = some game)
    (hid : game'.id = game.id) (htimer : game'.timer.isSome = true) :
    Inv (s.setGame g game') ended := by
  refine h.congr rfl (ids_setGame hgame hid) (fun game'' hmem => ?_) h.timers
  rcases List.mem_or_eq_of_mem_set hmem with hmem | rfl
  · exact h.armed _ hmem
  · exact htimer

/-- `show` only gives the game a timer. -/
theorem show_eq (hgame : s.games[g]? = some game) :
    (s.show env info g).map = s.map ∧
      (s.show env info g).games = s.games.set g { game with timer := some s.timers.length } ∧
      (s.show env info g).timers = s.timers ++ [⟨g, true⟩] := by
  rw [Tictactoe.show, hgame]
  exact ⟨rfl, rfl, rfl⟩

theorem Inv.show (h : Inv s ended) (hgame : s.games[g]? = some game) :
    Inv (s.show env info g) ended := by
  obtain ⟨hmap, hgames, htimers⟩ := @show_eq env info s g game hgame
  have hset : Inv (s.setGame g { game with timer := some s.timers.length }) ended :=
    h.setGame hgame rfl rfl
  have hlen : (s.setGame g { game with timer := some s.timers.length }).games.length =
      s.games.length := List.length_set
  refine hset.congr hmap (by rw [ids, ids, hgames]; rfl) (by rw [hgames]; exact hset.armed) ?_
  rw [htimers, hlen]
  intro timer htimer
  rcases List.mem_append.1 htimer with hmem | hmem
  · exact h.timers _ hmem
  · obtain rfl := List.mem_singleton.1 hmem
    exact (List.getElem?_eq_some_iff.1 hgame).1

/-- A game of the registry has been created. -/
theorem Inv.lt_of_lookup (h : Inv s ended) {key : CStr} (hlookup : s.map.lookup key = some g) :
    g < s.games.length :=
  List.length_map (f := Game.id) ▸ (List.getElem?_eq_some_iff.1 (h.kept key g hlookup)).1

/-- When the keys that satisfy `P` leave the registry, the games that they had end. -/
theorem Inv.unregister (h : Inv s ended) {gone : List ℕ} {P : CStr → Prop} [DecidablePred P]
    (hgames : s'.games = s.games) (htimers : s'.timers = s.timers)
    (hmap : ∀ key, s'.map.lookup key = if P key then none else s.map.lookup key)
    (hgone : ∀ g, g ∈ gone ↔ ∃ key, P key ∧ s.map.lookup key = some g) :
    Inv s' (ended ++ gone) where
  kept key g hlookup := by
    rw [hmap] at hlookup
    split at hlookup
    · cases hlookup
    · rw [ids, hgames]
      exact h.kept key g hlookup
  armed := hgames ▸ h.armed
  timers := by
    rw [htimers, hgames]
    exact h.timers
  created g hg := by
    rw [hgames]
    rcases List.mem_append.1 hg with hg | hg
    · exact h.created g hg
    · obtain ⟨key, -, hlookup⟩ := (hgone g).1 hg
      exact h.lt_of_lookup hlookup
  registered_iff g hg := by
    rw [hgames] at hg
    rw [List.mem_append, not_or, ← h.registered_iff g hg, hgone, Registered, Registered, ids,
      hgames, ← ids]
    constructor
    · rintro ⟨key, hkey, hlookup⟩
      rw [hmap] at hlookup
      split at hlookup
      · cases hlookup
      · rename_i hstays
        -- a game has one key only
        refine ⟨⟨key, hkey, hlookup⟩, fun ⟨key', hleaves, hlookup'⟩ => hstays ?_⟩
        rwa [Option.some.inj (hkey.symm.trans (h.kept _ _ hlookup'))]
    · rintro ⟨⟨key, hkey, hlookup⟩, hnot⟩
      refine ⟨key, hkey, ?_⟩
      rw [hmap, if_neg fun hleaves => hnot ⟨key, hleaves, hlookup⟩]
      exact hlookup

/-- What is registered for a server and a channel ends when it is removed. -/
theorem Inv.remove (h : Inv s ended) :
    Inv (s.remove server channel) (ended ++ (s.find server channel).toList) := by
  refine h.unregister rfl rfl (fun _ => lookup_remove) fun g => ?_
  rw [Option.mem_toList, find, exists_eq_left]

/-- The games whose keys end with the name of the server end. -/
theorem Inv.disconnect (h : Inv s ended) :
    Inv (s.onDisconnect server)
      (ended ++ (s.map.entries.filter (server.isSuffixOf ·.1)).map (·.2)) := by
  refine h.unregister rfl rfl (fun _ => lookup_onDisconnect) fun g => ?_
  simp only [List.mem_map, List.mem_filter, List.isSuffixOf_iff_suffix]
  constructor
  · rintro ⟨⟨key, g⟩, ⟨hentry, hsuffix⟩, rfl⟩
    exact ⟨key, hsuffix, AList.mem_lookup_iff.2 hentry⟩
  · rintro ⟨key, hsuffix, hlookup⟩
    exact ⟨⟨key, g⟩, ⟨AList.mem_lookup_iff.1 hlookup, hsuffix⟩, rfl⟩

theorem Inv.clear (h : Inv s ended) (user : CStr) :
    Inv (s.clear server user channel) (ended ++ (s.leftGame server user channel).toList) := by
  have hremove := @Inv.remove s ended server channel h
  rw [Tictactoe.clear, leftGame]
  cases hfind : s.find server channel with
  | none => simpa using h
  | some g =>
    rw [hfind] at hremove
    rw [Option.bind_some]
    cases hgame : s.games[g]? with
    | none => simpa [Option.filter_some, hgame] using h
    | some game =>
      dsimp only
      split
      · rename_i hplayer
        simpa [Option.filter_some, hgame, hplayer] using hremove
      · rename_i hplayer
        simpa [Option.filter_some, hgame, hplayer] using h

/-- Behind the others, a game has its key at its place, and the others keep theirs. -/
theorem getElem?_ids_concat (hgame : s'.games = s.games ++ [game]) :
    s'.ids[g]? = if g = s.games.length then some game.id else s.ids[g]? := by
  rw [ids, hgame, List.map_append, List.map_singleton, ids]
  split
  · rename_i hg
    rw [hg, List.getElem?_append_right (by rw [List.length_map]), List.length_map, Nat.sub_self]
    rfl
  · rename_i hne
    rcases Nat.lt_or_gt_of_ne hne with hlt | hgt
    · exact List.getElem?_append_left (by rwa [List.length_map])
    · rw [List.getElem?_eq_none (by simp; omega), List.getElem?_eq_none (by simp; omega)]

/-- When a game is created where none is registered, with a timer, it is registered. -/
theorem Inv.concat (h : Inv s ended) (harmed : game.timer.isSome = true)
    (hgames : s'.games = s.games ++ [game])
    (htimers : s'.timers = s.timers ++ [⟨s.games.length, true⟩])
    (hmap : ∀ key, s'.map.lookup key =
      if key = game.id then some s.games.length else s.map.lookup key)
    (hnone : s.map.lookup game.id = none) : Inv s' ended := by
  have hlen : s'.games.length = s.games.length + 1 := by rw [hgames, List.length_append]; rfl
  have hids (g : ℕ) := getElem?_ids_concat (g := g) hgames
  refine ⟨fun key g hg => ?_, fun game' hmem => ?_, fun timer hmem => ?_, fun g hg => ?_,
    fun g hg => ?_⟩
  · rw [hmap] at hg
    split at hg
    · rename_i hkey
      obtain rfl := Option.some.inj hg
      rw [hids, if_pos rfl, hkey]
    · rw [hids, if_neg (h.lt_of_lookup hg).ne]
      exact h.kept key g hg
  · rw [hgames] at hmem
    rcases List.mem_append.1 hmem with hmem | hmem
    · exact h.armed _ hmem
    · obtain rfl := List.mem_singleton.1 hmem
      exact harmed
  · rw [htimers] at hmem
    rcases List.mem_append.1 hmem with hmem | hmem
    · exact (h.timers _ hmem).trans (by omega)
    · obtain rfl := List.mem_singleton.1 hmem
      exact Nat.lt_of_lt_of_eq (Nat.lt_succ_self _) hlen.symm
  · exact (h.created g hg).trans (by omega)
  · rcases Nat.lt_succ_iff_lt_or_eq.1 (hlen ▸ hg) with hg | rfl
    · rw [← h.registered_iff g hg, Registered, Registered, hids, if_neg hg.ne]
      refine exists_congr fun key => and_congr_right fun hkey => ?_
      rw [hmap]
      split
      · rename_i heq
        -- nothing was registered under the key of the new game
        rw [heq, hnone, Option.some.injEq]
        exact iff_of_false hg.ne' (Option.some_ne_none g).symm
      · rfl
    · have hregistered : s'.Registered s.games.length :=
        ⟨game.id, by rw [hids, if_pos rfl], by rw [hmap, if_pos rfl]⟩
      exact iff_of_true hregistered fun hmem => absurd (h.created _ hmem) (Nat.lt_irrefl _)

/-- A game is created where none is registered. -/
theorem Inv.create (h : Inv s ended) {game : Game} (hgame : game.id = gameId server channel)
    (hnone : s.find server channel = none) :
    Inv (({ s with
      games := s.games ++ [game]
      map := s.map.insert (gameId server channel) s.games.length } : Tictactoe).show env info
        s.games.length) ended := by
  rw [Tictactoe.find, ← hgame] at hnone
  rw [← hgame]
  set created : Tictactoe := { s with
    games := s.games ++ [game]
    map := s.map.insert game.id s.games.length } with hcreated
  have hlast : created.games[s.games.length]? = some game := by simp [hcreated]
  obtain ⟨hmap, hgames, htimers⟩ := @show_eq env info created _ _ hlast
  rw [hcreated] at hmap hgames htimers
  dsimp only at hmap hgames htimers
  rw [List.set_append_right _ _ le_rfl, Nat.sub_self, List.set_cons_zero] at hgames
  refine h.concat rfl hgames htimers (fun key => ?_) hnone
  rw [hmap]
  split
  · rename_i hkey
    rw [hkey]
    exact AList.lookup_insert _
  · rename_i hkey
    exact AList.lookup_insert_ne hkey

theorem Inv.onCommand (h : Inv s ended) (origin message : CStr) (r : Random) :
    Inv (s.onCommand env info server origin channel message r) ended := by
  rw [Tictactoe.onCommand]
  dsimp only
  split
  · exact h.message _
  · rename_i hexists
    split
    · exact h
    · exact h.message _
    · exact h.create rfl (by simpa [gameExists] using hexists)

/-- The game after a move that may be on a square that is used. -/
theorem Inv.place (h : Inv s ended) (hgame : s.games[g]? = some game) (column row : Fin 3)
    (origin : CStr) :
    ∃ placed s' t, s.place env info g game column row origin = some (placed, s') ∧ Inv s' ended ∧
      s'.map = s.map ∧ s'.games[g]? = some { (if game.grid row column = .empty then
        game.take row column else game) with timer := some t } := by
  obtain ⟨t, ht⟩ := Option.isSome_iff_exists.1 (h.armed game (List.mem_of_getElem? hgame))
  rw [Tictactoe.place]
  by_cases hfree : game.grid row column = .empty
  · have hset := (h.stop t).setGame hgame (game.id_take row column)
      (by rw [Game.timer_take, ht]; rfl)
    rw [if_neg (not_not_intro hfree), if_pos hfree, ht]
    refine ⟨true, _, t, rfl, hset, rfl, ?_⟩
    rw [← ht, ← game.timer_take row column]
    exact List.getElem?_set_self (List.getElem?_eq_some_iff.1 hgame).1
  · rw [if_pos hfree, if_neg hfree]
    exact ⟨false, _, t, rfl, h.message _, rfl, by rw [← ht]; exact hgame⟩

/-- What is shown after a move keeps the game as it is. -/
theorem Inv.showIf (h : Inv s ended) (hgame : s.games[g]? = some game) (placed : Bool) :
    ∃ s', (if placed = true then s.show env info g else s) = s' ∧ Inv s' ended ∧
      s'.map = s.map ∧ (s'.games[g]?).any Game.isOver = game.isOver := by
  cases placed with
  | false => exact ⟨s, rfl, h, rfl, by rw [hgame]; rfl⟩
  | true =>
    obtain ⟨hmap, hgames, -⟩ := @show_eq env info s g _ hgame
    refine ⟨s.show env info g, if_pos rfl, h.show hgame, hmap, ?_⟩
    rw [hgames, List.getElem?_set_self (List.getElem?_eq_some_iff.1 hgame).1]
    rfl

/-- The game that a message ends, when it is the one that is registered. -/
theorem lastMove_of_find {origin message : CStr} (hfind : s.find server (env.toLowerCase channel) =
    some g) (hgame : s.games[g]? = some game) :
    s.lastMove env server origin channel message =
      if game.isTurn (splituser origin) then (do
        let (column, row) ← square (env.trim message)
        let game := if game.grid row column = .empty then game.take row column else game
        if game.isOver then some g else none)
      else none := by
  simp [lastMove, hfind, hgame]

theorem Inv.onMessage (h : Inv s ended) (origin message : CStr) :
    Inv (s.onMessage env info server origin channel message)
      (ended ++ (s.lastMove env server origin channel message).toList) := by
  have hnothing : Inv s (ended ++ (none : Option ℕ).toList) := by simpa using h
  rw [Tictactoe.onMessage]
  dsimp only
  cases hfind : s.find server (env.toLowerCase channel) with
  | none => simpa [lastMove, hfind] using h
  | some g =>
    dsimp only
    cases hgame : s.games[g]? with
    | none => simpa [lastMove, hfind, hgame] using h
    | some game =>
      rw [lastMove_of_find hfind hgame]
      dsimp only
      by_cases hturn : game.isTurn (splituser origin) = true
      · rw [if_pos hturn, if_pos hturn]
        cases square (env.trim message) with
        | none => exact hnothing
        | some p =>
          obtain ⟨column, row⟩ := p
          dsimp only [Option.bind_eq_bind, Option.bind_some]
          -- the square is free, or the player is told that it is used
          obtain ⟨placed, s₁, t, hplace, hplaced, hmap, hmoved⟩ :=
            @Inv.place env info s ended g game h hgame column row origin
          rw [hplace]
          dsimp only
          generalize hafter : (if game.grid row column = .empty then game.take row column
            else game) = after at hmoved ⊢
          obtain ⟨s₂, hs₂, hshown, hmap₂, hover⟩ := @Inv.showIf env info s₁ ended g _ hplaced hmoved
            placed
          have hover : (s₂.games[g]?).any Game.isOver = after.isOver := hover
          rw [hs₂, hover]
          by_cases hend : after.isOver = true
          · -- the game that is over is the one that is removed
            have hremove := @Inv.remove s₂ ended server (env.toLowerCase channel) hshown
            rw [if_pos hend, if_pos hend]
            rwa [Tictactoe.find, hmap₂, hmap, ← Tictactoe.find, hfind] at hremove
          · rw [if_neg hend, if_neg hend]
            simpa using hshown
      · rw [if_neg hturn, if_neg hturn]
        exact hnothing

theorem Inv.timeout (h : Inv s ended) :
    Inv (s.timeout env info g)
      (ended ++ ((s.games[g]?).bind fun game => s.find game.server game.channel).toList) := by
  rw [Tictactoe.timeout]
  cases s.games[g]? with
  | none => simpa using h
  | some game => exact (h.message _).remove

/-- Every event keeps the invariant, with the games that it ends. -/
theorem Inv.step (h : Inv s ended) {a : Action} (hstep : step env s a = some s') :
    Inv s' (ended ++ s.endings env a) := by
  obtain ⟨info, event⟩ := a
  cases event with
  | command server origin channel message r =>
    cases hstep
    simpa [endings] using h.onCommand origin message r
  | message server origin channel message =>
    cases hstep
    exact h.onMessage origin message
  | disconnect server =>
    cases hstep
    exact h.disconnect
  | kick server channel target =>
    cases hstep
    exact h.clear target
  | part server origin channel =>
    cases hstep
    exact h.clear origin
  | fire t =>
    rw [Tictactoe.step] at hstep
    rw [endings]
    dsimp only at hstep ⊢
    -- a timer that does not run does nothing
    cases htimer : s.timers[t]? with
    | none =>
      rw [htimer] at hstep
      cases hstep
    | some timer =>
      rw [htimer] at hstep
      dsimp only at hstep
      split at hstep
      · cases hstep
        exact (h.stop t).timeout
      · cases hstep

/-- A timer that fires sends a message. -/
theorem concernsItsGame_iff (h : Inv s ended) {a : Action} (hstep : step env s a = some s') :
    s.ConcernsItsGame a s' ↔ ∀ t timer, a.event = .fire t → s.timers[t]? = some timer →
      timer.running = true → timer.game ∉ ended := by
  refine forall_congr' fun t => forall_congr' fun timer => forall_congr' fun hfire =>
    forall_congr' fun htimer => ?_
  have hlt := h.timers timer (List.mem_of_getElem? htimer)
  rw [← h.registered_iff _ hlt]
  rw [Tictactoe.step, hfire] at hstep
  dsimp only at hstep
  rw [htimer] at hstep
  dsimp only at hstep
  split at hstep
  · rename_i hrunning
    obtain rfl := Option.some.inj hstep
    -- its message is sent whether the game is registered or not
    have hsent : ((s.stop t).timeout env a.info timer.game).sent ≠ s.sent := by
      have hgame : (s.stop t).games[timer.game]? = some s.games[timer.game] :=
        List.getElem?_eq_getElem hlt
      rw [timeout, hgame]
      simp [remove, message, stop]
    simp [hrunning, hsent]
  · cases hstep

end Invariant

/-- In a run, each timer that fires finds its own game registered, or does nothing, if and only if
none fires after the end of its game. -/
theorem timers_iff (env : JsEnv) (as : List Action) :
    Runs.AllSteps (step env) ConcernsItsGame start as ↔ NoLateTimer env start [] as := by
  -- by induction on the run, from any state in which the games `ended` have ended
  have hrun {s : Tictactoe} {ended : List ℕ} (h : Inv s ended) :
      Runs.AllSteps (step env) ConcernsItsGame s as ↔ NoLateTimer env s ended as := by
    induction as generalizing s ended with
    | nil => exact Iff.rfl
    | cons a as ih =>
      rw [Runs.AllSteps, NoLateTimer]
      constructor
      · intro hall
        refine ⟨fun t timer hfire htimer hrunning => ?_, fun s' hstep =>
          (ih (h.step hstep)).1 (hall s' hstep).2⟩
        -- a timer that runs can fire
        have hstep : step env s a = some ((s.stop t).timeout env a.info timer.game) := by
          rw [step, hfire]
          dsimp only
          rw [htimer]
          exact if_pos hrunning
        exact (concernsItsGame_iff h hstep).1 (hall _ hstep).1 t timer hfire htimer hrunning
      · rintro ⟨hlate, hrest⟩ s' hstep
        exact ⟨(concernsItsGame_iff h hstep).2 hlate, (ih (h.step hstep)).2 (hrest s' hstep)⟩
  exact hrun inv_start

/-- Two users of a channel. -/
def twoPlayers (_ : CStr) : ServerInfo where
  pfx := cstr "!"
  nickname := cstr "irccd"
  channels := [(cstr "#games", [cstr "jean", cstr "paul"])]

/-- A game, a player who leaves, and the timer. -/
def lateRun : List Action :=
  [⟨twoPlayers, .command (cstr "libera") (cstr "jean") (cstr "#games") (cstr "paul")
      ⟨0, 1, Nat.zero_lt_one⟩⟩,
    ⟨twoPlayers, .part (cstr "libera") (cstr "jean") (cstr "#games")⟩,
    ⟨twoPlayers, .fire 0⟩]

/-- The timer goes on when a player leaves, and fires when no game is registered. -/
theorem not_forall_timers :
    ¬ ∀ (env : JsEnv) (as : List Action), Runs.AllSteps (step env) ConcernsItsGame start as := by
  intro h
  have hrun := (h (asciiEnv (cstr "tictactoe")) lateRun _ rfl).2 _ rfl
  obtain ⟨key, hkey, hlookup⟩ := (hrun.2 _ rfl).1 0 ⟨0, true⟩ rfl (by decide) (.inl (by decide))
  obtain rfl := Option.some.inj hkey
  exact absurd hlookup (by decide)

end Tictactoe

end Irccd
