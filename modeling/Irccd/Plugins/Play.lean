import Mathlib.Data.Fintype.Card
import Mathlib.Data.Fintype.Prod
import Irccd.Plugins.Tictactoe

/-!
# Games of tictactoe (`tictactoe.js`)

What happens to the grids of the games, whatever the users of the channels write.

* `Game.Moved`: a move of the player whose turn it is, on a square that is free;
* `Game.Legal`: a grid that such moves have made;
* `Game.Legal.balanced`, `Game.Legal.winner`: what is true of every such grid;
* `fair_play`: in every run, only such moves change a grid, and a registered game is not over.
-/

namespace Irccd

namespace Tictactoe

namespace Game

/-- The same grid, with the same player to move. -/
def SameBoard (g g' : Game) : Prop :=
  g'.grid = g.grid ∧ g'.player = g.player ∧ g'.players = g.players

/-- The current player takes a square that is free, in a game that is not over. -/
def Moved (g g' : Game) : Prop :=
  ∃ row column, g.isOver = false ∧ g.grid row column = .empty ∧ (g.take row column).SameBoard g'

/-- A game that moves have made of an empty grid. -/
inductive Legal : Game → Prop
  | start {g : Game} (hempty : ∀ row column, g.grid row column = .empty) : Legal g
  | move {g g' : Game} (h : Legal g) (hmove : g.Moved g') : Legal g'

/-- How many squares have a mark. -/
def count (g : Game) (m : Square) : ℕ :=
  (Finset.univ.filter fun p : Fin 3 × Fin 3 => g.grid p.1 p.2 = m).card

/-- The marks of a player. -/
def markOf (player : Fin 2) : Square := if player.val = 0 then .x else .o

/-- The line has the same mark three times. -/
def Complete (g : Game) (m : Square) (line : (Fin 3 × Fin 3) × (Fin 3 × Fin 3) × (Fin 3 × Fin 3)) :
    Prop :=
  g.grid line.1.1 line.1.2 = m ∧ g.grid line.2.1.1 line.2.1.2 = m ∧ g.grid line.2.2.1 line.2.2.2 = m

variable {g g' : Game} {row column : Fin 3} {m : Square}

theorem mark_eq (g : Game) : g.mark = markOf g.player := if_congr Fin.ext_iff rfl rfl

theorem grid_take (row column : Fin 3) : (g.take row column).grid = g.marked row column := by
  rw [take]
  dsimp only
  split <;> rfl

/-- The grid after a move. -/
theorem marked_apply (r c : Fin 3) :
    g.marked row column r c = if r = row ∧ c = column then g.mark else g.grid r c := by
  rw [marked]
  by_cases hr : r = row
  · subst hr
    rw [Function.update_self]
    by_cases hc : c = column
    · rw [hc, Function.update_self, if_pos ⟨rfl, rfl⟩]
    · rw [Function.update_of_ne hc, if_neg fun h => hc h.2]
  · rw [Function.update_of_ne hr, if_neg fun h => hr h.1]

theorem isOver_congr (h : g'.grid = g.grid) : g'.isOver = g.isOver := by
  rw [isOver, isOver, hasWinner, hasWinner, hasDraw, hasDraw, h]

/-- Somebody has won if and only if a line is complete. -/
theorem hasWinner_iff :
    g.hasWinner = true ↔ ∃ line ∈ lines, ∃ m, m ≠ .empty ∧ g.Complete m line := by
  rw [hasWinner, List.any_eq_true]
  refine exists_congr fun line => and_congr_right fun _ => ?_
  obtain ⟨p1, p2, p3⟩ := line
  simp only [Bool.and_eq_true, beq_iff_eq, bne_iff_ne, Complete]
  constructor
  · rintro ⟨⟨h12, h23⟩, hne⟩
    exact ⟨_, hne, h12.trans h23, h23, rfl⟩
  · rintro ⟨m, hm, h1, h2, h3⟩
    exact ⟨⟨h1.trans h2.symm, h2.trans h3.symm⟩, h3 ▸ hm⟩

/-- One square more has the mark of the player. -/
theorem count_take (hfree : g.grid row column = .empty) (hm : m ≠ .empty) :
    (g.take row column).count m = g.count m + if m = g.mark then 1 else 0 := by
  have hgrid (p : Fin 3 × Fin 3) : (g.take row column).grid p.1 p.2 = m ↔
      (p = (row, column) ∧ m = g.mark) ∨ g.grid p.1 p.2 = m := by
    rw [grid_take, marked_apply]
    by_cases hp : p.1 = row ∧ p.2 = column
    · have hne : ¬ g.grid p.1 p.2 = m := by
        rw [hp.1, hp.2, hfree]
        exact hm.symm
      rw [if_pos hp]
      constructor
      · intro hmark
        exact .inl ⟨Prod.ext hp.1 hp.2, hmark.symm⟩
      · rintro (⟨-, hmark⟩ | hbefore)
        · exact hmark.symm
        · exact absurd hbefore hne
    · rw [if_neg hp]
      simp [Prod.ext_iff, hp]
  unfold count
  simp only [hgrid]
  split
  · rename_i hmark
    have hnew : (row, column) ∉ Finset.univ.filter fun p : Fin 3 × Fin 3 => g.grid p.1 p.2 = m := by
      simpa [hfree] using hm.symm
    rw [← Finset.card_insert_of_notMem hnew]
    congr 1
    ext p
    simp [hmark]
  · rename_i hother
    simp [hother]

/-- Nobody has moved. -/
theorem not_isOver_of_empty (h : ∀ row column, g.grid row column = .empty) : g.isOver = false := by
  have hwinner : g.hasWinner = false := by
    rw [Bool.eq_false_iff, Ne, hasWinner_iff]
    rintro ⟨line, -, m, hm, hcomplete, -⟩
    exact hm (hcomplete.symm.trans (h _ _))
  rw [isOver, hwinner, hasDraw]
  simp [h]

theorem count_eq_zero_of_empty (h : ∀ row column, g.grid row column = .empty) (hm : m ≠ .empty) :
    g.count m = 0 := by
  rw [count, Finset.card_eq_zero, Finset.filter_eq_empty_iff]
  intro p _ hp
  exact hm (hp.symm.trans (h _ _))

theorem markOf_ne_empty (player : Fin 2) : markOf player ≠ .empty := by
  rw [markOf]
  split <;> nofun

theorem markOf_otherPlayer_ne (g : Game) : markOf g.otherPlayer ≠ markOf g.player := by
  rw [markOf, markOf, otherPlayer]
  by_cases h : g.player = 0 <;> simp [h]

/-- Who moves after a move, and who moves after him. -/
theorem player_of_moved (h : g.Moved g') :
    if g'.isOver then g'.player = g.player ∧ g'.otherPlayer = g.otherPlayer
    else g'.player = g.otherPlayer ∧ g'.otherPlayer = g.player := by
  obtain ⟨row, column, -, -, hgrid, hplayer, -⟩ := h
  have hover : g'.isOver = ({ g with grid := g.marked row column } : Game).isOver :=
    isOver_congr (hgrid.trans (grid_take row column))
  rw [take] at hplayer
  dsimp only at hplayer
  rw [← hover] at hplayer
  by_cases hend : g'.isOver = true
  · rw [if_pos hend] at hplayer ⊢
    exact ⟨hplayer, by rw [otherPlayer, otherPlayer, hplayer]⟩
  · rw [if_neg hend] at hplayer ⊢
    have hplayer : g'.player = g.otherPlayer := hplayer
    refine ⟨hplayer, ?_⟩
    rw [otherPlayer, hplayer, otherPlayer]
    have htwo : g.player = 0 ∨ g.player = 1 := by omega
    rcases htwo with h | h <;> simp [h]

theorem count_of_moved (h : g.Moved g') (hm : m ≠ .empty) :
    g'.count m = g.count m + if m = g.mark then 1 else 0 := by
  obtain ⟨row, column, -, hfree, hgrid, -⟩ := h
  rw [← count_take hfree hm, count, count, hgrid]

/-- The marks of the two players differ by one at most, and who moves next is not ahead. -/
structure Balanced (g : Game) : Prop where
  goesOn : g.isOver = false → g.count (markOf g.player) ≤ g.count (markOf g.otherPlayer) ∧
    g.count (markOf g.otherPlayer) ≤ g.count (markOf g.player) + 1
  ended : g.isOver = true → g.count (markOf g.otherPlayer) ≤ g.count (markOf g.player) ∧
    g.count (markOf g.player) ≤ g.count (markOf g.otherPlayer) + 1

theorem Legal.balanced (h : g.Legal) : g.Balanced := by
  induction h with
  | start hempty =>
    have hzero (m : Square) (hm : m ≠ .empty) := count_eq_zero_of_empty hempty hm
    constructor <;> intro _ <;>
      rw [hzero _ (markOf_ne_empty _), hzero _ (markOf_ne_empty _)] <;> exact ⟨by omega, by omega⟩
  | @move g g' _ hmove ih =>
    have hgo : g.isOver = false := by
      obtain ⟨row, column, hgo, -⟩ := hmove
      exact hgo
    obtain ⟨hnot, hahead⟩ := ih.goesOn hgo
    have hself := count_of_moved hmove (markOf_ne_empty g.player)
    have hother := count_of_moved hmove (markOf_ne_empty g.otherPlayer)
    rw [mark_eq, if_pos rfl] at hself
    rw [mark_eq, if_neg (markOf_otherPlayer_ne g), Nat.add_zero] at hother
    have hplayer := player_of_moved hmove
    constructor
    · intro hend
      rw [hend, if_neg Bool.false_ne_true] at hplayer
      rw [hplayer.1, hplayer.2, hself, hother]
      omega
    · intro hend
      rw [hend, if_pos rfl] at hplayer
      rw [hplayer.1, hplayer.2, hself, hother]
      omega

/-- Every line that is complete has the mark of the player who has moved last, and he is the one
that the last message of the game names. -/
theorem Legal.winner (h : g.Legal) {line : (Fin 3 × Fin 3) × (Fin 3 × Fin 3) × (Fin 3 × Fin 3)}
    (hline : line ∈ lines) (hm : m ≠ .empty) (hcomplete : g.Complete m line) : m = g.mark := by
  have hwinner : g.hasWinner = true := hasWinner_iff.2 ⟨line, hline, m, hm, hcomplete⟩
  have hover : g.isOver = true := by rw [isOver, hwinner, Bool.true_or]
  cases h with
  | start hempty =>
    rw [not_isOver_of_empty hempty] at hover
    cases hover
  | @move g₀ _ _ hmove =>
    have hplayer := player_of_moved hmove
    rw [hover, if_pos rfl] at hplayer
    obtain ⟨row, column, hgo, -, hgrid, -⟩ := hmove
    rw [mark_eq, hplayer.1, ← mark_eq]
    -- otherwise the line was complete before
    by_contra hne
    have hbefore (p : Fin 3 × Fin 3) (hp : g.grid p.1 p.2 = m) : g₀.grid p.1 p.2 = m := by
      rw [hgrid, grid_take, marked_apply] at hp
      split at hp
      · exact absurd hp.symm hne
      · exact hp
    have hwon : g₀.hasWinner = true := hasWinner_iff.2 ⟨line, hline, m, hm, hbefore _ hcomplete.1,
      hbefore _ hcomplete.2.1, hbefore _ hcomplete.2.2⟩
    rw [isOver, hwon, Bool.true_or] at hgo
    cases hgo

end Game

/-! ## Runs -/

section Runs

variable {env : JsEnv} {info : CStr → ServerInfo} {s s' : Tictactoe} {ended : List ℕ}
  {server channel : CStr} {g : ℕ} {game : Game}

/-- No game changes, and none is registered. -/
def Shrinks (s s' : Tictactoe) : Prop :=
  s'.games = s.games ∧ ∀ key g, s'.map.lookup key = some g → s.map.lookup key = some g

theorem Shrinks.refl (s : Tictactoe) : s.Shrinks s := ⟨rfl, fun _ _ hlookup => hlookup⟩

theorem shrinks_remove (hgames : s'.games = s.games) (hmap : s'.map = s.map) :
    s.Shrinks (s'.remove server channel) := by
  refine ⟨hgames, fun key g hlookup => ?_⟩
  rw [lookup_remove] at hlookup
  split at hlookup
  · cases hlookup
  · rwa [hmap] at hlookup

theorem shrinks_clear (user : CStr) : s.Shrinks (s.clear server user channel) := by
  rw [Tictactoe.clear]
  split
  · split
    · exact shrinks_remove rfl rfl
    · exact .refl s
  · exact .refl s

theorem shrinks_onDisconnect : s.Shrinks (s.onDisconnect server) := by
  refine ⟨rfl, fun key g hlookup => ?_⟩
  rw [lookup_onDisconnect] at hlookup
  split at hlookup
  · cases hlookup
  · exact hlookup

theorem shrinks_timeout (t : ℕ) : s.Shrinks ((s.stop t).timeout env info g) := by
  rw [timeout]
  split
  · exact shrinks_remove rfl rfl
  · exact .refl s

/-- What a command does: nothing to the games, or a new one where none is registered. -/
theorem onCommand_cases (origin message : CStr) (r : Random) :
    let s' := s.onCommand env info server origin channel message r
    s.Shrinks s' ∨ ∃ game : Game, (∀ row column, game.grid row column = .empty) ∧
      s'.games = s.games ++ [game] ∧ ∃ key, s'.map = s.map.insert key s.games.length := by
  intro s'
  have hs' : s' = s.onCommand env info server origin channel message r := rfl
  rw [onCommand] at hs'
  dsimp only at hs'
  split at hs'
  · rw [hs']
    exact .inl (.refl s)
  · split at hs'
    · rw [hs']
      exact .inl (.refl s)
    · rw [hs']
      exact .inl (.refl s)
    · right
      generalize hgame : ({
        server
        origin
        target := env.trim message
        channel := env.toLowerCase channel
        players := fun i : Fin 2 => if i = 0 then splituser origin else env.trim message
        player := ⟨r.below 2, r.below_lt (by decide)⟩
        grid := fun _ _ => Square.empty
        timer := none } : Game) = game at hs'
      have hempty : ∀ row column, game.grid row column = .empty := by
        intro row column
        rw [← hgame]
      generalize hcreated : ({ s with
        games := s.games ++ [game]
        map := s.map.insert (gameId server (env.toLowerCase channel)) s.games.length } :
          Tictactoe) = created at hs'
      have hgames : created.games = s.games ++ [game] := by rw [← hcreated]
      have hlast : created.games[s.games.length]? = some game := by rw [hgames]; simp
      obtain ⟨hmap, hshown, -⟩ := @show_eq env info created _ _ hlast
      rw [hgames, List.set_append_right _ _ le_rfl, Nat.sub_self, List.set_cons_zero] at hshown
      rw [hs']
      exact ⟨{ game with timer := some created.timers.length }, hempty, hshown, _,
        by rw [hmap, ← hcreated]⟩

/-- What a message does: nothing to the games, or a move in the one that is registered. -/
theorem onMessage_cases (h : Inv s ended) (origin message : CStr) :
    let s' := s.onMessage env info server origin channel message
    s.Shrinks s' ∨
    ∃ g game row column t, s.find server (env.toLowerCase channel) = some g ∧
      s.games[g]? = some game ∧ game.players game.player = splituser origin ∧
      game.grid row column = .empty ∧
      s'.games = s.games.set g { game.take row column with timer := t } ∧
      s'.map = if (game.take row column).isOver then
        s.map.erase (gameId server (env.toLowerCase channel)) else s.map := by
  intro s'
  have hnothing (hs' : s' = s) : s.Shrinks s' := by
    rw [hs']
    exact .refl s
  have hs' : s' = s.onMessage env info server origin channel message := rfl
  rw [onMessage] at hs'
  dsimp only at hs'
  cases hfind : s.find server (env.toLowerCase channel) with
  | none =>
    rw [hfind] at hs'
    exact .inl (hnothing hs')
  | some g =>
    rw [hfind] at hs'
    dsimp only at hs'
    cases hgame : s.games[g]? with
    | none =>
      rw [hgame] at hs'
      exact .inl (hnothing hs')
    | some game =>
      rw [hgame] at hs'
      dsimp only at hs'
      by_cases hturn : game.isTurn (splituser origin) = true
      · rw [if_pos hturn] at hs'
        cases hsquare : square (env.trim message) with
        | none =>
          rw [hsquare] at hs'
          exact .inl (hnothing hs')
        | some p =>
          obtain ⟨column, row⟩ := p
          rw [hsquare] at hs'
          dsimp only at hs'
          obtain ⟨t, ht⟩ := Option.isSome_iff_exists.1 (h.armed game (List.mem_of_getElem? hgame))
          by_cases hfree : game.grid row column = .empty
          · right
            have hplace : s.place env info g game column row origin =
                some (true, (s.stop t).setGame g (game.take row column)) := by
              rw [place, if_neg (not_not_intro hfree), ht]
              rfl
            rw [hplace] at hs'
            dsimp only at hs'
            have hlt : g < s.games.length := (List.getElem?_eq_some_iff.1 hgame).1
            have htaken : ((s.stop t).setGame g (game.take row column)).games[g]? =
                some (game.take row column) := List.getElem?_set_self hlt
            obtain ⟨hmap, hgames, -⟩ := @show_eq env info _ _ _ htaken
            have hset : ((s.stop t).setGame g (game.take row column)).games =
                s.games.set g (game.take row column) := rfl
            have hshown := hgames
            rw [hset, List.set_set] at hshown
            have hnow : (((s.stop t).setGame g (game.take row column)).show env info g).games[g]? =
                some { game.take row column with
                  timer := some ((s.stop t).setGame g (game.take row column)).timers.length } := by
              rw [hshown, List.getElem?_set_self hlt]
            rw [if_pos rfl, hnow, Option.any_some] at hs'
            have hover (t : Option ℕ) : ({ game.take row column with timer := t } : Game).isOver =
                (game.take row column).isOver := Game.isOver_congr rfl
            rw [hover] at hs'
            refine ⟨g, game, row, column,
              some ((s.stop t).setGame g (game.take row column)).timers.length, rfl, hgame,
              beq_iff_eq.1 hturn, hfree, ?_, ?_⟩
            · rw [hs']
              split
              · exact hshown
              · exact hshown
            · rw [hs']
              split
              · rw [remove, hmap]
                rfl
              · rw [hmap]
                rfl
          · -- the player is told that the square is used
            left
            have hplace : s.place env info g game column row origin =
                some (false, s.message game.server game.channel
                  (.format .used (keywords env info game.server game.channel (some origin)))) := by
              rw [place, if_pos hfree]
            rw [hplace] at hs'
            dsimp only at hs'
            rw [if_neg Bool.false_ne_true] at hs'
            rw [hs']
            split
            · exact shrinks_remove rfl rfl
            · exact .refl s
      · rw [if_neg hturn] at hs'
        exact .inl (hnothing hs')

/-- The games that have been created are legal, and those that are registered are not over. -/
structure Fair (s : Tictactoe) : Prop where
  legal : ∀ game ∈ s.games, game.Legal
  goesOn : ∀ key g game, s.map.lookup key = some g → s.games[g]? = some game → game.isOver = false

/-- A game keeps its grid, or it is the one registered for a message of the player whose turn it
is, who takes a free square. -/
def Plays (env : JsEnv) (s : Tictactoe) (a : Action) (s' : Tictactoe) : Prop :=
  ∀ g game, s.games[g]? = some game → ∃ game', s'.games[g]? = some game' ∧
    (game.SameBoard game' ∨ game.Moved game' ∧ ∃ server origin channel message,
      a.event = .message server origin channel message ∧
        s.find server (env.toLowerCase channel) = some g ∧
          game.players game.player = splituser origin)

theorem Shrinks.fair (h : s.Shrinks s') (hfair : s.Fair) : s'.Fair := by
  obtain ⟨hgames, hmap⟩ := h
  refine ⟨by rw [hgames]; exact hfair.legal, fun key g game hlookup hgame => ?_⟩
  exact hfair.goesOn key g game (hmap key g hlookup) (hgames ▸ hgame)

theorem Shrinks.plays (h : s.Shrinks s') (a : Action) : s.Plays env a s' := by
  intro g game hgame
  exact ⟨game, h.1 ▸ hgame, .inl ⟨rfl, rfl, rfl⟩⟩

/-- A new game is legal, and nobody has moved in it. -/
theorem Fair.concat (hfair : s.Fair) (hinv : Inv s ended)
    (hempty : ∀ row column, game.grid row column = .empty) (hgames : s'.games = s.games ++ [game])
    {key : CStr} (hmap : s'.map = s.map.insert key s.games.length) : s'.Fair := by
  constructor
  · rw [hgames]
    intro game' hmem
    rcases List.mem_append.1 hmem with hmem | hmem
    · exact hfair.legal _ hmem
    · obtain rfl := List.mem_singleton.1 hmem
      exact .start hempty
  · intro k g game' hlookup hgame
    rw [hmap] at hlookup
    rw [hgames] at hgame
    by_cases hk : k = key
    · rw [hk, AList.lookup_insert] at hlookup
      obtain rfl := Option.some.inj hlookup
      rw [List.getElem?_append_right le_rfl, Nat.sub_self] at hgame
      obtain rfl := Option.some.inj hgame
      exact Game.not_isOver_of_empty hempty
    · rw [AList.lookup_insert_ne hk] at hlookup
      rw [List.getElem?_append_left (hinv.lt_of_lookup hlookup)] at hgame
      exact hfair.goesOn k g game' hlookup hgame

/-- A move keeps the games legal, and the game that it ends is not registered any more. -/
theorem Fair.move (hfair : s.Fair) (hinv : Inv s ended) {game' : Game}
    (hfind : s.find server channel = some g) (hgame : s.games[g]? = some game)
    (hmoved : game.Moved game') (hgames : s'.games = s.games.set g game')
    (hmap : s'.map = if game'.isOver then s.map.erase (gameId server channel) else s.map) :
    s'.Fair := by
  have hlt := (List.getElem?_eq_some_iff.1 hgame).1
  constructor
  · rw [hgames]
    intro other hmem
    rcases List.mem_or_eq_of_mem_set hmem with hmem | rfl
    · exact hfair.legal _ hmem
    · exact .move (hfair.legal game (List.mem_of_getElem? hgame)) hmoved
  · intro key g' other hlookup hother
    have hbefore : s.map.lookup key = some g' ∧
        (game'.isOver = true → key ≠ gameId server channel) := by
      rw [hmap] at hlookup
      split at hlookup
      · by_cases hkey : key = gameId server channel
        · rw [hkey, AList.lookup_erase] at hlookup
          cases hlookup
        · rw [AList.lookup_erase_ne hkey] at hlookup
          exact ⟨hlookup, fun _ => hkey⟩
      · rename_i hgoes
        exact ⟨hlookup, fun hover => absurd hover hgoes⟩
    rw [hgames] at hother
    by_cases hg : g = g'
    · subst hg
      rw [List.getElem?_set_self hlt] at hother
      obtain rfl := Option.some.inj hother
      by_contra hover
      -- a game is registered under its own key only
      have hkey := hinv.kept _ _ hbefore.1
      rw [hinv.kept _ _ hfind] at hkey
      exact hbefore.2 (Bool.eq_true_of_not_eq_false hover) (Option.some.inj hkey).symm
    · rw [List.getElem?_set_ne hg] at hother
      exact hfair.goesOn key g' other hbefore.1 hother

/-- Every event keeps the games fair. -/
theorem Fair.step (hfair : s.Fair) (hinv : Inv s ended) {a : Action}
    (hstep : step env s a = some s') : s'.Fair ∧ s.Plays env a s' := by
  obtain ⟨info, event⟩ := a
  have hshrinks (h : s.Shrinks s') : s'.Fair ∧ s.Plays env ⟨info, event⟩ s' :=
    ⟨h.fair hfair, h.plays _⟩
  cases event with
  | command server origin channel message r =>
    cases hstep
    rcases @onCommand_cases env info s server channel origin message r with
      h | ⟨game, hempty, hgames, key, hmap⟩
    · exact hshrinks h
    · refine ⟨hfair.concat hinv hempty hgames hmap, fun g other hother => ⟨other, ?_, .inl ?_⟩⟩
      · rw [hgames, List.getElem?_append_left (List.getElem?_eq_some_iff.1 hother).1, hother]
      · exact ⟨rfl, rfl, rfl⟩
  | message server origin channel message =>
    cases hstep
    rcases @onMessage_cases env info s ended server channel hinv origin message with
      h | ⟨g, game, row, column, t, hfind, hgame, hturn, hfree, hgames, hmap⟩
    · exact hshrinks h
    · have hgo : game.isOver = false := hfair.goesOn _ _ _ hfind hgame
      have hmoved : game.Moved { game.take row column with timer := t } :=
        ⟨row, column, hgo, hfree, rfl, rfl, rfl⟩
      refine ⟨hfair.move hinv hfind hgame hmoved hgames hmap, fun g' other hother => ?_⟩
      by_cases hg : g = g'
      · subst hg
        obtain rfl := Option.some.inj (hgame.symm.trans hother)
        refine ⟨_, by rw [hgames, List.getElem?_set_self (List.getElem?_eq_some_iff.1 hgame).1],
          .inr ⟨hmoved, server, origin, channel, message, rfl, hfind, hturn⟩⟩
      · exact ⟨other, by rw [hgames, List.getElem?_set_ne hg, hother], .inl ⟨rfl, rfl, rfl⟩⟩
  | disconnect server =>
    cases hstep
    exact hshrinks shrinks_onDisconnect
  | kick server channel target =>
    cases hstep
    exact hshrinks (shrinks_clear target)
  | part server origin channel =>
    cases hstep
    exact hshrinks (shrinks_clear origin)
  | fire t =>
    rw [Tictactoe.step] at hstep
    dsimp only at hstep
    split at hstep
    · split at hstep
      · cases hstep
        exact hshrinks (shrinks_timeout t)
      · cases hstep
    · cases hstep

end Runs

/-- Whatever the users write, on however many channels: only the player whose turn it is changes the
grid of a game, by taking a free square while the game is registered. So in every game the marks of
the two players differ by one at most, only the last player has a complete line, and a game that is
over is not registered. -/
theorem fair_play (env : JsEnv) (as : List Action) :
    Runs.AllSteps (step env) (Plays env) start as ∧
    Runs.AllStates (step env) (fun s =>
      (∀ game ∈ s.games, game.Balanced ∧ ∀ line ∈ Game.lines, ∀ m, m ≠ .empty →
        game.Complete m line → m = game.mark) ∧
      ∀ key g game, s.map.lookup key = some g → s.games[g]? = some game → game.isOver = false)
      start as := by
  have hstart : (∃ ended, Inv start ended) ∧ start.Fair := by
    refine ⟨⟨[], inv_start⟩, fun game hgame => absurd hgame List.not_mem_nil, ?_⟩
    intro key g game hlookup
    rw [start, AList.lookup_empty] at hlookup
    cases hlookup
  have hkeep (s : Tictactoe) (a : Action) (s' : Tictactoe) (h : (∃ ended, Inv s ended) ∧ s.Fair)
      (hstep : step env s a = some s') :
      s.Plays env a s' ∧ (∃ ended, Inv s' ended) ∧ s'.Fair := by
    obtain ⟨⟨ended, hinv⟩, hfair⟩ := h
    obtain ⟨hfair', hplays⟩ := hfair.step hinv hstep
    exact ⟨hplays, ⟨_, hinv.step hstep⟩, hfair'⟩
  refine ⟨Runs.AllSteps.of_keeps hkeep hstart,
    (Runs.AllStates.of_keeps (fun s a s' h hstep => (hkeep s a s' h hstep).2) hstart).mono ?_⟩
  rintro s ⟨-, hfair⟩
  refine ⟨fun game hmem => ⟨(hfair.legal game hmem).balanced, fun line hline m hm hcomplete => ?_⟩,
    hfair.goesOn⟩
  exact (hfair.legal game hmem).winner hline hm hcomplete

end Tictactoe

end Irccd
