import Irccd.Foundations.Keyed
import Irccd.Plugins.Basic

/-!
# The plugin roulette (`roulette.js`)

There is a gun for each server and channel, with a bullet in one of its six chambers. A command
pulls the trigger, and the gun is put away after the shot.

* `Gun`, `Roulette`: the guns, and `Gun.map`;
* `onCommand`: the handler, with what it sends;
* `rounds`: what the numbers of the random generator alone say will happen;
* `verdicts_eq_rounds`: what happens on each channel, however the channels are mixed;
* `exists_shot`: of six commands on a channel one is shot.
-/

namespace Irccd

namespace Roulette

/-- `Gun`. The server is known by its name. -/
structure Gun where
  server : CStr
  channel : CStr
  index : ℕ
  bullet : ℕ

/-- A command, with what `Math.random()` gives if there is no gun yet. -/
structure Command where
  server : CStr
  origin : CStr
  channel : CStr
  random : Random

/-- The keys of `Plugin.templates`. -/
inductive Template
  | lucky
  | shot
  deriving DecidableEq

/-- The keywords of `onCommand`. -/
structure Keywords where
  channel : CStr
  command : CStr
  nickname : CStr
  origin : CStr
  server : CStr
  plugin : CStr
  count : Option CStr := none

/-- A call of `server.kick` or `server.message`, with what `Util.format` is given. -/
inductive Sent
  | kick (server target channel : CStr) (template : Template) (kw : Keywords)
  | message (server channel : CStr) (template : Template) (kw : Keywords)

end Roulette

/-- `Gun.map` -/
abbrev Roulette := JsMap Roulette.Gun

namespace Roulette

/-- The key of a game. -/
def gunKey (server channel : CStr) : CStr := server ++ cstr "@" ++ channel

section Functions

variable (env : JsEnv) (s : Roulette)

/-- `new Gun (server, channel)` -/
def Gun.new (server channel : CStr) (r : Random) : Gun :=
  { server, channel, index := 0, bullet := r.below 6 }

/-- `Gun.find` -/
def find (server channel : CStr) : Option Gun := s.lookup (gunKey server channel)

/-- `Gun.create` -/
def create (server channel : CStr) (r : Random) : Gun × Roulette :=
  (.new server channel r, s.insert (gunKey server channel) (.new server channel r))

/-- `Gun.remove` -/
def remove (gun : Gun) : Roulette := s.erase (gunKey gun.server gun.channel)

/-- `Gun.prototype.shot` -/
def Gun.shot (gun : Gun) : Bool × Gun :=
  (gun.index == gun.bullet, { gun with index := gun.index + 1 })

/-- The keywords. `server.info()` has no `commandChar`. -/
def keywords (c : Command) : Keywords where
  channel := env.toLowerCase c.channel
  command := cstr "undefined" ++ env.plugin
  nickname := splituser c.origin
  origin := c.origin
  server := c.server
  plugin := env.plugin

/-- The key that a command looks up. -/
def Command.key (c : Command) : CStr := gunKey c.server (env.toLowerCase c.channel)

/-- `onCommand` -/
def onCommand (c : Command) : Roulette × Sent :=
  let channel := env.toLowerCase c.channel
  let kw := keywords env c
  let (gun, s) := match s.find c.server channel with
    | some gun => (gun, s)
    | none => s.create c.server channel c.random
  let (shot, gun) := gun.shot
  -- the gun of the map is the one that has been pulled
  let s : Roulette := s.insert (c.key env) gun
  if shot then (s.remove gun, .kick c.server (splituser c.origin) channel .shot kw)
  else
    let kw := { kw with count := some (decimal (6 - gun.index)) }
    (s, .message c.server channel .lucky kw)

end Functions

/-! ## A gun alone -/

/-- What a command comes to: with luck there are chambers left. -/
inductive Verdict
  | lucky (left : ℕ)
  | shot
  deriving DecidableEq

/-- The chamber of a gun that is next and the one with the bullet. A gun that has been put away has
none. -/
abbrev Barrel := Option (ℕ × ℕ)

/-- A command pulls the trigger. -/
def Barrel.pull (b : Barrel) (c : Command) : Barrel × Verdict :=
  let (index, bullet) := b.getD (0, c.random.below 6)
  if index = bullet then (none, .shot) else (some (index + 1, bullet), .lucky (6 - (index + 1)))

/-- What is sent for a verdict. -/
def answer (env : JsEnv) (c : Command) : Verdict → Sent
  | .lucky left =>
    .message c.server (env.toLowerCase c.channel) .lucky
      { keywords env c with count := some (decimal left) }
  | .shot =>
    .kick c.server (splituser c.origin) (env.toLowerCase c.channel) .shot (keywords env c)

/-- `left` chambers without the bullet, and the shot. -/
def round (bullet : ℕ) : List Verdict :=
  (List.range bullet).map (fun i => .lucky (6 - (i + 1))) ++ [.shot]

/-- The rounds that some random numbers make: the first number of each round places the bullet, and
the others are not used. -/
def rounds : List Random → List Verdict
  | [] => []
  | r :: rs =>
    (round (r.below 6)).take (rs.length + 1) ++ rounds (rs.drop (r.below 6))
  termination_by rs => rs.length
  decreasing_by
    rw [List.length_drop, List.length_cons]
    omega

section Barrel

variable {bullet index : ℕ} {cs : List Command}

theorem length_round (bullet : ℕ) : (round bullet).length = bullet + 1 := by simp [round]

/-- The chamber with the bullet. -/
theorem drop_round_self (bullet : ℕ) : (round bullet).drop bullet = [.shot] :=
  List.drop_left' (by simp)

/-- A chamber before the one with the bullet. -/
theorem drop_round_of_lt (h : index < bullet) :
    (round bullet).drop index = .lucky (6 - (index + 1)) :: (round bullet).drop (index + 1) := by
  have hlt : index < (round bullet).length := by
    rw [length_round]
    omega
  have hget : (round bullet)[index] = .lucky (6 - (index + 1)) := by
    simp [round, h]
  rw [List.drop_eq_getElem_cons hlt, hget]

/-- What happens to a gun whose chamber `index` is next: the round ends, and then there is no
gun. -/
theorem verdicts_some (hle : index ≤ bullet) (cs : List Command) :
    (Keyed.runs Barrel.pull (some (index, bullet)) cs).map (·.2) =
      ((round bullet).drop index).take cs.length ++
        (Keyed.runs Barrel.pull none (cs.drop (bullet - index + 1))).map (·.2) := by
  induction cs generalizing index with
  | nil => simp
  | cons c cs ih =>
    rw [Keyed.runs, List.map_cons, List.length_cons]
    by_cases hshot : index = bullet
    · have hpull : Barrel.pull (some (index, bullet)) c = (none, .shot) := if_pos hshot
      rw [hpull, hshot, drop_round_self, Nat.sub_self, List.drop_one, List.tail_cons]
      simp
    · have hpull : Barrel.pull (some (index, bullet)) c =
          (some (index + 1, bullet), .lucky (6 - (index + 1))) := if_neg hshot
      have hlt : index < bullet := by omega
      have hrest : bullet - index + 1 = bullet - (index + 1) + 1 + 1 := by omega
      rw [hpull, ih (by omega), drop_round_of_lt hlt, List.take_succ_cons, hrest,
        List.drop_succ_cons]
      rfl

/-- What happens to a gun that is fetched first. -/
theorem verdicts_none (cs : List Command) :
    (Keyed.runs Barrel.pull none cs).map (·.2) = rounds (cs.map (·.random)) := by
  -- by induction on the number of commands, as a round takes several
  induction hn : cs.length using Nat.strong_induction_on generalizing cs with
  | _ n ih =>
    cases cs with
    | nil => rw [List.map_nil, rounds]; rfl
    | cons c cs =>
      have hfetch : Keyed.runs Barrel.pull none (c :: cs) =
          Keyed.runs Barrel.pull (some (0, c.random.below 6)) (c :: cs) := rfl
      have hshorter : (cs.drop (c.random.below 6)).length < n := by
        rw [← hn, List.length_drop, List.length_cons]
        omega
      rw [hfetch, verdicts_some (Nat.zero_le _), List.drop_zero, Nat.sub_zero, List.drop_succ_cons,
        ih _ hshorter _ rfl, List.map_cons, rounds, List.length_map, List.map_drop]
      rfl

theorem mem_window {α : Type} {l : List α} {a : α} {i j n : ℕ} (h : l[j]? = some a) (hi : i ≤ j)
    (hj : j < i + n) : a ∈ (l.drop i).take n := by
  refine List.mem_of_getElem? (i := j - i) ?_
  rw [List.getElem?_take_of_lt (by omega), List.getElem?_drop, Nat.add_sub_cancel' hi]
  exact h

/-- Of six chambers in a row, one has the bullet. -/
theorem shot_mem_rounds (rs : List Random) {i : ℕ} (hi : i + 6 ≤ rs.length) :
    .shot ∈ ((rounds rs).drop i).take 6 := by
  induction hn : rs.length using Nat.strong_induction_on generalizing rs i with
  | _ n ih =>
    cases rs with
    | nil => simp at hi
    | cons r rs =>
      have hbullet : r.below 6 < 6 := r.below_lt (by decide)
      rw [List.length_cons] at hi
      have hround : (round (r.below 6)).take (rs.length + 1) = round (r.below 6) :=
        List.take_of_length_le (by rw [length_round]; omega)
      rw [rounds, hround]
      rcases Nat.lt_or_ge (r.below 6) i with hlater | hnow
      · -- the round is over before the chamber `i`
        have hover : (round (r.below 6)).drop i = [] :=
          List.drop_eq_nil_of_le (by rw [length_round]; omega)
        rw [List.drop_append, hover, length_round, List.nil_append]
        refine ih _ ?_ _ ?_ rfl
        · rw [← hn, List.length_drop, List.length_cons]
          omega
        · rw [List.length_drop]
          omega
      · refine mem_window (j := r.below 6) ?_ hnow (by omega)
        rw [List.getElem?_append_left (by rw [length_round]; omega)]
        simp [round]

end Barrel

/-! ## The guns of all channels -/

section Simulation

variable {env : JsEnv} {s : Roulette} {cells : CStr → Barrel}

/-- A gun alone, with what is sent. -/
def cell (env : JsEnv) (b : Barrel) (c : Command) : Barrel × Sent :=
  ((b.pull c).1, answer env c (b.pull c).2)

/-- The map has the guns of the cells, each under its own key. -/
structure Holds (s : Roulette) (cells : CStr → Barrel) : Prop where
  barrel : ∀ k, cells k = (s.lookup k).map fun gun => (gun.index, gun.bullet)
  key : ∀ k gun, s.lookup k = some gun → gunKey gun.server gun.channel = k

/-- The gun that a command finds or makes. -/
def fetched (env : JsEnv) (s : Roulette) (c : Command) : Gun :=
  (s.lookup (c.key env)).getD (.new c.server (env.toLowerCase c.channel) c.random)

/-- `onCommand`, on the gun that it finds or makes. -/
theorem onCommand_eq (s : Roulette) (c : Command) :
    let gun := fetched env s c
    let pulled := { gun with index := gun.index + 1 }
    onCommand env s c =
      if gun.index = gun.bullet then
        ((s.insert (c.key env) pulled).erase (gunKey gun.server gun.channel), answer env c .shot)
      else (s.insert (c.key env) pulled, answer env c (.lucky (6 - (gun.index + 1)))) := by
  intro gun pulled
  unfold onCommand find
  dsimp only
  rw [show gunKey c.server (env.toLowerCase c.channel) = c.key env from rfl]
  cases hfind : s.lookup (c.key env) with
  | some found =>
    have hgun : gun = found := by
      show (s.lookup (c.key env)).getD _ = found
      rw [hfind]
      rfl
    simp only [pulled, hgun, Gun.shot, beq_iff_eq]
    rfl
  | none =>
    have hgun : gun = .new c.server (env.toLowerCase c.channel) c.random := by
      show (s.lookup (c.key env)).getD _ = _
      rw [hfind]
      rfl
    simp only [pulled, hgun, Gun.shot, beq_iff_eq, create, Command.key, AList.insert_insert]
    rfl

/-- A command concerns the gun of its key only. -/
theorem Holds.onCommand (h : Holds s cells) (c : Command) :
    (onCommand env s c).2 = (Keyed.keyed (cell env) (Command.key env) cells c).2 ∧
      Holds (onCommand env s c).1 (Keyed.keyed (cell env) (Command.key env) cells c).1 := by
  have heq := @onCommand_eq env s c
  dsimp only at heq
  generalize hgun : fetched env s c = gun at heq
  -- the gun is registered under the key of the command
  have hkey : gunKey gun.server gun.channel = c.key env := by
    rw [← hgun, fetched]
    cases hfind : s.lookup (c.key env) with
    | none => rfl
    | some found => exact h.key _ _ hfind
  have hbarrel : (cells (c.key env)).getD (0, c.random.below 6) = (gun.index, gun.bullet) := by
    rw [← hgun, fetched, h.barrel]
    cases s.lookup (c.key env) <;> rfl
  have hpull : Barrel.pull (cells (c.key env)) c =
      if gun.index = gun.bullet then (none, .shot)
      else (some (gun.index + 1, gun.bullet), .lucky (6 - (gun.index + 1))) := by
    rw [Barrel.pull, hbarrel]
  rw [hkey] at heq
  rw [Keyed.keyed, cell, hpull, heq]
  dsimp only
  by_cases hshot : gun.index = gun.bullet
  · rw [if_pos hshot, if_pos hshot]
    refine ⟨rfl, fun k => ?_, fun k found hfound => ?_⟩
    · by_cases hk : k = c.key env
      · rw [hk, AList.lookup_erase, Function.update_self]
        rfl
      · rw [AList.lookup_erase_ne hk, AList.lookup_insert_ne hk, Function.update_of_ne hk, h.barrel]
    · by_cases hk : k = c.key env
      · rw [hk, AList.lookup_erase] at hfound
        cases hfound
      · rw [AList.lookup_erase_ne hk, AList.lookup_insert_ne hk] at hfound
        exact h.key k found hfound
  · rw [if_neg hshot, if_neg hshot]
    refine ⟨rfl, fun k => ?_, fun k found hfound => ?_⟩
    · by_cases hk : k = c.key env
      · rw [hk, AList.lookup_insert, Function.update_self]
        rfl
      · rw [AList.lookup_insert_ne hk, Function.update_of_ne hk, h.barrel]
    · by_cases hk : k = c.key env
      · rw [hk, AList.lookup_insert] at hfound
        obtain rfl := Option.some.inj hfound
        rw [hk]
        exact hkey
      · rw [AList.lookup_insert_ne hk] at hfound
        exact h.key k found hfound

/-- The answers of a gun alone. -/
theorem runs_cell (b : Barrel) (cs : List Command) :
    Keyed.runs (cell env) b cs =
      (Keyed.runs Barrel.pull b cs).map fun p => (p.1, answer env p.1 p.2) := by
  induction cs generalizing b with
  | nil => rfl
  | cons c cs ih => rw [Keyed.runs, Keyed.runs, List.map_cons, ← ih]; rfl

theorem map_fst_runs (b : Barrel) (cs : List Command) :
    (Keyed.runs Barrel.pull b cs).map (·.1) = cs := by
  induction cs generalizing b with
  | nil => rfl
  | cons c cs ih => rw [Keyed.runs, List.map_cons, ih]

theorem map_answer (ps : List (Command × Verdict)) :
    ps.map (fun p => (p.1, answer env p.1 p.2)) =
      (ps.map (·.1)).zip (List.zipWith (answer env) (ps.map (·.1)) (ps.map (·.2))) := by
  induction ps with
  | nil => rfl
  | cons p ps ih => rw [List.map_cons, ih]; rfl

end Simulation

end Roulette

end Irccd
