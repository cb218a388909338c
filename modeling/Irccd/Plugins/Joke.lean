import Irccd.Foundations.Draws
import Irccd.Plugins.Basic

/-!
# The plugin joke (`joke.js`)

The jokes that are left for a channel and server are kept in a table. They are loaded from a file
when there are none, and a joke that was shown is removed.

* `Setup`: the options of the plugin and the files;
* `load`: the jokes of the file of a server and channel;
* `step`: a command, or the table emptied by `onReload`;
* `trace_selections`: the jokes that a run shows are drawn from the table.
-/

namespace Irccd

namespace Joke

/-- An element of the array that `JSON.parse` gives. -/
inductive Entry
  /-- `null`, `false`, zero or an empty text -/
  | falsy
  /-- An array, or the characters of a text. What is not a string is `none`. -/
  | items (items : List (Option CStr))
  /-- What has no length. -/
  | other

/-- What `JSON.parse` gives. -/
inductive Data
  | array (entries : List Entry)
  /-- What has no method `filter`. -/
  | other

/-- What the plugin reads when it loads jokes. -/
structure Setup where
  /-- `Plugin.config.file`, empty if it is not set -/
  file : CStr
  /-- `Plugin.paths.data` -/
  dataPath : CStr
  /-- `parseInt(Plugin.config["max-list-lines"])`, unless it is not a number -/
  maxListLines : Option ℤ
  /-- `Util.format(path, { server: server, channel: channel })` -/
  format : CStr → CStr → CStr → CStr
  /-- `JSON.parse(new File(path, "r").read())`, unless one of these throws -/
  read : CStr → Option Data

/-- The lines that `show` sends for an entry, if the filter of `load` keeps it. -/
def Setup.lines (setup : Setup) : Entry → Option (List CStr)
  | .falsy => none
  | .items items =>
    if items.length = 0 then none
    else if setup.maxListLines.any fun limit => limit < (items.length : ℤ) then none
    -- one item that is not a string drops the joke
    else items.mapM id
  -- a comparison with an undefined length is false, so that nothing is found wrong
  | .other => some []

/-- `load`, unless it throws. -/
def Setup.load (setup : Setup) (server channel : CStr) : Option (List (List CStr)) :=
  let path := if setup.file.isEmpty then setup.dataPath ++ cstr "/jokes.json" else setup.file
  match setup.read (setup.format path server channel) with
  | some (.array entries) =>
    let jokes := entries.filterMap setup.lines
    if jokes.isEmpty then none else some jokes
  | some .other => none
  | none => none

/-- The object given to `Util.format` for the message of error. -/
structure Keywords where
  plugin : CStr
  command : CStr
  server : CStr
  channel : CStr
  origin : CStr
  nickname : CStr
  deriving DecidableEq

/-- A line of a joke, or what `Util.format` makes of the template `error`. -/
inductive Text
  | line (text : CStr)
  | error (kw : Keywords)
  deriving DecidableEq

/-- A call of `server.message`. -/
structure Sent where
  server : CStr
  channel : CStr
  text : Text
  deriving DecidableEq

end Joke

/-- The plugin: `table` and the messages. -/
structure Joke where
  table : JsMap (List (List CStr))
  sent : List Joke.Sent

namespace Joke

/-- The plugin when it is loaded. -/
def start : Joke := { table := ∅, sent := [] }

/-- `id` -/
def jokeId (server channel : CStr) : CStr := channel ++ cstr "@" ++ server

section Functions

variable (env : JsEnv) (setup : Setup) (info : CStr → ServerInfo) (s : Joke)

/-- The jokes of a server and channel: those of the table, or else those of the file. -/
def jokes (server channel : CStr) : Option (List (List CStr)) :=
  match s.table.lookup (jokeId server channel) with
  | some jokes => some jokes
  | none => setup.load server channel

/-- `show` -/
def «show» (server channel : CStr) (joke : List CStr) : Joke :=
  { s with sent := s.sent ++ joke.map fun line => ⟨server, channel, .line line⟩ }

/-- `remove`, where `jokes` is the value of `table[i]`. -/
def remove (i : CStr) (jokes : List (List CStr)) (index : ℕ) : Joke :=
  let left := jokes.eraseIdx index
  { s with table := if left.length = 0 then s.table.erase i else s.table.insert i left }

/-- The message of error. -/
def error (server origin channel : CStr) : Joke :=
  let kw : Keywords :=
    { plugin := env.plugin
      command := (info server).pfx ++ env.plugin
      server
      channel
      origin
      nickname := splituser origin }
  { s with sent := s.sent ++ [⟨server, channel, .error kw⟩] }

/-- `onCommand` -/
def onCommand (server origin channel : CStr) (random : Random) : Joke :=
  match s.jokes setup server channel with
  | some jokes =>
    let index := random.below jokes.length
    match jokes[index]? with
    | some joke => (s.show server channel joke).remove (jokeId server channel) jokes index
    -- the joke is undefined, which has no length
    | none => { s with table := s.table.insert (jokeId server channel) jokes }
  | none => s.error env info server origin channel

end Functions

/-- What happens to the plugin. -/
inductive Event
  | command (server origin channel : CStr) (random : Random)
  | reload

/-- An event, with the state of the servers at that time. -/
structure Action where
  info : CStr → ServerInfo
  event : Event

/-- One event. -/
def step (env : JsEnv) (setup : Setup) (s : Joke) (a : Action) : Joke :=
  match a.event with
  | .command server origin channel random =>
    s.onCommand env setup a.info server origin channel random
  | .reload => { s with table := ∅ }

/-! ## Selections -/

section Selections

variable {env : JsEnv} {setup : Setup} {s : Joke} {server channel : CStr}

/-- The jokes left for each key. -/
def bags (s : Joke) (i : CStr) : List (List CStr) := (s.table.lookup i).getD []

/-- The jokes of the file of a server and channel. -/
def Setup.all (setup : Setup) (p : CStr × CStr) : List (List CStr) := (setup.load p.1 p.2).getD []

/-- The joke that an event shows. -/
def selection (setup : Setup) (s : Joke) (a : Action) :
    Option (Draws.Drawn (CStr × CStr) (List CStr)) :=
  match a.event with
  | .command server _ channel random =>
    (s.jokes setup server channel).bind fun jokes =>
      jokes[random.below jokes.length]?.map fun joke =>
        { owner := (server, channel), choice := random.below, element := joke }
  | .reload => none

/-- The jokes that a run shows. -/
def selections (env : JsEnv) (setup : Setup) :
    Joke → List Action → List (Draws.Drawn (CStr × CStr) (List CStr))
  | _, [] => []
  | s, a :: as => (s.selection setup a).toList ++ selections env setup (s.step env setup a) as

/-- The event empties the table. -/
def Event.isReload : Event → Bool
  | .command _ _ _ _ => false
  | .reload => true

/-- No list of the table is empty. -/
def NoneEmpty (s : Joke) : Prop := ∀ i jokes, s.table.lookup i = some jokes → jokes ≠ []

/-- The jokes of a server and channel fill their bag. -/
theorem jokes_eq_filled (h : s.NoneEmpty) {jokes : List (List CStr)}
    (hjokes : s.jokes setup server channel = some jokes) :
    Draws.filled (setup.all (server, channel)) (s.bags (jokeId server channel)) = jokes := by
  rw [Joke.jokes] at hjokes
  rw [bags]
  cases hlookup : s.table.lookup (jokeId server channel) with
  | some left =>
    rw [hlookup] at hjokes
    rw [Option.getD_some, Draws.filled_of_ne_nil (h _ _ hlookup), Option.some.inj hjokes]
  | none =>
    rw [hlookup] at hjokes
    rw [Option.getD_none, Draws.filled_nil, Setup.all, show setup.load server channel = _ from
      hjokes, Option.getD_some]

theorem lookup_remove {i : CStr} {jokes : List (List CStr)} {index : ℕ} (i' : CStr) :
    (s.remove i jokes index).table.lookup i' =
      if i' = i then if (jokes.eraseIdx index).length = 0 then none else some (jokes.eraseIdx index)
      else s.table.lookup i' := by
  rw [remove]
  by_cases hi : i' = i
  · subst hi
    rw [if_pos rfl]
    dsimp only
    split
    · rw [AList.lookup_erase]
    · rw [AList.lookup_insert]
  · rw [if_neg hi]
    dsimp only
    split
    · rw [AList.lookup_erase_ne hi]
    · rw [AList.lookup_insert_ne hi]

theorem NoneEmpty.remove (h : s.NoneEmpty) (i : CStr) (jokes : List (List CStr)) (index : ℕ) :
    (s.remove i jokes index).NoneEmpty := by
  intro i' left hleft
  rw [lookup_remove] at hleft
  split at hleft
  · split at hleft
    · cases hleft
    · next hne =>
      obtain rfl := Option.some.inj hleft
      exact fun hnil => hne (by rw [hnil, List.length_nil])
  · exact h i' left hleft

theorem bags_remove (s : Joke) (i : CStr) (jokes : List (List CStr)) (index : ℕ) :
    (s.remove i jokes index).bags = Function.update s.bags i (jokes.eraseIdx index) := by
  funext i'
  rw [bags, lookup_remove]
  by_cases hi : i' = i
  · subst hi
    rw [if_pos rfl, Function.update_self]
    split
    · next hnil => rw [Option.getD_none, List.eq_nil_of_length_eq_zero hnil]
    · rw [Option.getD_some]
  · rw [if_neg hi, Function.update_of_ne hi, bags]

theorem jokes_ne_nil (h : s.NoneEmpty) {jokes : List (List CStr)}
    (hjokes : s.jokes setup server channel = some jokes) : jokes ≠ [] := by
  rw [Joke.jokes] at hjokes
  cases hlookup : s.table.lookup (jokeId server channel) with
  | some left =>
    rw [hlookup] at hjokes
    obtain rfl := Option.some.inj hjokes
    exact h _ _ hlookup
  | none =>
    rw [hlookup] at hjokes
    replace hjokes : setup.load server channel = some jokes := hjokes
    rw [Setup.load] at hjokes
    dsimp only at hjokes
    split at hjokes
    · split at hjokes
      · cases hjokes
      · next hne =>
        obtain rfl := Option.some.inj hjokes
        exact fun hnil => hne (by rw [hnil, List.isEmpty_nil])
    · cases hjokes
    · cases hjokes

/-- Each joke that is shown is drawn from the bag of its key. -/
theorem draw_of_step (env : JsEnv) (setup : Setup) {a : Action} (h : s.NoneEmpty)
    (ha : a.event.isReload = false) :
    (s.step env setup a).NoneEmpty ∧
      match s.selection setup a with
      | some d => ∃ rest,
          Draws.draw (setup.all d.owner) (s.bags (jokeId d.owner.1 d.owner.2)) d.choice =
            some (d.element, rest) ∧
          (s.step env setup a).bags = Function.update s.bags (jokeId d.owner.1 d.owner.2) rest
      | none => (s.step env setup a).bags = s.bags := by
  obtain ⟨info, event⟩ := a
  cases event with
  | command server origin channel random =>
    rw [step, selection]
    dsimp only
    rw [onCommand]
    cases hjokes : s.jokes setup server channel with
    | none => exact ⟨h, rfl⟩
    | some jokes =>
      -- the index is that of a joke, as the list is not empty
      have hlt := random.below_lt (List.length_pos_of_ne_nil (jokes_ne_nil h hjokes))
      have hget : jokes[random.below jokes.length]? = some jokes[random.below jokes.length] :=
        List.getElem?_eq_getElem hlt
      have hdraw : Draws.draw (setup.all (server, channel)) (s.bags (jokeId server channel))
          random.below = some (jokes[random.below jokes.length],
            jokes.eraseIdx (random.below jokes.length)) := by
        rw [Draws.draw, jokes_eq_filled h hjokes, hget, Option.map_some]
      simp only [Option.bind_some, hget, Option.map_some]
      exact ⟨h.remove _ _ _, _, hdraw, bags_remove _ _ _ _⟩
  | reload => cases ha

/-- The jokes that a run shows are drawn from the bags. -/
theorem trace_selections (env : JsEnv) (setup : Setup) {as : List Action} (h : s.NoneEmpty)
    (has : ∀ a ∈ as, a.event.isReload = false) :
    Draws.Trace (fun p : CStr × CStr => jokeId p.1 p.2) setup.all s.bags
      (selections env setup s as) := by
  induction as generalizing s with
  | nil => exact .nil _
  | cons a as ih =>
    obtain ⟨ha, has⟩ := List.forall_mem_cons.1 has
    obtain ⟨hempty, hstep⟩ := draw_of_step env setup h ha
    have ih := ih hempty has
    rw [selections]
    -- an event without a selection leaves the bags as they are
    cases hselection : s.selection setup a with
    | some d =>
      rw [hselection] at hstep
      obtain ⟨rest, hdraw, hbags⟩ := hstep
      rw [hbags] at ih
      exact .cons hdraw ih
    | none =>
      rw [hselection] at hstep
      rwa [hstep] at ih

end Selections

end Joke

end Irccd
