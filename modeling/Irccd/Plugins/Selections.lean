import Irccd.Plugins.Hangman
import Irccd.Plugins.Joke

/-!
# No repetition before exhaustion

The words of hangman and the jokes are kept under the name of the server and the channel, joined by
a separator. The names do not exclude the separator.

* `Hangman.PairsApart`, `Joke.PairsApart`: no two pairs of a run have one key;
* `fair_selections`: then the selections of each pair are made without repetition, and do not depend
  on the others.
-/

namespace Irccd

namespace Hangman

/-- The server and the channel of a command. -/
def Action.pair (env : JsEnv) (a : Action) : Option (CStr × CStr) :=
  match a.event with
  | .command server origin channel _ _ => some (server, target env a.info server origin channel)
  | .message _ _ _ _ => none
  | .reload _ => none

/-- The commands of a run that have the same key are for the same server and channel. -/
def PairsApart (env : JsEnv) (as : List Action) : Prop :=
  ∀ a ∈ as, ∀ b ∈ as, ∀ p ∈ a.pair env, ∀ q ∈ b.pair env,
    gameId p.1 p.2 = gameId q.1 q.2 → p = q

/-- The words selected in a run: each server and channel gets all words of the file in turn, and as
if there were no other. -/
def FairRun (env : JsEnv) (lines : List CStr) (as : List Action) : Prop :=
  Draws.Fair (fun _ => lines.filter (isWord env)) (selections env (start.loadWords env lines) as)

/-- A word is selected by a command of the server and channel. -/
theorem pair_of_mem_selections {env : JsEnv} {as : List Action} (s : Hangman)
    {d : Draws.Drawn (CStr × CStr) CStr} (hd : d ∈ selections env s as) :
    d.choice.Valid ∧ ∃ a ∈ as, d.owner ∈ a.pair env := by
  induction as generalizing s with
  | nil => cases hd
  | cons a as ih =>
    rw [selections, List.mem_append, Option.mem_toList] at hd
    rcases hd with hd | hd
    · obtain ⟨info, collaborative, event⟩ := a
      cases event with
      | command server origin channel message random =>
        rw [selection] at hd
        dsimp only at hd
        split at hd
        · cases hd
        · obtain ⟨word, -, rfl⟩ := Option.map_eq_some_iff.1 hd
          exact ⟨fun n hn => random.below_lt hn, _, List.mem_cons_self, rfl⟩
      | message => cases hd
      | reload => cases hd
    · obtain ⟨hvalid, b, hb, howner⟩ := ih _ hd
      exact ⟨hvalid, b, List.mem_cons_of_mem a hb, howner⟩

theorem fairRun_of_pairsApart {env : JsEnv} (lines : List CStr) {as : List Action}
    (hreload : ∀ a ∈ as, a.event.isReload = false) (hapart : PairsApart env as) :
    FairRun env lines as := by
  have htrace := trace_selections env hreload (start.loadWords env lines)
  refine Draws.Trace.fair htrace (fun d hd => (pair_of_mem_selections _ hd).1) ?_
  intro d hd e he hkey
  obtain ⟨-, a, ha, hda⟩ := pair_of_mem_selections _ hd
  obtain ⟨-, b, hb, heb⟩ := pair_of_mem_selections _ he
  exact hapart a ha b hb _ hda _ heb hkey

end Hangman

namespace Joke

/-- The server and the channel of a command. -/
def Action.pair (a : Action) : Option (CStr × CStr) :=
  match a.event with
  | .command server _ channel _ => some (server, channel)
  | .reload => none

/-- The commands of a run that have the same key are for the same server and channel. -/
def PairsApart (as : List Action) : Prop :=
  ∀ a ∈ as, ∀ b ∈ as, ∀ p ∈ a.pair, ∀ q ∈ b.pair, jokeId p.1 p.2 = jokeId q.1 q.2 → p = q

/-- The jokes shown in a run: each server and channel gets all jokes of its file in turn, and as if
there were no other. -/
def FairRun (env : JsEnv) (setup : Setup) (as : List Action) : Prop :=
  Draws.Fair setup.all (selections env setup start as)

/-- A joke is shown by a command of the server and channel. -/
theorem pair_of_mem_selections {env : JsEnv} {setup : Setup} {as : List Action} (s : Joke)
    {d : Draws.Drawn (CStr × CStr) (List CStr)} (hd : d ∈ selections env setup s as) :
    d.choice.Valid ∧ ∃ a ∈ as, d.owner ∈ a.pair := by
  induction as generalizing s with
  | nil => cases hd
  | cons a as ih =>
    rw [selections, List.mem_append, Option.mem_toList] at hd
    rcases hd with hd | hd
    · obtain ⟨info, event⟩ := a
      cases event with
      | command server origin channel random =>
        obtain ⟨jokes, -, hjoke⟩ := Option.bind_eq_some_iff.1 hd
        obtain ⟨joke, -, rfl⟩ := Option.map_eq_some_iff.1 hjoke
        exact ⟨fun n hn => random.below_lt hn, _, List.mem_cons_self, rfl⟩
      | reload => cases hd
    · obtain ⟨hvalid, b, hb, howner⟩ := ih _ hd
      exact ⟨hvalid, b, List.mem_cons_of_mem a hb, howner⟩

theorem fairRun_of_pairsApart (env : JsEnv) (setup : Setup) {as : List Action}
    (hreload : ∀ a ∈ as, a.event.isReload = false) (hapart : PairsApart as) :
    FairRun env setup as := by
  have hempty : start.NoneEmpty := fun i jokes hjokes => by cases hjokes
  have htrace := trace_selections env setup hempty hreload
  refine Draws.Trace.fair htrace (fun d hd => (pair_of_mem_selections _ hd).1) ?_
  intro d hd e he hkey
  obtain ⟨-, a, ha, hda⟩ := pair_of_mem_selections _ hd
  obtain ⟨-, b, hb, heb⟩ := pair_of_mem_selections _ he
  exact hapart a ha b hb _ hda _ heb hkey

end Joke

/-- No word and no joke is repeated before all others were selected, if no two pairs of a server and
a channel have the same key. -/
theorem fair_selections (env : JsEnv) (lines : List CStr) (setup : Joke.Setup)
    {as : List Hangman.Action} {bs : List Joke.Action}
    (has : ∀ a ∈ as, a.event.isReload = false) (hbs : ∀ b ∈ bs, b.event.isReload = false)
    (hgames : Hangman.PairsApart env as) (hjokes : Joke.PairsApart bs) :
    Hangman.FairRun env lines as ∧ Joke.FairRun env setup bs :=
  ⟨Hangman.fairRun_of_pairsApart lines has hgames, Joke.fairRun_of_pairsApart env setup hbs hjokes⟩

/-- The first of the choices. -/
def Random.zero : Random := ⟨0, 1, Nat.one_pos⟩

/-- A server without users. -/
def noUsers (_ : CStr) : ServerInfo where
  pfx := cstr "!"
  nickname := cstr "irccd"
  channels := []

namespace Joke

/-- A file of two jokes. -/
def twoJokes : Setup where
  file := cstr "jokes.json"
  dataPath := []
  maxListLines := some 5
  format path _ _ := path
  read _ := some (.array [.items [some (cstr "first")], .items [some (cstr "second")]])

/-- A command of jean. -/
def command (server channel : CStr) : Action :=
  ⟨noUsers, .command server (cstr "jean") channel .zero⟩

/-- The channel `#a` of the server `b@c`, before and after the channel `#a@b` of the server `c`. -/
def sharedRun : List Action :=
  [command (cstr "b@c") (cstr "#a"), command (cstr "c") (cstr "#a@b"),
    command (cstr "b@c") (cstr "#a")]

end Joke

/-- A command of jean in the channel `#games`: a game is started, or the message is proposed. -/
def Hangman.command (server message : CStr) : Hangman.Action :=
  ⟨noUsers, false, .command server (cstr "jean") (cstr "#games") message .zero⟩

/-- Two games on each of two servers, one after the other. -/
def Hangman.twoServers : List Hangman.Action :=
  [Hangman.command (cstr "libera") [], Hangman.command (cstr "oftc") [],
    Hangman.command (cstr "libera") (cstr "sky"), Hangman.command (cstr "libera") [],
    Hangman.command (cstr "oftc") (cstr "sky"), Hangman.command (cstr "oftc") []]

/-- Both servers get both words. -/
example : (Hangman.selections (asciiEnv (cstr "hangman"))
    (Hangman.start.loadWords (asciiEnv (cstr "hangman")) [cstr "sky", cstr "sea"])
    Hangman.twoServers).map (fun d => (d.owner.1, d.element)) =
      [(cstr "libera", cstr "sky"), (cstr "oftc", cstr "sky"), (cstr "libera", cstr "sea"),
        (cstr "oftc", cstr "sea")] := by
  decide

/-- Two servers get two words and two jokes each, in turns. -/
theorem fair_selections_libera :
    Hangman.FairRun (asciiEnv (cstr "hangman")) [cstr "sky", cstr "sea"] Hangman.twoServers ∧
      Joke.FairRun (asciiEnv (cstr "hangman")) Joke.twoJokes
        [Joke.command (cstr "libera") (cstr "#games"), Joke.command (cstr "oftc") (cstr "#games"),
          Joke.command (cstr "oftc") (cstr "#games"),
          Joke.command (cstr "libera") (cstr "#games")] := by
  refine fair_selections _ _ _ (by decide) (by decide) ?_ ?_
  · rw [Hangman.PairsApart]
    decide
  · rw [Joke.PairsApart]
    decide

/-- The pairs of `sharedRun` have one key, and one of them gets the first joke twice. -/
theorem not_forall_fair_selections :
    ¬ ∀ (env : JsEnv) (lines : List CStr) (setup : Joke.Setup) (as : List Hangman.Action)
      (bs : List Joke.Action), (∀ a ∈ as, a.event.isReload = false) →
      (∀ b ∈ bs, b.event.isReload = false) →
      Hangman.FairRun env lines as ∧ Joke.FairRun env setup bs := by
  intro h
  have hfair := (h (asciiEnv (cstr "joke")) [] Joke.twoJokes [] Joke.sharedRun (by decide)
    (by decide)).2
  -- the first block of two draws of `#a` on `b@c` is the first joke twice
  have hblock := hfair.blocks (cstr "b@c", cstr "#a") 0 (by decide)
  exact absurd hblock (by decide)

end Irccd
