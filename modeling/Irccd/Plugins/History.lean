import Mathlib.Data.List.Induction
import Irccd.Foundations.Runs
import Irccd.Plugins.Basic

/-!
# The plugin history (`history.js`)

The database has an entry for each server, channel and nickname. Each handler reads it from the
file, changes an entry and writes it again.

* `write`: the entry of a nickname is changed;
* `onJoin` and the like: the handlers;
* `expected`: the entry that a nickname should have after some events;
* `isRecorded_of_forall`: when the database is as expected.
-/

namespace Irccd

namespace History

/-- An entry: `timestamp`, and `message` with `messageTimestamp`. -/
structure Entry where
  timestamp : ℕ
  message : Option (CStr × ℕ)
  deriving DecidableEq

/-- The object in the file `db.json`. -/
abbrev Db := JsMap (JsMap (JsMap Entry))

/-- The place of an entry. -/
structure Key where
  server : CStr
  channel : CStr
  nickname : CStr
  deriving DecidableEq

namespace Db

variable (db : Db) (key : Key)

/-- `db[server]`, completed by `read` -/
def channels (server : CStr) : JsMap (JsMap Entry) := (db.lookup server).getD ∅

/-- `db[server][channel]`, completed by `read` -/
def nicknames (server channel : CStr) : JsMap Entry := ((db.channels server).lookup channel).getD ∅

/-- `db[server][channel][nickname]` -/
def entry : Option Entry := (db.nicknames key.server key.channel).lookup key.nickname

/-- The database with another entry. -/
def put (entry : Entry) : Db :=
  db.insert key.server ((db.channels key.server).insert key.channel
    ((db.nicknames key.server key.channel).insert key.nickname entry))

/-- The other entries are as they were. -/
theorem entry_put (entry : Entry) (key' : Key) :
    (db.put key entry).entry key' = if key' = key then some entry else db.entry key' := by
  obtain ⟨server, channel, nickname⟩ := key
  obtain ⟨server', channel', nickname'⟩ := key'
  by_cases hserver : server' = server
  · subst hserver
    by_cases hchannel : channel' = channel
    · subst hchannel
      by_cases hnickname : nickname' = nickname
      · subst hnickname
        simp [put, Db.entry, nicknames, channels]
      · simp [put, Db.entry, nicknames, channels, hnickname]
    · simp [put, Db.entry, nicknames, channels, hchannel]
  · simp [put, Db.entry, nicknames, channels, hserver]

end Db

/-- The entry of the database in the file. -/
def stored (file : Option Db) (key : Key) : Option Entry := (file.getD ∅).entry key

section Handlers

variable (env : JsEnv)

/-- A name that is found again in the file, and not found in an empty object. -/
def isName (name : CStr) : Bool := env.isText name && !objectPrototype.contains name

/-- The three names of a key are found again. -/
def Key.isValid (key : Key) : Bool :=
  isName env key.server && isName env key.channel && isName env key.nickname

/-- The entry that `write` makes of the one that `read` gives. -/
def newEntry (file : Option Db) (key : Key) (message : Option CStr) (now : ℕ) : Entry where
  timestamp := now
  message :=
    match message with
    | some (c :: text) => some (c :: text, now)
    -- the empty text is as good as none
    | some [] => (stored file key).bind (·.message)
    | none => (stored file key).bind (·.message)

/-- `write`, with the result of `read`. Where a name is found in an empty object, an object of the
language is changed in place of the database, and the file does not tell what was written: there is
no next state. -/
def write (file : Option Db) (key : Key) (message : Option CStr) (now : ℕ) :
    Option (Option Db) :=
  if key.isValid env && message.all env.isText then
    some (some ((file.getD ∅).put key (newEntry file key message now)))
  else none

/-- `Util.splituser(origin).toLowerCase()` -/
def nick (origin : CStr) : CStr := env.toLowerCase (splituser origin)

/-- `onJoin` -/
def onJoin (file : Option Db) (server origin channel : CStr) (now : ℕ) : Option (Option Db) :=
  write env file ⟨server, env.toLowerCase channel, nick env origin⟩ none now

/-- `onMessage` and `onMe` -/
def onMessage (file : Option Db) (server origin channel message : CStr) (now : ℕ) :
    Option (Option Db) :=
  write env file ⟨server, env.toLowerCase channel, nick env origin⟩ (some message) now

/-- `onTopic`, which gives the nickname in place of the channel. -/
def onTopic (file : Option Db) (server origin channel : CStr) (now : ℕ) : Option (Option Db) :=
  write env file ⟨server, nick env origin, env.toLowerCase channel⟩ none now

/-- `onNames`. The elements of the list are objects, whose nickname is not read. -/
def onNames (file : Option Db) (server channel : CStr) (list : List CStr) (now : ℕ) :
    Option (Option Db) :=
  list.foldlM (fun file _ =>
    write env file ⟨server, env.toLowerCase channel, cstr "[object Object]"⟩ none now) file

end Handlers

/-- An event that the plugin records. -/
inductive Event
  | join (server origin channel : CStr)
  | message (server origin channel message : CStr)
  | me (server origin channel message : CStr)
  | topic (server origin channel : CStr)
  | names (server channel : CStr) (list : List CStr)

/-- An event and its time. -/
structure Action where
  now : ℕ
  event : Event

/-- One event. -/
def step (env : JsEnv) (file : Option Db) (a : Action) : Option (Option Db) :=
  match a.event with
  | .join server origin channel => onJoin env file server origin channel a.now
  | .message server origin channel message =>
    onMessage env file server origin channel message a.now
  | .me server origin channel message => onMessage env file server origin channel message a.now
  | .topic server origin channel => onTopic env file server origin channel a.now
  | .names server channel list => onNames env file server channel list a.now

/-! ## The entries that are expected -/

/-- The entries of the nicknames that an event is about. -/
def Event.subjects (env : JsEnv) : Event → List Key
  | .join server origin channel => [⟨server, env.toLowerCase channel, nick env origin⟩]
  | .message server origin channel _ => [⟨server, env.toLowerCase channel, nick env origin⟩]
  | .me server origin channel _ => [⟨server, env.toLowerCase channel, nick env origin⟩]
  | .topic server origin channel => [⟨server, env.toLowerCase channel, nick env origin⟩]
  | .names server channel list =>
    list.map fun nickname => ⟨server, env.toLowerCase channel, env.toLowerCase nickname⟩

/-- The text of a message or an action. -/
def Event.text : Event → Option CStr
  | .join _ _ _ => none
  | .message _ _ _ said => some said
  | .me _ _ _ said => some said
  | .topic _ _ _ => none
  | .names _ _ _ => none

/-- The events about a nickname. -/
def about (env : JsEnv) (key : Key) (as : List Action) : List Action :=
  as.filter fun a => key ∈ a.event.subjects env

/-- The entry that a nickname should have: the time of the last event about it, and the text and the
time of its last message or action. -/
def expected (env : JsEnv) (as : List Action) (key : Key) : Option Entry :=
  (about env key as).getLast?.map fun a =>
    { timestamp := a.now
      message := ((about env key as).filterMap fun a => a.event.text.map (·, a.now)).getLast? }

/-- After the events, the database has the entries that are expected. -/
def IsRecorded (env : JsEnv) (as : List Action) : Prop :=
  ∃ file, Runs.exec (step env) none as = some file ∧
    ∀ key, stored file key = expected env as key

/-- The handler does what it should: the names are found again, a text is not empty, a topic is set
by who has the name of the channel, and a list has no names. -/
def Event.IsHandled (env : JsEnv) : Event → Prop
  | .join server origin channel =>
    Key.isValid env ⟨server, env.toLowerCase channel, nick env origin⟩ = true
  | .message server origin channel said | .me server origin channel said =>
    Key.isValid env ⟨server, env.toLowerCase channel, nick env origin⟩ = true ∧
      said ≠ [] ∧ env.isText said = true
  | .topic server origin channel =>
    Key.isValid env ⟨server, env.toLowerCase channel, nick env origin⟩ = true ∧
      nick env origin = env.toLowerCase channel
  | .names _ _ list => list = []

/-! ## What the handlers record -/

section Record

variable {env : JsEnv} {file : Option Db} {key : Key} {now : ℕ}

/-- A valid key changes its own entry only. -/
theorem stored_write (file : Option Db) (message : Option CStr) (now : ℕ)
    (hkey : key.isValid env = true) (hmessage : message.all env.isText = true) :
    ∃ file', write env file key message now = some file' ∧
      ∀ key', stored file' key' =
        if key' = key then some (newEntry file key message now) else stored file key' :=
  ⟨_, if_pos (by rw [hkey, hmessage]; rfl), fun key' => Db.entry_put _ _ _ _⟩

/-- The text that is expected is that of the last message or action. -/
theorem message_expected (env : JsEnv) (as : List Action) (key : Key) :
    (expected env as key).bind (·.message) =
      ((about env key as).filterMap fun a => a.event.text.map (·, a.now)).getLast? := by
  rw [expected]
  cases hlast : (about env key as).getLast? with
  | none => rw [List.getLast?_eq_none_iff.1 hlast, Option.map_none, Option.bind_none]; rfl
  | some a => rfl

/-- The entry that is expected after one more event. -/
theorem expected_append (env : JsEnv) (as : List Action) (a : Action) (key : Key) :
    expected env (as ++ [a]) key =
      if key ∈ a.event.subjects env then
        some
          { timestamp := a.now
            message := (a.event.text.map (·, a.now)).or ((expected env as key).bind (·.message)) }
      else expected env as key := by
  by_cases hkey : key ∈ a.event.subjects env
  · have habout : about env key (as ++ [a]) = about env key as ++ [a] := by
      simp [about, hkey]
    have hlast : ([a].filterMap fun a => a.event.text.map (·, a.now)).getLast? =
        a.event.text.map (·, a.now) := by
      cases htext : a.event.text <;> simp [htext]
    rw [if_pos hkey, message_expected, expected, habout, List.getLast?_concat, Option.map_some,
      List.filterMap_append, List.getLast?_append, hlast]
  · have habout : about env key (as ++ [a]) = about env key as := by
      simp [about, hkey]
    rw [if_neg hkey, expected, expected, habout]

/-- A write for the one nickname that an event is about records what is expected. -/
theorem stored_eq_expected {as : List Action} {event : Event} {file' : Option Db}
    (hfile : ∀ key, stored file key = expected env as key) (hne : event.text ≠ some [])
    (hsubjects : event.subjects env = [key])
    (hstored : ∀ key', stored file' key' =
      if key' = key then some (newEntry file key event.text now) else stored file key')
    (key' : Key) : stored file' key' = expected env (as ++ [⟨now, event⟩]) key' := by
  rw [hstored, expected_append]
  dsimp only
  rw [hsubjects, ← hfile]
  by_cases hkey : key' = key
  · subst hkey
    rw [if_pos rfl, if_pos (List.mem_singleton_self _)]
    -- without a text the message of the entry stays
    generalize event.text = message at hne
    rcases message with _ | _ | ⟨c, text⟩
    · rfl
    · exact absurd rfl hne
    · rfl
  · rw [if_neg hkey, if_neg (by simpa using hkey)]

/-- An event that is handled records what is expected. -/
theorem stored_step {as : List Action} {a : Action} (hhandled : a.event.IsHandled env)
    (hfile : ∀ key, stored file key = expected env as key) :
    ∃ file', step env file a = some file' ∧
      ∀ key, stored file' key = expected env (as ++ [a]) key := by
  obtain ⟨now, event⟩ := a
  cases event with
  | join server origin channel =>
    obtain ⟨file', hwrite, hstored⟩ := stored_write file none now hhandled rfl
    exact ⟨file', hwrite, stored_eq_expected hfile (by simp [Event.text]) rfl hstored⟩
  | message server origin channel said =>
    obtain ⟨hvalid, hne, htext⟩ := hhandled
    obtain ⟨file', hwrite, hstored⟩ := stored_write file (some said) now hvalid htext
    exact ⟨file', hwrite, stored_eq_expected hfile (by simpa [Event.text] using hne) rfl hstored⟩
  | me server origin channel said =>
    obtain ⟨hvalid, hne, htext⟩ := hhandled
    obtain ⟨file', hwrite, hstored⟩ := stored_write file (some said) now hvalid htext
    exact ⟨file', hwrite, stored_eq_expected hfile (by simpa [Event.text] using hne) rfl hstored⟩
  | topic server origin channel =>
    obtain ⟨hvalid, hsame⟩ := hhandled
    rw [hsame] at hvalid
    obtain ⟨file', hwrite, hstored⟩ := stored_write file none now hvalid rfl
    -- the nickname is written in the place of the channel, which has the same name
    refine ⟨file', ?_, stored_eq_expected hfile (by simp [Event.text])
      (by rw [Event.subjects, hsame]) hstored⟩
    rw [step]
    dsimp only
    rw [onTopic, hsame, hwrite]
  | names server channel list =>
    obtain rfl : list = [] := hhandled
    refine ⟨file, rfl, fun key => ?_⟩
    rw [hfile, expected_append, if_neg (by simp [Event.subjects])]

end Record

/-- If the handlers do what they should with every event of a run, the database is as expected after
each of them. -/
theorem isRecorded_of_forall (env : JsEnv) {as : List Action}
    (hhandled : ∀ a ∈ as, a.event.IsHandled env) : IsRecorded env as := by
  induction as using List.reverseRecOn with
  | nil => exact ⟨none, rfl, fun key => rfl⟩
  | append_singleton as a ih =>
    obtain ⟨file, hexec, hfile⟩ := ih fun b hb => hhandled b (by simp [hb])
    obtain ⟨file', hstep, hfile'⟩ := stored_step (hhandled a (by simp)) hfile
    refine ⟨file', ?_, hfile'⟩
    rw [Runs.exec_append, hexec, Option.bind_some, Runs.exec_cons, hstep]
    rfl

/-- A user joins a channel and says something. -/
theorem isRecorded_jean :
    IsRecorded (asciiEnv (cstr "history"))
      [⟨1, .join (cstr "libera") (cstr "jean!jean@host") (cstr "#staff")⟩,
        ⟨2, .message (cstr "libera") (cstr "jean!jean@host") (cstr "#staff") (cstr "hello")⟩] := by
  refine isRecorded_of_forall _ fun a ha => ?_
  rcases List.mem_pair.1 ha with rfl | rfl
  · rw [Event.IsHandled]
    decide
  · exact ⟨by decide, by decide, by decide⟩

/-- A topic is recorded for a nickname that has the name of the channel. -/
theorem not_forall_isRecorded : ¬ ∀ (env : JsEnv) (as : List Action), IsRecorded env as := by
  intro h
  obtain ⟨file, hexec, hfile⟩ := h (asciiEnv (cstr "history"))
    [⟨1, .topic (cstr "libera") (cstr "jean!jean@host") (cstr "#staff")⟩]
  cases hexec
  have hentry := hfile ⟨cstr "libera", cstr "#staff", cstr "jean"⟩
  exact absurd hentry (by decide)

end History

end Irccd
