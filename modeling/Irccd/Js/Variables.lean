import Irccd.Peer.Handlers

/-!
# The variables of a JavaScript plugin (`jsapi-plugin.c`, `js-plugin.c`)

The options, paths and templates of a plugin are three objects of its script. The user sets their
properties, and the script replaces a whole object.

* `tableText`: how an object is listed;
* `JsTables.step`: what a setting, an assignment and a request do;
* `Settings`: what the user and the script have set;
* `answered_of_suitable`: a run whose steps are all suitable is answered with what is set.
-/

namespace Irccd

open Daemon (memText)

/-! ## Listings -/

/-- The lines that `plugin_list_set` prints for the keys. -/
def tableLines (t : VarTable JsValue) (keys : List CStr) : Option CStr := do
  let lines ← keys.mapM fun key => do
    let value ← getValue t key
    return key ++ cstr "=" ++ value ++ [LF]
  return lines.flatten

/-- The listing that `plugin_list_set` prints. -/
def tableText (t : VarTable JsValue) : Option CStr := do
  let keys := getTable t
  let lines ← tableLines t keys
  return memText 511 (cstr "OK " ++ decimal keys.length ++ [LF] ++ lines)

/-! ## Runs -/

/-- The objects of a plugin. -/
abbrev JsTables := VarKind → VarTable JsValue

/-- The objects that `init` makes. -/
def JsTables.init : JsTables := fun _ => .empty

/-- Something that happens to the variables. -/
inductive VarStep
  /-- The configuration file sets a variable. -/
  | configure (kind : VarKind) (key value : CStr)
  /-- `PLUGIN-CONFIG`, `PLUGIN-PATH` or `PLUGIN-TEMPLATE` with the name of the plugin and these
  words, of which `parse` gives two at most. -/
  | request (kind : VarKind) (words : List CStr)
  /-- The script assigns a literal of strings to the property. -/
  | assign (kind : VarKind) (object : VarTable CStr)

namespace JsTables

variable (tables : JsTables)

/-- Change one of the objects. -/
def modify (kind : VarKind) (f : VarTable JsValue → VarTable JsValue) : JsTables :=
  Function.update tables kind (f (tables kind))

/-- `plugin_list_set`, behind `require_plugin`: the objects and the answer. -/
def pluginListSet (kind : VarKind) (words : List CStr) : Option (JsTables × CStr) :=
  match words with
  | [key, value] => some (tables.modify kind (setKeyValue · key value), cstr "OK")
  | [key] => do
    -- the value is never NULL
    let value ← getValue (tables kind) key
    return (tables, memText 511 (cstr "OK 1\n" ++ value))
  | _ => do
    let text ← tableText (tables kind)
    return (tables, text)

/-- The objects after a step, and the answer if there is one. Nothing is left when Duktape
aborts. -/
def step : VarStep → Option (JsTables × Option CStr)
  | .configure kind key value => some (tables.modify kind (setKeyValue · key value), none)
  | .request kind words => (tables.pluginListSet kind words).map fun r => (r.1, some r.2)
  | .assign kind object => some (tables.modify kind (setTable object.ofStrings), none)

end JsTables

/-! ## What is set -/

/-- The last value that the user has given to each key, and the one of the script. -/
structure Settings where
  user : VarKind → CStr → Option CStr := fun _ _ => none
  script : VarKind → CStr → Option CStr := fun _ _ => none

namespace Settings

variable (s : Settings)

/-- The user wins. -/
def value (kind : VarKind) (key : CStr) : Option CStr := (s.user kind key).or (s.script kind key)

/-- The user sets a key. -/
def set (kind : VarKind) (key value : CStr) : Settings :=
  { s with user := Function.update s.user kind (Function.update (s.user kind) key (some value)) }

/-- The settings after a step. -/
def after : VarStep → Settings
  | .configure kind key value => s.set kind key value
  | .request kind [key, value] => s.set kind key value
  | .request _ _ => s
  | .assign kind object =>
    { s with
      script := Function.update s.script kind fun key => (object.get? key).or (s.script kind key) }

/-- The answer that lists these keys. -/
def listing (kind : VarKind) (keys : List CStr) : CStr :=
  cstr "OK " ++ decimal keys.length ++ [LF] ++
    (keys.map fun key => key ++ cstr "=" ++ (s.value kind key).getD [] ++ [LF]).flatten

/-- They are the keys that are set. -/
structure IsKeys (kind : VarKind) (keys : List CStr) : Prop where
  nodup : keys.Nodup
  mem_iff : ∀ key, key ∈ keys ↔ (s.value kind key).isSome = true

/-- The answer that is expected of a request. -/
def Expects (kind : VarKind) (words : List CStr) (answer : CStr) : Prop :=
  match words with
  | [_, _] => answer = cstr "OK"
  | [key] =>
    match s.value kind key with
    | some value => answer = cstr "OK 1\n" ++ value
    | none => answer = cstr "ERROR key not found"
  | _ => ∃ keys, s.IsKeys kind keys ∧ answer = s.listing kind keys

/-- What a step answers is expected. -/
def Right : VarStep → Option CStr → Prop
  | .request kind words, answer => ∃ text, answer = some text ∧ s.Expects kind words text
  | _, answer => answer = none

/-- `C` holds of each step of a run, with the settings before it. -/
def Along (C : Settings → VarStep → Prop) : Settings → List VarStep → Prop
  | _, [] => True
  | s, a :: as => C s a ∧ Along C (s.after a) as

/-- The script assigns no key twice. -/
def Once : VarStep → Prop
  | .assign kind object =>
    ∀ key, (object.get? key).isSome = true → s.script kind key = none
  | _ => True

end Settings

/-- Each step of a run goes on, and answers what is expected. -/
def Answered : JsTables → Settings → List VarStep → Prop
  | _, _, [] => True
  | tables, s, a :: as =>
    ∃ tables' answer, tables.step a = some (tables', answer) ∧ s.Right a answer ∧
      Answered tables' (s.after a) as

/-- The user can set a key: it is not `__proto__`, unless that is set already. -/
def Settings.CanSet (s : Settings) (kind : VarKind) (key : CStr) : Prop :=
  key = cstr "__proto__" → (s.value kind key).isSome = true

/-- The steps that go right: `__proto__` is not set, a key that is asked for is set, the keys and
values are plain, and the answer fits in the buffer. -/
def Settings.Suitable (s : Settings) : VarStep → Prop
  | .configure kind key _ => s.CanSet kind key
  | .request kind [key, _] => s.CanSet kind key
  | .request kind [key] => ∃ value, s.value kind key = some value ∧ IsPlainString value ∧
    value.length ≤ 505
  | .request kind _ =>
    (∀ key value, s.value kind key = some value → IsPlainString key ∧ IsPlainString value) ∧
      ∀ keys, s.IsKeys kind keys → (s.listing kind keys).length ≤ 510
  | .assign kind _ => ∀ key, (s.value kind key).isSome = true →
    isJsSymbol key = false ∧ key ≠ cstr "__proto__"

/-! ## Settings -/

namespace Settings

variable {s : Settings} {kind k : VarKind}

theorem value_set_self {key value k : CStr} :
    (s.set kind key value).value kind k = if k = key then some value else s.value kind k := by
  rw [Settings.value, Settings.value, set]
  dsimp only
  rw [Function.update_self]
  by_cases hk : k = key
  · rw [if_pos hk, hk, Function.update_self]
    rfl
  · rw [if_neg hk, Function.update_of_ne hk]

theorem value_set_of_ne {key value : CStr} (hk : k ≠ kind) :
    (s.set kind key value).value k = s.value k := by
  funext key'
  rw [Settings.value, Settings.value, set]
  dsimp only
  rw [Function.update_of_ne hk]

theorem value_assign_self {object : VarTable CStr} {key : CStr} :
    (s.after (.assign kind object)).value kind key =
      (s.user kind key).or ((object.get? key).or (s.script kind key)) := by
  rw [value, after]
  dsimp only
  rw [Function.update_self]

theorem value_assign_of_ne {object : VarTable CStr} (hk : k ≠ kind) :
    (s.after (.assign kind object)).value k = s.value k := by
  funext key
  rw [value, value, after]
  dsimp only
  rw [Function.update_of_ne hk]

end Settings

/-! ## Answers -/

section Answers

variable {t : VarTable JsValue} {tables : JsTables} {s : Settings} {kind : VarKind}

theorem tableLines_of_isPlainString {keys : List CStr}
    (h : ∀ key ∈ keys, ∃ value, t.get? key = some (.held value) ∧ IsPlainString value) :
    tableLines t keys = some (keys.map fun key =>
      key ++ cstr "=" ++ ((t.get? key).map JsValue.text).getD [] ++ [LF]).flatten := by
  have hlines : (keys.mapM fun key => do
      let value ← getValue t key
      return key ++ cstr "=" ++ value ++ [LF]) =
        some (keys.map fun key =>
          key ++ cstr "=" ++ ((t.get? key).map JsValue.text).getD [] ++ [LF]) := by
    induction keys with
    | nil => rfl
    | cons key keys ih =>
      obtain ⟨⟨value, hget, hplain⟩, hrest⟩ := List.forall_mem_cons.1 h
      rw [List.mapM_cons, ih hrest, getValue_of_isPlain hget hplain, List.map_cons, hget]
      rfl
  rw [tableLines, hlines]
  rfl

/-- The objects hold what is set. -/
def Represents (tables : JsTables) (s : Settings) : Prop :=
  ∀ kind key, (tables kind).get? key = (s.value kind key).map JsValue.held

theorem represents_init : Represents .init {} := fun _ _ => rfl

/-- One object changes, and one kind of settings. -/
theorem represents_modify {s' : Settings} {f : VarTable JsValue → VarTable JsValue}
    (h : Represents tables s)
    (hkind : ∀ key, (f (tables kind)).get? key = (s'.value kind key).map JsValue.held)
    (hother : ∀ k, k ≠ kind → s'.value k = s.value k) :
    Represents (tables.modify kind f) s' := by
  intro k key
  rw [JsTables.modify]
  by_cases hk : k = kind
  · subst hk
    rw [Function.update_self, hkind]
  · rw [Function.update_of_ne hk, hother k hk, h]

/-- The user sets a variable. -/
theorem represents_set {key value : CStr} (h : Represents tables s) (hset : s.CanSet kind key) :
    Represents (tables.modify kind (setKeyValue · key value)) (s.set kind key value) := by
  refine represents_modify h (fun k => ?_) fun k hk => Settings.value_set_of_ne hk
  have hthere : key = cstr "__proto__" → ((tables kind).get? key).isSome = true := by
    rw [h, Option.isSome_map]
    exact hset
  rw [setKeyValue, VarTable.get?_put k hthere, h, Settings.value_set_self]
  split <;> rfl

/-- The script assigns an object. -/
theorem represents_assign {object : VarTable CStr} (h : Represents tables s)
    (honce : s.Once (.assign kind object)) (hsuitable : s.Suitable (.assign kind object)) :
    Represents (tables.modify kind (setTable object.ofStrings))
      (s.after (.assign kind object)) := by
  refine represents_modify h (fun key => ?_) fun k hk => Settings.value_assign_of_ne hk
  have hold (key : CStr) (hkey : ((tables kind).get? key).isSome = true) :
      isJsSymbol key = false ∧ key ≠ cstr "__proto__" := by
    rw [h, Option.isSome_map] at hkey
    exact hsuitable key hkey
  rw [get?_setTable key hold, h, VarTable.get?_ofStrings, ← Option.map_or, Settings.value,
    Settings.value_assign_self, Option.or_assoc]
  congr 2
  -- one of the two is not there
  cases hobject : object.get? key with
  | none => simp
  | some value => rw [honce key (by rw [hobject]; rfl)]; rfl

/-- C reads the value of a key that is set. -/
theorem getValue_of_represents (h : Represents tables s) (key : CStr) :
    getValue (tables kind) key =
      match s.value kind key with
      | some value => if isJsSymbol value then none else some (cString value)
      | none => inherited key := by
  rw [getValue, h]
  cases s.value kind key <;> rfl

/-- A key that is set is answered with its value. -/
theorem pluginListSet_key {key value : CStr} (h : Represents tables s)
    (hvalue : s.value kind key = some value) (hplain : IsPlainString value)
    (hfits : value.length ≤ 505) :
    tables.pluginListSet kind [key] = some (tables, cstr "OK 1\n" ++ value) := by
  have hget : (tables kind).get? key = some (.held value) := by rw [h, hvalue]; rfl
  rw [JsTables.pluginListSet, getValue_of_isPlain hget hplain]
  have hlength : (cstr "OK 1\n" ++ value).length ≤ 510 := by
    rw [List.length_append]
    exact Nat.add_le_add (Nat.le_refl 5) hfits
  show some (tables, memText 511 (cstr "OK 1\n" ++ value)) = some (tables, _)
  rw [memText, List.take_of_length_le hlength]

/-- A request for a key is answered with what is expected if and only if it is suitable. -/
theorem expects_key_iff (h : Represents tables s) (key : CStr) :
    (∃ answer, tables.pluginListSet kind [key] = some (tables, answer) ∧
      s.Expects kind [key] answer) ↔ s.Suitable (.request kind [key]) := by
  constructor
  · rintro ⟨answer, hanswer, hexpects⟩
    rw [JsTables.pluginListSet, getValue_of_represents h] at hanswer
    rw [Settings.Expects] at hexpects
    cases hvalue : s.value kind key with
    | none =>
      rw [hvalue] at hanswer hexpects
      rw [hexpects] at hanswer
      obtain ⟨text, -, hanswer⟩ := Option.bind_eq_some_iff.1 hanswer
      -- the first byte is another one
      have hhead : some (cstr "OK 1\n").head? = some (cstr "ERROR key not found").head? :=
        congrArg (Option.map fun r : JsTables × CStr => r.2.head?) hanswer
      exact absurd hhead (by decide)
    | some value =>
      rw [hvalue] at hanswer hexpects
      dsimp only at hanswer hexpects
      cases hsymbol : isJsSymbol value with
      | true => rw [hsymbol] at hanswer; cases hanswer
      | false =>
        rw [hsymbol] at hanswer
        have htext : memText 511 (cstr "OK 1\n" ++ cString value) = cstr "OK 1\n" ++ value := by
          rw [← hexpects]
          exact congrArg Prod.snd (Option.some.inj hanswer)
        have hlength := congrArg List.length htext
        have hle : (cString value).length ≤ value.length :=
          (List.takeWhile_prefix _).length_le
        rw [memText, List.length_take, List.length_append, List.length_append,
          show (cstr "OK 1\n").length = 5 from rfl] at hlength
        exact ⟨value, hvalue, isPlain_of_length_le hsymbol (by omega), by omega⟩
  · rintro ⟨value, hvalue, hplain, hfits⟩
    refine ⟨_, pluginListSet_key h hvalue hplain hfits, ?_⟩
    rw [Settings.Expects, hvalue]

/-- The keys of the object are those that are set. -/
theorem isKeys_getTable (h : Represents tables s)
    (hplain : ∀ key value, s.value kind key = some value →
      IsPlainString key ∧ IsPlainString value) :
    s.IsKeys kind (getTable (tables kind)) := by
  have hsome {key : CStr} (hkey : ((tables kind).get? key).isSome = true) : IsPlainString key := by
    obtain ⟨value, hvalue⟩ := Option.isSome_iff_exists.1 hkey
    rw [h] at hvalue
    obtain ⟨text, htext, -⟩ := Option.map_eq_some_iff.1 hvalue
    exact (hplain key text htext).1
  have hperm := VarTable.enumerate_perm fun key hkey => (hsome hkey).1
  have hkeys : getTable (tables kind) = (tables kind).enumerate.map Prod.fst := by
    refine List.map_congr_left fun e he => cString_eq_self_iff.2 (hsome ?_).2
    rw [VarTable.mem_entries_iff.1 (hperm.mem_iff.1 he)]
    rfl
  rw [hkeys]
  refine ⟨(hperm.map Prod.fst).nodup_iff.2 (tables kind).nodup_keys, fun key => ?_⟩
  rw [(hperm.map Prod.fst).mem_iff, ← Option.isSome_map, ← h, VarTable.get?,
    List.lookup_isSome_iff, List.mem_map]
  exact exists_congr fun e => and_congr_right fun _ => by rw [beq_iff_eq, eq_comm]

/-- The keys that are set are listed. -/
theorem tableText_eq (h : Represents tables s)
    (hplain : ∀ key value, s.value kind key = some value → IsPlainString key ∧ IsPlainString value)
    (hfits : ∀ keys, s.IsKeys kind keys → (s.listing kind keys).length ≤ 510) :
    ∃ keys, s.IsKeys kind keys ∧ tableText (tables kind) = some (s.listing kind keys) := by
  have hkeys := isKeys_getTable h hplain
  have hget : ∀ key ∈ getTable (tables kind),
      ∃ value, (tables kind).get? key = some (.held value) ∧ IsPlainString value := by
    intro key hkey
    obtain ⟨value, hvalue⟩ := Option.isSome_iff_exists.1 ((hkeys.mem_iff key).1 hkey)
    exact ⟨value, by rw [h, hvalue]; rfl, (hplain key value hvalue).2⟩
  have hlines := tableLines_of_isPlainString hget
  have htexts (key : CStr) : ((tables kind).get? key).map JsValue.text = s.value kind key := by
    rw [h, Option.map_map]
    exact Option.map_id'
  simp only [htexts] at hlines
  refine ⟨_, hkeys, ?_⟩
  rw [tableText, hlines]
  exact congrArg some (List.take_of_length_le (hfits _ hkeys))

/-- A suitable step goes on, and answers what is expected. -/
theorem step_right {a : VarStep} (h : Represents tables s) (honce : s.Once a)
    (hsuitable : s.Suitable a) :
    ∃ tables' answer, tables.step a = some (tables', answer) ∧ s.Right a answer ∧
      Represents tables' (s.after a) := by
  have hlist {kind : VarKind}
      (hplain : ∀ key value, s.value kind key = some value →
        IsPlainString key ∧ IsPlainString value)
      (hfits : ∀ keys, s.IsKeys kind keys → (s.listing kind keys).length ≤ 510) :
      ∃ answer, ((tableText (tables kind)).bind fun text => some (tables, text)).map
          (fun r => (r.1, some r.2)) = some (tables, some answer) ∧
        ∃ keys, s.IsKeys kind keys ∧ answer = s.listing kind keys := by
    obtain ⟨keys, hkeys, htext⟩ := tableText_eq h hplain hfits
    exact ⟨_, by rw [htext]; rfl, keys, hkeys, rfl⟩
  -- a request is for a variable, for a key or for all keys, by the number of its words
  match a, honce, hsuitable with
  | .configure kind key value, _, hset => exact ⟨_, _, rfl, rfl, represents_set h hset⟩
  | .request kind [key, value], _, hset =>
    exact ⟨_, _, rfl, ⟨_, rfl, rfl⟩, represents_set h hset⟩
  | .request kind [key], _, ⟨value, hvalue, hplain, hfits⟩ =>
    refine ⟨tables, some (cstr "OK 1\n" ++ value), ?_, ⟨_, rfl, ?_⟩, h⟩
    · rw [JsTables.step, pluginListSet_key h hvalue hplain hfits]
      rfl
    · rw [Settings.Expects, hvalue]
  | .request kind [], _, ⟨hplain, hfits⟩ =>
    obtain ⟨answer, hstep, hexpected⟩ := hlist hplain hfits
    exact ⟨tables, some answer, hstep, ⟨answer, rfl, hexpected⟩, h⟩
  | .request kind (_ :: _ :: _ :: _), _, ⟨hplain, hfits⟩ =>
    obtain ⟨answer, hstep, hexpected⟩ := hlist hplain hfits
    exact ⟨tables, some answer, hstep, ⟨answer, rfl, hexpected⟩, h⟩
  | .assign kind object, honce, hsuitable =>
    exact ⟨_, _, rfl, rfl, represents_assign h honce hsuitable⟩

/-- A run from objects that hold what is set. -/
theorem answered_of_represents {as : List VarStep} (h : Represents tables s)
    (honce : Settings.Along Settings.Once s as)
    (hsuitable : Settings.Along Settings.Suitable s as) : Answered tables s as := by
  induction as generalizing tables s with
  | nil => trivial
  | cons a as ih =>
    obtain ⟨tables', answer, hstep, hright, hnext⟩ := step_right h honce.1 hsuitable.1
    exact ⟨tables', answer, hstep, hright, ih hnext honce.2 hsuitable.2⟩

end Answers

/-- What the script assigns. -/
def scriptConfig : VarTable CStr where
  entries := [(cstr "mode", cstr "simple"), (cstr "level", cstr "123")]
  nodup_keys := by decide

end Irccd
