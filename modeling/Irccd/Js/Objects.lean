import Irccd.Plugins.Basic

/-!
# Tables of variables (`js-plugin.c`, `jsapi-plugin.c`)

A plugin shows tables of variables. Those of a script are objects, and Duktape keeps the text of a
value only as long as something holds it.

* `VarTable`: a table, where a key has one value;
* `JsValue`: a value of a script, with the text that `duk_to_string` makes of it;
* `VarTable.put`, `VarTable.enumerate`: `duk_put_prop` and `duk_enum` on an object;
* `setTable`, `setKeyValue`, `getValue`, `getTable`: the functions on an object of a script;
* `IsPlainString`: a string that C reads as Duktape has it.
-/

namespace Irccd

/-! ## Tables -/

section Basic

variable {α : Type}

/-- A table of variables, where a key has one value. -/
structure VarTable (α : Type) where
  entries : List (CStr × α)
  nodup_keys : (entries.map Prod.fst).Nodup

/-- Give a value to a key. -/
def setVar (key : CStr) (value : α) : List (CStr × α) → List (CStr × α)
  | [] => [(key, value)]
  | v :: vars => if v.1 = key then (key, value) :: vars else v :: setVar key value vars

theorem keys_setVar (key : CStr) (value : α) (vars : List (CStr × α)) :
    (setVar key value vars).map Prod.fst =
      if key ∈ vars.map Prod.fst then vars.map Prod.fst else vars.map Prod.fst ++ [key] := by
  induction vars with
  | nil => simp [setVar]
  | cons v vars ih =>
    rw [setVar]
    by_cases hv : v.1 = key
    · simp [hv]
    · rw [if_neg hv, List.map_cons, ih]
      by_cases hkey : key ∈ vars.map Prod.fst
      · simp [hkey]
      · simp [hkey, Ne.symm hv]

namespace VarTable

/-- Give a value to a key of the table. -/
def set (table : VarTable α) (key : CStr) (value : α) : VarTable α where
  entries := setVar key value table.entries
  nodup_keys := by
    rw [keys_setVar]
    split
    · exact table.nodup_keys
    · rename_i hkey
      exact List.Nodup.append table.nodup_keys (List.nodup_singleton key) (by simpa using hkey)

end VarTable

end Basic

/-! ## Strings and objects of Duktape -/

/-- Duktape takes a string with one of these first bytes for a symbol. -/
def isJsSymbol (s : CStr) : Bool :=
  match s with
  | [] => false
  | c :: _ => c = 0x80 || c = 0x81 || c = 0x82 || c = 0xff

/-- The index of an array that a key is. -/
def arrayIndex (key : CStr) : Option ℕ :=
  let n := key.foldl (fun n c => 10 * n + (c.toNat - 48)) 0
  if decimal n = key ∧ n < 2 ^ 32 - 1 then some n else none

/-- The string is no symbol, and has no NUL. -/
def IsPlainString (s : CStr) : Prop := isJsSymbol s = false ∧ 0 ∉ s

/-- A value of a script, with the text that `duk_to_string` makes of it. -/
inductive JsValue
  /-- Duktape holds the text: that of a string, or of a constant such as `true`. -/
  | held (text : CStr)
  /-- Nothing holds the text, as that of a number, an object or a function. It is freed when it is
  popped. -/
  | made (text : CStr)

namespace JsValue

/-- What `duk_to_string` makes of the value. -/
def text : JsValue → CStr
  | held text | made text => text

/-- The text that C reads when the value has been popped, if it is there. It is not there either
when Duktape aborts because the value is a symbol. -/
def read : JsValue → Option CStr
  | held text => if isJsSymbol text then none else some (cString text)
  | made _ => none

/-- The text is there. -/
def HasText : JsValue → Prop
  | held text => isJsSymbol text = false
  | made _ => False

/-- C reads the whole text of the value. -/
def IsPlain : JsValue → Prop
  | held text => IsPlainString text
  | made _ => False

end JsValue

/-- The text of a property that an object without such a property of its own inherits, if it is
there to be read. What `duk_to_string` makes of a function or an object is freed when it is
popped. -/
def inherited (key : CStr) : Option CStr :=
  if objectPrototype.any fun name => name = key then none else some (cstr "undefined")

namespace VarTable

section Operations

variable {α : Type}

/-- `{}` -/
def empty : VarTable α := ⟨[], List.nodup_nil⟩

variable (t : VarTable α)

/-- The value of a property of its own. -/
def get? (key : CStr) : Option α := t.entries.lookup key

/-- `duk_put_prop` of a value that is no object: `__proto__` is a setter of all objects, which
ignores it. -/
def put (key : CStr) (value : α) : VarTable α :=
  if key = cstr "__proto__" ∧ t.get? key = none then t else t.set key value

/-- `duk_enum`: the indices come first, and the symbols are left out. -/
def enumerate : List (CStr × α) :=
  -- an index is enumerated in the order of the numbers, another key in that of its creation
  let entries := t.entries.filter fun e => !isJsSymbol e.1
  (entries.filter fun e => (arrayIndex e.1).isSome).mergeSort
      (fun e e' => (arrayIndex e.1).getD 0 ≤ (arrayIndex e'.1).getD 0) ++
    entries.filter fun e => !(arrayIndex e.1).isSome

end Operations

/-- An object whose values are all strings. -/
def ofStrings (t : VarTable CStr) : VarTable JsValue where
  entries := t.entries.map fun e => (e.1, .held e.2)
  nodup_keys := by
    rw [List.map_map]
    exact t.nodup_keys

/-- The texts of the values. -/
def texts (t : VarTable JsValue) : List (CStr × CStr) := t.entries.map fun e => (e.1, e.2.text)

end VarTable

/-! ## The functions on an object -/

/-- `set` of `jsapi-plugin.c`: the old table is merged into the one that the script assigns. -/
def setTable (object old : VarTable JsValue) : VarTable JsValue :=
  old.enumerate.foldl (fun t e => t.put e.1 e.2) object

/-- `get_table` -/
def getTable (t : VarTable JsValue) : List CStr := t.enumerate.map fun e => cString e.1

/-- `set_key_value` -/
def setKeyValue (t : VarTable JsValue) (key value : CStr) : VarTable JsValue :=
  t.put key (.held value)

/-- `get_value`. There is none when Duktape aborts because the value is a symbol, or has freed its
text. -/
def getValue (t : VarTable JsValue) (key : CStr) : Option CStr :=
  match t.get? key with
  | some value => value.read
  | none => inherited key

/-! ## What a table holds -/

section Tables

variable {α : Type}

theorem lookup_cons_eq_ite (key name : CStr) (value : α) (entries : List (CStr × α)) :
    ((name, value) :: entries).lookup key =
      if key = name then some value else entries.lookup key := by
  rw [List.lookup_cons, beq_eq_decide]
  by_cases hkey : key = name <;> simp [hkey]

theorem lookup_setVar (key : CStr) (value : α) (k : CStr) (vars : List (CStr × α)) :
    (setVar key value vars).lookup k = if k = key then some value else vars.lookup k := by
  induction vars with
  | nil => rw [setVar, lookup_cons_eq_ite]
  | cons v vars ih =>
    obtain ⟨name, old⟩ := v
    rw [setVar]
    by_cases hname : name = key
    · rw [if_pos hname, lookup_cons_eq_ite, lookup_cons_eq_ite, hname]
      by_cases hk : k = key <;> simp [hk]
    · rw [if_neg hname, lookup_cons_eq_ite, lookup_cons_eq_ite, ih]
      by_cases hk : k = key
      · simp [hk, Ne.symm hname]
      · simp [hk]

/-- A key of a table has one value. -/
theorem lookup_eq_some_iff_mem {entries : List (CStr × α)} {key : CStr} {value : α}
    (hnodup : (entries.map Prod.fst).Nodup) :
    entries.lookup key = some value ↔ (key, value) ∈ entries := by
  induction entries with
  | nil => simp
  | cons e entries ih =>
    obtain ⟨name, old⟩ := e
    obtain ⟨hname, hnodup⟩ := List.nodup_cons.1 hnodup
    rw [lookup_cons_eq_ite, List.mem_cons, Prod.mk.injEq]
    by_cases hkey : key = name
    · subst hkey
      -- the key is not again among the other entries
      have hother : (key, value) ∉ entries := fun hmem =>
        hname (List.mem_map.2 ⟨_, hmem, rfl⟩)
      simp [hother, eq_comm]
    · simp [hkey, ih hnodup]

/-- The order of the entries does not matter. -/
theorem lookup_perm {entries entries' : List (CStr × α)} (key : CStr)
    (hnodup : (entries.map Prod.fst).Nodup) (hperm : entries'.Perm entries) :
    entries'.lookup key = entries.lookup key := by
  have hnodup' : (entries'.map Prod.fst).Nodup := (hperm.map Prod.fst).nodup_iff.2 hnodup
  refine Option.ext fun value => ?_
  rw [lookup_eq_some_iff_mem hnodup, lookup_eq_some_iff_mem hnodup', hperm.mem_iff]

namespace VarTable

variable {t : VarTable α}

theorem get?_set (key : CStr) (value : α) (k : CStr) :
    (t.set key value).get? k = if k = key then some value else t.get? k :=
  lookup_setVar key value k t.entries

theorem get?_put {key : CStr} {value : α} (k : CStr)
    (hkey : key = cstr "__proto__" → (t.get? key).isSome = true) :
    (t.put key value).get? k = if k = key then some value else t.get? k := by
  rw [put, if_neg, get?_set]
  rintro ⟨hproto, hnone⟩
  rw [hnone] at hkey
  exact absurd (hkey hproto) Bool.false_ne_true

theorem mem_entries_iff {key : CStr} {value : α} :
    (key, value) ∈ t.entries ↔ t.get? key = some value :=
  (lookup_eq_some_iff_mem t.nodup_keys).symm

theorem enumerate_perm_filter : t.enumerate.Perm (t.entries.filter fun e => !isJsSymbol e.1) := by
  rw [enumerate]
  exact ((List.mergeSort_perm _ _).append_right _).trans (List.filter_append_perm _ _)

/-- The entries of a table without symbols are all enumerated. -/
theorem enumerate_perm (h : ∀ key, (t.get? key).isSome = true → isJsSymbol key = false) :
    t.enumerate.Perm t.entries := by
  have hall : t.entries.filter (fun e => !isJsSymbol e.1) = t.entries := by
    rw [List.filter_eq_self]
    intro e he
    have hget : t.get? e.1 = some e.2 := mem_entries_iff.1 he
    rw [h e.1 (by rw [hget]; rfl)]
    rfl
  exact hall ▸ enumerate_perm_filter

end VarTable

/-- What comes from the entries replaces what is there. -/
theorem get?_foldl_put {entries : List (CStr × α)} (key : CStr)
    (hnodup : (entries.map Prod.fst).Nodup)
    (hproto : ∀ e ∈ entries, e.1 ≠ cstr "__proto__") (t : VarTable α) :
    (entries.foldl (fun t e => t.put e.1 e.2) t).get? key =
      (entries.lookup key).or (t.get? key) := by
  -- on the entries, for all tables that they may be put in
  induction entries generalizing t with
  | nil => rfl
  | cons e entries ih =>
    obtain ⟨name, value⟩ := e
    obtain ⟨hname, hnodup⟩ := List.nodup_cons.1 hnodup
    obtain ⟨hfirst, hproto⟩ := List.forall_mem_cons.1 hproto
    rw [List.foldl_cons, ih hnodup hproto,
      VarTable.get?_put key fun heq => absurd heq hfirst, lookup_cons_eq_ite]
    by_cases hkey : key = name
    · subst hkey
      -- the key comes once, so no later entry replaces the value
      have hnone : entries.lookup key = none := by
        rw [List.lookup_eq_none_iff]
        intro e he
        rw [bne_iff_ne]
        exact fun heq => hname (List.mem_map.2 ⟨e, he, heq.symm⟩)
      simp [hnone]
    · simp [hkey]

/-- The old table wins over the new one. -/
theorem get?_setTable {object old : VarTable JsValue} (key : CStr)
    (h : ∀ key, (old.get? key).isSome = true → isJsSymbol key = false ∧ key ≠ cstr "__proto__") :
    (setTable object old).get? key = (old.get? key).or (object.get? key) := by
  have hperm := VarTable.enumerate_perm fun key hkey => (h key hkey).1
  have hnodup : (old.enumerate.map Prod.fst).Nodup :=
    (hperm.map Prod.fst).nodup_iff.2 old.nodup_keys
  have hproto : ∀ e ∈ old.enumerate, e.1 ≠ cstr "__proto__" := by
    intro e he
    have hget : old.get? e.1 = some e.2 := VarTable.mem_entries_iff.1 (hperm.mem_iff.1 he)
    exact (h e.1 (by rw [hget]; rfl)).2
  rw [setTable, get?_foldl_put key hnodup hproto, lookup_perm key old.nodup_keys hperm]
  rfl

/-- A string of which C reads the whole has no NUL. -/
theorem isPlain_of_length_le {text : CStr} (hsymbol : isJsSymbol text = false)
    (h : text.length ≤ (cString text).length) : IsPlainString text := by
  have hwhole : cString text = text := (List.takeWhile_prefix _).eq_of_length_le h
  exact ⟨hsymbol, cString_eq_self_iff.1 hwhole⟩

/-- A text that C reads has no NUL. -/
theorem nul_notMem_cString (s : CStr) : 0 ∉ cString s := fun hmem => by
  simpa using List.mem_takeWhile_imp hmem

theorem nul_notMem_read {value : JsValue} {text : CStr} (h : value.read = some text) :
    0 ∉ text := by
  cases value with
  | made => cases h
  | held s =>
    rw [JsValue.read] at h
    split at h
    · cases h
    · obtain rfl := Option.some.inj h
      exact nul_notMem_cString s

theorem nul_notMem_getValue {t : VarTable JsValue} {key text : CStr}
    (h : getValue t key = some text) : 0 ∉ text := by
  rw [getValue] at h
  cases hget : t.get? key with
  | none =>
    rw [hget] at h
    dsimp only [inherited] at h
    split at h
    · cases h
    · obtain rfl := Option.some.inj h
      decide
  | some value =>
    rw [hget] at h
    exact nul_notMem_read h

theorem JsValue.read_of_isPlain {value : JsValue} (h : value.IsPlain) :
    value.read = some value.text := by
  cases value with
  | made => exact h.elim
  | held s =>
    have hplain : IsPlainString s := h
    rw [read, hplain.1, if_neg Bool.false_ne_true, cString_eq_self_iff.2 hplain.2]
    rfl

theorem JsValue.isSome_read_iff {value : JsValue} : value.read.isSome = true ↔ value.HasText := by
  cases value with
  | made => exact iff_of_false Bool.false_ne_true not_false
  | held s => cases hsymbol : isJsSymbol s <;> simp [read, HasText, hsymbol]

/-- The text of a plain value is there, and has no NUL. -/
theorem JsValue.isPlain_iff {value : JsValue} :
    value.IsPlain ↔ value.HasText ∧ 0 ∉ value.text := by
  cases value with
  | made => exact iff_of_false not_false fun h => h.1
  | held s => exact Iff.rfl

theorem getValue_of_isPlain {t : VarTable JsValue} {key : CStr} {value : JsValue}
    (hget : t.get? key = some value) (h : value.IsPlain) :
    getValue t key = some value.text := by
  rw [getValue, hget]
  exact JsValue.read_of_isPlain h

/-! ## Tables of strings and of texts -/

theorem lookup_map_value {β : Type} (f : α → β) (key : CStr) (entries : List (CStr × α)) :
    (entries.map fun e => (e.1, f e.2)).lookup key = (entries.lookup key).map f := by
  induction entries with
  | nil => rfl
  | cons e entries ih =>
    obtain ⟨name, value⟩ := e
    rw [List.map_cons, lookup_cons_eq_ite, lookup_cons_eq_ite, ih]
    split <;> rfl

namespace VarTable

theorem get?_ofStrings (t : VarTable CStr) (key : CStr) :
    t.ofStrings.get? key = (t.get? key).map JsValue.held :=
  lookup_map_value JsValue.held key t.entries

theorem lookup_texts (t : VarTable JsValue) (key : CStr) :
    t.texts.lookup key = (t.get? key).map JsValue.text :=
  lookup_map_value JsValue.text key t.entries

theorem keys_texts (t : VarTable JsValue) : t.texts.map Prod.fst = t.entries.map Prod.fst := by
  rw [texts, List.map_map]
  rfl

end VarTable

end Tables

end Irccd
