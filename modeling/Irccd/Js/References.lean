import Mathlib.Data.List.Nodup
import Irccd.Foundations.Counted
import Irccd.Foundations.Runs
import Irccd.Util

/-!
# Who holds a server (`irccd.c`, `jsapi-server.c`)

A server is counted: the bot holds those on its list, and so does each JavaScript object that refers
to one. A server is taken off the list when its disconnection has been dispatched, and plugins may
do anything meanwhile.

* `Servers`: the servers ever allocated, the list of the bot, the objects, and the removals that
  have not returned;
* `Servers.step`: the calls of the bot, of the scripts and of the garbage collector;
* `Servers.held_iff`: exactly when the counts stay right and nothing is accessed that was freed.
-/

namespace Irccd

open Counted (access retain)

/-- The servers, with their names. `linked` is the list of the bot, `objects` has the server of each
JavaScript object, and `removing` that of each removal in progress, the innermost first. -/
structure Servers where
  cells : List (Counted.Cell CStr)
  linked : List ℕ
  objects : List ℕ
  removing : List ℕ

/-- What must not happen. -/
inductive ServerFault
  | misuse (why : Counted.Misuse)
  /-- `LL_DELETE` on an empty list. -/
  | emptyList
  deriving DecidableEq

namespace Servers

/-- Before the configuration. -/
def start : Servers := { cells := [], linked := [], objects := [], removing := [] }

section Operations

variable (s : Servers)

/-- A misuse of a counted server. -/
def lift {β : Type} : Except Counted.Misuse β → Except ServerFault β
  | .ok b => .ok b
  | .error why => .error (.misuse why)

/-- `irc_server_new` -/
def serverNew (name : CStr) : Servers := { s with cells := s.cells ++ [.fresh name] }

/-- The loop of `irc_bot_server_get`. -/
def search (cells : List (Counted.Cell CStr)) (name : CStr) : List ℕ → Except ServerFault (Option ℕ)
  | [] => .ok none
  | i :: rest => do
    let c ← lift (access cells i)
    if c.value = name then .ok (some i) else search cells name rest

/-- `irc_bot_server_get` -/
def serverGet (name : CStr) : Except ServerFault (Option ℕ) := search s.cells name s.linked

/-- `irc_server_incref` -/
def incref (i : ℕ) : Except ServerFault Servers := do
  let cells ← lift (retain s.cells i)
  return { s with cells }

/-- `irc_server_decref` -/
def decref (i : ℕ) : Except ServerFault Servers := do
  let cells ← lift (Counted.drop s.cells i)
  return { s with cells }

/-- `irc_bot_server_add` -/
def serverAdd (i : ℕ) : Except ServerFault Servers := do
  let c ← lift (access s.cells i)
  match ← s.serverGet c.value with
  | some _ => return s
  | none =>
    let s ← s.incref i
    return { s with linked := s.linked ++ [i] }

/-- `jsapi_server_push`, and the end of `Server_constructor`: a new object refers to the server. -/
def serverPush (i : ℕ) : Except ServerFault Servers := do
  let s ← s.incref i
  return { s with objects := s.objects ++ [i] }

/-- `irc_bot_server_remove`, up to the dispatch. -/
def removeBegin (name : CStr) : Except ServerFault Servers := do
  match ← s.serverGet name with
  | none => return s
  | some i => return { s with removing := i :: s.removing }

/-- `irc_bot_server_remove`, when the dispatch has returned. -/
def removeEnd (i : ℕ) (rest : List ℕ) : Except ServerFault Servers :=
  if s.linked = [] then .error .emptyList
  else ({ s with linked := s.linked.erase i, removing := rest } : Servers).decref i

/-- `Server_destructor` -/
def destructor (k : ℕ) (i : ℕ) : Except ServerFault Servers :=
  ({ s with objects := s.objects.eraseIdx k } : Servers).decref i

/-- What may happen. -/
inductive Act
  /-- The configuration or a peer adds a server. -/
  | add (name : CStr)
  /-- `new Server (...)`, unless the constructor throws once the server is allocated. -/
  | construct (name : CStr) (throws : Bool)
  /-- `Server.add`, with one of the objects. -/
  | addObject (k : ℕ)
  /-- A plugin is handed a server: by an event of a server of the bot, by the dispatch of a removal,
  or by `Server.list`. -/
  | hand (i : ℕ)
  /-- `Server.find` -/
  | find (name : CStr)
  /-- An object is collected. -/
  | collect (k : ℕ)
  /-- Somebody removes a server by its name. -/
  | remove (name : CStr)
  /-- The innermost dispatch of a removal returns. -/
  | ret

/-- What happens then. -/
def perform : Act → Option (Except ServerFault Servers)
  | .add name => some ((s.serverNew name).serverAdd s.cells.length)
  | .construct name throws =>
    if throws then some (.ok (s.serverNew name))
    else some ((s.serverNew name).serverPush s.cells.length)
  | .addObject k => (s.objects[k]?).map s.serverAdd
  | .hand i => if i ∈ s.linked ∨ i ∈ s.removing then some (s.serverPush i) else none
  | .find name =>
    some do
      match ← s.serverGet name with
      | none => return s
      | some i => s.serverPush i
  | .collect k => (s.objects[k]?).map (s.destructor k)
  | .remove name => some (s.removeBegin name)
  | .ret =>
    match s.removing with
    | [] => none
    | i :: rest => some (s.removeEnd i rest)

/-- A step. Nothing follows a fault. -/
def step : Except ServerFault Servers → Act → Option (Except ServerFault Servers)
  | .ok s, a => s.perform a
  | .error _, _ => none

end Operations

/-- The count of each server is the number of those that hold it, and it is freed with the last
one. -/
def Held (s : Servers) : Prop := Counted.Balanced s.cells (s.linked ++ s.objects)

/-- Nothing has gone wrong, and every count is the number of the holders. -/
def Fine : Except ServerFault Servers → Prop
  | .ok s => s.Held
  | .error _ => False

/-- A server that is handed to a plugin has a holder, and one whose removal returns is on the
list. -/
def Present : Except ServerFault Servers → Act → Except ServerFault Servers → Prop
  | .ok s, .hand i, _ => i ∈ s.linked ++ s.objects
  | .ok s, .ret, _ => ∀ i ∈ s.removing.head?, i ∈ s.linked
  | _, _, _ => True

instance (x : Except ServerFault Servers) (a : Act) (y : Except ServerFault Servers) :
    Decidable (Present x a y) := by
  unfold Present
  split <;> infer_instance

/-! ## The operations on servers that are held -/

section Lemmas

variable {s s' : Servers} {x : Except ServerFault Servers} {name : CStr} {i : ℕ} {a : Act}

/-- The counts are right, the list has no server twice, and a server whose removal is being
dispatched has had a holder. -/
structure Good (s : Servers) : Prop where
  held : s.Held
  nodup : s.linked.Nodup
  used : ∀ i ∈ s.removing, Counted.Used s.cells i

/-- A search over servers that are held finds the first one with the name. -/
theorem search_eq {cells : List (Counted.Cell CStr)} {linked holders : List ℕ}
    (h : Counted.Balanced cells holders) (hlinked : ∀ i ∈ linked, i ∈ holders) (name : CStr) :
    ∃ found, search cells name linked = .ok found ∧ (∀ i, found = some i → i ∈ linked) ∧
      (found = none → ∀ i ∈ linked, ∀ c, cells[i]? = some c → c.value ≠ name) := by
  -- on the list: the bot holds each server of it, so the loop may read its name
  induction linked with
  | nil => exact ⟨none, rfl, nofun, fun _ i hi => absurd hi List.not_mem_nil⟩
  | cons i rest ih =>
    obtain ⟨hi, hrest⟩ := List.forall_mem_cons.1 hlinked
    obtain ⟨c, hc, haccess⟩ := h.access hi
    have hsearch : search cells name (i :: rest) =
        if c.value = name then .ok (some i) else search cells name rest := by
      rw [search, haccess]
      rfl
    by_cases hname : c.value = name
    · exact ⟨some i, hsearch.trans (if_pos hname),
        fun j hj => Option.some.inj hj ▸ List.mem_cons_self, nofun⟩
    · obtain ⟨found, hfound, hmem, hnone⟩ := ih hrest
      refine ⟨found, (hsearch.trans (if_neg hname)).trans hfound,
        fun j hj => List.mem_cons_of_mem _ (hmem j hj), fun hno j hj d hd => ?_⟩
      rcases List.mem_cons.1 hj with rfl | hj
      · obtain rfl := Option.some.inj (hc.symm.trans hd)
        exact hname
      · exact hnone hno j hj d hd

theorem Held.serverGet (h : s.Held) (name : CStr) :
    ∃ found, s.serverGet name = .ok found ∧ (∀ i, found = some i → i ∈ s.linked) ∧
      (found = none → ∀ i ∈ s.linked, ∀ c, s.cells[i]? = some c → c.value ≠ name) :=
  search_eq h (fun _ hi => List.mem_append_left _ hi) name

/-- A server that can be accessed is handed to a script. -/
theorem Good.serverPush (h : s.Good) {c : Counted.Cell CStr} (hc : access s.cells i = .ok c) :
    ∃ s', s.serverPush i = .ok s' ∧ s'.Good := by
  obtain ⟨cells, hretain, -, hbalanced⟩ := h.held.retain hc
  refine ⟨{ s with cells, objects := s.objects ++ [i] }, ?_, hbalanced.perm ?_, h.nodup,
    fun j hj => (h.used j hj).retain hretain⟩
  · rw [Servers.serverPush, incref, hretain]
    rfl
  · have hmove : (s.linked ++ s.objects ++ [i]).Perm (i :: (s.linked ++ s.objects)) :=
      List.perm_append_singleton _ _
    rw [List.append_assoc] at hmove
    exact hmove.symm

/-- A server that can be accessed is added, unless its name is taken. -/
theorem Good.serverAdd (h : s.Good) {c : Counted.Cell CStr} (hc : access s.cells i = .ok c) :
    ∃ s', s.serverAdd i = .ok s' ∧ s'.Good := by
  obtain ⟨found, hfound, -, hnone⟩ := h.held.serverGet c.value
  cases found with
  | some j =>
    refine ⟨s, ?_, h⟩
    rw [Servers.serverAdd, hc]
    show (s.serverGet c.value >>= _) = _
    rw [hfound]
    rfl
  | none =>
    obtain ⟨cells, hretain, -, hbalanced⟩ := h.held.retain hc
    -- a server on the list has another name
    have hnew : i ∉ s.linked := fun hi =>
      hnone rfl i hi c (Counted.access_eq_ok hc).1 rfl
    refine ⟨{ s with cells, linked := s.linked ++ [i] }, ?_, hbalanced.perm ?_, ?_,
      fun j hj => (h.used j hj).retain hretain⟩
    · rw [Servers.serverAdd, hc]
      show (s.serverGet c.value >>= _) = _
      rw [hfound]
      show (s.incref i >>= _) = _
      rw [incref, hretain]
      rfl
    · show (i :: (s.linked ++ s.objects)).Perm (s.linked ++ [i] ++ s.objects)
      rw [List.append_assoc]
      exact List.perm_middle.symm
    · rw [List.nodup_append]
      refine ⟨h.nodup, List.nodup_singleton i, fun j hj k hk => ?_⟩
      rw [List.mem_singleton.1 hk]
      exact fun heq => hnew (heq ▸ hj)

theorem Good.serverNew (h : s.Good) (name : CStr) :
    (s.serverNew name).Good ∧
      access (s.serverNew name).cells s.cells.length = .ok (.fresh name) := by
  obtain ⟨hbalanced, haccess⟩ := h.held.allocate name
  exact ⟨⟨hbalanced, h.nodup, fun i hi => (h.used i hi).append _⟩, haccess⟩

theorem Good.removeBegin (h : s.Good) (name : CStr) :
    ∃ s', s.removeBegin name = .ok s' ∧ s'.Good := by
  obtain ⟨found, hfound, hmem, -⟩ := h.held.serverGet name
  cases found with
  | none => exact ⟨s, by rw [Servers.removeBegin, hfound]; rfl, h⟩
  | some i =>
    refine ⟨{ s with removing := i :: s.removing }, by rw [Servers.removeBegin, hfound]; rfl,
      h.held, h.nodup, List.forall_mem_cons.2 ⟨?_, h.used⟩⟩
    exact Counted.Balanced.used_of_mem h.held (List.mem_append_left _ (hmem i rfl))

/-- A removal that returns takes the server off the list, and drops the reference of the list. -/
theorem Good.removeEnd (h : s.Good) {rest : List ℕ} (hremoving : s.removing = i :: rest)
    (hi : i ∈ s.linked) : ∃ s', s.removeEnd i rest = .ok s' ∧ s'.Good := by
  have hhi : i ∈ s.linked ++ s.objects := List.mem_append_left s.objects hi
  obtain ⟨cells, hdrop, -, hbalanced⟩ := Counted.Balanced.drop h.held hhi
  -- the holder that goes is the list
  rw [List.erase_append_left _ hi] at hbalanced
  refine ⟨{ s with cells, linked := s.linked.erase i, removing := rest }, ?_, hbalanced,
    h.nodup.erase i, fun j hj => ?_⟩
  · rw [Servers.removeEnd, if_neg (List.ne_nil_of_mem hi), decref, hdrop]
    rfl
  · have hj : j ∈ s.removing := by
      rw [hremoving]
      exact List.mem_cons_of_mem i hj
    exact Counted.Balanced.used_drop h.held (h.used j hj) hdrop

/-- A removal that returns when the server is not on the list drops a reference that another holder
has, unless it fails. -/
theorem Good.not_fine_removeEnd (h : s.Good) {rest : List ℕ} (hi : i ∉ s.linked) :
    ¬ Fine (s.removeEnd i rest) := by
  rw [Servers.removeEnd]
  split
  · exact id
  · -- `LL_DELETE` finds nothing, and the reference is dropped all the same
    rw [decref, List.erase_of_not_mem hi]
    cases hdrop : Counted.drop s.cells i with
    | error why => exact id
    | ok cells => exact h.held.not_balanced_drop hdrop

/-- A server that has lost its last holder cannot be handed to a script. -/
theorem Good.not_fine_serverPush (h : s.Good) (hremoving : i ∈ s.removing)
    (hi : i ∉ s.linked ++ s.objects) : ¬ Fine (s.serverPush i) := by
  have haccess : access s.cells i = .error .freed :=
    Counted.Balanced.access_eq_error h.held (h.used i hremoving) hi
  rw [Servers.serverPush, incref, retain, haccess]
  exact id

theorem Good.destructor (h : s.Good) {k : ℕ} (hk : s.objects[k]? = some i) :
    ∃ s', s.destructor k i = .ok s' ∧ s'.Good := by
  obtain ⟨hlt, hget⟩ := List.getElem?_eq_some_iff.1 hk
  have hi : i ∈ s.objects := List.mem_of_getElem? hk
  obtain ⟨cells, hdrop, -, hbalanced⟩ :=
    Counted.Balanced.drop h.held (List.mem_append_right s.linked hi)
  refine ⟨{ s with cells, objects := s.objects.eraseIdx k }, ?_, hbalanced.perm ?_, h.nodup,
    fun j hj => Counted.Balanced.used_drop h.held (h.used j hj) hdrop⟩
  · rw [Servers.destructor, decref, hdrop]
    rfl
  · -- the object that is collected is one of those that hold the server
    have hobject : (i :: s.objects.eraseIdx k).Perm s.objects := by
      have hperm := List.getElem_cons_eraseIdx_perm hlt
      rwa [hget] at hperm
    have hall : (i :: (s.linked ++ s.objects.eraseIdx k)).Perm (s.linked ++ s.objects) :=
      List.perm_middle.symm.trans (hobject.append_left s.linked)
    have hcons := hall.erase i
    rw [List.erase_cons_head] at hcons
    exact hcons.symm

/-! ## Runs -/

/-- A step keeps the counts right, unless a server is handed out that has no holder, or a removal
returns of a server that is not on the list. -/
theorem Good.step (h : s.Good) (hstep : step (.ok s) a = some x) :
    (Present (.ok s) a x → ∃ s', x = .ok s' ∧ s'.Good) ∧ (¬ Present (.ok s) a x → ¬ Fine x) := by
  -- most steps ask for nothing
  have hkeep (hx : ∃ s', x = .ok s' ∧ s'.Good) (hpresent : Present (.ok s) a x) :
      (Present (.ok s) a x → ∃ s', x = .ok s' ∧ s'.Good) ∧ (¬ Present (.ok s) a x → ¬ Fine x) :=
    ⟨fun _ => hx, fun hn => absurd hpresent hn⟩
  have hlive {i : ℕ} (hi : i ∈ s.linked ++ s.objects) : ∃ c, access s.cells i = .ok c := by
    obtain ⟨c, -, hc⟩ := Counted.Balanced.access h.held hi
    exact ⟨c, hc⟩
  have hstep : s.perform a = some x := hstep
  cases a with
  | add name =>
    obtain rfl := Option.some.inj hstep
    obtain ⟨hnew, haccess⟩ := h.serverNew name
    exact hkeep (hnew.serverAdd haccess) trivial
  | construct name throws =>
    obtain ⟨hnew, haccess⟩ := h.serverNew name
    cases throws with
    | true =>
      obtain rfl := Option.some.inj hstep
      exact hkeep ⟨_, rfl, hnew⟩ trivial
    | false =>
      obtain rfl := Option.some.inj hstep
      exact hkeep (hnew.serverPush haccess) trivial
  | addObject k =>
    obtain ⟨i, hk, rfl⟩ := Option.map_eq_some_iff.1 hstep
    obtain ⟨c, hc⟩ := hlive (List.mem_append_right s.linked (List.mem_of_getElem? hk))
    exact hkeep (h.serverAdd hc) trivial
  | hand i =>
    rw [perform] at hstep
    split at hstep
    · rename_i hi
      obtain rfl := Option.some.inj hstep
      refine ⟨fun hpresent => ?_, fun habsent => ?_⟩
      · obtain ⟨c, hc⟩ := hlive hpresent
        exact h.serverPush hc
      · -- the list does not have the server, so it is handed out by its own removal
        have hremoving : i ∈ s.removing :=
          hi.resolve_left fun hlinked => habsent (List.mem_append_left s.objects hlinked)
        exact h.not_fine_serverPush hremoving habsent
    · cases hstep
  | find name =>
    obtain rfl := Option.some.inj hstep
    obtain ⟨found, hfound, hmem, -⟩ := h.held.serverGet name
    refine hkeep ?_ trivial
    rw [hfound]
    cases found with
    | none => exact ⟨s, rfl, h⟩
    | some i =>
      obtain ⟨c, hc⟩ := hlive (List.mem_append_left s.objects (hmem i rfl))
      exact h.serverPush hc
  | collect k =>
    obtain ⟨i, hk, rfl⟩ := Option.map_eq_some_iff.1 hstep
    exact hkeep (h.destructor hk) trivial
  | remove name =>
    obtain rfl := Option.some.inj hstep
    exact hkeep (h.removeBegin name) trivial
  | ret =>
    rw [perform] at hstep
    split at hstep
    · cases hstep
    · rename_i i rest hremoving
      obtain rfl := Option.some.inj hstep
      have hpresent : Present (.ok s) .ret (s.removeEnd i rest) ↔ i ∈ s.linked := by
        rw [Present, hremoving]
        simp
      rw [hpresent]
      exact ⟨h.removeEnd hremoving, h.not_fine_removeEnd⟩

end Lemmas

/-- A script that removes the only server again when its disconnection is dispatched. -/
example : Runs.exec step (.ok start) [.add (cstr "libera"), .remove (cstr "libera"),
    .remove (cstr "libera"), .ret, .ret] = some (.error .emptyList) := rfl

/-- It may add the server again before the outer removal returns. -/
example : Runs.AllSteps step Present (.ok start) [.add (cstr "libera"), .find (cstr "libera"),
    .remove (cstr "libera"), .remove (cstr "libera"), .ret, .addObject 0, .ret] := by decide

end Servers

end Irccd
