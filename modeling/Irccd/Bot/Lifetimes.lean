import Mathlib.Data.List.Nodup
import Mathlib.Tactic.Common
import Irccd.CString
import Irccd.Foundations.Runs
import Irccd.Foundations.Traversal

/-!
# The life of a plugin (`irccd.c`, `plugin.c`, `peer.c`)

A plugin is opened, given to the bot once, and finished when it is removed. Between, the bot calls
its functions, from which the plugin may call the bot again. A plugin that the bot refuses stays as
it is.

* `Lives`: the plugins ever opened, with the calls of their functions, those that the caller has not
  given to the bot yet, the list of the bot, and the calls that have not returned;
* `Lives.step`: the functions of the bot;
* `Lives.legal_iff`: exactly when the functions of a plugin are called in the right order;
* `Lives.released_iff`: exactly when no plugin is left behind.
-/

namespace Irccd

/-- A call of a function of a plugin. -/
inductive LifeCall
  /-- `irc_plugin_set_option`, `irc_plugin_set_path` or `irc_plugin_set_template` -/
  | set
  | load
  | reload
  | handle
  | unload
  | finish
  deriving DecidableEq

/-- A plugin, with the calls of its functions, in order. -/
structure Life where
  name : CStr
  calls : List LifeCall
  deriving DecidableEq

/-- A function of the bot that has called a plugin and waits for it, or a loop that goes on next. -/
inductive LifeFrame
  /-- `irc_bot_plugin_add` has called `irc_plugin_load`. -/
  | load (i : ℕ)
  /-- `irc_bot_plugin_remove` has called `irc_plugin_unload`. -/
  | unload (i : ℕ)
  /-- The loop of `cmd_plugin_reload` has called `irc_plugin_reload`. -/
  | reload (i : ℕ)
  /-- The loop of `irc_bot_dispatch` has called a plugin, and has `next` in `ptmp`. -/
  | handle (next plgcmd : Option ℕ)
  /-- Nothing follows when the plugin returns. -/
  | other
  /-- The loop of `cmd_plugin_reload` goes on behind the plugin. -/
  | reloadLoop (i : ℕ)
  /-- The loop of `irc_bot_dispatch` goes on with `next`. -/
  | dispatchLoop (next plgcmd : Option ℕ)
  /-- The loop of `irc_bot_plugin_clear` goes on with `next`. -/
  | clearLoop (next : Option ℕ)
  deriving DecidableEq

namespace LifeFrame

/-- The code of a plugin is running. -/
def waits : LifeFrame → Bool
  | reloadLoop _ | dispatchLoop _ _ | clearLoop _ => false
  | _ => true

/-- The plugin that a loop accesses when it goes on. -/
def cached : LifeFrame → Option ℕ
  | reloadLoop i => some i
  | dispatchLoop (some q) _ => some q
  | dispatchLoop none plgcmd => plgcmd
  | clearLoop next => next
  | _ => none

/-- The code of a plugin starts nothing of this kind, so it is at the bottom of the stack. -/
def outermost : LifeFrame → Bool
  | load _ | clearLoop _ => true
  | _ => false

/-- The plugin that is being loaded. -/
def loading : LifeFrame → Option ℕ
  | load i => some i
  | _ => none

/-- The plugin that is being unloaded. -/
def unloading : LifeFrame → Option ℕ
  | unload i => some i
  | _ => none

end LifeFrame

/-- The plugins. `pending` has those that were returned by `irc_bot_plugin_search` and not given to
`irc_bot_plugin_add`, `linked` is the list of the bot, and `stack` has what has not returned, the
last one first. -/
structure Lives where
  objects : List Life
  pending : List ℕ
  linked : List ℕ
  stack : List LifeFrame
  deriving DecidableEq

/-- What must not happen. -/
inductive LifeFault
  /-- A plugin is accessed that was finished. -/
  | finished (i : ℕ)
  deriving DecidableEq

/-- What `is_command` and `invokable` make of a plugin. -/
inductive Reaction
  | refuse
  | address
  | hand
  deriving DecidableEq

def Life.call (c : LifeCall) (l : Life) : Life := { l with calls := l.calls ++ [c] }

namespace Lives

/-- Before the configuration. -/
def start : Lives := { objects := [], pending := [], linked := [], stack := [] }

section Functions

variable (s : Lives)

/-- A function of a plugin is called. -/
def call (i : ℕ) (c : LifeCall) : Lives := { s with objects := s.objects.modify i (.call c) }

def push (f : LifeFrame) : Lives := { s with stack := f :: s.stack }

/-- `p->name` -/
def name (i : ℕ) : Option CStr := (s.objects[i]?).map (·.name)

/-- `p->next` -/
def next (i : ℕ) : Option ℕ := (Traversal.pending s.linked (some i)).tail.head?

/-- `irc_bot_plugin_get` -/
def get (name : CStr) : Option ℕ := s.linked.find? (s.name · == some name)

/-- A plugin of which the loop has kept the address is accessed. -/
def access (i : ℕ) (s' : Lives) : Except LifeFault Lives :=
  if i ∈ s.linked then .ok s' else .error (.finished i)

/-- `irc_bot_plugin_search` returns a plugin, of which it has set three paths. -/
def search (name : CStr) : Lives :=
  { s with
    objects := s.objects ++ [⟨name, [.set, .set, .set]⟩]
    pending := s.pending ++ [s.objects.length] }

/-- `irc_bot_plugin_add`, up to the return of `irc_plugin_load`. -/
def add (i : ℕ) (l : Life) : Lives :=
  let s := { s with pending := s.pending.erase i }
  if (s.get l.name).isSome then s else (s.call i .load).push (.load i)

/-- `irc_bot_plugin_remove`, up to the return of `irc_plugin_unload`. -/
def remove (name : CStr) : Lives :=
  match s.get name with
  | none => s
  | some i => ({ s with linked := s.linked.erase i }.call i .unload).push (.unload i)

/-- The plugin returns, where `answer` tells if `irc_plugin_load` returns zero. -/
def ret (answer : Bool) : LifeFrame → Lives
  | .load i => if answer then { s with linked := i :: s.linked } else s
  | .unload i => s.call i .finish
  | .reload i => s.push (.reloadLoop i)
  | .handle next plgcmd => s.push (.dispatchLoop next plgcmd)
  | _ => s

/-- The loop of `irc_bot_dispatch` meets a plugin. -/
def meet (q : ℕ) (plgcmd : Option ℕ) : Reaction → Lives
  | .refuse => s.push (.dispatchLoop (s.next q) plgcmd)
  | .address => s.push (.dispatchLoop (s.next q) (some q))
  | .hand => (s.call q .handle).push (.handle (s.next q) plgcmd)

/-- A loop goes on. After the one of `irc_bot_dispatch` the plugin that is addressed is called. -/
def resume (r : Reaction) : LifeFrame → Except LifeFault Lives
  | .reloadLoop i =>
    s.access i <|
      match s.next i with
      | some j => (s.call j .reload).push (.reload j)
      | none => s
  | .dispatchLoop (some q) plgcmd => s.access q (s.meet q plgcmd r)
  | .dispatchLoop none (some q) =>
    s.access q <| if r = .hand then (s.call q .handle).push .other else s
  | .clearLoop (some q) =>
    s.access q <|
      match s.name q with
      | some name => (s.push (.clearLoop (s.next q))).remove name
      | none => s
  | .clearLoop none => .ok { s with linked := [] }
  | _ => .ok s

end Functions

/-- What the bot and those who call it do. -/
inductive Action
  /-- `irc_bot_plugin_search` finds a plugin. -/
  | search (name : CStr)
  /-- A variable of a plugin is set. -/
  | set (i : ℕ)
  | add (i : ℕ)
  /-- `cmd_plugin_reload` without a name. -/
  | reloadAll
  | clear
  /-- The event loop calls a plugin. -/
  | callback
  /-- `irc_bot_dispatch` -/
  | dispatch
  | reload (i : ℕ)
  | remove (name : CStr)
  /-- The plugin that is running returns. -/
  | ret (answer : Bool)
  /-- The loop that is running goes on. -/
  | resume (r : Reaction)

/-- The event loop and the configuration start something when nothing is running. The code of a
plugin may dispatch events and unload and reload plugins. The callers set variables of plugins that
they have opened or that are on the list, and give a plugin to the bot once. -/
def act (s : Lives) (a : Action) : Option (Except LifeFault Lives) :=
  match s.stack, a with
  | [], .search name => some (.ok (s.search name))
  | [], .set i => if i ∈ s.pending ∨ i ∈ s.linked then some (.ok (s.call i .set)) else none
  | [], .add i => if i ∈ s.pending then (s.objects[i]?).map fun l => .ok (s.add i l) else none
  | [], .reloadAll =>
    match s.linked.head? with
    | some i => some (.ok ((s.call i .reload).push (.reload i)))
    | none => some (.ok s)
  | [], .clear => some (.ok (s.push (.clearLoop s.linked.head?)))
  | [], .callback => some (.ok (s.push .other))
  | stack, .dispatch =>
    if stack.head?.all (·.waits) then some (.ok (s.push (.dispatchLoop s.linked.head? none)))
    else none
  | stack, .reload i =>
    if stack.head?.all (·.waits) ∧ i ∈ s.linked then some (.ok ((s.call i .reload).push .other))
    else none
  | stack, .remove name =>
    if stack.head?.all (·.waits) then some (.ok (s.remove name)) else none
  | f :: below, .ret answer =>
    if f.waits then some (.ok ({ s with stack := below }.ret answer f)) else none
  | f :: below, .resume r => if f.waits then none else some ({ s with stack := below }.resume r f)
  | _, _ => none

/-- A step. Nothing follows the access of a plugin that was finished. -/
def step : Except LifeFault Lives → Action → Option (Except LifeFault Lives)
  | .ok s, a => s.act a
  | .error _, _ => none

end Lives

/-! ## What should be called -/

/-- What the bot takes a plugin for. -/
inductive LifePhase
  /-- It has not been given to the bot. -/
  | pending
  | loading
  | linked
  | unloading

namespace Life

/-- Only variables have been set. -/
def Idle (l : Life) : Prop := ∀ c ∈ l.calls, c = .set

/-- The plugin has been loaded, and not unloaded. -/
def Running (l : Life) : Prop :=
  ∃ before during, (∀ c ∈ before, c = .set) ∧ (∀ c ∈ during, c = .set ∨ c = .handle ∨ c = .reload) ∧
    l.calls = before ++ .load :: during

/-- What has been called of a plugin of which the bot has not got rid. -/
def Fits (l : Life) : LifePhase → Prop
  | .pending => l.Idle
  | .loading => ∃ before : Life, before.Idle ∧ l.calls = before.calls ++ [.load]
  | .linked => l.Running
  | .unloading => ∃ before : Life, before.Running ∧ l.calls = before.calls ++ [.unload]

/-- The plugin has been unloaded and finished, and not called since. -/
def Over (l : Life) : Prop :=
  ∃ before : Life, before.Running ∧ l.calls = before.calls ++ [.unload, .finish]

/-- The plugin was opened, and the bot has not taken it. -/
def Refused (l : Life) : Prop :=
  l.Idle ∨ ∃ before : Life, before.Idle ∧ l.calls = before.calls ++ [.load]

end Life

namespace Lives

/-- The plugins in a phase. -/
def held (s : Lives) : LifePhase → List ℕ
  | .pending => s.pending
  | .loading => s.stack.filterMap LifeFrame.loading
  | .linked => s.linked
  | .unloading => s.stack.filterMap LifeFrame.unloading

/-- Nothing has been called of a plugin but what its phase allows, those that the bot has no more
have been finished or refused, and the names on the list are distinct. -/
structure Legal (s : Lives) : Prop where
  fits : ∀ ph, ∀ i ∈ s.held ph, ∃ l, s.objects[i]? = some l ∧ l.Fits ph
  others : ∀ i l, s.objects[i]? = some l → (∀ ph, i ∉ s.held ph) → l.Over ∨ l.Refused
  names : (s.linked.map s.name).Nodup

/-- Each plugin that was given to the bot, and that it does not have any more, is finished. -/
def Released (s : Lives) : Prop :=
  ∀ i l, s.objects[i]? = some l → (∀ ph, i ∉ s.held ph) → l.Over

/-- The functions of the plugins are called in the right order, and none is accessed that was
finished. -/
def LegalRun : Except LifeFault Lives → Prop
  | .ok s => s.Legal
  | .error _ => False

def ReleasedRun : Except LifeFault Lives → Prop
  | .ok s => s.Released
  | .error _ => True

/-- A loop that goes on finds the plugin that it has kept on the list. -/
def Undisturbed : Except LifeFault Lives → Action → Except LifeFault Lives → Prop
  | .ok s, .resume _, _ => ∀ f ∈ s.stack.head?, ∀ q ∈ f.cached, q ∈ s.linked
  | _, _, _ => True

/-- The bot takes a plugin that is given to it: its name is not in use, and it loads. -/
def Takes : Except LifeFault Lives → Action → Except LifeFault Lives → Prop
  | .ok s, .add i, _ => ∀ l, s.objects[i]? = some l → s.get l.name = none
  | .ok s, .ret answer, _ => ∀ f ∈ s.stack.head?, f.loading.isSome → answer = true
  | _, _, _ => True

/-! ## Steps -/

/-- The bot has each plugin once, in a phase that fits what was called, and `Q` holds of the plugins
that nobody has any more. -/
structure Kept (Q : Life → Prop) (s : Lives) : Prop where
  fits : ∀ ph, ∀ i ∈ s.held ph, ∃ l, s.objects[i]? = some l ∧ l.Fits ph
  others : ∀ i l, s.objects[i]? = some l → (∀ ph, i ∉ s.held ph) → Q l
  nodup : ∀ ph, (s.held ph).Nodup
  apart : ∀ i ph ph', i ∈ s.held ph → i ∈ s.held ph' → ph = ph'

section Lemmas

variable {s s' : Lives} {Q : Life → Prop} {i j : ℕ} {l l' : Life} {name : CStr} {c : LifeCall}
  {f : LifeFrame} {ph : LifePhase}

theorem getElem?_call (s : Lives) (i : ℕ) (c : LifeCall) (j : ℕ) :
    (s.call i c).objects[j]? = if i = j then (s.objects[j]?).map (.call c) else s.objects[j]? := by
  rw [call, List.getElem?_modify]
  split <;> simp_all

@[simp] theorem name_call (s : Lives) (i : ℕ) (c : LifeCall) : (s.call i c).name = s.name := by
  funext j
  rw [name, name, getElem?_call]
  split
  · rw [Option.map_map]
    rfl
  · rfl

@[simp] theorem held_call (s : Lives) (i : ℕ) (c : LifeCall) : (s.call i c).held = s.held := by
  funext ph
  cases ph <;> rfl

/-- A frame that says nothing of a plugin that is loaded or unloaded changes no phase. -/
theorem held_push (s : Lives) (hload : f.loading = none) (hunload : f.unloading = none) :
    (s.push f).held = s.held := by
  funext ph
  cases ph <;> simp [held, push, hload, hunload]

theorem get_eq_none_iff : s.get name = none ↔ some name ∉ s.linked.map s.name := by
  rw [get, List.find?_eq_none, List.mem_map]
  simp

theorem mem_of_get (h : s.get name = some i) : i ∈ s.linked ∧ s.name i = some name :=
  ⟨List.mem_of_find?_eq_some h, by simpa using List.find?_some h⟩

/-- Nothing changes but one plugin, which is in one phase at most. -/
theorem Kept.update (h : s.Kept Q) (i : ℕ) (l' : Life) (becomes : Option LifePhase)
    (hother : ∀ j, j ≠ i → s'.objects[j]? = s.objects[j]?) (hi : s'.objects[i]? = some l')
    (hheld : ∀ ph j, j ≠ i → (j ∈ s'.held ph ↔ j ∈ s.held ph))
    (hto : ∀ ph, i ∈ s'.held ph ↔ becomes = some ph) (hnodup : ∀ ph, (s'.held ph).Nodup)
    (hfits : ∀ ph, becomes = some ph → l'.Fits ph) (hQ : becomes = none → Q l') : s'.Kept Q where
  fits ph j hj := by
    by_cases hji : j = i
    · subst hji
      exact ⟨l', hi, hfits ph ((hto ph).1 hj)⟩
    · rw [hother j hji]
      exact h.fits ph j ((hheld ph j hji).1 hj)
  others j l hl hj := by
    by_cases hji : j = i
    · subst hji
      rw [hi] at hl
      cases hl
      refine hQ (Option.eq_none_iff_forall_ne_some.2 fun ph hph => ?_)
      exact hj ph ((hto ph).2 hph)
    · rw [hother j hji] at hl
      exact h.others j l hl fun ph hmem => hj ph ((hheld ph j hji).2 hmem)
  nodup := hnodup
  apart j ph ph' hj hj' := by
    by_cases hji : j = i
    · subst hji
      exact Option.some.inj (((hto ph).1 hj).symm.trans ((hto ph').1 hj'))
    · exact h.apart j ph ph' ((hheld ph j hji).1 hj) ((hheld ph' j hji).1 hj')

/-- A plugin goes from one phase to another, or leaves the bot. -/
theorem Kept.move (h : s.Kept Q) (l' : Life) (src : LifePhase) (dst : Option LifePhase)
    (hi : i ∈ s.held src)
    (hobjects : ∀ j, j ≠ i → s'.objects[j]? = s.objects[j]?) (hl : s'.objects[i]? = some l')
    (hsrc : s'.held src = (s.held src).erase i) (hdst : ∀ ph ∈ dst, s'.held ph = i :: s.held ph)
    (hrest : ∀ ph, ph ≠ src → ph ∉ dst → s'.held ph = s.held ph)
    (hne : src ∉ dst) (hfits : ∀ ph ∈ dst, l'.Fits ph) (hQ : dst = none → Q l') : s'.Kept Q := by
  have hnot (ph : LifePhase) (hph : ph ≠ src) : i ∉ s.held ph := fun hmem =>
    hph (h.apart i ph src hmem hi)
  -- what is in a phase afterwards
  have hcases (ph : LifePhase) : ph = src ∨ ph ≠ src ∧ ph ∈ dst ∨ ph ≠ src ∧ ph ∉ dst := by tauto
  -- where the other plugins are, where this one is, and that nobody is anywhere twice
  refine h.update i l' dst hobjects hl (fun ph j hj => ?_) (fun ph => ?_) (fun ph => ?_) hfits hQ
  · rcases hcases ph with rfl | ⟨-, hph⟩ | ⟨hphsrc, hph⟩
    · rw [hsrc]
      exact List.mem_erase_of_ne hj
    · rw [hdst ph hph]
      exact List.mem_cons.trans (or_iff_right hj)
    · rw [hrest ph hphsrc hph]
  · rcases hcases ph with rfl | ⟨-, hph⟩ | ⟨hphsrc, hph⟩
    · rw [hsrc]
      exact iff_of_false (h.nodup ph).not_mem_erase hne
    · rw [hdst ph hph]
      exact iff_of_true List.mem_cons_self hph
    · rw [hrest ph hphsrc hph]
      exact iff_of_false (hnot ph hphsrc) hph
  · rcases hcases ph with rfl | ⟨hphsrc, hph⟩ | ⟨hphsrc, hph⟩
    · rw [hsrc]
      exact (h.nodup ph).erase i
    · rw [hdst ph hph]
      exact List.nodup_cons.2 ⟨hnot ph hphsrc, h.nodup ph⟩
    · rw [hrest ph hphsrc hph]
      exact h.nodup ph

/-- The stack changes, but no phase does. -/
theorem Kept.congr (h : s.Kept Q) (hobjects : s'.objects = s.objects) (hheld : s'.held = s.held) :
    s'.Kept Q := by
  obtain ⟨hfits, hothers, hnodup, hapart⟩ := h
  rw [← hobjects] at hfits hothers
  rw [← hheld] at hfits hothers hnodup hapart
  exact ⟨hfits, hothers, hnodup, hapart⟩

end Lemmas

end Lives

namespace Life

variable {l : Life} {c : LifeCall} {ph : LifePhase}

theorem Idle.set (h : l.Idle) : (l.call .set).Idle := by
  intro c hc
  rcases List.mem_append.1 hc with hc | hc
  · exact h c hc
  · exact List.mem_singleton.1 hc

theorem Idle.loading (h : l.Idle) : (l.call .load).Fits .loading := ⟨l, h, rfl⟩

theorem Fits.running (h : l.Fits .loading) : l.Running := by
  obtain ⟨before, hidle, hcalls⟩ := h
  exact ⟨before.calls, [], hidle, nofun, hcalls⟩

theorem Running.call (h : l.Running) (hc : c = .set ∨ c = .handle ∨ c = .reload) :
    (l.call c).Running := by
  obtain ⟨before, during, hbefore, hduring, hcalls⟩ := h
  refine ⟨before, during ++ [c], hbefore, fun c' hc' => ?_, ?_⟩
  · rcases List.mem_append.1 hc' with hc' | hc'
    · exact hduring c' hc'
    · rw [List.mem_singleton.1 hc']
      exact hc
  · rw [Life.call, hcalls, List.append_assoc, List.cons_append]

theorem Running.unloading (h : l.Running) : (l.call .unload).Fits .unloading := ⟨l, h, rfl⟩

theorem Fits.over (h : l.Fits .unloading) : (l.call .finish).Over := by
  obtain ⟨before, hrunning, hcalls⟩ := h
  exact ⟨before, hrunning, by rw [Life.call, hcalls, List.append_assoc, List.singleton_append]⟩

/-- A plugin that was not unloaded is not over. -/
theorem Idle.not_over (h : l.Idle) : ¬ l.Over := by
  rintro ⟨before, -, hcalls⟩
  have hmem : LifeCall.finish ∈ l.calls := by simp [hcalls]
  exact nomatch h _ hmem

theorem Fits.not_over (h : l.Fits .loading) : ¬ l.Over := by
  obtain ⟨loaded, -, hload⟩ := h
  rintro ⟨before, -, hcalls⟩
  have hlast := congrArg List.getLast? (hload.symm.trans hcalls)
  simp at hlast

end Life

namespace Lives

section Steps

variable {s s' : Lives} {Q : Life → Prop} {i j : ℕ} {l l' : Life} {name : CStr} {c : LifeCall}
  {f : LifeFrame} {below : List LifeFrame} {ph : LifePhase}

/-- A function is called that does not change the phase of the plugin. -/
theorem Kept.call (h : s.Kept Q) (ph : LifePhase) (hi : i ∈ s.held ph)
    (hfits : ∀ l : Life, l.Fits ph → (l.call c).Fits ph) : (s.call i c).Kept Q := by
  obtain ⟨l, hl, hl'⟩ := h.fits ph i hi
  refine h.update i (l.call c) (some ph) (fun j hj => ?_) ?_ (fun ph' j _ => ?_)
    (fun ph' => ?_) (fun ph' => ?_) (fun ph' hph => ?_) nofun
  · rw [getElem?_call, if_neg hj.symm]
  · rw [getElem?_call, if_pos rfl, hl, Option.map_some]
  · rw [held_call]
  · rw [held_call, Option.some.injEq]
    exact ⟨h.apart i ph ph' hi, fun hph => hph ▸ hi⟩
  · rw [held_call]
    exact h.nodup ph'
  · obtain rfl := Option.some.inj hph
    exact hfits l hl'

/-- Variables are set before a plugin is given to the bot, and while it has it. -/
theorem Kept.set (h : s.Kept Q) (hi : i ∈ s.pending ∨ i ∈ s.linked) : (s.call i .set).Kept Q := by
  rcases hi with hi | hi
  · exact h.call .pending hi fun l hl => Life.Idle.set hl
  · exact h.call .linked hi fun l hl => Life.Running.call hl (.inl rfl)

/-- A plugin of the list is called, and nothing is loaded or unloaded. -/
theorem Kept.push_call (h : s.Kept Q) (hi : i ∈ s.linked)
    (hc : c = .set ∨ c = .handle ∨ c = .reload) (hload : f.loading = none)
    (hunload : f.unloading = none) : ((s.call i c).push f).Kept Q :=
  (h.call .linked hi fun _ hl => Life.Running.call hl hc).congr rfl
    (held_push _ hload hunload)

/-- A loop begins or goes on. -/
theorem Kept.push (h : s.Kept Q) (hload : f.loading = none) (hunload : f.unloading = none) :
    (s.push f).Kept Q :=
  h.congr rfl (held_push s hload hunload)

/-- A plugin is opened. -/
theorem Kept.search (h : s.Kept Q) (name : CStr) : (s.search name).Kept Q := by
  have hlt (ph : LifePhase) {j : ℕ} (hj : j ∈ s.held ph) : j < s.objects.length := by
    obtain ⟨l, hl, -⟩ := h.fits ph j hj
    exact (List.getElem?_eq_some_iff.1 hl).1
  -- the new plugin is in no phase yet
  have hnew (ph : LifePhase) : s.objects.length ∉ s.held ph := fun hmem =>
    Nat.lt_irrefl _ (hlt ph hmem)
  have hheld (ph : LifePhase) (hph : ph ≠ .pending) : (s.search name).held ph = s.held ph := by
    cases ph <;> first | exact absurd rfl hph | rfl
  refine h.update s.objects.length ⟨name, [.set, .set, .set]⟩ (some .pending)
    (fun j hj => ?_) ?_ (fun ph j hj => ?_) (fun ph => ?_) (fun ph => ?_) (fun ph hph => ?_) nofun
  · rcases Nat.lt_or_gt_of_ne hj with hlt | hgt
    · rw [Lives.search, List.getElem?_append_left hlt]
    · rw [List.getElem?_eq_none (Nat.le_of_lt hgt),
        List.getElem?_eq_none (by simp [Lives.search]; omega)]
  · rw [Lives.search, List.getElem?_append_right (Nat.le_refl _)]
    simp
  · by_cases hph : ph = .pending
    · subst hph
      simp [held, Lives.search, hj]
    · rw [hheld ph hph]
  · by_cases hph : ph = .pending
    · subst hph
      simp [held, Lives.search]
    · rw [hheld ph hph]
      exact iff_of_false (hnew ph) fun heq => hph (Option.some.inj heq).symm
  · by_cases hph : ph = .pending
    · subst hph
      refine List.Nodup.append (h.nodup .pending) (List.nodup_singleton _) fun j hj hj' => ?_
      exact hnew .pending (List.mem_singleton.1 hj' ▸ hj)
    · rw [hheld ph hph]
      exact h.nodup ph
  · obtain rfl := Option.some.inj hph
    simp [Life.Fits, Life.Idle]

/-- A plugin that leaves its phase for no other is in none. -/
theorem Kept.not_held (h : s.Kept Q) (src : LifePhase) (hi : i ∈ s.held src)
    (hsrc : s'.held src = (s.held src).erase i) (hrest : ∀ ph, ph ≠ src → s'.held ph = s.held ph)
    (ph : LifePhase) : i ∉ s'.held ph := by
  by_cases hph : ph = src
  · subst hph
    rw [hsrc]
    exact (h.nodup ph).not_mem_erase
  · rw [hrest ph hph]
    exact fun hmem => hph (h.apart i ph src hmem hi)

theorem held_refuse (s : Lives) (i : ℕ) (hph : ph ≠ .pending) :
    held { s with pending := s.pending.erase i } ph = s.held ph := by
  cases ph <;> first | exact absurd rfl hph | rfl

/-- A plugin is given to the bot, which refuses it for its name. -/
theorem Kept.refuse (h : s.Kept Q) (hi : i ∈ s.pending) (hl : s.objects[i]? = some l)
    (hQ : l.Idle → Q l) : Kept Q { s with pending := s.pending.erase i } := by
  obtain ⟨l', hl', hidle⟩ := h.fits .pending i hi
  obtain rfl := Option.some.inj (hl.symm.trans hl')
  exact h.move l .pending none hi (fun _ _ => rfl) hl rfl nofun
    (fun ph hph _ => held_refuse s i hph) nofun nofun fun _ => hQ hidle

/-- A plugin is given to the bot, which loads it. -/
theorem Kept.load (h : s.Kept Q) (hi : i ∈ s.pending) :
    Kept Q (({ s with pending := s.pending.erase i }.call i .load).push (.load i)) := by
  obtain ⟨l, hl, hidle⟩ := h.fits .pending i hi
  refine h.move (l.call .load) .pending (some .loading) hi (fun j hj => ?_) ?_ rfl
    (fun ph hph => ?_) (fun ph hph hdst => ?_) nofun (fun ph hph => ?_) nofun
  · exact (getElem?_call _ i .load j).trans (if_neg hj.symm)
  · exact (getElem?_call _ i .load i).trans (by rw [if_pos rfl, hl, Option.map_some])
  · obtain rfl := Option.some.inj hph
    rfl
  · cases ph <;> first | exact absurd rfl hph | exact absurd rfl hdst | rfl
  · obtain rfl := Option.some.inj hph
    exact Life.Idle.loading hidle

/-- What is loaded and unloaded is read off the stack. -/
theorem held_of_stack (hstack : s.stack = f :: below) :
    s.held .loading = f.loading.toList ++ below.filterMap LifeFrame.loading ∧
      s.held .unloading = f.unloading.toList ++ below.filterMap LifeFrame.unloading := by
  constructor
  · rw [held, hstack, List.filterMap_cons]
    cases f.loading <;> rfl
  · rw [held, hstack, List.filterMap_cons]
    cases f.unloading <;> rfl

/-- A plugin that has been loaded is put on the list. -/
theorem Kept.loaded (h : s.Kept Q) (hstack : s.stack = .load i :: below) :
    Kept Q { s with linked := i :: s.linked, stack := below } := by
  obtain ⟨hload, hunload⟩ := held_of_stack hstack
  have hi : i ∈ s.held .loading := hload ▸ List.mem_cons_self
  obtain ⟨l, hl, hfits⟩ := h.fits .loading i hi
  refine h.move l .loading (some .linked) hi (fun _ _ => rfl) hl ?_ (fun ph hph => ?_)
    (fun ph hph hdst => ?_) nofun (fun ph hph => ?_) nofun
  · rw [hload]
    exact (List.erase_cons_head i _).symm
  · obtain rfl := Option.some.inj hph
    rfl
  · cases ph with
    | unloading => exact hunload.symm
    | _ => first | exact absurd rfl hph | exact absurd rfl hdst | rfl
  · obtain rfl := Option.some.inj hph
    exact Life.Fits.running hfits

theorem held_failed (hstack : s.stack = .load i :: below) :
    held { s with stack := below } .loading = (s.held .loading).erase i ∧
      ∀ ph, ph ≠ .loading → held { s with stack := below } ph = s.held ph := by
  obtain ⟨hload, hunload⟩ := held_of_stack hstack
  refine ⟨?_, fun ph hph => ?_⟩
  · rw [hload]
    exact (List.erase_cons_head i _).symm
  · cases ph with
    | unloading => exact hunload.symm
    | _ => first | exact absurd rfl hph | rfl

/-- A plugin that could not be loaded is left. -/
theorem Kept.failed (h : s.Kept Q) (hstack : s.stack = .load i :: below)
    (hQ : ∀ l : Life, l.Fits .loading → Q l) : Kept Q { s with stack := below } := by
  obtain ⟨hsrc, hrest⟩ := held_failed hstack
  have hi : i ∈ s.held .loading := (held_of_stack hstack).1 ▸ List.mem_cons_self
  obtain ⟨l, hl, hfits⟩ := h.fits .loading i hi
  exact h.move l .loading none hi (fun _ _ => rfl) hl hsrc nofun
    (fun ph hph _ => hrest ph hph) nofun nofun fun _ => hQ l hfits

/-- A plugin of the list is unloaded. -/
theorem Kept.unload (h : s.Kept Q) (hi : i ∈ s.linked) :
    Kept Q (({ s with linked := s.linked.erase i }.call i .unload).push (.unload i)) := by
  obtain ⟨l, hl, hrunning⟩ := h.fits .linked i hi
  refine h.move (l.call .unload) .linked (some .unloading) hi (fun j hj => ?_) ?_ rfl
    (fun ph hph => ?_) (fun ph hph hdst => ?_) nofun (fun ph hph => ?_) nofun
  · exact (getElem?_call _ i .unload j).trans (if_neg hj.symm)
  · exact (getElem?_call _ i .unload i).trans (by rw [if_pos rfl, hl, Option.map_some])
  · obtain rfl := Option.some.inj hph
    rfl
  · cases ph <;> first | exact absurd rfl hph | exact absurd rfl hdst | rfl
  · obtain rfl := Option.some.inj hph
    exact Life.Running.unloading hrunning

/-- A plugin that has been unloaded is finished. -/
theorem Kept.finish (h : s.Kept Q) (hstack : s.stack = .unload i :: below)
    (hQ : ∀ l : Life, l.Over → Q l) : Kept Q ({ s with stack := below }.call i .finish) := by
  obtain ⟨hload, hunload⟩ := held_of_stack hstack
  have hi : i ∈ s.held .unloading := hunload ▸ List.mem_cons_self
  obtain ⟨l, hl, hfits⟩ := h.fits .unloading i hi
  refine h.move (l.call .finish) .unloading none hi (fun j hj => ?_) ?_ ?_
    nofun (fun ph hph _ => ?_) nofun nofun fun _ => hQ _ (Life.Fits.over hfits)
  · exact (getElem?_call _ i .finish j).trans (if_neg hj.symm)
  · exact (getElem?_call _ i .finish i).trans (by rw [if_pos rfl, hl, Option.map_some])
  · rw [hunload]
    exact (List.erase_cons_head i _).symm
  · cases ph with
    | loading => exact hload.symm
    | _ => first | exact absurd rfl hph | rfl

/-- Something returns or goes on that says nothing of a plugin that is loaded or unloaded. -/
theorem Kept.pop (h : s.Kept Q) (hstack : s.stack = f :: below) (hload : f.loading = none)
    (hunload : f.unloading = none) : Kept Q { s with stack := below } := by
  obtain ⟨hloads, hunloads⟩ := held_of_stack hstack
  rw [hload] at hloads
  rw [hunload] at hunloads
  refine h.congr rfl (funext fun ph => ?_)
  cases ph with
  | loading => exact hloads.symm
  | unloading => exact hunloads.symm
  | _ => rfl

theorem Kept.remove (h : s.Kept Q) (name : CStr) : (s.remove name).Kept Q := by
  rw [Lives.remove]
  split
  · exact h
  · rename_i i hget
    exact h.unload (mem_of_get hget).1

end Steps

/-- The names on the list are distinct and differ from that of a plugin that is being loaded, and a
loop that removes all plugins has kept the first one, unless somebody else has removed it. -/
structure Tidy (s : Lives) : Prop where
  names : (s.linked.map s.name).Nodup
  free : ∀ i, .load i ∈ s.stack → s.name i ∉ s.linked.map s.name
  clear : ∀ next, .clearLoop next ∈ s.stack → s.linked.head? = next ∨ ∃ q ∈ next, q ∉ s.linked
  outermost : ∀ f ∈ s.stack.dropLast, f.outermost = false

section Tidiness

variable {s s' : Lives} {i j : ℕ} {l : Life} {name : CStr} {c : LifeCall} {f : LifeFrame}
  {below : List LifeFrame}

theorem Tidy.nodup (h : s.Tidy) : s.linked.Nodup := List.Nodup.of_map _ h.names

/-- The names, the list and the stack are what matters. -/
theorem Tidy.congr (h : s.Tidy) (hname : s'.name = s.name) (hlinked : s'.linked = s.linked)
    (hstack : s'.stack = s.stack) : s'.Tidy := by
  obtain ⟨hnames, hfree, hclear, houtermost⟩ := h
  rw [← hname, ← hlinked] at hnames hfree
  rw [← hstack] at hfree hclear houtermost
  rw [← hlinked] at hclear
  exact ⟨hnames, hfree, hclear, houtermost⟩

theorem Tidy.call (h : s.Tidy) (i : ℕ) (c : LifeCall) : (s.call i c).Tidy :=
  h.congr (name_call s i c) rfl rfl

theorem Tidy.push (h : s.Tidy) (hf : f.outermost = false) : (s.push f).Tidy := by
  have hmem {g : LifeFrame} (hg : g ∈ f :: s.stack) (houtermost : g.outermost = true) :
      g ∈ s.stack := by
    refine (List.mem_cons.1 hg).resolve_left ?_
    rintro rfl
    rw [hf] at houtermost
    cases houtermost
  refine ⟨h.names, fun i hi => h.free i (hmem hi rfl),
    fun next hnext => h.clear next (hmem hnext rfl), fun g hg => ?_⟩
  cases hstack : s.stack with
  | nil =>
    rw [Lives.push, hstack] at hg
    cases hg
  | cons e below =>
    rw [Lives.push, hstack, List.dropLast_cons_cons] at hg
    rcases List.mem_cons.1 hg with rfl | hg
    · exact hf
    · exact h.outermost g (hstack ▸ hg)

/-- What is at the bottom of the stack may be of any kind. -/
theorem Tidy.push_nil (h : s.Tidy) (hstack : s.stack = [])
    (hfree : ∀ i, f = .load i → s.name i ∉ s.linked.map s.name)
    (hclear : ∀ next, f = .clearLoop next → s.linked.head? = next) : (s.push f).Tidy := by
  have hpush : (s.push f).stack = [f] := by rw [Lives.push, hstack]
  refine ⟨h.names, fun i hi => ?_, fun next hnext => .inl ?_, fun g hg => ?_⟩
  · rw [hpush, List.mem_singleton] at hi
    exact hfree i hi.symm
  · rw [hpush, List.mem_singleton] at hnext
    exact hclear next hnext.symm
  · rw [hpush] at hg
    cases hg

theorem Tidy.pop (h : s.Tidy) (hstack : s.stack = f :: below) : Tidy { s with stack := below } := by
  refine ⟨h.names, fun i hi => h.free i ?_, fun next hnext => h.clear next ?_, fun g hg =>
    h.outermost g ?_⟩
  · exact hstack ▸ List.mem_cons_of_mem f hi
  · exact hstack ▸ List.mem_cons_of_mem f hnext
  · cases below with
    | nil => cases hg
    | cons e below =>
      rw [hstack, List.dropLast_cons_cons]
      exact List.mem_cons_of_mem f hg

/-- There is nothing below what only the event loop starts. -/
theorem Tidy.below_eq_nil (h : s.Tidy) (hstack : s.stack = f :: below) (hf : f.outermost = true) :
    below = [] := by
  cases below with
  | nil => rfl
  | cons e below =>
    have hnot := h.outermost f (by rw [hstack, List.dropLast_cons_cons]; exact List.mem_cons_self)
    rw [hf] at hnot
    cases hnot

/-- A plugin is taken off the list. -/
theorem Tidy.erase (h : s.Tidy) (i : ℕ) : Tidy { s with linked := s.linked.erase i } := by
  refine ⟨h.names.sublist (List.erase_sublist.map _), fun j hj hmem => h.free j hj ?_,
    fun next hnext => ?_, h.outermost⟩
  · exact (List.erase_sublist.map s.name).subset hmem
  · have hnot : i ∉ s.linked.erase i := h.nodup.not_mem_erase
    rcases h.clear next hnext with hhead | ⟨q, hq, hother⟩
    · cases hlinked : s.linked with
      | nil =>
        rw [hlinked] at hhead
        exact .inl (by simpa [hlinked] using hhead)
      | cons q rest =>
        rw [hlinked, List.head?_cons] at hhead
        by_cases hqi : q = i
        · -- the loop has kept the plugin
          rw [hlinked, ← hqi] at hnot
          exact .inr ⟨q, hhead.symm, hqi ▸ hnot⟩
        · refine .inl ?_
          rw [List.erase_cons_tail (by simpa using hqi), List.head?_cons]
          exact hhead
    · exact .inr ⟨q, hq, fun hmem => hother (List.mem_of_mem_erase hmem)⟩

theorem Tidy.remove (h : s.Tidy) (name : CStr) : (s.remove name).Tidy := by
  rw [Lives.remove]
  split
  · exact h
  · rename_i i _
    exact ((h.erase i).call i .unload).push rfl

/-- A plugin that has been loaded is put on the list. -/
theorem Tidy.loaded (h : s.Tidy) (hstack : s.stack = .load i :: below) :
    Tidy { s with linked := i :: s.linked, stack := below } := by
  obtain rfl := h.below_eq_nil hstack rfl
  refine ⟨?_, nofun, nofun, nofun⟩
  rw [List.map_cons]
  exact List.nodup_cons.2 ⟨h.free i (hstack ▸ List.mem_cons_self), h.names⟩

/-- A plugin is opened. -/
theorem Tidy.search (h : s.Tidy) (hstack : s.stack = [])
    (hlt : ∀ i ∈ s.linked, i < s.objects.length) (name : CStr) : (s.search name).Tidy := by
  have hsame : s.linked.map (s.search name).name = s.linked.map s.name := by
    refine List.map_congr_left fun i hi => ?_
    rw [Lives.name, Lives.search, List.getElem?_append_left (hlt i hi), Lives.name]
  have hnil : (s.search name).stack = [] := hstack
  refine ⟨hsame ▸ h.names, ?_, ?_, ?_⟩ <;> rw [hnil] <;> exact nofun

end Tidiness

/-! ## Runs -/

/-- The invariant, where `Q` holds of the plugins that nobody has any more. -/
structure Good (Q : Life → Prop) (s : Lives) : Prop where
  kept : s.Kept Q
  tidy : s.Tidy

section Runs

variable {s s' : Lives} {x : Except LifeFault Lives} {a : Action} {Q : Life → Prop} {i q : ℕ}
  {l : Life} {name : CStr} {f : LifeFrame} {below : List LifeFrame} {answer : Bool} {r : Reaction}

theorem good_start (Q : Life → Prop) : start.Good Q where
  kept :=
    have hheld (ph : LifePhase) : start.held ph = [] := by cases ph <;> rfl
    { fits := fun ph i hi => absurd (hheld ph ▸ hi) List.not_mem_nil
      others := fun _ _ hl => nomatch hl
      nodup := fun ph => hheld ph ▸ List.nodup_nil
      apart := fun i ph _ hi => absurd (hheld ph ▸ hi) List.not_mem_nil }
  tidy := ⟨List.nodup_nil, nofun, nofun, nofun⟩

theorem Good.push (h : s.Good Q) (hload : f.loading = none) (hunload : f.unloading = none)
    (hf : f.outermost = false) : (s.push f).Good Q :=
  ⟨h.kept.push hload hunload, h.tidy.push hf⟩

/-- A plugin of the list is called. -/
theorem Good.push_call (h : s.Good Q) (hi : i ∈ s.linked) {c : LifeCall}
    (hc : c = .set ∨ c = .handle ∨ c = .reload) (hload : f.loading = none)
    (hunload : f.unloading = none) (hf : f.outermost = false) : ((s.call i c).push f).Good Q :=
  ⟨h.kept.push_call hi hc hload hunload, (h.tidy.call i c).push hf⟩

theorem Good.pop (h : s.Good Q) (hstack : s.stack = f :: below) (hload : f.loading = none)
    (hunload : f.unloading = none) : Good Q { s with stack := below } :=
  ⟨h.kept.pop hstack hload hunload, h.tidy.pop hstack⟩

theorem Good.remove (h : s.Good Q) (name : CStr) : (s.remove name).Good Q :=
  ⟨h.kept.remove name, h.tidy.remove name⟩

/-- A plugin is given to the bot. -/
theorem Good.add (h : s.Good Q) (hstack : s.stack = []) (hi : i ∈ s.pending)
    (hl : s.objects[i]? = some l) (hQ : s.get l.name = none ∨ (l.Idle → Q l)) :
    (s.add i l).Good Q := by
  have hget : ({ s with pending := s.pending.erase i } : Lives).get l.name = s.get l.name := rfl
  have htidy : Tidy { s with pending := s.pending.erase i } := h.tidy.congr rfl rfl rfl
  rw [Lives.add, hget]
  split
  · rename_i htaken
    refine ⟨h.kept.refuse hi hl (hQ.resolve_left fun hfree => ?_), htidy⟩
    rw [hfree] at htaken
    cases htaken
  · rename_i hfree
    refine ⟨h.kept.load hi, (htidy.call i .load).push_nil hstack (fun j hj => ?_) nofun⟩
    obtain rfl : i = j := LifeFrame.load.inj hj
    have hname : s.name i = some l.name := by rw [name, hl, Option.map_some]
    -- the name has been looked for and not found
    rw [name_call]
    show s.name i ∉ s.linked.map s.name
    rw [hname]
    exact get_eq_none_iff.1 (Option.not_isSome_iff_eq_none.1 hfree)

/-- A plugin returns. -/
theorem Good.ret (h : s.Good Q) (hstack : s.stack = f :: below) (hover : ∀ l : Life, l.Over → Q l)
    (hrefused : (∀ l : Life, l.Refused → Q l) ∨ (f.loading.isSome → answer = true)) :
    Good Q (Lives.ret { s with stack := below } answer f) := by
  cases f with
  | load i =>
    cases answer with
    | true => exact ⟨h.kept.loaded hstack, h.tidy.loaded hstack⟩
    | false =>
      have hQ : ∀ l : Life, l.Refused → Q l := hrefused.resolve_right fun hload => nomatch hload rfl
      exact ⟨h.kept.failed hstack fun l hl => hQ l (.inr hl), h.tidy.pop hstack⟩
  | unload i => exact ⟨h.kept.finish hstack hover, (h.tidy.pop hstack).call i .finish⟩
  | reload i => exact (h.pop hstack rfl rfl).push rfl rfl rfl
  | handle next plgcmd => exact (h.pop hstack rfl rfl).push rfl rfl rfl
  | _ => exact h.pop hstack rfl rfl

theorem access_eq_ok_iff {s₁ : Lives} : s.access q s₁ = .ok s' ↔ q ∈ s.linked ∧ s₁ = s' := by
  rw [access]
  split <;> simp_all

/-- The loop that removes all plugins goes on. -/
theorem Good.clear (h : s.Good Q) (hstack : s.stack = .clearLoop (some q) :: below)
    (hq : q ∈ s.linked) (hname : s.name q = some name) :
    Good Q (({ s with stack := below }.push (.clearLoop (s.next q))).remove name) := by
  have hpop : Good Q { s with stack := below } := h.pop hstack rfl rfl
  refine ⟨(hpop.kept.push rfl rfl).remove name, ?_⟩
  obtain rfl := h.tidy.below_eq_nil hstack rfl
  -- nobody has removed the plugin, so it is the first of the list
  have hhead : s.linked.head? = some q := by
    rcases h.tidy.clear (some q) (hstack ▸ List.mem_cons_self) with hhead | ⟨q', hq', hnot⟩
    · exact hhead
    · exact absurd (Option.some.inj hq' ▸ hq) hnot
  obtain ⟨rest, hlinked⟩ := List.head?_eq_some_iff.1 hhead
  have hnext : s.next q = rest.head? := by
    have hpending : Traversal.pending (q :: rest) (some q) = q :: rest :=
      Traversal.pending_head?
    rw [next, hlinked, hpending, List.tail_cons]
  have hget : s.get name = some q := by
    rw [get, hlinked, List.find?_cons_of_pos (by simp [hname])]
  have herase : s.linked.erase q = rest := by rw [hlinked, List.erase_cons_head]
  -- the name is that of the first plugin, so this one is removed
  have hremove : ({ s with stack := [] }.push (.clearLoop (s.next q))).remove name =
      ((({ s with stack := [], linked := s.linked.erase q } : Lives).push
        (.clearLoop (s.next q))).call q .unload).push (.unload q) := by
    have hget' : Lives.get ({ s with stack := [] }.push (.clearLoop (s.next q))) name = some q :=
      hget
    rw [Lives.remove, hget']
    rfl
  rw [hremove]
  refine (Tidy.call ?_ q .unload).push rfl
  refine (hpop.tidy.erase q).push_nil rfl nofun fun next hnext' => ?_
  obtain rfl : s.next q = next := LifeFrame.clearLoop.inj hnext'
  rw [hnext]
  exact congrArg List.head? herase

/-- A loop goes on. -/
theorem Good.resume (h : s.Good Q) (hstack : s.stack = f :: below) (hf : f.waits = false)
    (hresume : Lives.resume { s with stack := below } r f = .ok s') : s'.Good Q := by
  have hpop (hload : f.loading = none) (hunload : f.unloading = none) :
      Good Q { s with stack := below } := h.pop hstack hload hunload
  cases f with
  | reloadLoop i =>
    obtain ⟨-, rfl⟩ := access_eq_ok_iff.1 hresume
    split
    · rename_i j hnext
      -- the next plugin is read when the loop goes on, so it is on the list
      have hj : j ∈ s.linked := by
        have hmem := List.mem_of_mem_tail (List.mem_of_head? hnext)
        exact Traversal.pending_subset hmem
      exact (hpop rfl rfl).push_call hj (.inr (.inr rfl)) rfl rfl rfl
    · exact hpop rfl rfl
  | dispatchLoop next plgcmd =>
    cases next with
    | some q =>
      obtain ⟨hq, rfl⟩ := access_eq_ok_iff.1 hresume
      cases r with
      | refuse => exact (hpop rfl rfl).push rfl rfl rfl
      | address => exact (hpop rfl rfl).push rfl rfl rfl
      | hand => exact (hpop rfl rfl).push_call hq (.inr (.inl rfl)) rfl rfl rfl
    | none =>
      cases plgcmd with
      | some q =>
        obtain ⟨hq, rfl⟩ := access_eq_ok_iff.1 hresume
        split
        · exact (hpop rfl rfl).push_call hq (.inr (.inl rfl)) rfl rfl rfl
        · exact hpop rfl rfl
      | none =>
        obtain rfl := Except.ok.inj hresume
        exact hpop rfl rfl
  | clearLoop next =>
    cases next with
    | some q =>
      obtain ⟨hq, rfl⟩ := access_eq_ok_iff.1 hresume
      split
      · rename_i name hname
        exact h.clear hstack hq hname
      · exact hpop rfl rfl
    | none =>
      obtain rfl := Except.ok.inj hresume
      -- the loop is over, so nothing is left
      have hnil : s.linked = [] := by
        rcases h.tidy.clear none (hstack ▸ List.mem_cons_self) with hhead | ⟨q, hq, -⟩
        · exact List.head?_eq_none_iff.1 hhead
        · cases hq
      have hgood := hpop rfl rfl
      rw [hnil] at hgood
      exact hgood
  | _ => cases hf

/-- A step keeps the invariant, if refused plugins may be left. -/
theorem Good.act (h : s.Good Q) (hstep : s.act a = some (.ok s')) (hover : ∀ l : Life, l.Over → Q l)
    (hrefused : (∀ l : Life, l.Refused → Q l) ∨ Takes (.ok s) a (.ok s')) : s'.Good Q := by
  unfold Lives.act at hstep
  split at hstep
  · -- search
    rename_i name hstack
    obtain rfl := Except.ok.inj (Option.some.inj hstep)
    refine ⟨h.kept.search name, h.tidy.search hstack (fun i hi => ?_) name⟩
    obtain ⟨l, hl, -⟩ := h.kept.fits .linked i hi
    exact (List.getElem?_eq_some_iff.1 hl).1
  · -- set
    rename_i i hstack
    obtain ⟨hi, hsome⟩ := Option.ite_none_right_eq_some.1 hstep
    obtain rfl := Except.ok.inj (Option.some.inj hsome)
    exact ⟨h.kept.set hi, h.tidy.call i .set⟩
  · -- add
    rename_i i hstack
    obtain ⟨hi, hsome⟩ := Option.ite_none_right_eq_some.1 hstep
    obtain ⟨l, hl, hok⟩ := Option.map_eq_some_iff.1 hsome
    obtain rfl := Except.ok.inj hok
    exact h.add hstack hi hl (hrefused.symm.imp (· l hl) fun hQ hidle => hQ l (.inl hidle))
  · -- reloadAll
    rename_i hstack
    split at hstep
    · rename_i i hhead
      obtain rfl := Except.ok.inj (Option.some.inj hstep)
      exact h.push_call (List.mem_of_head? hhead) (.inr (.inr rfl)) rfl rfl rfl
    · obtain rfl := Except.ok.inj (Option.some.inj hstep)
      exact h
  · -- clear
    rename_i hstack
    obtain rfl := Except.ok.inj (Option.some.inj hstep)
    exact ⟨h.kept.push rfl rfl,
      h.tidy.push_nil hstack nofun fun next hnext => LifeFrame.clearLoop.inj hnext⟩
  · -- callback
    obtain rfl := Except.ok.inj (Option.some.inj hstep)
    exact h.push rfl rfl rfl
  · -- dispatch
    obtain ⟨-, hsome⟩ := Option.ite_none_right_eq_some.1 hstep
    obtain rfl := Except.ok.inj (Option.some.inj hsome)
    exact h.push rfl rfl rfl
  · -- reload
    obtain ⟨⟨-, hi⟩, hsome⟩ := Option.ite_none_right_eq_some.1 hstep
    obtain rfl := Except.ok.inj (Option.some.inj hsome)
    exact h.push_call hi (.inr (.inr rfl)) rfl rfl rfl
  · -- remove
    obtain ⟨-, hsome⟩ := Option.ite_none_right_eq_some.1 hstep
    obtain rfl := Except.ok.inj (Option.some.inj hsome)
    exact h.remove _
  · -- ret
    rename_i f below answer hstack
    obtain ⟨-, hsome⟩ := Option.ite_none_right_eq_some.1 hstep
    obtain rfl := Except.ok.inj (Option.some.inj hsome)
    refine h.ret hstack hover (hrefused.imp_right fun htakes => htakes f ?_)
    rw [hstack]
    rfl
  · -- resume
    rename_i f below r hstack
    obtain ⟨hf, hsome⟩ := Option.ite_none_left_eq_some.1 hstep
    exact h.resume hstack (by simpa using hf) (Option.some.inj hsome)
  · cases hstep

/-- A loop goes on if and only if the plugin that it has kept is on the list. -/
theorem exists_resume_iff :
    (∃ s', s.resume r f = .ok s') ↔ ∀ q ∈ f.cached, q ∈ s.linked := by
  have haccess (q : ℕ) (s₁ : Lives) : (∃ s', s.access q s₁ = .ok s') ↔ q ∈ s.linked := by
    simp [access_eq_ok_iff]
  rcases f with i | i | i | ⟨next, plgcmd⟩ | - | i | ⟨- | q, - | q'⟩ | - | q <;>
    simp [Lives.resume, LifeFrame.cached, haccess]

/-- A step goes wrong exactly when it is a loop that finds its plugin gone. -/
theorem undisturbed_iff (hstep : s.act a = some x) :
    Undisturbed (.ok s) a x ↔ ∃ s', x = .ok s' := by
  unfold Lives.act at hstep
  split at hstep
  case h_11 f below r hstack =>
    obtain ⟨-, hsome⟩ := Option.ite_none_left_eq_some.1 hstep
    obtain rfl := Option.some.inj hsome
    rw [exists_resume_iff]
    simp [Undisturbed, hstack]
  case h_12 => cases hstep
  all_goals
    refine iff_of_true trivial ?_
    grind

/-- A plugin that is given to the bot for nothing is left behind. -/
theorem Good.not_released (h : s.Good Life.Over) (hstep : s.act a = some (.ok s'))
    (htakes : ¬ Takes (.ok s) a (.ok s')) : ¬ s'.Released := by
  intro hreleased
  unfold Lives.act at hstep
  split at hstep
  case h_3 i hstack =>
    -- the name is in use
    obtain ⟨hi, hsome⟩ := Option.ite_none_right_eq_some.1 hstep
    obtain ⟨l, hl, hok⟩ := Option.map_eq_some_iff.1 hsome
    obtain rfl := Except.ok.inj hok
    have htaken : (s.get l.name).isSome := by
      refine Option.isSome_iff_ne_none.2 fun hfree => htakes fun l' hl' => ?_
      obtain rfl := Option.some.inj (hl.symm.trans hl')
      exact hfree
    have hadd : s.add i l = { s with pending := s.pending.erase i } := if_pos htaken
    obtain ⟨l', hl', hidle⟩ := h.kept.fits .pending i hi
    refine Life.Idle.not_over hidle (hreleased i l' ?_ ?_)
    · rw [hadd]
      exact hl'
    · rw [hadd]
      exact h.kept.not_held .pending hi rfl fun ph hph => held_refuse s i hph
  case h_10 f below answer hstack =>
    obtain ⟨-, hsome⟩ := Option.ite_none_right_eq_some.1 hstep
    obtain rfl := Except.ok.inj (Option.some.inj hsome)
    have hfailed : f.loading.isSome ∧ ¬ answer = true := by
      simpa [Takes, hstack] using htakes
    obtain ⟨hload, hanswer⟩ := hfailed
    cases f with
    | load i =>
      -- the plugin did not load
      obtain ⟨hsrc, hrest⟩ := held_failed hstack
      have hi : i ∈ s.held .loading := (held_of_stack hstack).1 ▸ List.mem_cons_self
      obtain ⟨l, hl, hfits⟩ := h.kept.fits .loading i hi
      have hret : Lives.ret { s with stack := below } answer (.load i) =
          { s with stack := below } := if_neg hanswer
      rw [hret] at hreleased
      exact Life.Fits.not_over hfits (hreleased i l hl (h.kept.not_held .loading hi hsrc hrest))
    | _ => cases hload
  case h_12 => cases hstep
  all_goals exact htakes trivial

end Runs

/-- In every run of the bot, where plugins may dispatch events and unload and reload plugins while
they are called, the functions of each plugin are called in the right order: variables are set, the
plugin is loaded once, then it is handed events and reloaded, it is unloaded once and finished, and
nothing is called after that, if and only if each loop that goes on after a plugin has returned
finds the plugin that it has kept on the list. -/
theorem legal_iff (as : List Action) :
    Runs.AllStates step LegalRun (.ok start) as ↔
      Runs.AllSteps step Undisturbed (.ok start) as := by
  refine Runs.allStates_iff_allSteps
    (I := fun x => ∃ s, x = .ok s ∧ Good (fun l => l.Over ∨ l.Refused) s) ?_ ?_ ?_
    ⟨start, rfl, good_start _⟩
  · rintro _ a x ⟨s, rfl, hgood⟩ hstep hundisturbed
    obtain ⟨s', rfl⟩ := (undisturbed_iff hstep).1 hundisturbed
    exact ⟨s', rfl, hgood.act hstep (fun _ => .inl) (.inl fun _ => .inr)⟩
  · rintro _ ⟨s, rfl, hgood⟩
    exact ⟨hgood.kept.fits, hgood.kept.others, hgood.tidy.names⟩
  · rintro _ a x ⟨s, rfl, hgood⟩ hstep hdisturbed hlegal
    cases x with
    | ok s' => exact hdisturbed ((undisturbed_iff hstep).2 ⟨s', rfl⟩)
    | error e => exact hlegal

/-- An event is handed to a plugin that unloads the next one. -/
example : Runs.exec step (.ok start) [.search (cstr "ask"), .add 0, .ret true,
    .search (cstr "roulette"), .add 1, .ret true, .dispatch, .resume .hand, .remove (cstr "ask"),
    .ret true, .ret true, .resume .hand] = some (.error (.finished 0)) := rfl

/-- In every run of the bot, all plugins that have been given away and that the bot does not have
any more have been unloaded and finished, if and only if no plugin was refused, for its name or
because it did not load. -/
theorem released_iff (as : List Action) :
    Runs.AllStates step ReleasedRun (.ok start) as ↔
      Runs.AllSteps step Takes (.ok start) as := by
  refine Runs.allStates_iff_allSteps (I := fun x => ∀ s, x = .ok s → s.Good Life.Over) ?_ ?_ ?_ ?_
  · rintro x a y hgood hstep htakes s' rfl
    cases x with
    | ok s => exact (hgood s rfl).act hstep (fun _ => id) (.inr htakes)
    | error e => cases hstep
  · intro x hgood
    cases x with
    | ok s => exact (hgood s rfl).kept.others
    | error e => trivial
  · intro x a y hgood hstep htakes hreleased
    cases x with
    | ok s =>
      cases y with
      | ok s' => exact (hgood s rfl).not_released hstep htakes hreleased
      | error e =>
        -- neither an addition nor a return accesses what a loop has kept
        have hnot (hundisturbed : Undisturbed (.ok s) a (.error e)) : False := by
          obtain ⟨s', hs'⟩ := (undisturbed_iff hstep).1 hundisturbed
          cases hs'
        cases a with
        | add i => exact hnot trivial
        | ret answer => exact hnot trivial
        | _ => exact htakes trivial
    | error e => cases hstep
  · rintro s hs
    obtain rfl := Except.ok.inj hs
    exact good_start _

end Lives

end Irccd
