import Mathlib.Data.Int.Notation
import Irccd.Foundations.Runs

/-!
# Timers of the scripts (`jsapi-timer.c`)

A script makes a timer of an object, which `Timer_constructor` gives a watcher of the event loop.
What the methods of the object do to the watcher is not what they say: a timer that was stopped
keeps what was left of its duration, a timer that is not repeated is stopped when it is restarted,
and the finalizer of the object raises an error before it stops the watcher.

* `EvTimer`: the watcher, with the functions of the event loop;
* `Timers`, `Timers.step`: the timers of a plugin, the methods, the event loop and the collector;
* `Alarm`: what a timer is for;
* `Timers.documented_iff`: exactly when the timers do what their methods say;
* `Timers.alive_iff`: exactly when no watcher is left behind by its object.
-/

namespace Irccd

/-! ## The event loop (`ev.c`) -/

/-- `struct ev_timer`, in milliseconds, with what waits in `pendings`. While the timer is active,
`evAt` is when it expires, and otherwise how long it will take. -/
structure EvTimer where
  evAt : ℤ
  «repeat» : ℕ
  active : Bool
  pending : Bool
  deriving DecidableEq

namespace EvTimer

variable (now : ℤ) (w : EvTimer)

/-- `ev_timer_init` -/
def init (after «repeat» : ℕ) : EvTimer :=
  { evAt := after, «repeat» := «repeat», active := false, pending := false }

/-- `clear_pending` -/
def clearPending : EvTimer := { w with pending := false }

/-- `ev_timer_start` -/
def start : EvTimer := if w.active then w else { w with evAt := w.evAt + now, active := true }

/-- `ev_timer_stop` -/
def stop : EvTimer :=
  let w := w.clearPending
  if w.active then { w with evAt := w.evAt - now, active := false } else w

/-- `ev_timer_again` -/
def again : EvTimer :=
  let w := w.clearPending
  if w.active then
    if w.repeat ≠ 0 then { w with evAt := now + w.repeat } else w.stop now
  else if w.repeat ≠ 0 then ({ w with evAt := w.repeat } : EvTimer).start now
  else w

/-- `timers_reify` on one timer. -/
def reify : EvTimer :=
  if w.active ∧ w.evAt < now then
    -- a timer that is late goes on from now
    let w := if w.repeat ≠ 0 then { w with evAt := max (w.evAt + w.repeat) now } else w.stop now
    { w with pending := true }
  else w

/-! No function changes the repetition. -/

@[simp] theorem repeat_clearPending : w.clearPending.repeat = w.repeat := rfl

@[simp] theorem active_clearPending : w.clearPending.active = w.active := rfl

@[simp] theorem repeat_start : (w.start now).repeat = w.repeat := by
  rw [start]
  split <;> rfl

@[simp] theorem repeat_stop : (w.stop now).repeat = w.repeat := by
  by_cases hactive : w.active = true <;> simp [stop, clearPending, hactive]

@[simp] theorem repeat_again : (w.again now).repeat = w.repeat := by
  by_cases hactive : w.active = true <;> by_cases hrepeat : w.repeat = 0 <;>
    simp [again, hactive, hrepeat]

@[simp] theorem repeat_reify : (w.reify now).repeat = w.repeat := by
  rw [reify]
  split
  · dsimp only
    split
    · rfl
    · exact repeat_stop now w
  · rfl

end EvTimer

/-! ## The timers of a plugin -/

/-- `enum stimer_type` -/
inductive StimerType
  | repeat
  | oneshot
  deriving DecidableEq

/-- `struct stimer`, with the arguments of the constructor, and whether its object has not been
freed. -/
structure Stimer where
  type : StimerType
  duration : ℕ
  timer : EvTimer
  alive : Bool
  deriving DecidableEq

namespace Stimer

/-- `stimer_init`, in `Timer_constructor`. -/
def init (type : StimerType) (duration : ℕ) : Stimer where
  type
  duration
  timer := .init duration (if type = .repeat then duration else 0)
  alive := true

/-- A function of the event loop is called on the watcher. -/
def onWatcher (f : EvTimer → EvTimer) (t : Stimer) : Stimer := { t with timer := f t.timer }

/-- `Timer_destructor`: `duk_del_prop_string` has no object at its index, and raises before
`stimer_stop`. -/
def destruct (t : Stimer) : Stimer := { t with alive := false }

/-- The watcher neither runs nor has expired. -/
def Idle (t : Stimer) : Prop := t.timer.active = false ∧ t.timer.pending = false

end Stimer

/-- The timers that a plugin has created, and the time of the event loop. -/
structure Timers where
  now : ℤ
  list : List Stimer
  loaded : Bool

namespace Timers

/-- The plugin is loaded at some time. -/
def start (now : ℤ) : Timers := { now, list := [], loaded := true }

/-- What the script, the event loop and the collector do. -/
inductive Action
  | construct (type : StimerType) (duration : ℕ)
  | start (i : ℕ)
  | restart (i : ℕ)
  | stop (i : ℕ)
  /-- The event loop wakes up, and looks for the timers that have expired. -/
  | turn (now : ℤ)
  /-- The callback of a timer that has expired is called. -/
  | call (i : ℕ)
  /-- The object of a timer is freed. -/
  | collect (i : ℕ)
  /-- The plugin is unloaded, and all of its objects are freed. -/
  | unload

section Functions

variable (s : Timers)

/-- Change a timer. -/
def modify (i : ℕ) (f : Stimer → Stimer) : Timers := { s with list := s.list.modify i f }

/-- A method of the object of a timer. -/
def method (i : ℕ) (f : EvTimer → EvTimer) : Option Timers :=
  if (s.list[i]?).any Stimer.alive then some (s.modify i (.onWatcher f)) else none

end Functions

/-- The loop turns when all callbacks have been called. -/
def step (s : Timers) : Action → Option Timers
  | .construct type duration =>
    if s.loaded then some { s with list := s.list ++ [.init type duration] } else none
  | .start i => s.method i (.start s.now)
  | .restart i => s.method i (.again s.now)
  | .stop i => s.method i (.stop s.now)
  | .turn now =>
    if s.now ≤ now ∧ s.list.all fun t => !t.timer.pending then
      some { s with now, list := s.list.map (.onWatcher (.reify now)) }
    else none
  | .call i =>
    if (s.list[i]?).any fun t => t.timer.pending then
      some (s.modify i (.onWatcher .clearPending))
    else none
  | .collect i => if (s.list[i]?).any Stimer.alive then some (s.modify i .destruct) else none
  | .unload =>
    if s.loaded then some { s with list := s.list.map .destruct, loaded := false } else none

end Timers

/-! ## What a timer is for -/

/-- A timer as the scripts see it: it is due at some time, or it is stopped, and it may have gone
off when its callback has not been called. -/
structure Alarm where
  type : StimerType
  duration : ℕ
  due : Option ℤ
  waiting : Bool
  deriving DecidableEq

namespace Alarm

variable (now : ℤ) (a : Alarm)

def init (type : StimerType) (duration : ℕ) : Alarm :=
  { type, duration, due := none, waiting := false }

/-- It takes its duration, unless it has been started. -/
def start : Alarm := { a with due := some (a.due.getD (now + a.duration)) }

/-- It takes its duration again. -/
def restart : Alarm := { a with due := some (now + a.duration), waiting := false }

/-- It does not go off. -/
def stop : Alarm := { a with due := none, waiting := false }

/-- It goes off when it is due, and takes its duration again if it is repeated. -/
def advance : Alarm :=
  match a.due with
  | some due =>
    if due < now then
      { a with
        due := if a.type = .repeat then some (max (due + a.duration) now) else none
        waiting := true }
    else a
  | none => a

/-- The callback is called. -/
def called : Alarm := { a with waiting := false }

/-- What the actions mean. A timer does not go off when its object has been freed. -/
def step (now : ℤ) (as : List Alarm) : Timers.Action → List Alarm
  | .construct type duration => as ++ [.init type duration]
  | .start i => as.modify i (.start now)
  | .restart i => as.modify i (.restart now)
  | .stop i => as.modify i .stop
  | .turn now => as.map (.advance now)
  | .call i => as.modify i .called
  | .collect i => as.modify i .stop
  | .unload => as.map .stop

end Alarm

namespace Stimer

/-- What the watcher of a timer amounts to. -/
def alarm (t : Stimer) : Alarm where
  type := t.type
  duration := t.duration
  due := if t.timer.active then some t.timer.evAt else none
  waiting := t.timer.pending

/-- The repetition is that of `stimer_init`. -/
def Wellformed (t : Stimer) : Prop := t.timer.repeat = if t.type = .repeat then t.duration else 0

variable {t : Stimer} {now : ℤ}

theorem repeat_ne_zero_iff (h : t.Wellformed) :
    t.timer.repeat ≠ 0 ↔ t.type = .repeat ∧ t.duration ≠ 0 := by
  rw [h]
  split
  · rename_i htype
    simp [htype]
  · rename_i htype
    simp [htype]

theorem alarm_start_iff : (t.onWatcher (.start now)).alarm = t.alarm.start now ↔
    (t.timer.active = false → t.timer.evAt = t.duration) := by
  rw [onWatcher, EvTimer.start]
  by_cases hactive : t.timer.active = true
  · simp [alarm, Alarm.start, hactive]
  · simp [alarm, Alarm.start, hactive]
    omega

theorem alarm_restart_iff (h : t.Wellformed) :
    (t.onWatcher (.again now)).alarm = t.alarm.restart now ↔
      t.type = .repeat ∧ t.duration ≠ 0 := by
  rw [← repeat_ne_zero_iff h]
  by_cases hrepeat : t.timer.repeat = 0
  · -- the watcher is stopped
    refine iff_of_false (fun heq => ?_) (not_not_intro hrepeat)
    have hdue := congrArg Alarm.due heq
    by_cases hactive : t.timer.active = true <;>
      simp [alarm, onWatcher, Alarm.restart, EvTimer.again, EvTimer.stop, EvTimer.clearPending,
        hrepeat, hactive] at hdue
  · refine iff_of_true ?_ hrepeat
    obtain ⟨htype, hduration⟩ := (repeat_ne_zero_iff h).1 hrepeat
    rw [Wellformed, if_pos htype] at h
    by_cases hactive : t.timer.active = true <;>
      simp [alarm, onWatcher, Alarm.restart, EvTimer.again, EvTimer.start, EvTimer.clearPending,
        hactive, h, hduration, Int.add_comm]

theorem alarm_stop : (t.onWatcher (.stop now)).alarm = t.alarm.stop := by
  by_cases hactive : t.timer.active = true <;>
    simp [alarm, onWatcher, Alarm.stop, EvTimer.stop, EvTimer.clearPending, hactive]

theorem alarm_call : (t.onWatcher .clearPending).alarm = t.alarm.called := rfl

theorem alarm_reify_iff (h : t.Wellformed) :
    (t.onWatcher (.reify now)).alarm = t.alarm.advance now ↔
      (t.type = .repeat → t.timer.active = true → t.timer.evAt < now → t.duration ≠ 0) := by
  by_cases hexpired : t.timer.active = true ∧ t.timer.evAt < now
  · obtain ⟨hactive, hdue⟩ := hexpired
    by_cases htype : t.type = .repeat
    · rw [Wellformed, if_pos htype] at h
      by_cases hduration : t.duration = 0 <;>
        simp [alarm, onWatcher, Alarm.advance, EvTimer.reify, EvTimer.stop, EvTimer.clearPending,
          hactive, hdue, htype, h, hduration]
    · rw [Wellformed, if_neg htype] at h
      simp [alarm, onWatcher, Alarm.advance, EvTimer.reify, EvTimer.stop, EvTimer.clearPending,
        hactive, hdue, htype, h]
  · refine iff_of_true ?_ fun _ hactive hdue => absurd ⟨hactive, hdue⟩ hexpired
    rw [onWatcher, EvTimer.reify, if_neg hexpired]
    rw [not_and] at hexpired
    by_cases hactive : t.timer.active = true
    · simp [alarm, Alarm.advance, hactive, hexpired hactive]
    · simp [alarm, Alarm.advance, hactive]

theorem alarm_destruct_iff : t.destruct.alarm = t.alarm.stop ↔ t.Idle := by
  rw [Idle]
  by_cases hactive : t.timer.active = true <;> simp [alarm, destruct, Alarm.stop, hactive]

end Stimer

namespace Timers

variable {s s' : Timers} {a : Action}

/-- The action does what it means to the timers that it concerns: a timer that is started has all of
its duration left, one that is restarted is repeated, one that is repeated has a duration, and one
whose object is freed is stopped. -/
def Careful (s : Timers) : Action → Prop
  | .start i => ∀ t, s.list[i]? = some t → t.timer.active = false → t.timer.evAt = t.duration
  | .restart i => ∀ t, s.list[i]? = some t → t.type = .repeat ∧ t.duration ≠ 0
  | .turn now => ∀ t ∈ s.list, t.type = .repeat → t.timer.active = true → t.timer.evAt < now →
    t.duration ≠ 0
  | .collect i => ∀ t, s.list[i]? = some t → t.Idle
  | .unload => ∀ t ∈ s.list, t.Idle
  | _ => True

/-- The timers, with the alarms that they are to be. -/
def both (p : Timers × List Alarm) (a : Action) : Option (Timers × List Alarm) :=
  (step p.1 a).map fun s => (s, Alarm.step p.1.now p.2 a)

/-- The timers are the alarms. -/
def Documented (p : Timers × List Alarm) : Prop := p.1.list.map Stimer.alarm = p.2

theorem method_eq {i : ℕ} {f : EvTimer → EvTimer} (h : s.method i f = some s') :
    ∃ t, s.list[i]? = some t ∧ t.alive = true ∧ s' = s.modify i (.onWatcher f) := by
  rw [method] at h
  split at h
  · rename_i halive
    obtain ⟨t, ht, halive⟩ := (Option.any_eq_true _ _).1 halive
    exact ⟨t, ht, halive, (Option.some.inj h).symm⟩
  · cases h

/-- A change of one timer is one of its alarm. -/
theorem map_modify_iff {α β : Type} {as : List α} {i : ℕ} {x : α} (hx : as[i]? = some x)
    (v : α → β) (f : α → α) (g : β → β) :
    (as.modify i f).map v = (as.map v).modify i g ↔ v (f x) = g (v x) := by
  constructor
  · intro heq
    have hi := congrArg (·[i]?) heq
    simpa [hx] using hi
  · intro hfg
    refine List.ext_getElem? fun j => ?_
    rw [List.getElem?_map, List.getElem?_modify, List.getElem?_modify, List.getElem?_map]
    by_cases hj : i = j
    · subst hj
      simp [hx, hfg]
    · simp [hj]

/-- The repetitions are those of the constructor. -/
def Wellformed (s : Timers) : Prop := ∀ t ∈ s.list, t.Wellformed

theorem Wellformed.modify (h : s.Wellformed) (i : ℕ) {f : Stimer → Stimer}
    (hf : ∀ t, t.Wellformed → (f t).Wellformed) : (s.modify i f).Wellformed := by
  intro t ht
  obtain ⟨j, hj⟩ := List.mem_iff_getElem?.1 ht
  rw [Timers.modify, List.getElem?_modify, Option.map_eq_map, Option.map_eq_some_iff] at hj
  obtain ⟨t', ht', rfl⟩ := hj
  have hmem := h t' (List.mem_of_getElem? ht')
  split
  · exact hf t' hmem
  · exact hmem

theorem Wellformed.step (h : s.Wellformed) (hstep : step s a = some s') : s'.Wellformed := by
  -- no function of the event loop changes the repetition
  have hwatcher {f : EvTimer → EvTimer} (hf : ∀ w, (f w).repeat = w.repeat) (t : Stimer)
      (ht : t.Wellformed) : (t.onWatcher f).Wellformed := by
    rw [Stimer.Wellformed, Stimer.onWatcher]
    exact (hf t.timer).trans ht
  have hmethod {i : ℕ} {f : EvTimer → EvTimer} (hf : ∀ w, (f w).repeat = w.repeat)
      (hm : s.method i f = some s') : s'.Wellformed := by
    obtain ⟨t, -, -, rfl⟩ := method_eq hm
    exact h.modify i (hwatcher hf)
  cases a with
  | construct type duration =>
    rw [Timers.step] at hstep
    split at hstep
    · cases hstep
      intro t ht
      rcases List.mem_append.1 ht with ht | ht
      · exact h t ht
      · obtain rfl := List.mem_singleton.1 ht
        rfl
    · cases hstep
  | start i => exact hmethod (EvTimer.repeat_start s.now) hstep
  | restart i => exact hmethod (EvTimer.repeat_again s.now) hstep
  | stop i => exact hmethod (EvTimer.repeat_stop s.now) hstep
  | turn now =>
    rw [Timers.step] at hstep
    split at hstep
    · cases hstep
      intro t ht
      obtain ⟨t, hmem, rfl⟩ := List.mem_map.1 ht
      exact hwatcher (EvTimer.repeat_reify now) t (h t hmem)
    · cases hstep
  | call i =>
    rw [Timers.step] at hstep
    split at hstep
    · cases hstep
      exact h.modify i (hwatcher fun _ => rfl)
    · cases hstep
  | collect i =>
    rw [Timers.step] at hstep
    split at hstep
    · cases hstep
      exact h.modify i fun t ht => ht
    · cases hstep
  | unload =>
    rw [Timers.step] at hstep
    split at hstep
    · cases hstep
      intro t ht
      obtain ⟨t, hmem, rfl⟩ := List.mem_map.1 ht
      exact h t hmem
    · cases hstep

/-- An action leaves the timers as they are to be exactly when it is careful. -/
theorem documented_step {p p' : Timers × List Alarm} (hwf : p.1.Wellformed) (hdoc : Documented p)
    (hstep : both p a = some p') : Documented p' ↔ Careful p.1 a := by
  obtain ⟨s, as⟩ := p
  obtain rfl : s.list.map Stimer.alarm = as := hdoc
  rw [both, Option.map_eq_some_iff] at hstep
  obtain ⟨s', hs', rfl⟩ := hstep
  rw [Documented]
  dsimp only at hs' hwf ⊢
  -- what an action does to one timer is what it does to the alarm of that timer
  have hmodify {i : ℕ} {t : Stimer} (ht : s.list[i]? = some t) {f : Stimer → Stimer}
      {g : Alarm → Alarm} {P : Stimer → Prop} (hiff : (f t).alarm = g t.alarm ↔ P t) :
      (s.modify i f).list.map Stimer.alarm = (s.list.map Stimer.alarm).modify i g ↔
        ∀ t, s.list[i]? = some t → P t := by
    refine (map_modify_iff ht Stimer.alarm f g).trans (hiff.trans ?_)
    rw [ht]
    exact ⟨fun hP t' heq => Option.some.inj heq ▸ hP, fun hall => hall t rfl⟩
  have hall {f : Stimer → Stimer} {g : Alarm → Alarm} {P : Stimer → Prop}
      (hiff : ∀ t ∈ s.list, (f t).alarm = g t.alarm ↔ P t) :
      (s.list.map f).map Stimer.alarm = (s.list.map Stimer.alarm).map g ↔ ∀ t ∈ s.list, P t := by
    rw [List.map_map, List.map_map, List.map_inj_left]
    exact forall_congr' fun t => forall_congr' fun ht => hiff t ht
  cases a with
  | construct type duration =>
    rw [step] at hs'
    split at hs'
    · cases hs'
      refine iff_of_true ?_ trivial
      rw [List.map_append, List.map_singleton]
      rfl
    · cases hs'
  | start i =>
    obtain ⟨t, ht, -, rfl⟩ := method_eq hs'
    exact hmodify ht Stimer.alarm_start_iff
  | restart i =>
    obtain ⟨t, ht, -, rfl⟩ := method_eq hs'
    exact hmodify ht (Stimer.alarm_restart_iff (hwf t (List.mem_of_getElem? ht)))
  | stop i =>
    obtain ⟨t, ht, -, rfl⟩ := method_eq hs'
    exact iff_of_true ((hmodify ht (iff_of_true Stimer.alarm_stop trivial)).2 fun _ _ => trivial)
      trivial
  | turn now =>
    rw [step] at hs'
    split at hs'
    · cases hs'
      exact hall fun t ht => Stimer.alarm_reify_iff (hwf t ht)
    · cases hs'
  | call i =>
    rw [step] at hs'
    split at hs'
    · rename_i hpending
      obtain ⟨t, ht, -⟩ := (Option.any_eq_true _ _).1 hpending
      cases hs'
      exact iff_of_true ((hmodify ht (iff_of_true Stimer.alarm_call trivial)).2 fun _ _ => trivial)
        trivial
    · cases hs'
  | collect i =>
    rw [step] at hs'
    split at hs'
    · rename_i halive
      obtain ⟨t, ht, -⟩ := (Option.any_eq_true _ _).1 halive
      cases hs'
      exact hmodify ht Stimer.alarm_destruct_iff
    · cases hs'
  | unload =>
    rw [step] at hs'
    split at hs'
    · cases hs'
      exact hall fun t _ => Stimer.alarm_destruct_iff
    · cases hs'

/-- In every run of the timers of a plugin, each is due when its methods say, goes off then, and is
stopped when its object is freed, if and only if every action is careful. -/
theorem documented_iff (now : ℤ) (as : List Action) :
    Runs.AllStates both Documented (start now, []) as ↔
      Runs.AllSteps both (fun p a _ => Careful p.1 a) (start now, []) as := by
  refine Runs.allStates_iff_allSteps (I := fun p => p.1.Wellformed ∧ Documented p) ?_
    (fun _ h => h.2) ?_ ⟨fun t ht => absurd ht List.not_mem_nil, rfl⟩
  · rintro p a p' ⟨hwf, hdoc⟩ hstep hcareful
    obtain ⟨s', hs', rfl⟩ := Option.map_eq_some_iff.1 hstep
    exact ⟨hwf.step hs', (documented_step hwf hdoc hstep).2 hcareful⟩
  · rintro p a p' ⟨hwf, hdoc⟩ hstep hcareless hdoc'
    exact hcareless ((documented_step hwf hdoc hstep).1 hdoc')

/-! ## Objects that are freed -/

/-- No watcher runs, or has expired, whose object has been freed. The callback of such a watcher is
searched in the object. -/
def Sound (s : Timers) : Prop := ∀ t ∈ s.list, t.alive = false → t.Idle

/-- No object is freed whose watcher runs or has expired. -/
def Releases (s : Timers) : Action → Prop
  | .collect i => ∀ t, s.list[i]? = some t → t.Idle
  | .unload => ∀ t ∈ s.list, t.alive = true → t.Idle
  | _ => True

/-- The event loop leaves a watcher that is idle alone. -/
theorem idle_reify {t : Stimer} {now : ℤ} (h : t.Idle) : (t.onWatcher (.reify now)).Idle := by
  have hnot : ¬ (t.timer.active = true ∧ t.timer.evAt < now) := by
    rw [h.1]
    exact fun hexpired => Bool.false_ne_true hexpired.1
  rw [Stimer.onWatcher, EvTimer.reify, if_neg hnot]
  exact h

theorem Sound.step (h : s.Sound) (hstep : step s a = some s') : s'.Sound ↔ s.Releases a := by
  -- a change of one timer concerns the others in no way
  have hmodify {i : ℕ} {t : Stimer} (ht : s.list[i]? = some t) {f : Stimer → Stimer}
      (P : Prop) (hiff : ((f t).alive = false → (f t).Idle) ↔ P) :
      (s.modify i f).Sound ↔ P := by
    rw [← hiff]
    constructor
    · intro hsound
      refine hsound _ (List.mem_of_getElem? (i := i) ?_)
      rw [modify, List.getElem?_modify_eq, ht]
      rfl
    · intro hone t' ht'
      obtain ⟨j, hj⟩ := List.mem_iff_getElem?.1 ht'
      rw [modify, List.getElem?_modify] at hj
      by_cases hij : i = j
      · subst hij
        rw [ht] at hj
        simp only [if_true] at hj
        obtain rfl := Option.some.inj hj
        exact hone
      · obtain ⟨t'', ht'', heq⟩ := Option.map_eq_some_iff.1 hj
        rw [if_neg hij] at heq
        exact heq ▸ h t'' (List.mem_of_getElem? ht'')
  have hmethod {i : ℕ} {f : EvTimer → EvTimer} (hm : s.method i f = some s') : s'.Sound := by
    obtain ⟨t, ht, halive, rfl⟩ := method_eq hm
    refine (hmodify ht True (iff_of_true (fun hdead => ?_) trivial)).2 trivial
    cases halive.symm.trans hdead
  cases a with
  | construct type duration =>
    rw [step] at hstep
    split at hstep
    · cases hstep
      refine iff_of_true (fun t ht hdead => ?_) trivial
      rcases List.mem_append.1 ht with ht | ht
      · exact h t ht hdead
      · obtain rfl := List.mem_singleton.1 ht
        cases hdead
    · cases hstep
  | start i => exact iff_of_true (hmethod hstep) trivial
  | restart i => exact iff_of_true (hmethod hstep) trivial
  | stop i => exact iff_of_true (hmethod hstep) trivial
  | turn now =>
    rw [step] at hstep
    split at hstep
    · cases hstep
      refine iff_of_true (fun t ht hdead => ?_) trivial
      obtain ⟨t, hmem, rfl⟩ := List.mem_map.1 ht
      exact idle_reify (h t hmem hdead)
    · cases hstep
  | call i =>
    rw [step] at hstep
    split at hstep
    · rename_i hpending
      obtain ⟨t, ht, -⟩ := (Option.any_eq_true _ _).1 hpending
      cases hstep
      refine iff_of_true ?_ trivial
      refine (hmodify ht True (iff_of_true (fun hdead => ?_) trivial)).2 trivial
      exact ⟨(h t (List.mem_of_getElem? ht) hdead).1, rfl⟩
    · cases hstep
  | collect i =>
    rw [step] at hstep
    split at hstep
    · rename_i halive
      obtain ⟨t, ht, -⟩ := (Option.any_eq_true _ _).1 halive
      cases hstep
      refine (hmodify ht t.Idle ⟨fun hidle => hidle rfl, fun hidle _ => hidle⟩).trans ?_
      exact ⟨fun hidle t' heq => Option.some.inj (ht.symm.trans heq) ▸ hidle, fun hall => hall t ht⟩
    · cases hstep
  | unload =>
    rw [step] at hstep
    split at hstep
    · cases hstep
      constructor
      · intro hsound t ht _
        exact hsound t.destruct (List.mem_map_of_mem ht) rfl
      · intro hreleases t ht _
        obtain ⟨t, hmem, rfl⟩ := List.mem_map.1 ht
        -- those that were freed before are idle
        by_cases halive : t.alive = true
        · exact hreleases t hmem halive
        · exact h t hmem (by simpa using halive)
    · cases hstep

/-- In every run of the timers of a plugin, each callback that may be called is that of an object
that has not been freed, if and only if no object is freed whose timer runs or has expired. -/
theorem alive_iff (now : ℤ) (as : List Action) :
    Runs.AllStates step Sound (start now) as ↔
      Runs.AllSteps step (fun s a _ => s.Releases a) (start now) as := by
  refine Runs.allStates_iff_allSteps (I := Sound) (fun s a s' h hstep => (h.step hstep).2)
    (fun _ h => h) (fun s a s' h hstep => mt (h.step hstep).1) ?_
  exact fun t ht => absurd ht List.not_mem_nil

end Timers

end Irccd
