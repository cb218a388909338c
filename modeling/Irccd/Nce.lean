import Mathlib.Data.Int.Notation
import Mathlib.Tactic.Common

/-!
# Watchers (`libnce`, `libev`)

The two watchers of a connection, with what the functions of `nce/io.c` and `nce/timer.c` do to
them. A watcher that is active may be triggered by the event loop, which leaves the events in
`revents` until the coroutine waiting on the watcher takes them.

`libev` keeps, for each descriptor, the list of the watchers that were started on it. The assertions
of `ev_io_start` on the descriptor and on that list end the process.
-/

namespace Irccd

/-- A set of `EV_READ` and `EV_WRITE`. -/
structure Events where
  read : Bool
  write : Bool
  deriving DecidableEq

namespace Events

def none : Events := ⟨false, false⟩

/-- `EV_READ` -/
def evRead : Events := ⟨true, false⟩

/-- `EV_WRITE` -/
def evWrite : Events := ⟨false, true⟩

/-- `EV_READ | EV_WRITE` -/
def evReadWrite : Events := ⟨true, true⟩

/-- `events | EV_WRITE` -/
def orWrite (e : Events) : Events := { e with write := true }

/-- Every event of `a` is one of `b`. -/
def subset (a b : Events) : Bool := (!a.read || b.read) && (!a.write || b.write)

theorem read_of_ne_none {e : Events} (hne : e ≠ none) (hwrite : e.write = false) :
    e.read = true := by
  obtain ⟨read, write⟩ := e
  obtain rfl : write = false := hwrite
  cases read with
  | true => rfl
  | false => exact absurd rfl hne

end Events

/-! ## Socket watchers -/

/-- `struct nce_io`. -/
structure NceIo where
  fd : ℤ
  events : Events
  active : Bool
  revents : Events
  /-- The descriptors in whose lists the watcher was left when it was initialised again, or one of
  an earlier connection when it was freed. -/
  stale : List ℤ
  /-- An assertion of `ev_io_start` has failed, so the process is gone, or a list goes through
  memory that was freed. -/
  aborted : Bool
  deriving DecidableEq

/-- The watcher of a freshly allocated connection. -/
def NceIo.zero : NceIo where
  fd := 0
  events := .none
  active := false
  revents := .none
  stale := []
  aborted := false

/-- `nce_io_stop` -/
def nceIoStop (io : NceIo) : NceIo := { io with active := false, revents := .none }

/-- `nce_io_reset`: stop, set and start. `ev_io_start` asserts that the descriptor is not negative,
and that putting the watcher at the head of the list does not make it follow itself. It must not
follow one that was freed either. -/
def nceIoReset (io : NceIo) (fd : ℤ) (events : Events) : NceIo :=
  { io with
    fd
    events
    active := true
    revents := .none
    aborted := io.aborted || decide (fd < 0 ∨ fd ∈ io.stale) }

/-- `ev_init`, as `nce_io_coro_spawn` calls it on a watcher: one that was not stopped is forgotten,
and stays in the list of its descriptor. -/
def nceIoInit (io : NceIo) : NceIo :=
  { io with
    active := false
    stale := if io.active then io.fd :: io.stale else io.stale }

/-- Another reset on the same descriptor fails if the first one did. -/
@[simp] theorem nceIoReset_nceIoReset (io : NceIo) (fd : ℤ) (events events' : Events) :
    nceIoReset (nceIoReset io fd events) fd events' = nceIoReset io fd events' := by
  simp [nceIoReset]

/-- `nce_io_wait`, once there are events: they are taken. -/
def nceIoTake (io : NceIo) : NceIo := { io with revents := .none }

/-! ## Timers -/

/-- `struct nce_timer`: `after` and `repeat` in seconds, `pending` when an event is fed but not
delivered, `revents` when it is delivered but not taken. -/
structure NceTimer where
  after : ℕ
  again : ℕ
  active : Bool
  pending : Bool
  revents : Bool
  deriving DecidableEq

/-- `nce_timer_stop` -/
def nceTimerStop (t : NceTimer) : NceTimer :=
  { t with active := false, pending := false, revents := false }

/-- `nce_timer_set` -/
def nceTimerSet (t : NceTimer) (after again : ℕ) : NceTimer := { t with after, again }

/-- `nce_timer_start` -/
def nceTimerStart (t : NceTimer) : NceTimer :=
  if t.active then t else { t with active := true, pending := false }

/-- `nce_timer_feed` -/
def nceTimerFeed (t : NceTimer) : NceTimer := { t with pending := true }

/-- `nce_timer_again`: restart a repeating timer, stop one that does not repeat. -/
def nceTimerAgain (t : NceTimer) : NceTimer :=
  { t with pending := false, active := t.again != 0 }

/-- The delay of an active timer is over. A timer that does not repeat is stopped. -/
def nceTimerExpire (t : NceTimer) : NceTimer :=
  { t with pending := true, active := t.again != 0 }

/-- The event loop delivers a pending event (`nce_timer_cb`). -/
def nceTimerCb (t : NceTimer) : NceTimer := { t with pending := false, revents := true }

/-- `nce_timer_wait`, once there is an event: it is taken. -/
def nceTimerTake (t : NceTimer) : NceTimer := { t with revents := false }

end Irccd
