import Irccd.Conn.Buffer
import Irccd.Event
import Irccd.Nce

/-!
# Connections (`conn.h`)

The state of a connection, and the record of what the program does to the outside world.

* `Conn` is `struct conn` with its coroutines. A coroutine is represented by the place where it is
  suspended (`IoPoint`, `TimerPoint`) and its local variables.
* `Call` is an observable step: a system call and its outcome, a line accepted by `irc__conn_push`,
  bytes leaving the input buffer, an event given to `irc_bot_dispatch`.
* `Net` is a connection with the calls made so far.

Only the plain transport is modelled. The build is the one that the Makefile makes by default, with
`IRCCD_WITH_SSL`, where `irc_server_connect` refuses the servers that ask for SSL, so that the TLS
code is never reached.
-/

namespace Irccd

/-- The `state` of `struct conn`. -/
inductive ConnState
  | resolve
  | connect
  | ident
  | ready
  deriving DecidableEq

/-- What `connect (2)` does for an endpoint. -/
inductive ConnectResult
  /-- It returns 0. -/
  | done
  /-- It fails with another error than `EINPROGRESS` and `EAGAIN`. -/
  | failed
  /-- It goes on in the background. Once the socket is writable, `getsockopt` leaves `soError` in
  `rc`: 0 when the connection is established, the positive error when it failed, and -1 when
  `getsockopt` itself fails. -/
  | inProgress (soError : ℤ)
  deriving DecidableEq

/-- What `socket (2)` and `fcntl (2)` do for an endpoint. -/
inductive SocketResult
  | done
  | socketFailed
  | fcntlFailed
  deriving DecidableEq

/-- An endpoint of the list that `getaddrinfo` returns, with what the system calls answer when the
endpoint is tried. `fd` is the descriptor that `socket (2)` returns if it is not in use. -/
structure AddrInfo where
  fd : ℕ
  socket : SocketResult
  connect : ConnectResult
  deriving DecidableEq

/-- Where the `io_fd` coroutine is suspended. -/
inductive IoPoint
  /-- In `conn_dial`, until the socket is writable. `rc` is the local variable of `conn_connect`. -/
  | dial (rc : ℤ)
  /-- In `conn_wait` called by `conn_ident`. -/
  | ident
  /-- In `conn_wait` called by `conn_ready`. -/
  | ready
  /-- In `nce_coro_idle` called by `conn_reschedule`, for ever. -/
  | idle
  deriving DecidableEq

/-- Where the `timer` coroutine is suspended. -/
inductive TimerPoint
  /-- In `conn_timer_entry`, the watchdog. -/
  | watch
  /-- In `conn_timer_resurrect`, the delay before reconnecting. -/
  | delay
  deriving DecidableEq

/-- `struct conn`. `ioCoro` is `none` when the coroutine is destroyed. The producer coroutine is
suspended in `conn_producer_entry` with its local variable `msg`; `storage` is the message it has
pushed and the consumer has not pulled. -/
structure Conn where
  state : ConnState
  ai : List AddrInfo
  inb : InBuf
  outb : OutBuf
  fd : ℤ
  io : NceIo
  ioCoro : Option IoPoint
  timer : NceTimer
  timerCoro : TimerPoint
  msg : ConnMsg
  storage : Option ConnMsg
  /-- The message in `storage` was pushed before, or is the uninitialised one: the line was blank or
  too long. -/
  again : Bool

/-- An observable step of the program. -/
inductive Call
  /-- `irc__conn_spawn` starts with empty buffers. -/
  | spawn
  /-- `socket (2)` returned the descriptor. -/
  | socket (fd : ℤ)
  /-- `socket (2)` failed. -/
  | socketFailed
  /-- The connection of the descriptor is established. -/
  | connected (fd : ℤ)
  /-- `close (2)` -/
  | close (fd : ℤ)
  /-- `recv (2)` stored the bytes. -/
  | recv (fd : ℤ) (data : List UInt8)
  /-- `send (2)` accepted the bytes. -/
  | send (fd : ℤ) (data : List UInt8)
  /-- `irc__conn_push` returned 0. -/
  | push (data : CStr)
  /-- `conn_next` removed the bytes from the input buffer. -/
  | next (bytes : List UInt8)
  /-- `conn_ready` replaced the input buffer by the pseudo message. -/
  | inject
  /-- `irc_bot_dispatch` -/
  | dispatch (ev : IrcEvent)
  deriving DecidableEq

/-- A connection and the calls made so far, oldest first. -/
structure Net where
  conn : Conn
  trace : List Call

namespace Net

/-- Record a call. -/
def emit (n : Net) (c : Call) : Net := { n with trace := n.trace ++ [c] }

@[simp] theorem emit_conn (n : Net) (c : Call) : (n.emit c).conn = n.conn := rfl

@[simp] theorem emit_trace (n : Net) (c : Call) : (n.emit c).trace = n.trace ++ [c] := rfl

end Net

/-- `irc__conn_ready` on a connection that exists. -/
def ircConnReady (c : Conn) : Bool := c.state == .ready || c.state == .ident

/-! ## Descriptors -/

/-- The descriptors that were obtained and not closed. -/
def openFds (trace : List Call) : List ℤ :=
  trace.foldl (fun fds c =>
    match c with
    | .socket fd => fd :: fds
    | .close fd => fds.erase fd
    | _ => fds) []

/-- The descriptor that `socket (2)` returns: never one that is in use. -/
def freshFd (trace : List Call) (fd : ℕ) : ℤ :=
  if (fd : ℤ) ∈ openFds trace then (openFds trace).foldr max 0 + 1 else fd

/-- The state of a descriptor. -/
inductive SockState
  | closed
  | opened
  | connected
  deriving DecidableEq

/-- How a call changes the state of the descriptor `fd`. -/
def sockStep (fd : ℤ) (st : SockState) : Call → SockState
  | .socket f => if f = fd then .opened else st
  | .connected f => if f = fd then .connected else st
  | .close f => if f = fd then .closed else st
  | _ => st

/-- The state of the descriptor `fd` after the calls. -/
def sockState (fd : ℤ) (trace : List Call) : SockState := trace.foldl (sockStep fd) .closed

@[simp] theorem sockState_append (fd : ℤ) (trace : List Call) (c : Call) :
    sockState fd (trace ++ [c]) = sockStep fd (sockState fd trace) c := by
  simp [sockState]

end Irccd
