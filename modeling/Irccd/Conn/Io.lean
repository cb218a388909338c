import Irccd.Conn.Basic

/-!
# The coroutines of a connection (`conn.c`)

Each function runs a coroutine from the place where it is suspended to its next suspension, on
data that the outside world supplies: what `getaddrinfo`, `recv (2)` and `send (2)` answer.

* `ircConnPush` puts a line in the output buffer;
* `connConnectLoop`, `connDialResume`: `conn_connect` up to and after the wait of `conn_dial`;
* `connIoEntry`, `connIoResume`: the `io_fd` coroutine;
* `connTimerResume`: the `timer` coroutine, which destroys and spawns the former;
* `connProducerResume`: the `producer` coroutine.
-/

namespace Irccd

/-- `RECONNECT_DELAY` -/
def reconnectDelay : ℕ := 30

/-! ## Output -/

/-- `irc__conn_push` -/
def ircConnPush (n : Net) (data : CStr) : ℤ × Net :=
  if h : n.conn.outb.Fits data then
    -- the watcher is set here: `conn_wait` chooses the events anew at its next wake-up
    (0, ({ n with conn := { n.conn with
      outb := n.conn.outb.append data h
      io := nceIoReset n.conn.io n.conn.fd .evReadWrite } } : Net).emit (.push data))
  else
    (-ENOBUFS, n)

/-- `irc_server_send` on the text that its format gives. `linked` tells whether
`server->coroutine` is set: it is not yet when `irc_server_coro_new` runs. -/
def connSendLine (linked : Bool) (n : Net) (text : CStr) : ℤ × Net :=
  if linked && ircConnReady n.conn then ircConnPush n (text.take (messageLen - 1))
  else (-ENOTCONN, n)

/-! ## System calls -/

/-- What `recv (2)` answers. Storing no byte at all means that the connection is closed. -/
inductive RecvResult
  | data (bytes : List UInt8)
  /-- `EAGAIN` or `EWOULDBLOCK` -/
  | again
  | failed
  deriving DecidableEq

/-- The `errno` of `send (2)`. -/
inductive Errno
  | eintr
  | eagain
  | ewouldblock
  | other (code : ℕ)
  deriving DecidableEq

/-- What one call of `send (2)` answers. -/
inductive SendResult
  | sent (ns : ℕ)
  | failed (errno : Errno)
  deriving DecidableEq

/-- `conn_tcp_recv`: the result and the new value of `*events`. -/
def connTcpRecv (limit : ℕ) (r : RecvResult) (events : Events) : ℤ × Events :=
  match r with
  | .data bytes =>
    let nr := (bytes.take limit).length
    -- a full buffer makes `limit` 0, and `recv` answers as if the connection were closed
    (if nr = 0 then -1 else nr, events)
  | .again => (0, .evRead)
  | .failed => (-1, events)

/-- The loop of `conn_tcp_send`, which goes on while `ns < 0 && errno != EINTR`: the answer it
stops with. It never stops on a list without such an answer. -/
def connTcpSendLoop : List SendResult → Option SendResult
  | [] => none
  | .sent ns :: _ => some (.sent ns)
  | .failed .eintr :: _ => some (.failed .eintr)
  -- `EAGAIN` does not stop the loop
  | .failed _ :: rest => connTcpSendLoop rest

/-- `conn_tcp_send`: the result and the new value of `*events`. -/
def connTcpSend (bufsz : ℕ) (rs : List SendResult) (events : Events) : Option (ℤ × Events) :=
  (connTcpSendLoop rs).map fun
    | .sent ns =>
      -- `send` accepts at most the bytes it is given
      let ns := min ns bufsz
      (ns, if ns < bufsz then events.orWrite else events)
    | .failed errno =>
      if errno = .ewouldblock ∨ errno = .eagain then (0, events.orWrite) else (-1, events)

/-- `conn_recv` -/
def connRecv (n : Net) (r : RecvResult) (events : Events) : ℤ × Net × Events :=
  let (nr, events) := connTcpRecv n.conn.inb.limit r events
  match r with
  | .data bytes =>
    if 0 < nr then
      (nr, ({ n with conn := { n.conn with inb := n.conn.inb.store bytes } } : Net).emit
        (.recv n.conn.fd (bytes.take n.conn.inb.limit)), events)
    else (nr, n, events)
  | _ => (nr, n, events)

/-- `conn_send` -/
def connSend (n : Net) (rs : List SendResult) (events : Events) : Option (ℤ × Net × Events) :=
  if n.conn.outb.outsz = 0 then some (0, n, events)
  else
    (connTcpSend n.conn.outb.outsz rs events).map fun (ns, events) =>
      if 0 < ns then
        (ns, ({ n with conn := { n.conn with outb := n.conn.outb.drain ns.toNat } } : Net).emit
          (.send n.conn.fd (n.conn.outb.contents.take ns.toNat)), events)
      else (ns, n, events)

/-- The end of `conn_wait`: watch the events, if they are not those already watched. -/
def connWatch (n : Net) (events : Events) : Net :=
  if events = n.conn.io.events then n
  else { n with conn := { n.conn with io := nceIoReset n.conn.io n.conn.fd events } }

/-- `conn_wait`, once `nce_io_wait` returns `revents`. -/
def connWait (n : Net) (r : RecvResult) (rs : List SendResult) : Option (ℤ × Net) :=
  let revents := n.conn.io.revents
  let n : Net := { n with conn := { n.conn with io := nceIoTake n.conn.io } }
  -- the events to watch start from `EV_READ`, whatever is left to send
  let (rc, n, events) := if revents.read then connRecv n r .evRead else (0, n, .evRead)
  if rc < 0 then some (rc, n)
  else
    (if revents.write then connSend n rs events else some (0, n, events)).map
      fun (rc, n, events) => if rc < 0 then (rc, n) else (0, connWatch n events)

/-! ## The `io_fd` coroutine -/

/-- `nce_timer_again (&conn->timer.timer)` -/
def connTimerAgain (n : Net) : Net :=
  { n with conn := { n.conn with timer := nceTimerAgain n.conn.timer } }

/-- `conn_reschedule` -/
def connReschedule (n : Net) : Net :=
  { n with conn := { n.conn with
    io := nceIoStop n.conn.io
    timer := nceTimerFeed n.conn.timer
    ioCoro := some .idle } }

/-- `close (conn->fd); conn->fd = -1` -/
def connClose (n : Net) : Net :=
  ({ n with conn := { n.conn with fd := -1 } } : Net).emit (.close n.conn.fd)

/-- `conn_socket`: whether it succeeds. -/
def connSocket (n : Net) (ai : AddrInfo) : Bool × Net :=
  match ai.socket with
  | .socketFailed =>
    (false, ({ n with conn := { n.conn with fd := -1 } } : Net).emit .socketFailed)
  | .fcntlFailed =>
    let fd := freshFd n.trace ai.fd
    (false, connClose (({ n with conn := { n.conn with fd } } : Net).emit (.socket fd)))
  | .done =>
    let fd := freshFd n.trace ai.fd
    (true, ({ n with conn := { n.conn with fd } } : Net).emit (.socket fd))

/-- The end of `conn_connect`. -/
def connEstablished (n : Net) : Net :=
  { n with conn := { n.conn with io := nceIoReset n.conn.io n.conn.fd .evRead, state := .ident } }

/-- The loop of `conn_connect` on the endpoints that are left. The result is true when it succeeds,
and false when the coroutine is suspended, in `conn_dial` or by `conn_reschedule`. -/
def connConnectLoop : List AddrInfo → ℤ → Net → Bool × Net
  -- `getaddrinfo` gives at least one endpoint, so one has failed and `rc` is negative
  | [], _, n => (false, connReschedule { n with conn := { n.conn with ai := [] } })
  | ai :: rest, rc, n =>
    match connSocket { n with conn := { n.conn with ai := ai :: rest } } ai with
    | (false, n) => connConnectLoop rest (-1) n
    | (true, n) =>
      match ai.connect with
      | .failed => connConnectLoop rest (-1) (connClose n)
      | .done =>
        let n := n.emit (.connected n.conn.fd)
        -- `rc` keeps the failure of an earlier endpoint: the socket is left open and lost
        if rc = 0 then (true, connEstablished n) else connConnectLoop rest rc n
      | .inProgress _ =>
        (false, { n with conn := { n.conn with
          io := nceIoReset n.conn.io n.conn.fd .evWrite
          ioCoro := some (.dial rc) } })

/-- `conn_dial` after its wait, and the rest of `conn_connect`. A connection that failed leaves a
positive error in `rc`, which is not taken for a failure. -/
def connDialResume (rc : ℤ) (n : Net) : Bool × Net :=
  let n : Net := { n with conn := { n.conn with io := nceIoStop n.conn.io } }
  match n.conn.ai with
  | ⟨_, _, .inProgress soError⟩ :: rest =>
    if soError < 0 then connConnectLoop rest (-1) (connClose n)
    else
      let n := if soError = 0 then n.emit (.connected n.conn.fd) else n
      if rc = 0 then (true, connEstablished n) else connConnectLoop rest rc n
  -- the current endpoint is the one `conn_dial` waits for
  | _ => (false, n)

/-- The `irc_server_send` calls of `conn_ident`. -/
def connIdentSend (linked : Bool) (lines : List CStr) (n : Net) : Net :=
  lines.foldl (fun n line => (connSendLine linked n line).2) n

/-- The loop of `conn_ident`: it waits until everything is sent, then the state is ready and
`conn_ready` waits. -/
def connIdentLoop (n : Net) : Net :=
  if n.conn.outb.outsz = 0 then
    let n := connTimerAgain { n with conn := { n.conn with state := .ready } }
    { n with conn := { n.conn with ioCoro := some .ready } }
  else { n with conn := { n.conn with ioCoro := some .ident } }

/-- `conn_ident` -/
def connIdent (linked : Bool) (lines : List CStr) (n : Net) : Net :=
  connIdentLoop (connIdentSend linked lines (connTimerAgain n))

/-- What `conn_io_entry` does with the outcome of `conn_connect`. -/
def connConnected (linked : Bool) (lines : List CStr) : Bool × Net → Net
  | (true, n) => connIdent linked lines n
  | (false, n) => n

/-- `conn_io_entry` up to its first suspension. `ais` is what `getaddrinfo` finds, `none` when it
fails. -/
def connIoEntry (linked : Bool) (lines : List CStr) (ais : Option (List AddrInfo)) (n : Net) :
    Net :=
  let n := connTimerAgain { n with conn := { n.conn with state := .resolve } }
  match ais with
  | none => connReschedule n
  | some ais =>
    let n := connTimerAgain { n with conn := { n.conn with state := .connect, ai := ais } }
    connConnected linked lines (connConnectLoop ais 0 n)

/-- Resume the `io_fd` coroutine. -/
def connIoResume (lines : List CStr) (r : RecvResult) (rs : List SendResult) (n : Net) :
    Option Net :=
  match n.conn.ioCoro with
  | none => none
  | some .idle => some n
  | some point =>
    -- the waits of `nce` go back to sleep when there is no event
    if n.conn.io.revents = .none then some n
    else
      match point with
      | .dial rc => some (connConnected true lines (connDialResume rc n))
      | .ready =>
        (connWait n r rs).map fun (rc, n) =>
          if rc < 0 then
            -- only the input buffer is replaced, `out` and `state` stay
            connReschedule
              (({ n with conn := { n.conn with inb := n.conn.inb.inject } } : Net).emit .inject)
          else connTimerAgain n
      -- `conn_ident` leaves both buffers as they are
      | _ =>
        (connWait n r rs).map fun (rc, n) => if rc < 0 then connReschedule n else connIdentLoop n

/-- `nce_coro_destroy (&conn->io_fd.coro)`, with `conn_io_finalizer`. -/
def connIoDestroy (n : Net) : Net :=
  if n.conn.ioCoro = none then n
  else
    let n : Net := { n with conn := { n.conn with ai := [], ioCoro := none } }
    -- the descriptor is 0 before the first `conn_socket`, and is closed all the same
    if n.conn.fd = -1 then n else connClose n

/-- `conn_io_spawn` -/
def connIoSpawn (linked : Bool) (lines : List CStr) (ais : Option (List AddrInfo)) (n : Net) :
    Net :=
  connIoEntry linked lines ais { n with conn := { n.conn with io := nceIoInit n.conn.io } }

/-! ## The `timer` and `producer` coroutines -/

/-- Resume the `timer` coroutine. -/
def connTimerResume (lines : List CStr) (ais : Option (List AddrInfo)) (n : Net) : Net :=
  if n.conn.timer.revents then
    let n : Net := { n with conn := { n.conn with timer := nceTimerTake n.conn.timer } }
    match n.conn.timerCoro with
    -- `conn_timer_resurrect` does not write `state`
    | .watch =>
      let n := connIoDestroy n
      { n with conn := { n.conn with
        timer := nceTimerStart (nceTimerSet (nceTimerStop n.conn.timer) reconnectDelay 0)
        timerCoro := .delay } }
    | .delay =>
      connIoSpawn true lines ais { n with conn := { n.conn with
        timer := nceTimerStop n.conn.timer
        timerCoro := .watch } }
  else n

/-- `conn_next`: false when there is no complete line. A blank or overlong line is removed without
writing to `msg`, whose strings may be gone. -/
def connNext (n : Net) : Bool × Net :=
  match n.conn.inb.findLine with
  | none => (false, n)
  | some length =>
    let msg :=
      if 0 < length ∧ length < messageLen then (ircConnMsgParse n.conn.inb.contents length).2
      else n.conn.msg
    (true, ({ n with conn := { n.conn with
      msg
      again := !decide (0 < length ∧ length < messageLen)
      inb := n.conn.inb.shift (length + 2) } } : Net).emit
        (.next (n.conn.inb.contents.take (length + 2))))

/-- Resume the `producer` coroutine, which waits until its storage is empty. -/
def connProducerResume (n : Net) : Net :=
  if n.conn.storage.isSome then n
  else
    match connNext n with
    | (false, n) => n
    | (true, n) => { n with conn := { n.conn with storage := some n.conn.msg } }

/-! ## Creation and destruction -/

/-- The connection allocated by `irc_server_coro_new`, before any coroutine runs. `uninit` is what
the producer finds in its uninitialised local variable, the timer is the one that `conn_timer_spawn`
starts, and `stale` are the descriptors whose lists in `libev` hold watchers that were freed. -/
def connAlloc (uninit : ConnMsg) (stale : List ℤ := []) : Conn where
  state := .resolve
  ai := []
  inb := .zero
  outb := .zero
  fd := 0
  io := { NceIo.zero with stale }
  ioCoro := none
  timer := { after := 60, again := 60, active := true, pending := false, revents := false }
  timerCoro := .watch
  msg := uninit
  storage := none
  again := false

/-- `irc__conn_spawn`, called before `server->coroutine` is set. -/
def ircConnSpawn (lines : List CStr) (ais : Option (List AddrInfo)) (uninit : ConnMsg)
    (stale : List ℤ) (trace : List Call) : Net :=
  connIoSpawn false lines ais ⟨connAlloc uninit stale, trace ++ [.spawn]⟩

/-- `irc__conn_destroy`, as far as it shows outside: the socket is closed. The watchers are not
stopped. -/
def ircConnDestroy (n : Net) : List Call := (connIoDestroy n).trace

end Irccd
