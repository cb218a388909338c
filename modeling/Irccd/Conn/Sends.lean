import Irccd.Conn.Io

/-!
# The answers of `send (2)`

`conn_tcp_send` calls `send (2)` while it fails with another error than `EINTR`, where
`conn_tcp_recv` calls `recv (2)` while it fails with `EINTR`.

* `connTcpSendLoop_eq_some_iff`, `connSend_eq_none_iff`: the answer that stops the loop, and the
  answers that never do;
* `connTcpSend_retries_iff`: the loop repeats the call exactly while it is interrupted when the
  first call accepts bytes, and only then.
-/

namespace Irccd

/-- The calls of `send (2)` that the loop of `conn_tcp_send` makes on these answers: all of them
when none stops it. -/
def connTcpSendCalls : List SendResult → ℕ
  | [] => 0
  | .sent _ :: _ => 1
  | .failed .eintr :: _ => 1
  | .failed _ :: rest => connTcpSendCalls rest + 1

/-- What `conn_tcp_send` makes of the answer of a call that is not repeated: the result and the new
value of `*events`. -/
def sendOutcome (bufsz : ℕ) (events : Events) : SendResult → ℤ × Events
  | .sent ns => ((min ns bufsz : ℕ), if ns < bufsz then events.orWrite else events)
  | .failed .eagain => (0, events.orWrite)
  | .failed .ewouldblock => (0, events.orWrite)
  | .failed _ => (-1, events)

/-- The call is repeated exactly while it is interrupted: when the answers are `interruptions` times
`EINTR`, then `r`, then `rest`, the last call is the one that `r` answers, and the result is what is
made of `r`. -/
def RetriesInterrupted (bufsz : ℕ) (events : Events) (interruptions : ℕ) (r : SendResult)
    (rest : List SendResult) : Prop :=
  let answers := List.replicate interruptions (.failed .eintr) ++ r :: rest
  connTcpSendCalls answers = interruptions + 1 ∧
    connTcpSend bufsz answers events = some (sendOutcome bufsz events r)

/-- The answer is an error that keeps the loop going. -/
def SendResult.Repeats (r : SendResult) : Prop := ∃ errno, r = .failed errno ∧ errno ≠ .eintr

section Loop

variable {r : SendResult} {rs : List SendResult}

theorem connTcpSendLoop_cons_of_repeats (h : r.Repeats) :
    connTcpSendLoop (r :: rs) = connTcpSendLoop rs := by
  obtain ⟨errno, rfl, hne⟩ := h
  cases errno with
  | eintr => exact absurd rfl hne
  | eagain => rfl
  | ewouldblock => rfl
  | other code => rfl

theorem connTcpSendCalls_cons_of_repeats (h : r.Repeats) :
    connTcpSendCalls (r :: rs) = connTcpSendCalls rs + 1 := by
  obtain ⟨errno, rfl, hne⟩ := h
  cases errno with
  | eintr => exact absurd rfl hne
  | eagain => rfl
  | ewouldblock => rfl
  | other code => rfl

theorem connTcpSendLoop_cons_of_not_repeats (h : ¬ r.Repeats) :
    connTcpSendLoop (r :: rs) = some r ∧ connTcpSendCalls (r :: rs) = 1 := by
  cases r with
  | sent ns => exact ⟨rfl, rfl⟩
  | failed errno =>
    obtain rfl : errno = .eintr := by_contra fun hne => h ⟨errno, rfl, hne⟩
    exact ⟨rfl, rfl⟩

/-- The loop stops at the first answer that is a byte count or an interruption, whatever comes
after it. -/
theorem connTcpSendLoop_eq_some_iff :
    connTcpSendLoop rs = some r ↔ ¬ r.Repeats ∧
      ∃ repeated rest, rs = repeated ++ r :: rest ∧ (∀ x ∈ repeated, x.Repeats) ∧
        connTcpSendCalls rs = repeated.length + 1 := by
  induction rs with
  | nil => simp [connTcpSendLoop]
  | cons a rs ih =>
    -- the call is made again, or this answer ends the loop
    by_cases ha : a.Repeats
    · rw [connTcpSendLoop_cons_of_repeats ha, ih, connTcpSendCalls_cons_of_repeats ha]
      refine and_congr_right fun hr => ⟨?_, ?_⟩
      · rintro ⟨repeated, rest, rfl, hall, hcalls⟩
        exact ⟨a :: repeated, rest, rfl, List.forall_mem_cons.2 ⟨ha, hall⟩, by simp [hcalls]⟩
      · rintro ⟨repeated, rest, heq, hall, hcalls⟩
        cases repeated with
        | nil => exact absurd (List.cons.inj heq).1 fun h => hr (h ▸ ha)
        | cons b repeated =>
          obtain ⟨rfl, rfl⟩ := List.cons.inj heq
          exact ⟨repeated, rest, rfl, (List.forall_mem_cons.1 hall).2, by simpa using hcalls⟩
    · obtain ⟨hloop, hcalls⟩ := @connTcpSendLoop_cons_of_not_repeats a rs ha
      rw [hloop, hcalls, Option.some_inj]
      refine ⟨?_, ?_⟩
      · rintro rfl
        exact ⟨ha, [], rs, rfl, by simp, rfl⟩
      · rintro ⟨-, repeated, rest, heq, hall, -⟩
        cases repeated with
        | nil => exact (List.cons.inj heq).1
        | cons b repeated =>
          exact absurd ((List.cons.inj heq).1 ▸ hall b List.mem_cons_self) ha

/-- The loop never stops on errors other than `EINTR`, among them `EAGAIN`. -/
theorem connTcpSendLoop_eq_none_iff : connTcpSendLoop rs = none ↔ ∀ r ∈ rs, r.Repeats := by
  induction rs with
  | nil => simp [connTcpSendLoop]
  | cons a rs ih =>
    by_cases ha : a.Repeats
    · rw [connTcpSendLoop_cons_of_repeats ha, ih, List.forall_mem_cons, and_iff_right ha]
    · rw [(connTcpSendLoop_cons_of_not_repeats ha).1, List.forall_mem_cons]
      simp [ha]

/-- `conn_send` never returns when there are bytes to send and every call fails with another error
than `EINTR`: the coroutine, and the program with it, is stuck. -/
theorem connSend_eq_none_iff {n : Net} {events : Events} :
    connSend n rs events = none ↔ n.conn.outb.outsz ≠ 0 ∧ ∀ r ∈ rs, r.Repeats := by
  unfold connSend connTcpSend
  split
  · simp [*]
  · simp [*, connTcpSendLoop_eq_none_iff]

end Loop

section Retries

variable (bufsz : ℕ) (events : Events)

/-- Only the loop is wrong: the answer that it stops with is treated as it should. -/
theorem connTcpSend_of_loop {rs : List SendResult} {r : SendResult}
    (h : connTcpSendLoop rs = some r) :
    connTcpSend bufsz rs events = some (sendOutcome bufsz events r) := by
  rw [connTcpSend, h, Option.map_some, Option.some_inj]
  cases r with
  | sent ns =>
    have hshort : min ns bufsz < bufsz ↔ ns < bufsz := by omega
    simp only [sendOutcome, hshort]
  | failed errno => cases errno <;> simp [sendOutcome]

/-- The branch for `EAGAIN` is never taken: what the loop stops with is a byte count or `EINTR`. -/
theorem connTcpSend_eq_some {rs : List SendResult} {o : ℤ × Events}
    (h : connTcpSend bufsz rs events = some o) :
    (∃ ns, connTcpSendLoop rs = some (.sent ns) ∧ o = sendOutcome bufsz events (.sent ns)) ∨
      connTcpSendLoop rs = some (.failed .eintr) ∧ o = (-1, events) := by
  obtain ⟨r, hloop, -⟩ := Option.map_eq_some_iff.1 h
  have hr := (connTcpSendLoop_eq_some_iff.1 hloop).1
  obtain rfl := Option.some.inj (h.symm.trans (connTcpSend_of_loop bufsz events hloop))
  cases r with
  | sent ns => exact .inl ⟨ns, hloop, rfl⟩
  | failed errno =>
    obtain rfl : errno = .eintr := by_contra fun hne => hr ⟨errno, rfl, hne⟩
    exact .inr ⟨hloop, rfl⟩

/-- The call is repeated exactly while it is interrupted if and only if the first call accepts
bytes: an interruption stops the loop, and any other error does not. -/
theorem connTcpSend_retries_iff (interruptions : ℕ) {r : SendResult} (hr : r ≠ .failed .eintr)
    (rest : List SendResult) :
    RetriesInterrupted bufsz events interruptions r rest ↔
      interruptions = 0 ∧ ∃ ns, r = .sent ns := by
  refine ⟨?_, ?_⟩
  · rintro ⟨hcalls, hsend⟩
    cases interruptions with
    | succ k =>
      -- the first interruption ends the loop
      exact absurd hcalls (by simp [List.replicate_succ, connTcpSendCalls])
    | zero =>
      refine ⟨rfl, ?_⟩
      cases r with
      | sent ns => exact ⟨ns, rfl⟩
      | failed errno =>
        -- the loop goes on after the error, with at least one more call if it is to stop
        have hrep : (SendResult.failed errno).Repeats := ⟨errno, rfl, fun h => hr (h ▸ rfl)⟩
        obtain ⟨s, hloop, -⟩ := Option.map_eq_some_iff.1 hsend
        simp only [List.replicate_zero, List.nil_append] at hloop hcalls
        rw [connTcpSendLoop_cons_of_repeats hrep] at hloop
        obtain ⟨-, _, _, -, -, hpos⟩ := connTcpSendLoop_eq_some_iff.1 hloop
        rw [connTcpSendCalls_cons_of_repeats hrep, hpos] at hcalls
        exact absurd hcalls (by simp)
  · rintro ⟨rfl, ns, rfl⟩
    exact ⟨rfl, connTcpSend_of_loop bufsz events rfl⟩

theorem retriesInterrupted_short : RetriesInterrupted 8 .evRead 0 (.sent 3) [] :=
  (connTcpSend_retries_iff 8 .evRead 0 (by decide) []).2 ⟨rfl, 3, rfl⟩

/-- A full socket answers `EAGAIN`: the call is repeated, and here accepts the bytes at last. -/
theorem not_forall_retriesInterrupted :
    ¬ ∀ (bufsz : ℕ) (events : Events) (interruptions : ℕ) (r : SendResult)
        (rest : List SendResult), r ≠ .failed .eintr →
      RetriesInterrupted bufsz events interruptions r rest := by
  intro h
  have hcalls := (h 8 .evRead 0 (.failed .eagain) [.sent 8] (by decide)).1
  exact absurd hcalls (by decide)

end Retries

end Irccd
