import Irccd.Conn.Effects

/-!
# What the sockets see

Two readings of the calls made so far, from the point of view of the sockets.

* `traffic fd`: the bytes sent on the descriptor since it was obtained, and the lines accepted by
  `irc__conn_push` since it is connected;
* `inflow`: the input buffer, where each byte received carries the number of its connection;
* `Isolated`: the connections are isolated from one another.
-/

namespace Irccd

/-! ## Output -/

/-- What happens with a descriptor since it was obtained, or connected if it is. -/
structure Traffic where
  /-- The bytes that `send (2)` accepted on it. -/
  sent : List UInt8
  /-- The lines that `irc__conn_push` accepted. -/
  pushed : List CStr
  deriving DecidableEq

/-- How a call changes the traffic of the descriptor `fd`. -/
def trafficStep (fd : ℤ) (t : Traffic) : Call → Traffic
  -- a descriptor may be used again: its earlier life does not count
  | .socket f | .connected f => if f = fd then ⟨[], []⟩ else t
  | .send f data => if f = fd then { t with sent := t.sent ++ data } else t
  | .push line => { t with pushed := t.pushed ++ [line] }
  | _ => t

/-- The traffic of the descriptor `fd`. -/
def traffic (fd : ℤ) (trace : List Call) : Traffic := trace.foldl (trafficStep fd) ⟨[], []⟩

/-- The first line of `conn_ident`. -/
def capReq : CStr := cstr "CAP REQ :multi-prefix"

/-- What is sent are the lines pushed for this connection, in order, and the first of them is
`capReq`. The last one may not be complete yet. -/
def Traffic.Clean (t : Traffic) : Prop :=
  t.sent <+: wire t.pushed ∧ (t.sent ≠ [] → t.pushed.head? = some capReq)

theorem wire_append (ls ls' : List CStr) : wire (ls ++ ls') = wire ls ++ wire ls' := by
  simp [wire]

theorem Traffic.Clean.push {t : Traffic} (ht : t.Clean) (lines : List CStr) :
    Traffic.Clean { t with pushed := t.pushed ++ lines } := by
  refine ⟨?_, fun hne => ?_⟩
  · rw [wire_append]
    exact ht.1.trans (List.prefix_append _ _)
  · simp [ht.2 hne]

theorem Traffic.clean_nil : Traffic.Clean ⟨[], []⟩ := ⟨List.nil_prefix, by simp⟩

section Traffic

variable {fd : ℤ} {trace trace' : List Call}

@[simp] theorem traffic_append (cs : List Call) :
    traffic fd (trace ++ cs) = cs.foldl (trafficStep fd) (traffic fd trace) := by
  rw [traffic, List.foldl_append, ← traffic]

theorem traffic_dialed (h : Dialed trace trace') :
    traffic fd trace' = traffic fd trace ∨ traffic fd trace' = ⟨[], []⟩ := by
  refine h.foldl (M := fun t => t = traffic fd trace ∨ t = ⟨[], []⟩) (fun t c hc ht => ?_)
    (.inl rfl)
  have hstep : trafficStep fd t c = t ∨ trafficStep fd t c = ⟨[], []⟩ := by
    cases c <;> simp only [Call.IsDial] at hc
    all_goals simp only [trafficStep]
    · exact (ite_eq_or_eq _ _ _).symm
    · exact .inl trivial
    · exact (ite_eq_or_eq _ _ _).symm
    · exact .inl trivial
  rcases hstep with heq | heq
  · rwa [heq]
  · exact .inr heq

theorem traffic_pushes (lines : List CStr) (t : Traffic) :
    (lines.map Call.push).foldl (trafficStep fd) t = { t with pushed := t.pushed ++ lines } := by
  induction lines generalizing t with
  | nil => simp
  | cons line lines ih =>
    rw [List.map_cons, List.foldl_cons, ih]
    simp [trafficStep]

theorem traffic_recvCall (f : ℤ) (data : List UInt8) (t : Traffic) :
    (recvCall f data).foldl (trafficStep fd) t = t := by
  unfold recvCall
  split <;> rfl

theorem traffic_sendCall (f : ℤ) (data : List UInt8) (t : Traffic) :
    (sendCall f data).foldl (trafficStep fd) t =
      if f = fd then { t with sent := t.sent ++ data } else t := by
  unfold sendCall
  split
  · rename_i h
    simp [h]
  · rfl

end Traffic

/-! ## Input -/

/-- A byte in the input buffer, with the number of the connection it was received on. -/
abbrev Tagged := UInt8 × ℕ

/-- The bytes were received on one connection. -/
def OneConn (bs : List Tagged) : Prop := ∀ x ∈ bs, ∀ y ∈ bs, x.2 = y.2

instance (bs : List Tagged) : Decidable (OneConn bs) :=
  inferInstanceAs (Decidable (∀ x ∈ bs, ∀ y ∈ bs, x.2 = y.2))

/-- The input buffer as the calls tell it. -/
structure Inflow where
  /-- The number of the connection. -/
  number : ℕ
  buf : List Tagged
  /-- `conn_next` took a line whose bytes were received on several connections. -/
  joined : Bool
  deriving DecidableEq

/-- How a call changes the input buffer. -/
def inflowStep (m : Inflow) : Call → Inflow
  | .spawn => { m with buf := [] }
  -- the bytes in the buffer keep the number they came with
  | .socket _ => { m with number := m.number + 1 }
  | .recv _ data => { m with buf := m.buf ++ data.map (·, m.number) }
  | .next bytes =>
    { m with
      buf := m.buf.drop bytes.length
      joined := m.joined || !decide (OneConn (m.buf.take bytes.length)) }
  | .inject => { m with buf := InBuf.internalLine.map (·, m.number) }
  | _ => m

/-- The input buffer after the calls. -/
def inflow (trace : List Call) : Inflow := trace.foldl inflowStep ⟨0, [], false⟩

section Inflow

variable {trace trace' : List Call}

@[simp] theorem inflow_append (cs : List Call) :
    inflow (trace ++ cs) = cs.foldl inflowStep (inflow trace) := by
  rw [inflow, List.foldl_append, ← inflow]

theorem inflow_dialed (h : Dialed trace trace') :
    ∃ number, inflow trace' = { inflow trace with number } := by
  refine h.foldl (M := fun m => ∃ number, m = { inflow trace with number }) (fun m c hc hm => ?_)
    ⟨_, rfl⟩
  obtain ⟨number, rfl⟩ := hm
  cases c <;> simp only [Call.IsDial] at hc
  · exact ⟨number + 1, rfl⟩
  · exact ⟨number, rfl⟩
  · exact ⟨number, rfl⟩
  · exact ⟨number, rfl⟩

theorem inflow_pushes (lines : List CStr) (m : Inflow) :
    (lines.map Call.push).foldl inflowStep m = m := by
  induction lines with
  | nil => rfl
  | cons line lines ih => exact ih

theorem inflow_recvCall (f : ℤ) (data : List UInt8) (m : Inflow) :
    (recvCall f data).foldl inflowStep m = { m with buf := m.buf ++ data.map (·, m.number) } := by
  unfold recvCall
  split
  · rename_i h
    simp [h]
  · rfl

theorem inflow_sendCall (f : ℤ) (data : List UInt8) (m : Inflow) :
    (sendCall f data).foldl inflowStep m = m := by
  unfold sendCall
  split <;> rfl

end Inflow

/-- The bytes sent on each socket are lines pushed since it is connected, from `capReq` on, and no
line is made of bytes received on several connections. -/
def Isolated (trace : List Call) : Prop :=
  (∀ fd, (traffic fd trace).Clean) ∧ (inflow trace).joined = false

end Irccd
