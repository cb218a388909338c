import Irccd.Conn.Effects
import Irccd.Foundations.Runs

/-!
# From the bytes received to the messages pushed

The input buffer and the producer, whatever the chunks in which the bytes arrive.

* `messages bs`: the messages of the stream `bs`, in terms of the whole stream;
* `Feed`, `feedStep`: `conn_recv`, `conn_producer_entry` and `irc__conn_pull` in any order;
* `Framed`: the messages pushed are those of the stream received, less those of the lines which are
  still in the buffer;
* `framed_iff`: a run stays in `Framed` exactly when the producer takes no blank line and no line
  that is too long.
-/

namespace Irccd

open Framing

/-! ## Whole streams -/

/-- The length of the line is between 1 and `IRCCD_MESSAGE_LEN - 1`. -/
def ProperLine (line : List UInt8) : Prop := 0 < line.length ∧ line.length < messageLen

instance (line : List UInt8) : Decidable (ProperLine line) := inferInstanceAs (Decidable (_ ∧ _))

/-- The messages of the lines, without those which are blank or too long. -/
def lineMessages (lines : List (List UInt8)) : List ConnMsg :=
  (lines.filter fun line => ProperLine line).map fun line => (ircConnMsgParse line line.length).2

/-- The messages of the lines of a stream that end with CRLF. -/
def messages (bs : List UInt8) : List ConnMsg := lineMessages (frames isCR isLF bs)

theorem lineMessages_append (ls ls' : List (List UInt8)) :
    lineMessages (ls ++ ls') = lineMessages ls ++ lineMessages ls' := by
  simp [lineMessages]

theorem lineMessages_cons (line : List UInt8) (ls : List (List UInt8)) :
    lineMessages (line :: ls) =
      (if ProperLine line then [(ircConnMsgParse line line.length).2] else []) ++
        lineMessages ls := by
  by_cases h : ProperLine line <;> simp [lineMessages, h]

/-- Two streams with the same rest have the same messages later. -/
theorem messages_append_of_rest {xs ys : List UInt8} (h : rest isCR isLF xs = rest isCR isLF ys)
    {ms : List ConnMsg} (hms : ms ++ messages xs = messages ys) (zs : List UInt8) :
    ms ++ messages (xs ++ zs) = messages (ys ++ zs) := by
  unfold messages at hms ⊢
  rw [frames_append xs, frames_append ys, lineMessages_append, lineMessages_append, ← hms, h,
    List.append_assoc]

/-- `irc__conn_msg_parse` only looks at the line. -/
theorem ircConnMsgParse_take (bs : List UInt8) {len : ℕ} (h : len ≤ bs.length) :
    ircConnMsgParse bs len = ircConnMsgParse (bs.take len) (bs.take len).length := by
  have hdup : strndup bs len = strndup (bs.take len) (bs.take len).length := by
    rw [strndup, strndup, List.length_take, Nat.min_eq_left h, List.take_take, Nat.min_self]
  rw [ircConnMsgParse, ircConnMsgParse, hdup]

/-! ## What the trace says -/

/-- The bytes received. -/
def received (trace : List Call) : List UInt8 :=
  trace.flatMap fun c =>
    match c with
    | .recv _ data => data
    | _ => []

/-- The bytes that left the input buffer. -/
def consumed (trace : List Call) : List UInt8 :=
  trace.flatMap fun c =>
    match c with
    | .next bytes => bytes
    | _ => []

theorem received_append_recvCall (trace : List Call) (fd : ℤ) (data : List UInt8) :
    received (trace ++ recvCall fd data) = received trace ++ data := by
  unfold recvCall
  split
  · rename_i h
    simp [h]
  · simp [received]

theorem consumed_append_recvCall (trace : List Call) (fd : ℤ) (data : List UInt8) :
    consumed (trace ++ recvCall fd data) = consumed trace := by
  unfold recvCall
  split <;> simp [consumed]

@[simp] theorem received_append_next (trace : List Call) (bytes : List UInt8) :
    received (trace ++ [.next bytes]) = received trace := by
  simp [received]

@[simp] theorem consumed_append_next (trace : List Call) (bytes : List UInt8) :
    consumed (trace ++ [.next bytes]) = consumed trace ++ bytes := by
  simp [consumed]

/-! ## Feeding the buffer -/

/-- A connection and the messages that its producer has pushed so far. -/
structure Feed where
  net : Net
  pushed : List ConnMsg

/-- `conn_recv` with the answer of `recv (2)`, a resumption of the producer, and
`irc__conn_pull`. -/
inductive FeedAct
  | recv (r : RecvResult)
  | produce
  | pull

namespace Feed

/-- A connection that has received nothing. -/
def start (uninit : ConnMsg) : Feed := ⟨⟨connAlloc uninit, []⟩, []⟩

end Feed

/-- A step of the buffer and the producer. A message that the producer pushes joins those pushed. -/
def feedStep (f : Feed) : FeedAct → Option Feed
  | .recv r => some { f with net := (connRecv f.net r .evRead).2.1 }
  | .produce =>
    let n := connProducerResume f.net
    some ⟨n, f.pushed ++ if f.net.conn.storage = none then n.conn.storage.toList else []⟩
  | .pull => some { f with net.conn.storage := none }

/-- What the input buffer and the messages pushed are, in terms of the stream received. -/
structure Framed (f : Feed) : Prop where
  /-- The messages of the stream are pushed in order, once each. Those that are not pushed yet are
  in the buffer. -/
  pushed : f.pushed ++ messages f.net.conn.inb.contents = messages (received f.net.trace)
  /-- The bytes in use are those received and not consumed. -/
  unconsumed : consumed f.net.trace ++ f.net.conn.inb.contents = received f.net.trace
  insz : f.net.conn.inb.insz = (received f.net.trace).length - (consumed f.net.trace).length
  insz_le : f.net.conn.inb.insz ≤ connInSize
  /-- When the parts of the stream without a line end are shorter than the buffer, there is room to
  receive the end of a line. -/
  room : (∀ bs, bs <:+: received f.net.trace → findPair isCR isLF bs = none →
      bs.length < connInSize) →
    f.net.conn.inb.findLine = none → 0 < f.net.conn.inb.limit

/-- The line that the producer takes is neither blank nor too long. -/
def TakesProper (f : Feed) (a : FeedAct) (_ : Feed) : Prop :=
  ∀ len, a = .produce → f.net.conn.storage = none → f.net.conn.inb.findLine = some len →
    0 < len ∧ len < messageLen

/-- Once the producer has taken all the lines, the messages of the stream are pushed. -/
theorem Framed.pushed_eq {f : Feed} (hf : Framed f) (hline : f.net.conn.inb.findLine = none) :
    f.pushed = messages (received f.net.trace) := by
  have hnil : messages f.net.conn.inb.contents = [] := by
    rw [messages, findPair_eq_none_iff.1 hline]
    rfl
  rw [← hf.pushed, hnil, List.append_nil]

/-- What `Framed` comes from: the stream and the buffer end with the same unfinished line. -/
structure FeedInv (f : Feed) : Prop where
  pushed : f.pushed ++ messages f.net.conn.inb.contents = messages (received f.net.trace)
  unconsumed : consumed f.net.trace ++ f.net.conn.inb.contents = received f.net.trace
  rest_eq : rest isCR isLF f.net.conn.inb.contents = rest isCR isLF (received f.net.trace)

theorem FeedInv.framed {f : Feed} (hf : FeedInv f) : Framed f where
  pushed := hf.pushed
  unconsumed := hf.unconsumed
  insz := by
    have hlen := congrArg List.length hf.unconsumed
    rw [List.length_append, InBuf.length_contents] at hlen
    omega
  insz_le := f.net.conn.inb.insz_le
  room hshort hline := by
    have hrest := rest_of_frames_nil (findPair_eq_none_iff.1 hline)
    have hsuffix := rest_suffix (p := isCR) (q := isLF) (received f.net.trace)
    rw [← hf.rest_eq, hrest] at hsuffix
    -- the whole buffer is then the unfinished end of the stream
    have hlt := hshort _ hsuffix.isInfix hline
    rw [InBuf.length_contents] at hlt
    rw [InBuf.limit]
    omega

/-- `conn_recv` appends the same bytes to the stream and to the buffer. -/
theorem FeedInv.recv {f : Feed} (hf : FeedInv f) (r : RecvResult) :
    FeedInv { f with net := (connRecv f.net r .evRead).2.1 } := by
  obtain ⟨-, -, inb, data, hin, heq⟩ := connRecv_cases f.net r .evRead
  rw [heq]
  refine ⟨?_, ?_, ?_⟩
  · simp only [received_append_recvCall, hin]
    exact messages_append_of_rest hf.rest_eq hf.pushed data
  · simp only [received_append_recvCall, consumed_append_recvCall, hin]
    rw [← List.append_assoc, hf.unconsumed]
  · simp only [received_append_recvCall, hin]
    rw [rest_append, hf.rest_eq, ← rest_append]

/-- What the producer does with the first line of the buffer. -/
theorem connProducerResume_of_findLine {n : Net} {len : ℕ} (hstorage : n.conn.storage = none)
    (hline : n.conn.inb.findLine = some len) :
    ∃ msg again, (0 < len ∧ len < messageLen →
        msg = (ircConnMsgParse (n.conn.inb.contents.take len)
          (n.conn.inb.contents.take len).length).2) ∧
      connProducerResume n =
        ⟨{ n.conn with msg, storage := some msg, again, inb := n.conn.inb.shift (len + 2) },
          n.trace ++ [.next (n.conn.inb.contents.take (len + 2))]⟩ := by
  have hlen : len ≤ n.conn.inb.contents.length := by
    have := InBuf.findLine_lt hline
    rw [InBuf.length_contents]
    omega
  refine ⟨if 0 < len ∧ len < messageLen then (ircConnMsgParse n.conn.inb.contents len).2
    else n.conn.msg, !decide (0 < len ∧ len < messageLen), fun hproper => ?_, ?_⟩
  · rw [if_pos hproper, ircConnMsgParse_take _ hlen]
  · simp only [connProducerResume, connNext, hstorage, hline, Net.emit]
    rfl

/-- The first line of the buffer and the lines after it. -/
theorem messages_of_findLine {b : InBuf} {len : ℕ} (hline : b.findLine = some len) :
    messages b.contents =
      (if 0 < len ∧ len < messageLen then
        [(ircConnMsgParse (b.contents.take len) (b.contents.take len).length).2] else []) ++
        messages (b.shift (len + 2)).contents := by
  have hle := InBuf.findLine_lt hline
  have hlen : (b.contents.take len).length = len := by
    rw [List.length_take, InBuf.length_contents]
    omega
  rw [messages, frames_of_findPair hline, lineMessages_cons, InBuf.contents_shift hle, ← messages]
  simp only [ProperLine, hlen]

/-- The messages pushed after the producer is resumed, and those left in the buffer. -/
theorem feedStep_produce {f : Feed} :
    (f.net.conn.storage.isSome ∨ f.net.conn.inb.findLine = none) ∧
        feedStep f .produce = some f ∨
    ∃ len msg again, f.net.conn.storage = none ∧ f.net.conn.inb.findLine = some len ∧
      (0 < len ∧ len < messageLen →
        msg = (ircConnMsgParse (f.net.conn.inb.contents.take len)
          (f.net.conn.inb.contents.take len).length).2) ∧
      feedStep f .produce = some ⟨⟨{ f.net.conn with
        msg, storage := some msg, again, inb := f.net.conn.inb.shift (len + 2) },
          f.net.trace ++ [.next (f.net.conn.inb.contents.take (len + 2))]⟩, f.pushed ++ [msg]⟩ := by
  cases hstorage : f.net.conn.storage with
  | some msg => exact .inl ⟨.inl rfl, by simp [feedStep, connProducerResume, hstorage]⟩
  | none =>
    cases hline : f.net.conn.inb.findLine with
    | none =>
      exact .inl ⟨.inr rfl, by simp [feedStep, connProducerResume, connNext, hstorage, hline]⟩
    | some len =>
      obtain ⟨msg, again, hmsg, heq⟩ := connProducerResume_of_findLine hstorage hline
      exact .inr ⟨len, msg, again, rfl, rfl, hmsg, by simp [feedStep, heq, hstorage]⟩

/-- Whatever the line is, nothing but the messages pushed may go wrong. -/
theorem FeedInv.unconsumed_next {f : Feed} (hf : FeedInv f) {len : ℕ}
    (hline : f.net.conn.inb.findLine = some len) :
    consumed f.net.trace ++ f.net.conn.inb.contents.take (len + 2) ++
        (f.net.conn.inb.shift (len + 2)).contents = received f.net.trace ∧
      rest isCR isLF (f.net.conn.inb.shift (len + 2)).contents =
        rest isCR isLF (received f.net.trace) := by
  rw [InBuf.contents_shift (InBuf.findLine_lt hline)]
  constructor
  · rw [List.append_assoc, List.take_append_drop, hf.unconsumed]
  · rw [← rest_of_findPair hline, hf.rest_eq]

theorem FeedInv.step {f f' : Feed} {a : FeedAct} (hf : FeedInv f) (h : feedStep f a = some f')
    (hcond : TakesProper f a f') : FeedInv f' := by
  cases a with
  | recv r =>
    cases h
    exact hf.recv r
  | pull =>
    cases h
    exact ⟨hf.pushed, hf.unconsumed, hf.rest_eq⟩
  | produce =>
    rcases feedStep_produce (f := f) with ⟨-, heq⟩ | ⟨len, msg, again, hstorage, hline, hmsg, heq⟩
    · rw [heq] at h
      cases h
      exact hf
    · rw [heq] at h
      cases h
      have hproper := hcond len rfl hstorage hline
      -- the line leaves the buffer, and its message is pushed
      obtain ⟨hunconsumed, hrest⟩ := hf.unconsumed_next hline
      refine ⟨?_, by simpa using hunconsumed, by simpa using hrest⟩
      have hpushed := hf.pushed
      rw [messages_of_findLine hline, if_pos hproper, ← hmsg hproper, ← List.append_assoc]
        at hpushed
      simpa using hpushed

/-- The message of a line that is blank or too long is one too many. -/
theorem not_framed_of_improper {f f' : Feed} {a : FeedAct} (hf : FeedInv f)
    (h : feedStep f a = some f') (hcond : ¬ TakesProper f a f') : ¬ Framed f' := by
  simp only [TakesProper, Classical.not_imp, not_forall] at hcond
  obtain ⟨len, rfl, hstorage, hline, hproper⟩ := hcond
  rcases feedStep_produce (f := f) with ⟨hnot, -⟩ | ⟨len', msg, again, -, hline', -, heq⟩
  · simp [hstorage, hline] at hnot
  · obtain rfl : len = len' := Option.some.inj (hline.symm.trans hline')
    rw [heq] at h
    cases h
    -- nothing has left the messages of the buffer, and there is one more pushed
    intro hframed
    have hlen := congrArg List.length (hframed.pushed.trans
      ((congrArg messages (received_append_next _ _)).trans hf.pushed.symm))
    rw [messages_of_findLine hline, if_neg hproper] at hlen
    simp at hlen

/-- Whatever the chunks and the order of the steps are, the messages pushed are those of the lines
of the stream exactly as long as the producer takes neither a blank line nor a line that is too
long. -/
theorem framed_iff (uninit : ConnMsg) (as : List FeedAct) :
    Runs.AllStates feedStep Framed (Feed.start uninit) as ↔
      Runs.AllSteps feedStep TakesProper (Feed.start uninit) as :=
  Runs.allStates_iff_allSteps (fun _ _ _ => FeedInv.step) (fun _ => FeedInv.framed)
    (fun _ _ _ => not_framed_of_improper) ⟨rfl, rfl, rfl⟩

/-- A blank line after a PING: the PING is pushed twice. -/
theorem not_framed_blank :
    ¬ Runs.AllStates feedStep Framed (Feed.start ⟨none, [], []⟩)
      [.recv (.data (cstr "PING :a\r\n\r\n")), .produce, .pull, .produce] := by
  intro h
  have hrun : (Runs.exec feedStep (Feed.start ⟨none, [], []⟩)
      [.recv (.data (cstr "PING :a\r\n\r\n")), .produce, .pull, .produce]).map
      (fun f => (f.pushed.map (·.cmd), (messages (received f.net.trace)).map (·.cmd),
        f.net.conn.inb.contents)) =
      some ([cstr "PING", cstr "PING"], [cstr "PING"], []) := by decide +kernel
  obtain ⟨f, hf, heq⟩ := Option.map_eq_some_iff.1 hrun
  simp only [Prod.mk.injEq] at heq
  obtain ⟨hpushed, hmessages, hcontents⟩ := heq
  have hlen := congrArg List.length (h.last hf).pushed
  have hpushed' := congrArg List.length hpushed
  have hmessages' := congrArg List.length hmessages
  rw [hcontents] at hlen
  simp [messages, lineMessages] at hlen hpushed' hmessages'
  omega

end Irccd
