import Irccd.Conn.Steps
import Irccd.Conn.Stream
import Mathlib.Data.List.Chain

/-!
# The events of a connection

The CONNECT and DISCONNECT events, which are dispatched for the messages 001 and 000.

* `linkEvents`: those dispatched so far;
* `expected`: those that the messages received and not handled yet are going to give;
* `Alternates`: they alternate, starting with CONNECT. `linkStatus` reads a list from the left and
  tells whether it does, and whether a CONNECT is outstanding at its end;
* `arrived`, `welcomes`: what the present connection has received.
-/

namespace Irccd

open Framing

/-- CONNECT or DISCONNECT. -/
inductive Link
  | connect
  | disconnect
  deriving DecidableEq

/-! ## Alternation -/

/-- The events strictly alternate, starting with CONNECT. -/
def Alternates (es : List Link) : Prop := es.head? ≠ some .disconnect ∧ es.IsChain (· ≠ ·)

/-- The next event, when a CONNECT is outstanding or not. -/
def linkStep : Bool → Link → Option Bool
  | false, .connect => some true
  | true, .disconnect => some false
  | _, _ => none

/-- Whether a CONNECT is outstanding after the events, if they alternate. -/
def linkStatus (es : List Link) : Option Bool := es.foldlM linkStep false

theorem linkStatus_append (es es' : List Link) :
    linkStatus (es ++ es') = (linkStatus es).bind fun up => es'.foldlM linkStep up :=
  List.foldlM_append

theorem linkStep_eq_some_iff {up up' : Bool} {e : Link} :
    linkStep up e = some up' ↔
      (up = false ∧ e = .connect ∧ up' = true) ∨ (up = true ∧ e = .disconnect ∧ up' = false) := by
  cases up <;> cases e <;> cases up' <;> simp [linkStep]

/-- What is expected of the events that follow, and of the last of them. -/
theorem alternates_of_foldlM {es : List Link} {up up' : Bool}
    (h : es.foldlM linkStep up = some up') :
    ((if up then Link.connect else .disconnect) :: es).IsChain (· ≠ ·) ∧
      ((if up then Link.connect else .disconnect) :: es).getLast? =
        some (if up' then Link.connect else .disconnect) := by
  -- an imaginary event in front tells what `up` allows next
  induction es generalizing up with
  | nil =>
    obtain rfl : up = up' := by simpa using h
    exact ⟨List.isChain_singleton _, rfl⟩
  | cons e es ih =>
    obtain ⟨up₁, hstep, hrest⟩ := Option.bind_eq_some_iff.1 (List.foldlM_cons.symm.trans h)
    obtain ⟨hchain, hlast⟩ := ih hrest
    rcases linkStep_eq_some_iff.1 hstep with ⟨rfl, rfl, rfl⟩ | ⟨rfl, rfl, rfl⟩
    · exact ⟨List.isChain_cons_cons.2 ⟨by simp, hchain⟩, hlast⟩
    · exact ⟨List.isChain_cons_cons.2 ⟨by simp, hchain⟩, hlast⟩

theorem alternates_of_linkStatus {es : List Link} {up : Bool} (h : linkStatus es = some up) :
    Alternates es := by
  obtain ⟨hchain, -⟩ := alternates_of_foldlM h
  rw [List.isChain_cons] at hchain
  refine ⟨fun hhead => ?_, hchain.2⟩
  exact hchain.1 .disconnect hhead rfl

/-- A CONNECT is outstanding when the last event is one. -/
theorem linkStatus_of_getLast? {es : List Link} {up : Bool} (h : linkStatus es = some up)
    (hlast : es.getLast? = some .connect) : up = true := by
  obtain ⟨-, hlast'⟩ := alternates_of_foldlM h
  cases up with
  | true => rfl
  | false =>
    cases es with
    | nil => simp at hlast
    | cons e es =>
      rw [List.getLast?_cons_cons, hlast] at hlast'
      simp at hlast'

/-! ## Dispatched events -/

/-- The event that the call dispatches, if it is CONNECT or DISCONNECT. -/
def Link.ofCall : Call → List Link
  | .dispatch .connect => [.connect]
  | .dispatch .disconnect => [.disconnect]
  | _ => []

/-- The CONNECT and DISCONNECT events dispatched so far. -/
def linkEvents (trace : List Call) : List Link := trace.flatMap Link.ofCall

@[simp] theorem linkEvents_append (trace cs : List Call) :
    linkEvents (trace ++ cs) = linkEvents trace ++ linkEvents cs := List.flatMap_append

theorem linkEvents_of_forall {cs : List Call} (h : ∀ c ∈ cs, Link.ofCall c = []) :
    linkEvents cs = [] := by
  rw [linkEvents, List.flatMap_eq_nil_iff]
  exact h

theorem linkEvents_dialed {trace trace' : List Call} (h : Dialed trace trace') :
    linkEvents trace' = linkEvents trace := by
  obtain ⟨cs, rfl, hcs⟩ := h
  have hnil : linkEvents cs = [] := by
    refine linkEvents_of_forall fun c hc => ?_
    have hdial := hcs c hc
    cases c <;> first | rfl | exact absurd hdial id
  rw [linkEvents_append, hnil, List.append_nil]

@[simp] theorem linkEvents_pushes (lines : List CStr) : linkEvents (lines.map .push) = [] := by
  refine linkEvents_of_forall fun c hc => ?_
  obtain ⟨line, -, rfl⟩ := List.mem_map.1 hc
  rfl

@[simp] theorem linkEvents_recvCall (fd : ℤ) (data : List UInt8) :
    linkEvents (recvCall fd data) = [] := by
  unfold recvCall
  split <;> rfl

@[simp] theorem linkEvents_sendCall (fd : ℤ) (data : List UInt8) :
    linkEvents (sendCall fd data) = [] := by
  unfold sendCall
  split <;> rfl

@[simp] theorem linkEvents_closeCall (fd : ℤ) : linkEvents (closeCall fd) = [] := by
  unfold closeCall
  split <;> rfl

/-! ## Expected events -/

/-- The event that is dispatched when the message is handled, if it is CONNECT or DISCONNECT. -/
def Link.ofMsg (msg : ConnMsg) : List Link :=
  if msg.cmd = cstr "001" then [.connect]
  else if msg.cmd = cstr "000" then [.disconnect]
  else []

/-- The events that the message pushed by the producer and the lines in the input buffer are going
to give. -/
def expected (n : Net) : List Link :=
  (n.conn.storage.toList ++ messages n.conn.inb.contents).flatMap Link.ofMsg

theorem ofMsg_eq_nil_iff {msg : ConnMsg} :
    Link.ofMsg msg = [] ↔ msg.cmd ≠ cstr "000" ∧ msg.cmd ≠ cstr "001" := by
  unfold Link.ofMsg
  split
  · rename_i h
    simp [h]
  · rename_i h
    split
    · rename_i h'
      simp [h']
    · rename_i h'
      simp [h, h']

/-- The pseudo message of `conn_ready`. -/
theorem messages_internalLine :
    messages InBuf.internalLine = [⟨some (cstr "internal"), cstr "000", []⟩] := by decide +kernel

/-! ## The present connection -/

/-- How a call changes what the present connection has received. -/
def arrivedStep (bs : List UInt8) : Call → List UInt8
  | .socket _ | .connected _ => []
  | .recv _ data => bs ++ data
  | _ => bs

/-- The bytes received on the present connection. -/
def arrived (trace : List Call) : List UInt8 := trace.foldl arrivedStep []

/-- The events that the messages of the present connection give. -/
def welcomes (trace : List Call) : List Link := (messages (arrived trace)).flatMap Link.ofMsg

/-- The IRC server sends no 000 on a connection, and at most one 001. -/
def OneWelcome (trace : List Call) : Prop := welcomes trace = [] ∨ welcomes trace = [.connect]

instance (trace : List Call) : Decidable (OneWelcome trace) := inferInstanceAs (Decidable (_ ∨ _))

@[simp] theorem arrived_append (trace cs : List Call) :
    arrived (trace ++ cs) = cs.foldl arrivedStep (arrived trace) := by
  rw [arrived, List.foldl_append, ← arrived]

theorem arrived_dialed {trace trace' : List Call} (h : Dialed trace trace') :
    arrived trace' = arrived trace ∨ arrived trace' = [] := by
  refine h.foldl (M := fun bs => bs = arrived trace ∨ bs = []) (fun bs c hc hbs => ?_) (.inl rfl)
  cases c <;> simp only [Call.IsDial] at hc
  · exact .inr rfl
  · exact hbs
  · exact .inr rfl
  · exact hbs

theorem arrived_pushes (lines : List CStr) (bs : List UInt8) :
    (lines.map Call.push).foldl arrivedStep bs = bs := by
  induction lines with
  | nil => rfl
  | cons line lines ih => exact ih

theorem arrived_recvCall (fd : ℤ) (data bs : List UInt8) :
    (recvCall fd data).foldl arrivedStep bs = bs ++ data := by
  unfold recvCall
  split
  · rename_i h
    simp [h]
  · rfl

theorem arrived_sendCall (fd : ℤ) (data bs : List UInt8) :
    (sendCall fd data).foldl arrivedStep bs = bs := by
  unfold sendCall
  split <;> rfl

/-- The messages of the lines that the data ends. -/
def newMessages (rest data : List UInt8) : List ConnMsg :=
  lineMessages (frames isCR isLF (rest ++ data))

theorem messages_append (bs data : List UInt8) :
    messages (bs ++ data) = messages bs ++ newMessages (rest isCR isLF bs) data := by
  rw [messages, frames_append, lineMessages_append, ← messages, ← newMessages]

end Irccd
