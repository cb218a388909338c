import Irccd.Foundations.Runs
import Irccd.Plugins.Basic

/-!
# Requests (`jsapi-http.c`)

A request has a transfer of libcurl, a watcher of its socket, and a stream for the body. Its
callback is a function of the script, which has a hidden property with the last request that was
given to it, and an entry in the stash of the heap.

* `httpRequest`, `requestIoCb`, `requestComplete`, `httpDestructor`: the functions;
* `Http.step`: what happens to the requests of a plugin;
* `Http.Right`: the callbacks and events are what they should be;
* `right_iff`: exactly which runs are right.
-/

namespace Irccd

/-! ## libcurl -/

/-- `CURLcode` -/
inductive CurlCode
  | ok
  | operationTimedout
  /-- Any other error. -/
  | other
  deriving DecidableEq

/-- What `curl_multi_perform` does for a transfer that is not finished. -/
inductive Progress
  /-- It writes data. -/
  | goesOn (data : CStr)
  /-- It finishes, with a response code. -/
  | ends (data : CStr) (result : CurlCode) (code : ℕ)
  /-- `fwrite` fails in `request_write`, and the transfer finishes with `CURLE_WRITE_ERROR`. -/
  | writeFails (data : CStr) (errno : { errno : ℕ // errno ≠ 0 })

/-- A call of `curl_multi_perform`, which may return a negative number. -/
structure Perform where
  progress : Progress
  negative : Bool := false

/-- What `curl_multi_fdset` answers: the greatest descriptor, and what is waited for on it. -/
structure Fdset where
  fd : Option ℕ
  input : Bool
  output : Bool

/-- A transfer. The message about its end is delivered once. -/
structure Transfer where
  result : Option (CurlCode × ℕ) := none
  body : CStr := []
  delivered : Bool := false

/-! ## A request -/

def ETIMEDOUT : ℕ := 110

def EINVAL : ℕ := 22

/-- `struct ev_io` -/
structure EvIo where
  input : Bool := false
  output : Bool := false
  fd : ℕ := 0
  active : Bool := false

/-- `struct request`. The stream is `none` when it is closed. -/
structure HttpRequest where
  transfer : Transfer := {}
  error : ℕ := 0
  code : ℕ := 0
  io : EvIo := {}
  stream : Option CStr := some []
  addr : ℕ

namespace HttpRequest

variable (r : HttpRequest)

/-- `request_write`, when `fwrite` succeeds. -/
def write (data : CStr) : HttpRequest :=
  { r with
    transfer := { r.transfer with body := r.transfer.body ++ data }
    stream := r.stream.map (· ++ data) }

/-- The transfer is finished. -/
def finish (result : CurlCode) (code : ℕ) : HttpRequest :=
  { r with transfer := { r.transfer with result := some (result, code) } }

/-- `curl_multi_perform`, which does nothing once the transfer is finished. -/
def perform (progress : Progress) : HttpRequest :=
  if r.transfer.result.isSome then r
  else match progress with
    | .goesOn data => r.write data
    | .ends data result code => (r.write data).finish result code
    | .writeFails data errno => { (r.write data).finish .other 0 with error := errno }

/-- `request_set_events`, unless `ev_io_start` asserts that the descriptor is not negative. -/
def setEvents (fds : Fdset) : Option HttpRequest :=
  let input := fds.fd.isSome && fds.input
  let output := fds.fd.isSome && fds.output
  if r.io.input = input ∧ r.io.output = output then some r
  else match fds.fd with
    | some fd => some { r with io := ⟨input, output, fd, true⟩ }
    | none => none

/-- `curl_multi_info_read`, and what `request_io_cb` does with the message. -/
def readInfo : HttpRequest :=
  match r.transfer.result, r.transfer.delivered with
  | some (result, code), false =>
    let r := { r with transfer := { r.transfer with delivered := true } }
    match result with
    | .operationTimedout => { r with error := ETIMEDOUT }
    | .ok => { r with error := 0, code }
    -- any other error leaves the status as it is
    | .other => r
  | _, _ => { r with error := EINVAL }

/-- `request_io_cb`, up to its label `end`. -/
def receive (p : Perform) : HttpRequest :=
  let r := r.perform p.progress
  if p.negative then { r with error := EINVAL }
  else if r.transfer.result.isNone then r
  else r.readInfo

end HttpRequest

/-! ## The requests of a plugin -/

/-- The argument of a callback. -/
structure HttpResult where
  status : ℕ
  code : ℕ
  body : CStr
  deriving DecidableEq

/-- What can be seen of a request. -/
inductive HttpEffect
  /-- `request_io_cb` is called. -/
  | processes (id : ℕ)
  /-- Its stream is closed. -/
  | closes (id : ℕ)
  /-- Its callback is called. -/
  | calls (id : ℕ) (result : HttpResult)
  /-- `request_free` -/
  | frees (id : ℕ)
  /-- A stream or a heap is used that is not there any more. -/
  | faults
  deriving DecidableEq

/-- A key of the stash: the text of a pointer, or that of a function. -/
inductive StashKey
  | pointer (fn : ℕ)
  | text (fn : ℕ)
  deriving DecidableEq

/-- The requests in the order of their creation, the hidden property of each function, and the
stash. -/
structure Http where
  requests : List HttpRequest := []
  signature : ℕ → Option ℕ := fun _ => none
  stash : List StashKey := []
  heap : Bool := true
  trace : List HttpEffect := []

/-- What happens to the requests. -/
inductive HttpStep
  /-- The script calls `Irccd.Http.request` with a function. -/
  | request (fn : ℕ) (progress : Progress) (fds : Fdset)
  /-- There is an event on the socket of a request. -/
  | event (id : ℕ) (p : Perform) (fds : Fdset)
  /-- A function is collected. -/
  | collect (fn : ℕ)
  /-- The plugin is unloaded. -/
  | unload

namespace Http

variable (s : Http)

/-- Something is seen. -/
def log (e : HttpEffect) : Http := { s with trace := s.trace ++ [e] }

/-- Change a request. -/
def setRequest (id : ℕ) (r : HttpRequest) : Http := { s with requests := s.requests.set id r }

/-- `Http_request`: `request_new`, `request_attach` and `request_start`. -/
def httpRequest (fn : ℕ) (progress : Progress) (fds : Fdset) : Option Http := do
  let r ← (({ addr := fn } : HttpRequest).perform progress).setEvents fds
  return { s with
    requests := s.requests ++ [r]
    signature := Function.update s.signature fn (some s.requests.length)
    stash := s.stash.insert (.pointer fn) }

/-- `request_detach`: `duk_del_prop_heapptr` takes the text of the function as the key. -/
def requestDetach (fn : ℕ) : Http := { s with stash := s.stash.filter (· ≠ .text fn) }

/-- `request_complete` -/
def requestComplete (id : ℕ) (r : HttpRequest) : Http :=
  match r.stream with
  -- `fclose (NULL)`
  | none => s.log .faults
  | some out =>
    let s := (s.setRequest id { r with stream := none }).log (.closes id)
    if s.heap then
      (s.log (.calls id ⟨r.error, r.code, cString out⟩)).requestDetach r.addr
    else s.log .faults

/-- `request_io_cb` -/
def requestIoCb (id : ℕ) (r : HttpRequest) (p : Perform) (fds : Fdset) : Option Http :=
  let s := s.log (.processes id)
  let r := r.receive p
  if r.transfer.result.isNone then (r.setEvents fds).map (s.setRequest id)
  else some (s.requestComplete id r)

/-- `request_free` -/
def requestFree (id : ℕ) : Http :=
  match s.requests[id]? with
  | some r =>
    -- the watcher is stopped with the request
    (s.setRequest id { r with io := { r.io with active := false }, stream := none }).log (.frees id)
  | none => s

/-- `Http_destructor` -/
def httpDestructor (fn : ℕ) : Http :=
  match s.signature fn with
  | some id => { s.requestFree id with signature := Function.update s.signature fn none }
  | none => s

/-- `duk_destroy_heap`, which calls the finalizers. -/
def destroyHeap : Http :=
  { (s.requests.map HttpRequest.addr).foldl httpDestructor s with heap := false }

/-- A step. It is `none` when the step is not possible, and when libev aborts. -/
def step : HttpStep → Option Http
  | .request fn progress fds => if s.heap then s.httpRequest fn progress fds else none
  | .event id p fds =>
    match s.requests[id]? with
    | some r => if r.io.active then s.requestIoCb id r p fds else none
    | none => none
  -- the stash keeps a function alive
  | .collect fn => if s.heap ∧ .pointer fn ∉ s.stash then some (s.httpDestructor fn) else none
  | .unload => if s.heap then some s.destroyHeap else none

end Http

/-! ## What should be seen -/

/-- The result is that of the transfer. -/
def Transfer.Reports (t : Transfer) (r : HttpResult) : Prop :=
  ∃ result code, t.result = some (result, code) ∧ r.body = t.body ∧
    match result with
    | .ok => r.status = 0 ∧ r.code = code
    | .operationTimedout => r.status = ETIMEDOUT ∧ r.code = 0
    | .other => r.status ≠ 0 ∧ r.code = 0

/-- The second effect may come after the first one: the callback of a request is called once, and
no event is processed when the stream of the request is closed or the request is freed. -/
def HttpEffect.MayPrecede : HttpEffect → HttpEffect → Prop
  | .calls id _, .calls id' _ => id ≠ id'
  | .closes id, .processes id' => id ≠ id'
  | .frees id, .processes id' => id ≠ id'
  | _, _ => True

/-- The effects come in a possible order, each callback is given the result of its own transfer, and
nothing is used that is not there. -/
structure Http.Right (s : Http) : Prop where
  order : s.trace.Pairwise HttpEffect.MayPrecede
  own : ∀ id result, .calls id result ∈ s.trace →
    ∃ r, s.requests[id]? = some r ∧ r.transfer.Reports result
  defined : .faults ∉ s.trace

/-- `curl_multi_perform` returns a negative number only if the transfer failed, and not because of
the time. If it failed so, the error is set already. -/
def StatusCond (result : CurlCode) (negative : Bool) (error : ℕ) : Prop :=
  match result with
  | .ok | .operationTimedout => negative = false
  | .other => negative = true ∨ error ≠ 0

/-- An event on a request that is not completed. If its transfer is then finished, the heap is
there, and the body has no NUL. -/
structure HttpEventCond (s : Http) (r : HttpRequest) (p : Perform) : Prop where
  opened : r.stream.isSome = true
  finished : ∀ result code, (r.perform p.progress).transfer.result = some (result, code) →
    s.heap = true ∧ 0 ∉ (r.perform p.progress).transfer.body ∧
      StatusCond result p.negative (r.perform p.progress).error

/-- The events of a step are as they should be. -/
def HttpCond (s : Http) (a : HttpStep) (_ : Http) : Prop :=
  match a with
  | .event id p _ => ∀ r, s.requests[id]? = some r → HttpEventCond s r p
  | _ => True

/-! ## A request that is not completed -/

namespace HttpRequest

variable {r : HttpRequest}

/-- The stream has what the transfer has received, and no message was delivered. -/
structure Open (r : HttpRequest) : Prop where
  stream : r.stream = some r.transfer.body
  code : r.code = 0
  delivered : r.transfer.delivered = false

theorem Open.write (h : r.Open) (data : CStr) : (r.write data).Open where
  stream := by rw [HttpRequest.write, h.stream]; rfl
  code := h.code
  delivered := h.delivered

theorem Open.perform (h : r.Open) (progress : Progress) : (r.perform progress).Open := by
  unfold HttpRequest.perform
  split
  · exact h
  · cases progress with
    | goesOn data => exact h.write data
    | ends data result code => exact ⟨(h.write data).stream, h.code, h.delivered⟩
    | writeFails data errno => exact ⟨(h.write data).stream, h.code, h.delivered⟩

/-- Only the watcher changes. -/
theorem exists_io_of_setEvents {r' : HttpRequest} {fds : Fdset} (h : r.setEvents fds = some r') :
    ∃ io, r' = { r with io } := by
  rw [setEvents] at h
  split at h
  · exact ⟨r.io, (Option.some.inj h).symm⟩
  · split at h
    · exact ⟨_, (Option.some.inj h).symm⟩
    · cases h

/-- The transfer goes on. -/
theorem receive_of_none {p : Perform}
    (hresult : (r.perform p.progress).transfer.result = none) :
    ∃ error, r.receive p = { r.perform p.progress with error } := by
  rw [receive, hresult]
  split
  · exact ⟨EINVAL, rfl⟩
  · exact ⟨_, rfl⟩

/-- The transfer is finished. What is given to the callback is its result in these cases only. -/
theorem receive_of_some {p : Perform} {result : CurlCode} {code : ℕ} (h : r.Open)
    (hresult : (r.perform p.progress).transfer.result = some (result, code)) :
    (r.receive p).transfer.result = some (result, code) ∧
      (r.receive p).stream = some (r.perform p.progress).transfer.body ∧
      ((r.receive p).transfer.Reports ⟨(r.receive p).error, (r.receive p).code,
          cString (r.perform p.progress).transfer.body⟩ ↔
        0 ∉ (r.perform p.progress).transfer.body ∧
          StatusCond result p.negative (r.perform p.progress).error) := by
  obtain ⟨hstream, hcode, hdelivered⟩ := h.perform p.progress
  rw [receive]
  generalize r.perform p.progress = q at *
  have hbody : cString q.transfer.body = q.transfer.body ↔ 0 ∉ q.transfer.body :=
    cString_eq_self_iff
  cases hnegative : p.negative with
  | true =>
    rw [if_pos rfl]
    refine ⟨hresult, hstream, ?_⟩
    rw [Transfer.Reports]
    dsimp only
    rw [hresult, hcode]
    cases result <;> simp [hbody, StatusCond, EINVAL, ETIMEDOUT]
  | false =>
    rw [if_neg Bool.false_ne_true, hresult, if_neg (by simp), readInfo, hresult, hdelivered]
    dsimp only
    cases result <;> simp [Transfer.Reports, StatusCond, hresult, hstream, hbody, hcode]

end HttpRequest

/-! ## The invariant -/

/-- The request that an effect is about. -/
def HttpEffect.request? : HttpEffect → Option ℕ
  | .processes id | .closes id | .calls id _ | .frees id => some id
  | .faults => none

/-- What has been seen of a request: nothing but events while its stream is open, and that the
stream was closed if its watcher is active after that. -/
structure Tracked (trace : List HttpEffect) (id : ℕ) (r : HttpRequest) : Prop where
  opened : r.stream.isSome = true →
    r.Open ∧ ∀ e ∈ trace, e.request? = some id → e = .processes id
  closed : r.stream.isSome = false → r.io.active = true → .closes id ∈ trace

/-- An effect of another request does not matter. -/
theorem Tracked.append {trace es : List HttpEffect} {id : ℕ} {r : HttpRequest}
    (h : Tracked trace id r) (hes : ∀ e ∈ es, e.request? ≠ some id) :
    Tracked (trace ++ es) id r where
  opened hopen := by
    obtain ⟨hopened, honly⟩ := h.opened hopen
    refine ⟨hopened, fun e he hid => ?_⟩
    rcases List.mem_append.1 he with he | he
    · exact honly e he hid
    · exact absurd hid (hes e he)
  closed hclosed hactive := List.mem_append_left _ (h.closed hclosed hactive)

/-- The invariant of a run. -/
structure Http.Inv (s : Http) : Prop where
  right : s.Right
  tracked : ∀ id r, s.requests[id]? = some r → Tracked s.trace id r
  known : ∀ e ∈ s.trace, ∀ id, e.request? = some id → id < s.requests.length
  stash : ∀ fn id, s.signature fn = some id → .pointer fn ∈ s.stash

namespace Http

variable {s s' : Http} {id : ℕ} {r r' : HttpRequest} {es : List HttpEffect}

/-- A request changes, and some of its effects are seen. -/
theorem Inv.update (es : List HttpEffect) (h : s.Inv) (hr : s.requests[id]? = some r)
    (hrequests : s'.requests = s.requests.set id r') (htrace : s'.trace = s.trace ++ es)
    (hstash : ∀ fn id, s'.signature fn = some id → .pointer fn ∈ s'.stash)
    (hes : ∀ e ∈ es, e.request? = some id)
    (horder : (s.trace ++ es).Pairwise HttpEffect.MayPrecede)
    (hold : (∀ result, .calls id result ∉ s.trace) ∨ r'.transfer = r.transfer)
    (hown : ∀ result, .calls id result ∈ es → r'.transfer.Reports result)
    (htracked : Tracked (s.trace ++ es) id r') : s'.Inv := by
  have hlt : id < s.requests.length := (List.getElem?_eq_some_iff.1 hr).1
  have hself : s'.requests[id]? = some r' := by rw [hrequests, List.getElem?_set_self hlt]
  have hother {k : ℕ} (hk : k ≠ id) : s'.requests[k]? = s.requests[k]? := by
    rw [hrequests, List.getElem?_set_ne hk.symm]
  refine ⟨⟨by rw [htrace]; exact horder, fun k result hcall => ?_, fun hfault => ?_⟩,
    fun k q hq => ?_, fun e he k hk => ?_, hstash⟩
  · -- a call is an earlier one, or one of the effects
    rw [htrace, List.mem_append] at hcall
    rcases hcall with hcall | hcall
    · obtain ⟨q, hq, hreports⟩ := h.right.own k result hcall
      by_cases hk : k = id
      · -- the request that changes still reports what it has reported
        subst hk
        obtain rfl := Option.some.inj (hq.symm.trans hr)
        rcases hold with hnone | hsame
        · exact absurd hcall (hnone result)
        · exact ⟨r', hself, hsame ▸ hreports⟩
      · exact ⟨q, by rw [hother hk, hq], hreports⟩
    · obtain rfl : id = k := Option.some.inj (hes _ hcall).symm
      exact ⟨r', hself, hown result hcall⟩
  · rw [htrace, List.mem_append] at hfault
    rcases hfault with hfault | hfault
    · exact h.right.defined hfault
    · cases hes _ hfault
  · rw [htrace]
    by_cases hk : k = id
    · subst hk
      obtain rfl := Option.some.inj (hself.symm.trans hq)
      exact htracked
    · rw [hother hk] at hq
      refine (h.tracked k q hq).append fun e he hid => ?_
      rw [hes e he] at hid
      exact hk (Option.some.inj hid).symm
  · -- every effect is of a request that exists
    rw [hrequests, List.length_set]
    rw [htrace, List.mem_append] at he
    rcases he with he | he
    · exact h.known e he k hk
    · rw [hes e he] at hk
      exact Option.some.inj hk ▸ hlt

theorem inv_start : ({} : Http).Inv where
  right := ⟨List.Pairwise.nil, fun _ _ h => absurd h List.not_mem_nil, List.not_mem_nil⟩
  tracked _ _ h := by cases h
  known _ h := absurd h List.not_mem_nil
  stash _ _ h := by cases h

/-- A new request has no effects. -/
theorem Inv.httpRequest {fn : ℕ} {progress : Progress} {fds : Fdset} (h : s.Inv)
    (hstep : s.httpRequest fn progress fds = some s') : s'.Inv := by
  rw [Http.httpRequest, Option.bind_eq_bind, Option.bind_eq_some_iff] at hstep
  obtain ⟨r, hr, hs'⟩ := hstep
  obtain rfl := Option.some.inj hs'
  -- nothing has been received for the request yet
  have hopen : r.Open := by
    have hnew : HttpRequest.Open { addr := fn } := ⟨rfl, rfl, rfl⟩
    obtain ⟨io, rfl⟩ := HttpRequest.exists_io_of_setEvents hr
    obtain ⟨hstream, hcode, hdelivered⟩ := hnew.perform progress
    exact ⟨hstream, hcode, hdelivered⟩
  refine ⟨⟨h.right.order, fun k result hcall => ?_, h.right.defined⟩, fun k q hq => ?_,
    fun e he k hk => ?_, fun f k hf => ?_⟩
  · obtain ⟨q, hq, hreports⟩ := h.right.own k result hcall
    exact ⟨q, by rw [List.getElem?_append_left (List.getElem?_eq_some_iff.1 hq).1, hq], hreports⟩
  · rcases Nat.lt_trichotomy k s.requests.length with hlt | rfl | hgt
    · rw [List.getElem?_append_left hlt] at hq
      exact h.tracked k q hq
    · -- no effect so far is of the new request
      rw [List.getElem?_concat_length] at hq
      obtain rfl := Option.some.inj hq
      refine ⟨fun _ => ⟨hopen, fun e he hid => ?_⟩, fun hclosed => ?_⟩
      · exact absurd (h.known e he _ hid) (Nat.lt_irrefl _)
      · rw [hopen.stream] at hclosed
        cases hclosed
    · rw [List.getElem?_eq_none (by simpa using Nat.succ_le_of_lt hgt)] at hq
      cases hq
  · rw [List.length_append]
    exact Nat.lt_add_right _ (h.known e he k hk)
  · dsimp only at hf ⊢
    rw [List.mem_insert_iff]
    by_cases hfn : f = fn
    · exact .inl (by rw [hfn])
    · rw [Function.update_of_ne hfn] at hf
      exact .inr (h.stash f k hf)

/-- A request that is freed has no watcher. -/
theorem Inv.requestFree (h : s.Inv) (id : ℕ) : (s.requestFree id).Inv := by
  rw [Http.requestFree]
  split
  · next r hr =>
    refine h.update [.frees id] hr rfl rfl h.stash (by simp [HttpEffect.request?]) ?_
      (.inr rfl) (by simp) ⟨fun hopen => absurd hopen Bool.false_ne_true,
        fun _ hactive => absurd hactive Bool.false_ne_true⟩
    rw [List.pairwise_append]
    refine ⟨h.right.order, List.pairwise_singleton _ _, fun e _ e' he' => ?_⟩
    rw [List.mem_singleton.1 he']
    cases e <;> trivial
  · exact h

theorem signature_requestFree (id : ℕ) : (s.requestFree id).signature = s.signature := by
  rw [Http.requestFree]
  split <;> rfl

theorem Inv.httpDestructor (h : s.Inv) (fn : ℕ) : (s.httpDestructor fn).Inv := by
  rw [Http.httpDestructor]
  split
  · next id hid =>
    obtain ⟨⟨horder, hown, hdefined⟩, htracked, hknown, hstash⟩ := h.requestFree id
    refine ⟨⟨horder, hown, hdefined⟩, htracked, hknown, fun f k hf => hstash f k ?_⟩
    rw [signature_requestFree]
    dsimp only at hf
    by_cases hfn : f = fn
    · rw [hfn, Function.update_self] at hf
      cases hf
    · rwa [Function.update_of_ne hfn] at hf
  · exact h

/-- A function that is not in the stash has no request. -/
theorem httpDestructor_of_not_mem {fn : ℕ} (h : s.Inv) (hfn : .pointer fn ∉ s.stash) :
    s.httpDestructor fn = s := by
  rw [Http.httpDestructor]
  split
  · next id hid => exact absurd (h.stash fn id hid) hfn
  · rfl

theorem Inv.destroyHeap (h : s.Inv) : s.destroyHeap.Inv := by
  have hfold : ∀ (fns : List ℕ) (s : Http), s.Inv → (fns.foldl Http.httpDestructor s).Inv := by
    intro fns
    induction fns with
    | nil => exact fun s h => h
    | cons fn fns ih => exact fun s h => ih _ (h.httpDestructor fn)
  obtain ⟨⟨horder, hown, hdefined⟩, htracked, hknown, hstash⟩ :=
    hfold (s.requests.map HttpRequest.addr) s h
  exact ⟨⟨horder, hown, hdefined⟩, htracked, hknown, hstash⟩

/-! ### Events -/

variable {p : Perform} {fds : Fdset}

/-- The callback is called while there is a heap. -/
theorem requestComplete_of_some {out : CStr} (hstream : r.stream = some out) :
    s.requestComplete id r =
      if s.heap then
        (((s.setRequest id { r with stream := none }).log (.closes id)).log
          (.calls id ⟨r.error, r.code, cString out⟩)).requestDetach r.addr
      else ((s.setRequest id { r with stream := none }).log (.closes id)).log .faults := by
  rw [Http.requestComplete, hstream]
  rfl

/-- The event is seen first. -/
theorem trace_requestIoCb (hstep : s.requestIoCb id r p fds = some s') :
    ∃ rest, s'.trace = s.trace ++ .processes id :: rest := by
  rw [Http.requestIoCb] at hstep
  split at hstep
  · obtain ⟨q, -, rfl⟩ := Option.map_eq_some_iff.1 hstep
    exact ⟨[], rfl⟩
  · obtain rfl := Option.some.inj hstep
    cases hstream : (r.receive p).stream with
    | none =>
      rw [Http.requestComplete, hstream]
      exact ⟨[.faults], by simp [Http.log]⟩
    | some out =>
      rw [requestComplete_of_some hstream]
      split
      · exact ⟨[.closes id, .calls id ⟨(r.receive p).error, (r.receive p).code, cString out⟩],
          by simp [Http.log, Http.setRequest, Http.requestDetach]⟩
      · exact ⟨[.closes id, .faults], by simp [Http.log, Http.setRequest]⟩

/-- The effects of a request follow those that were seen while its stream was open. -/
theorem pairwise_of_opened (result : HttpResult) (h : s.Right)
    (honly : ∀ e ∈ s.trace, e.request? = some id → e = .processes id)
    (hes : es <+: [.processes id, .closes id, .calls id result]) :
    (s.trace ++ es).Pairwise HttpEffect.MayPrecede := by
  rw [List.pairwise_append]
  refine ⟨h.order, List.Pairwise.sublist hes.sublist (by simp [HttpEffect.MayPrecede]), ?_⟩
  intro e he e' he'
  have hne (heq : e.request? = some id) : e = .processes id := honly e he heq
  -- an event comes after no end of the stream, and a callback after no other
  rcases List.mem_cons.1 (hes.subset he') with rfl | he'
  · cases e with
    | closes k => exact fun hk => by cases hne (by rw [hk]; rfl)
    | frees k => exact fun hk => by cases hne (by rw [hk]; rfl)
    | _ => trivial
  · rcases List.mem_pair.1 he' with rfl | rfl
    · cases e <;> trivial
    · cases e with
      | calls k _ => exact fun hk => by cases hne (by rw [hk]; rfl)
      | _ => trivial

/-- An event on a request that is completed comes too late. -/
theorem not_right_of_closed (h : s.Inv) (hr : s.requests[id]? = some r)
    (hactive : r.io.active = true) (hclosed : r.stream.isSome = false)
    (hstep : s.requestIoCb id r p fds = some s') : ¬ s'.Right := by
  intro hright
  obtain ⟨rest, htrace⟩ := trace_requestIoCb hstep
  have horder := hright.order
  rw [htrace, List.pairwise_append] at horder
  exact horder.2.2 _ ((h.tracked id r hr).closed hclosed hactive) _ List.mem_cons_self rfl

/-- An event after which the transfer goes on. -/
theorem Inv.of_pending (h : s.Inv) (hr : s.requests[id]? = some r)
    (hopen : r.stream.isSome = true)
    (hresult : (r.perform p.progress).transfer.result = none)
    (hstep : s.requestIoCb id r p fds = some s') : s'.Inv := by
  obtain ⟨hopened, honly⟩ := (h.tracked id r hr).opened hopen
  obtain ⟨hstream, hcode, hdelivered⟩ := hopened.perform p.progress
  obtain ⟨error, hreceive⟩ := HttpRequest.receive_of_none hresult
  rw [Http.requestIoCb, hreceive] at hstep
  dsimp only at hstep
  rw [hresult, Option.isNone_none, if_pos rfl] at hstep
  obtain ⟨q, hq, rfl⟩ := Option.map_eq_some_iff.1 hstep
  obtain ⟨io, rfl⟩ := HttpRequest.exists_io_of_setEvents hq
  refine h.update [.processes id] hr rfl rfl h.stash (by simp [HttpEffect.request?])
    (pairwise_of_opened ⟨0, 0, []⟩ h.right honly (by simp))
    (.inl fun result hcall => by cases honly _ hcall rfl) (by simp)
    ⟨fun _ => ⟨⟨hstream, hcode, hdelivered⟩, fun e he hid => ?_⟩, fun hclosed => ?_⟩
  · rcases List.mem_append.1 he with he | he
    · exact honly e he hid
    · exact List.mem_singleton.1 he
  · dsimp only at hclosed
    rw [hstream] at hclosed
    cases hclosed

/-- An event after which the transfer is finished. -/
theorem requestIoCb_finished {result : CurlCode} {code : ℕ} (h : s.Inv)
    (hr : s.requests[id]? = some r) (hopen : r.stream.isSome = true)
    (hresult : (r.perform p.progress).transfer.result = some (result, code))
    (hstep : s.requestIoCb id r p fds = some s') :
    (HttpEventCond s r p → s'.Inv) ∧ (¬ HttpEventCond s r p → ¬ s'.Right) := by
  obtain ⟨hopened, honly⟩ := (h.tracked id r hr).opened hopen
  obtain ⟨hfinished, hstream, hreports⟩ := HttpRequest.receive_of_some hopened hresult
  have hcond : HttpEventCond s r p ↔ s.heap = true ∧ 0 ∉ (r.perform p.progress).transfer.body ∧
      StatusCond result p.negative (r.perform p.progress).error := by
    refine ⟨fun hcond => hcond.finished result code hresult, fun hcond => ⟨hopen, ?_⟩⟩
    intro result' code' hresult'
    obtain ⟨rfl, -⟩ := Prod.mk.inj (Option.some.inj (hresult.symm.trans hresult'))
    exact hcond
  rw [hcond]
  have hheap : (s.log (.processes id)).heap = s.heap := rfl
  rw [Http.requestIoCb, hfinished, Option.isNone_some, if_neg Bool.false_ne_true,
    requestComplete_of_some hstream, hheap] at hstep
  obtain rfl := Option.some.inj hstep
  by_cases halive : s.heap = true
  · rw [if_pos halive, and_iff_right halive, ← hreports]
    generalize hcall : (⟨(r.receive p).error, (r.receive p).code,
      cString (r.perform p.progress).transfer.body⟩ : HttpResult) = call at *
    refine ⟨fun hown => ?_, fun hnot hright => ?_⟩
    · refine h.update [.processes id, .closes id, .calls id call] hr rfl
        (by simp [Http.log, Http.setRequest, Http.requestDetach])
        (fun fn k hk => List.mem_filter.2 ⟨h.stash fn k hk, rfl⟩) (by simp [HttpEffect.request?])
        (pairwise_of_opened call h.right honly (List.prefix_refl _))
        (.inl fun result hcall => by cases honly _ hcall rfl) (fun result hresult => ?_)
        ⟨fun hopen => absurd hopen Bool.false_ne_true, fun _ _ => by simp⟩
      obtain rfl : result = call := by simpa using hresult
      exact hown
    -- the result that was told is not that of the transfer
    · obtain ⟨q, hq, hown⟩ := hright.own id call
        (List.mem_append_right _ (List.mem_singleton.2 rfl))
      have hlt : id < s.requests.length := (List.getElem?_eq_some_iff.1 hr).1
      obtain rfl := Option.some.inj ((List.getElem?_set_self hlt).symm.trans hq)
      exact hnot hown
  · rw [if_neg halive]
    refine ⟨fun hcond => absurd hcond.1 halive, fun _ hright => hright.defined ?_⟩
    simp [Http.log]

/-- What a step does to the invariant. -/
theorem Inv.step {a : HttpStep} (h : s.Inv) (hstep : s.step a = some s') :
    (HttpCond s a s' → s'.Inv) ∧ (¬ HttpCond s a s' → ¬ s'.Right) := by
  cases a with
  | request fn progress fds =>
    rw [Http.step] at hstep
    split at hstep
    · exact ⟨fun _ => h.httpRequest hstep, fun hnot => absurd trivial hnot⟩
    · cases hstep
  | event id p fds =>
    rw [Http.step] at hstep
    split at hstep
    · next r hr =>
      split at hstep
      · next hactive =>
        have hcond : HttpCond s (.event id p fds) s' ↔ HttpEventCond s r p :=
          ⟨fun hcond => hcond r hr, fun hcond q hq => by rwa [← Option.some.inj (hr.symm.trans hq)]⟩
        rw [hcond]
        cases hopen : r.stream.isSome with
        | false =>
          refine ⟨fun hcond => ?_, fun _ => not_right_of_closed h hr hactive hopen hstep⟩
          rw [hcond.opened] at hopen
          cases hopen
        | true =>
          cases hresult : (r.perform p.progress).transfer.result with
          | none =>
            refine ⟨fun _ => h.of_pending hr hopen hresult hstep, fun hnot => ?_⟩
            refine absurd ⟨hopen, fun result code hsome => ?_⟩ hnot
            rw [hresult] at hsome
            cases hsome
          | some finished => exact requestIoCb_finished h hr hopen hresult hstep
      · cases hstep
    · cases hstep
  | collect fn =>
    rw [Http.step] at hstep
    split at hstep
    · next hdead =>
      obtain rfl := Option.some.inj hstep
      -- a function with a request is kept alive by the stash
      rw [httpDestructor_of_not_mem h hdead.2]
      exact ⟨fun _ => h, fun hnot => absurd trivial hnot⟩
    · cases hstep
  | unload =>
    rw [Http.step] at hstep
    split at hstep
    · obtain rfl := Option.some.inj hstep
      exact ⟨fun _ => h.destroyHeap, fun hnot => absurd trivial hnot⟩
    · cases hstep

end Http

/-- A run is right if and only if each event is on a request that is not completed, and a transfer
that it finishes is told as it should be. -/
theorem right_iff (as : List HttpStep) :
    Runs.AllStates Http.step Http.Right {} as ↔ Runs.AllSteps Http.step HttpCond {} as :=
  Runs.allStates_iff_allSteps (I := Http.Inv)
    (fun _ _ _ hI hstep hcond => (hI.step hstep).1 hcond) (fun _ hI => hI.right)
    (fun _ _ _ hI hstep hcond => (hI.step hstep).2 hcond) Http.inv_start

/-- A request to a host that refuses the connection. -/
def refusedRun : List HttpStep :=
  [.request 0 (.goesOn []) ⟨some 5, false, true⟩,
    .event 0 { progress := .ends [] .other 0 } ⟨none, false, false⟩]

/-- The callback is told that the operation succeeded. -/
theorem not_forall_right : ¬ ∀ as : List HttpStep, Runs.AllStates Http.step Http.Right {} as := by
  intro h
  have hright := ((h refusedRun).2 _ rfl).2 _ rfl
  obtain ⟨r, hr, result, code, hresult, -, hstatus⟩ :=
    hright.own 0 ⟨0, 0, []⟩ (List.mem_append_right _ (List.mem_singleton.2 rfl))
  cases hr
  cases hresult
  exact hstatus.1 rfl

end Irccd
