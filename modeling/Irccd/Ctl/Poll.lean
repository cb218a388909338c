import Irccd.CString
import Irccd.Foundations.Readers
import Mathlib.Data.List.DropRight

/-!
# Receiving lines (`irccdctl.c`)

`poll` returns the next line of what the daemon sends. It appends what each `recv` gives to an array
of 512 bytes, and moves to the front what is left behind the line.

* `poll`, `pollMany`: a call, and several in a row;
* `Unread`: what stands in the array between two calls;
* `Aligned`: each chunk fits behind the unfinished line before it;
* `reassembles_iff`: exactly when all lines are returned.
-/

namespace Irccd.Ctl

open Readers (unlines)
open Terminated

/-! ## Strings in arrays -/

/-- `irc_util_strlcat (dst, src, sizeof (dst))`: the length it tries to make, and the array. -/
def strlcat (dst : List UInt8) (src : CStr) : ℕ × List UInt8 :=
  let dlen := (strAt 0 dst 0).length
  if dlen = dst.length then (dst.length + src.length, dst)
  else
    let text := src.take (dst.length - dlen - 1)
    (dlen + src.length, dst.take dlen ++ (text ++ 0 :: dst.drop (dlen + text.length + 1)))

/-- `irc_util_strlcpy (dst, src, sizeof (dst))`: the array. -/
def strlcpy (dst : List UInt8) (src : CStr) : List UInt8 :=
  let text := src.take (dst.length - 1)
  text ++ 0 :: dst.drop (text.length + 1)

/-- `memmove (a, a + i, sizeof (a) - i)` -/
def moveToFront (a : List UInt8) (i : ℕ) : List UInt8 := a.drop i ++ a.drop (a.length - i)

/-! ## The client -/

/-- `IRC_BUF_LEN` -/
def ircBufLen : ℕ := 512

/-- Why `recv` ends the program. -/
inductive RecvErrno
  | econnreset
  | emsgsize
  deriving DecidableEq

/-- The static arrays `in` and `ret`, and what each `recv` will give. The connection ends after
that. -/
structure Client where
  inbuf : List UInt8
  ret : List UInt8
  sock : List (List UInt8)

/-- The end of `poll`, when there is a newline in the array. -/
def returnLine (inbuf ret : List UInt8) (sock : List (List UInt8)) : CStr × Client :=
  let nl := (strAt LF inbuf 0).length
  let inbuf := inbuf.set nl 0
  let ret := strlcpy ret (strAt 0 inbuf 0)
  (strAt 0 ret 0, { inbuf := moveToFront inbuf (nl + 1), ret, sock })

/-- `poll` -/
def poll (inbuf ret : List UInt8) (sock : List (List UInt8)) : Except RecvErrno (CStr × Client) :=
  if LF ∈ strAt 0 inbuf 0 then .ok (returnLine inbuf ret sock)
  else
    match sock with
    | [] => .error .econnreset
    | chunk :: sock =>
      if chunk = [] then .error .econnreset
      else
        -- the buffer of `recv` is zero behind the chunk
        let buf := chunk ++ List.replicate (ircBufLen - chunk.length) 0
        let r := strlcat inbuf (strAt 0 buf 0)
        if inbuf.length ≤ r.1 then .error .emsgsize else poll r.2 ret sock

/-- So many calls in a row: the lines that they return. -/
def pollMany : ℕ → Client → Except RecvErrno (List CStr × Client)
  | 0, s => .ok ([], s)
  | n + 1, s => do
    let (line, s) ← poll s.inbuf s.ret s.sock
    let (lines, s) ← pollMany n s
    return (line :: lines, s)

/-- The client before the first call. -/
def Client.start (chunks : List (List UInt8)) : Client where
  inbuf := List.replicate ircBufLen 0
  ret := List.replicate ircBufLen 0
  sock := chunks

/-! ## What the functions leave in the arrays -/

section Arrays

variable {a : List UInt8} {s t : CStr}

theorem length_lt_of_stored (h : Stored 0 a 0 s) : s.length < a.length := by
  simpa using h.lt_length

theorem exists_eq_of_stored (h : Stored 0 a 0 s) : ∃ post, a = s ++ 0 :: post := h.2

theorem strlcat_fst (h : Stored 0 a 0 s) : (strlcat a t).1 = s.length + t.length := by
  have hlt := length_lt_of_stored h
  rw [strlcat, h.strAt_eq]
  dsimp only
  rw [if_neg (by omega)]

/-- A string that fits is appended. -/
theorem stored_strlcat (h : Stored 0 a 0 s) (ht : 0 ∉ t) (hlen : s.length + t.length < a.length) :
    Stored 0 (strlcat a t).2 0 (s ++ t) ∧ (strlcat a t).2.length = a.length := by
  obtain ⟨post, hpost⟩ := exists_eq_of_stored h
  have htake : a.take s.length = s := by rw [hpost, List.take_left]
  have htext : t.take (a.length - s.length - 1) = t := List.take_of_length_le (by omega)
  rw [strlcat, h.strAt_eq]
  dsimp only
  rw [if_neg (by omega), htext, htake]
  have hstored : (s ++ (t ++ 0 :: a.drop (s.length + t.length + 1))).drop 0 =
      s ++ t ++ 0 :: a.drop (s.length + t.length + 1) := by
    rw [List.drop_zero, List.append_assoc]
  refine ⟨⟨by simp [h.1, ht], _, hstored⟩, ?_⟩
  simp only [List.length_append, List.length_cons, List.length_drop]
  omega

/-- A string that fits is copied. -/
theorem stored_strlcpy (ht : 0 ∉ t) (hlen : t.length < a.length) :
    Stored 0 (strlcpy a t) 0 t ∧ (strlcpy a t).length = a.length := by
  have htext : t.take (a.length - 1) = t := List.take_of_length_le (by omega)
  rw [strlcpy, htext]
  refine ⟨⟨ht, _, List.drop_zero⟩, ?_⟩
  simp only [List.length_append, List.length_cons, List.length_drop]
  omega

theorem length_moveToFront {i : ℕ} (h : i ≤ a.length) : (moveToFront a i).length = a.length := by
  simp only [moveToFront, List.length_append, List.length_drop]
  omega

/-- A string that is moved to the front. -/
theorem stored_moveToFront {i : ℕ} (h : Stored 0 a i s) : Stored 0 (moveToFront a i) 0 s := by
  obtain ⟨hs, post, hpost⟩ := h
  refine ⟨hs, post ++ a.drop (a.length - i), ?_⟩
  rw [moveToFront, List.drop_zero, hpost, List.append_assoc, List.cons_append]

/-- The line is returned, and what stands behind it is moved to the front. -/
theorem returnLine_eq {line rest : CStr} {ret : List UInt8} {sock : List (List UInt8)}
    (h : Stored 0 a 0 (line ++ LF :: rest)) (hline : LF ∉ line) (hlen : a.length = ret.length) :
    ∃ s : Client, returnLine a ret sock = (line, s) ∧ s.sock = sock ∧
      s.inbuf.length = a.length ∧ s.ret.length = ret.length ∧ Stored 0 s.inbuf 0 rest := by
  have hlt := length_lt_of_stored h
  simp only [List.length_append, List.length_cons] at hlt
  obtain ⟨post, hpost⟩ := exists_eq_of_stored h
  rw [List.append_assoc, List.cons_append] at hpost
  have h0 : 0 ∉ line ∧ 0 ∉ rest := by
    have := h.1
    simp only [List.mem_append, List.mem_cons, not_or] at this
    exact ⟨this.1, this.2.2⟩
  have hnl : (strAt LF a 0).length = line.length := by
    rw [strAt, List.drop_zero, hpost, takeWhile_of_not_mem hline]
  have hset : a.set line.length 0 = line ++ 0 :: (rest ++ 0 :: post) := by
    rw [hpost, List.set_append_right _ _ (Nat.le_refl _), Nat.sub_self, List.set_cons_zero]
  have hfirst : Stored 0 (a.set line.length 0) 0 line := ⟨h0.1, _, by rw [hset, List.drop_zero]⟩
  have hbehind : Stored 0 (a.set line.length 0) (line.length + 1) rest := by
    refine ⟨h0.2, post, ?_⟩
    rw [hset, ← List.singleton_append, ← List.append_assoc]
    exact List.drop_left' (by rw [List.length_append, List.length_singleton])
  obtain ⟨hret, hretlen⟩ := @stored_strlcpy ret line h0.1 (by omega)
  refine ⟨⟨moveToFront (a.set line.length 0) (line.length + 1), strlcpy ret line, sock⟩, ?_, rfl,
    ?_, hretlen, stored_moveToFront hbehind⟩
  · simp only [returnLine, hnl, hfirst.strAt_eq, hret.strAt_eq]
  · rw [length_moveToFront (by rw [List.length_set]; omega), List.length_set]

end Arrays

/-! ## Chunks -/

/-- What stands behind the last newline. -/
def unfinished (text : CStr) : CStr := text.rtakeWhile (· != LF)

/-- Each chunk fits behind the unfinished line before it, when `text` has been received first. -/
def Aligned (text : CStr) (chunks : List (List UInt8)) : Prop :=
  ∀ k (hk : k < chunks.length),
    (unfinished (text ++ (chunks.take k).flatten)).length + chunks[k].length < ircBufLen

section Chunks

variable {text line : CStr} {chunk : List UInt8} {chunks : List (List UInt8)}

theorem unfinished_of_not_mem (h : LF ∉ text) : unfinished text = text := by
  rw [unfinished, List.rtakeWhile_eq_self_iff]
  intro b hb
  rw [bne_iff_ne]
  rintro rfl
  exact h hb

theorem unfinished_line (line text : CStr) : unfinished (line ++ LF :: text) = unfinished text := by
  induction text using List.reverseRecOn with
  | nil => exact List.rtakeWhile_concat_neg _ _ _ (by simp)
  | append_singleton text b ih =>
    rw [unfinished, unfinished, ← List.cons_append, ← List.append_assoc, List.rtakeWhile_concat,
      List.rtakeWhile_concat]
    rw [unfinished, unfinished] at ih
    rw [ih]

theorem aligned_nil : Aligned text [] := fun k hk => absurd hk (Nat.not_lt_zero k)

theorem aligned_cons : Aligned text (chunk :: chunks) ↔
    (unfinished text).length + chunk.length < ircBufLen ∧ Aligned (text ++ chunk) chunks := by
  constructor
  · intro h
    refine ⟨by simpa using h 0 (Nat.zero_lt_succ _), fun k hk => ?_⟩
    simpa using h (k + 1) (Nat.succ_lt_succ hk)
  · rintro ⟨hfirst, hrest⟩ k hk
    cases k with
    | zero => simpa using hfirst
    | succ k => simpa using hrest k (Nat.lt_of_succ_lt_succ hk)

/-- A finished line does not matter. -/
theorem aligned_line : Aligned (line ++ LF :: text) chunks ↔ Aligned text chunks := by
  refine forall₂_congr fun k hk => ?_
  rw [List.append_assoc, List.cons_append, unfinished_line]

end Chunks

/-! ## Calls -/

/-- A chunk of the stream: `recv` gives at least one byte and at most 511, none of them NUL. -/
def IsChunk (chunk : List UInt8) : Prop :=
  1 ≤ chunk.length ∧ chunk.length < ircBufLen ∧ 0 ∉ chunk

/-- The arrays, when the string `text` stands in the first one. -/
structure Client.Holds (s : Client) (text : CStr) : Prop where
  inbuf_length : s.inbuf.length = ircBufLen
  ret_length : s.ret.length = ircBufLen
  stored : Stored 0 s.inbuf 0 text

section Calls

variable {s : Client} {text line rest : CStr} {chunks : List (List UInt8)}

theorem poll_of_mem (h : s.Holds (line ++ LF :: rest)) (hline : LF ∉ line) :
    ∃ s' : Client, poll s.inbuf s.ret s.sock = .ok (line, s') ∧ s'.sock = s.sock ∧
      s'.Holds rest := by
  obtain ⟨s', hs', hsock, hinbuf, hret, hstored⟩ : ∃ s' : Client,
      returnLine s.inbuf s.ret s.sock = (line, s') ∧ s'.sock = s.sock ∧
        s'.inbuf.length = s.inbuf.length ∧ s'.ret.length = s.ret.length ∧
        Stored 0 s'.inbuf 0 rest :=
    returnLine_eq h.stored hline (h.inbuf_length.trans h.ret_length.symm)
  refine ⟨s', ?_, hsock, hinbuf.trans h.inbuf_length, hret.trans h.ret_length, hstored⟩
  rw [poll.eq_def, h.stored.strAt_eq, if_pos (by simp), hs']

/-- A chunk that does not fit ends the program, another one is appended. -/
theorem poll_chunk {chunk : List UInt8} (h : s.Holds text) (htext : LF ∉ text)
    (hchunk : IsChunk chunk) (hsock : s.sock = chunk :: chunks) :
    (ircBufLen ≤ text.length + chunk.length ∧ poll s.inbuf s.ret s.sock = .error .emsgsize) ∨
    ∃ s' : Client, poll s.inbuf s.ret s.sock = poll s'.inbuf s'.ret s'.sock ∧ s'.sock = chunks ∧
      s'.Holds (text ++ chunk) := by
  have hne : chunk ≠ [] := List.ne_nil_of_length_pos hchunk.1
  have hbuf : strAt 0 (chunk ++ List.replicate (ircBufLen - chunk.length) 0) 0 = chunk := by
    obtain ⟨n, hn⟩ : ∃ n, ircBufLen - chunk.length = n + 1 :=
      ⟨ircBufLen - chunk.length - 1, by have := hchunk.2.1; omega⟩
    rw [hn, List.replicate_succ, strAt, List.drop_zero, takeWhile_of_not_mem hchunk.2.2]
  rw [hsock, poll, h.stored.strAt_eq, if_neg htext]
  dsimp only
  rw [if_neg hne, hbuf, strlcat_fst h.stored, h.inbuf_length]
  by_cases hlong : ircBufLen ≤ text.length + chunk.length
  · left
    exact ⟨hlong, if_pos hlong⟩
  · right
    rw [if_neg hlong]
    obtain ⟨hstored, hlen⟩ := stored_strlcat h.stored hchunk.2.2 (by rw [h.inbuf_length]; omega)
    exact ⟨⟨_, s.ret, chunks⟩, rfl, rfl, hlen.trans h.inbuf_length, h.ret_length, hstored⟩

/-- A call returns the next line, or it stops at a chunk that does not fit. -/
theorem poll_eq (h : s.Holds text) (hsock : s.sock = chunks) (hchunks : ∀ c ∈ chunks, IsChunk c)
    (hstream : text ++ chunks.flatten = line ++ LF :: rest) (hline : LF ∉ line) :
    (∃ got text' s', chunks = got ++ s'.sock ∧ text ++ got.flatten = line ++ LF :: text' ∧
      poll s.inbuf s.ret s.sock = .ok (line, s') ∧ s'.Holds text' ∧
      (Aligned text chunks ↔ Aligned text' s'.sock)) ∨
    ((∃ e, poll s.inbuf s.ret s.sock = .error e) ∧ ¬ Aligned text chunks) := by
  induction chunks generalizing s text with
  | nil =>
    rw [List.flatten_nil, List.append_nil] at hstream
    subst hstream
    left
    obtain ⟨s', hpoll, hsock', hholds⟩ := poll_of_mem h hline
    refine ⟨[], rest, s', by rw [hsock', hsock]; rfl, by simp, hpoll, hholds, ?_⟩
    rw [hsock', hsock]
    exact aligned_line
  | cons chunk chunks ih =>
    obtain ⟨hchunk, hrest⟩ := List.forall_mem_cons.1 hchunks
    by_cases htext : LF ∈ text
    · -- the line is in the array
      left
      obtain ⟨before, behind, rfl, hbefore⟩ := List.eq_append_cons_of_mem htext
      obtain rfl : before = line := by
        rw [List.append_assoc, List.cons_append] at hstream
        have htake := congrArg (List.takeWhile (· != LF)) hstream
        rwa [takeWhile_of_not_mem hbefore, takeWhile_of_not_mem hline] at htake
      obtain ⟨s', hpoll, hsock', hholds⟩ := poll_of_mem h hline
      refine ⟨[], behind, s', by rw [hsock', hsock]; rfl, by simp, hpoll, hholds, ?_⟩
      rw [hsock', hsock]
      exact aligned_line
    · rw [aligned_cons, unfinished_of_not_mem htext]
      rcases poll_chunk h htext hchunk hsock with ⟨hlong, hpoll⟩ | ⟨s', hpoll, hsock', hholds⟩
      · right
        exact ⟨⟨_, hpoll⟩, fun hal => absurd hal.1 (Nat.not_lt.2 hlong)⟩
      · have hfits : text.length + chunk.length < ircBufLen := by
          have := length_lt_of_stored hholds.stored
          rw [List.length_append, hholds.inbuf_length] at this
          exact this
        rw [hpoll]
        rw [List.flatten_cons, ← List.append_assoc] at hstream
        rcases ih hholds hsock' hrest hstream with
          ⟨got, text', s'', hgot, hreceived, hpoll', hholds', hal⟩ | ⟨herr, hal⟩
        · left
          refine ⟨chunk :: got, text', s'', by rw [hgot, List.cons_append], ?_, hpoll', hholds', ?_⟩
          · rw [List.flatten_cons, ← List.append_assoc, hreceived]
          · rw [← hal]
            exact and_iff_right hfits
        · right
          exact ⟨herr, fun h => hal h.2⟩

end Calls

/-! ## All lines -/

/-- Between two calls, the string in the array is what has been received and not returned yet. -/
def Unread (chunks : List (List UInt8)) (returned : List CStr) (s : Client) : Prop :=
  ∃ got text, chunks = got ++ s.sock ∧ Stored 0 s.inbuf 0 text ∧
    got.flatten = unlines LF returned ++ text

/-- Calls return the lines in their order, and the array holds the rest after each of them. -/
def Reassembles (lines : List CStr) (chunks : List (List UInt8)) : Prop :=
  ∀ n ≤ lines.length, ∃ s, pollMany n (.start chunks) = .ok (lines.take n, s) ∧
    Unread chunks (lines.take n) s

section Lines

variable {s : Client} {text : CStr} {lines : List CStr} {chunks : List (List UInt8)}

theorem unlines_cons (l : CStr) (lines : List CStr) :
    unlines LF (l :: lines) = l ++ LF :: unlines LF lines := by
  simp [unlines]

theorem pollMany_of_error {e : RecvErrno} {n : ℕ} (h : poll s.inbuf s.ret s.sock = .error e) :
    pollMany (n + 1) s = .error e := by
  rw [pollMany, h]
  rfl

theorem pollMany_of_ok {line : CStr} {s' s'' : Client} {n : ℕ}
    (h : poll s.inbuf s.ret s.sock = .ok (line, s')) (h' : pollMany n s' = .ok (lines, s'')) :
    pollMany (n + 1) s = .ok (line :: lines, s'') := by
  rw [pollMany, h]
  show (pollMany n s' >>= _) = _
  rw [h']
  rfl

/-- When each chunk fits, the lines are returned. -/
theorem pollMany_eq (h : s.Holds text) (hsock : s.sock = chunks)
    (hchunks : ∀ c ∈ chunks, IsChunk c) (hlines : ∀ l ∈ lines, LF ∉ l)
    (hstream : text ++ chunks.flatten = unlines LF lines) (hal : Aligned text chunks) {n : ℕ}
    (hn : n ≤ lines.length) :
    ∃ s' got text', pollMany n s = .ok (lines.take n, s') ∧ chunks = got ++ s'.sock ∧
      Stored 0 s'.inbuf 0 text' ∧ text ++ got.flatten = unlines LF (lines.take n) ++ text' := by
  induction n generalizing s text lines chunks with
  | zero => exact ⟨s, [], text, rfl, hsock.symm, h.stored, by simp [unlines]⟩
  | succ n ih =>
    obtain ⟨line, lines, rfl⟩ := List.exists_cons_of_length_pos (Nat.lt_of_lt_of_le n.succ_pos hn)
    obtain ⟨hline, hrest⟩ := List.forall_mem_cons.1 hlines
    rw [unlines_cons] at hstream
    rcases poll_eq h hsock hchunks hstream hline with
      ⟨got, text', s', hgot, hreceived, hpoll, hholds, haligned⟩ | ⟨-, hnot⟩
    -- what is behind the line is the stream of the calls to come
    · rw [hgot, List.flatten_append, ← List.append_assoc, hreceived, List.append_assoc,
        List.cons_append] at hstream
      have hstream' : text' ++ s'.sock.flatten = unlines LF lines :=
        (List.cons.inj (List.append_cancel_left hstream)).2
      obtain ⟨s'', got', text'', hmany, hgot', hstored, hreceived'⟩ :=
        ih hholds rfl (fun c hc => hchunks c (by rw [hgot]; exact List.mem_append_right got hc))
          hrest hstream' (haligned.1 hal) (Nat.le_of_succ_le_succ hn)
      refine ⟨s'', got ++ got', text'', pollMany_of_ok hpoll hmany, ?_, hstored, ?_⟩
      · rw [List.append_assoc, ← hgot', hgot]
      · rw [List.flatten_append, ← List.append_assoc, hreceived, List.append_assoc,
          List.cons_append, hreceived', List.take_succ_cons, unlines_cons, List.append_assoc,
          List.cons_append]
    · exact absurd hal hnot

/-- When a chunk does not fit, the calls do not return all lines. -/
theorem pollMany_length_error (h : s.Holds text) (hsock : s.sock = chunks)
    (hchunks : ∀ c ∈ chunks, IsChunk c) (hlines : ∀ l ∈ lines, LF ∉ l)
    (hstream : text ++ chunks.flatten = unlines LF lines) (hnot : ¬ Aligned text chunks) :
    ∃ e, pollMany lines.length s = .error e := by
  induction lines generalizing s text chunks with
  | nil =>
    have hnil : text ++ chunks.flatten = [] := hstream
    cases chunks with
    | nil => exact absurd aligned_nil hnot
    | cons c chunks =>
      have hc := (hchunks c List.mem_cons_self).1
      have hlen := congrArg List.length hnil
      simp only [List.flatten_cons, List.length_append, List.length_nil] at hlen
      omega
  | cons line lines ih =>
    obtain ⟨hline, hrest⟩ := List.forall_mem_cons.1 hlines
    rw [unlines_cons] at hstream
    rcases poll_eq h hsock hchunks hstream hline with
      ⟨got, text', s', hgot, hreceived, hpoll, hholds, haligned⟩ | ⟨⟨e, he⟩, -⟩
    -- this call returns a line, so a later one must fail
    · rw [hgot, List.flatten_append, ← List.append_assoc, hreceived, List.append_assoc,
        List.cons_append] at hstream
      have hstream' : text' ++ s'.sock.flatten = unlines LF lines :=
        (List.cons.inj (List.append_cancel_left hstream)).2
      obtain ⟨e, he⟩ :=
        ih hholds rfl (fun c hc => hchunks c (by rw [hgot]; exact List.mem_append_right got hc))
          hrest hstream' (fun hal => hnot (haligned.2 hal))
      refine ⟨e, ?_⟩
      rw [List.length_cons, pollMany, hpoll]
      show (pollMany lines.length s' >>= _) = _
      rw [he]
      rfl
    · exact ⟨e, pollMany_of_error he⟩

theorem holds_start : (Client.start chunks).Holds [] where
  inbuf_length := List.length_replicate
  ret_length := List.length_replicate
  stored := ⟨List.not_mem_nil, List.replicate (ircBufLen - 1) 0, rfl⟩

/-- The lines are returned exactly when each chunk fits behind the unfinished line before it. -/
theorem reassembles_iff (hlines : ∀ l ∈ lines, LF ∉ l) (hchunks : ∀ c ∈ chunks, IsChunk c)
    (hstream : chunks.flatten = unlines LF lines) :
    Reassembles lines chunks ↔ Aligned [] chunks := by
  constructor
  · intro h
    by_contra hnot
    obtain ⟨e, he⟩ := pollMany_length_error holds_start rfl hchunks hlines hstream hnot
    obtain ⟨s, hs, -⟩ := h lines.length (Nat.le_refl _)
    cases he.symm.trans hs
  · intro hal n hn
    obtain ⟨s, got, text, hmany, hgot, hstored, hreceived⟩ :=
      pollMany_eq holds_start rfl hchunks hlines hstream hal hn
    exact ⟨s, hmany, got, text, hgot, hstored, hreceived⟩

end Lines

/-- A line in two chunks. -/
theorem reassembles_ok : Reassembles [cstr "OK"] [cstr "O", cstr "K\n"] := by
  have hchunks : ∀ c ∈ [cstr "O", cstr "K\n"], IsChunk c := by
    simp only [List.forall_mem_cons]
    exact ⟨⟨by decide, by decide, by decide⟩, ⟨by decide, by decide, by decide⟩, nofun⟩
  apply (reassembles_iff (by simp only [List.forall_mem_singleton]; decide) hchunks (by decide)).2
  rw [aligned_cons, aligned_cons]
  exact ⟨by decide, by decide, aligned_nil⟩

/-- One byte of a first line, and then a chunk of 511 bytes with the rest of two lines. -/
theorem not_forall_reassembles :
    ¬ ∀ lines chunks, (∀ l ∈ lines, l.length < 512 ∧ LF ∉ l ∧ 0 ∉ l) → (∀ c ∈ chunks, IsChunk c) →
      chunks.flatten = unlines LF lines → Reassembles lines chunks := by
  intro h
  -- the buffer has 511 bytes: one byte of a line and a full chunk are one too many
  let line : CStr := List.replicate 255 97
  let second : CStr := List.replicate 254 97 ++ (LF :: (line ++ [LF]))
  have hline : line.length < 512 ∧ LF ∉ line ∧ 0 ∉ line := by
    refine ⟨by rw [List.length_replicate]; decide, ?_, ?_⟩ <;>
      rw [List.mem_replicate] <;> exact fun hb => absurd hb.2 (by decide)
  have hlines : ∀ l ∈ [line, line], l.length < 512 ∧ LF ∉ l ∧ 0 ∉ l := by
    simp only [List.forall_mem_cons]
    exact ⟨hline, hline, nofun⟩
  have hlen : second.length = 511 := by
    simp only [second, line, List.length_append, List.length_cons, List.length_replicate,
      List.length_nil]
  have hsecond : IsChunk second := by
    refine ⟨by omega, by rw [hlen]; decide, ?_⟩
    simp only [second, line, List.mem_append, List.mem_cons, List.mem_replicate]
    decide
  have hchunks : ∀ c ∈ [[97], second], IsChunk c := by
    simp only [List.forall_mem_cons]
    exact ⟨⟨by decide, by decide, by decide⟩, hsecond, nofun⟩
  have hstream : [[97], second].flatten = unlines LF [line, line] := by
    rw [unlines_cons, unlines_cons]
    show [97] ++ (second ++ []) = _
    rw [List.append_nil, ← List.append_assoc, List.singleton_append]
    rfl
  have hnot : ¬ Aligned [] [[97], second] := by
    rw [aligned_cons, aligned_cons, hlen]
    exact fun hal => absurd hal.2.1 (by decide)
  obtain ⟨e, he⟩ :=
    pollMany_length_error holds_start rfl hchunks (fun l hl => (hlines l hl).2.1) hstream hnot
  obtain ⟨s, hs, -⟩ := h _ _ hlines hchunks hstream 2 (Nat.le_refl _)
  cases he.symm.trans hs

end Irccd.Ctl
