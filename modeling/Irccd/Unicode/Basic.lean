import Irccd.Fault
import Irccd.Foundations.Writers
import Mathlib.Tactic.IntervalCases

/-!
# UTF-8 and UTF-32 (`unicode.c`)

The functions that convert between sequences of bytes and of code points. A pointer to read from is
what is left of its array, a pointer to write to is a `Cursor`.

* `uni8Encode`, `uni8Decode`: a code point and its bytes;
* `uni8Length`, `uni8To32`, `uni32To8`: the loops on a whole string.
-/

namespace Irccd

open Writers (Cursor)

/-- The codes of `errno` that the functions set. -/
inductive UniErrno
  | eilseq
  | erange
  deriving DecidableEq

/-- Why a function has no result. -/
inductive UniStop
  /-- It returns `(size_t)-1`. -/
  | errno (er : UniErrno)
  /-- It reads behind the end of an array. -/
  | readPast
  /-- It writes behind the end of an array. -/
  | writePast
  deriving DecidableEq

/-- `src[i]` -/
def readAt {α : Type} (src : List α) (i : ℕ) : Except UniStop α :=
  match src[i]? with
  | some a => .ok a
  | none => .error .readPast

/-- Write to the cells at the cursor. -/
def storeAt {α : Type} (dst : Cursor α) (cells : List α) : Except UniStop (Cursor α) :=
  match dst.store cells with
  | some dst => .ok dst
  | none => .error .writePast

/-- Cells for which there is space are written. -/
theorem exists_storeAt {α : Type} {dst : Cursor α} {cells : List α} (hfits : dst.Fits)
    (hlen : cells.length ≤ dst.left) :
    ∃ dst', storeAt dst cells = .ok dst' ∧ dst.Wrote cells (dst'.advance cells.length) := by
  obtain ⟨dst', hdst'⟩ := Cursor.exists_store hfits hlen
  exact ⟨dst', by rw [storeAt, hdst'], Cursor.Wrote.of_store hdst' hlen⟩

/-! ## Code points -/

/-- `uni32_sizeof` -/
def uni32Sizeof (c : BitVec 32) : Except UniStop ℕ :=
  if c ≤ 0x7F then .ok 1
  else if c ≤ 0x7FF then .ok 2
  else if c ≤ 0xFFFF then .ok 3
  else if c ≤ 0x1FFFFF then .ok 4
  else .error (.errno .eilseq)

/-- `uni8_sizeof` -/
def uni8Sizeof (c : UInt8) : Except UniStop ℕ :=
  if c ≤ 127 then .ok 1
  else if c &&& 0xE0 = 0xC0 then .ok 2
  else if c &&& 0xF0 = 0xE0 then .ok 3
  else if c &&& 0xF8 = 0xF0 then .ok 4
  else .error (.errno .eilseq)

/-- `(uint8_t)(mark | ((point >> shift) & mask))` -/
def packByte (mark : BitVec 8) (point : BitVec 32) (shift : ℕ) (mask : BitVec 8) : UInt8 :=
  ⟨mark ||| ((point >>> shift).setWidth 8 &&& mask)⟩

/-- The bytes that `uni8_encode` writes for a code point of so many bytes. -/
def uni8Bytes (point : BitVec 32) : ℕ → List UInt8
  | 1 => [⟨point.setWidth 8⟩]
  | 2 => [packByte 0xC0 point 6 0x1F, packByte 0x80 point 0 0x3F]
  | 3 => [packByte 0xE0 point 12 0xF, packByte 0x80 point 6 0x3F, packByte 0x80 point 0 0x3F]
  | 4 =>
    [packByte 0xF0 point 18 0x7, packByte 0x80 point 12 0x3F, packByte 0x80 point 6 0x3F,
      packByte 0x80 point 0 0x3F]
  | _ => []

/-- `uni8_encode`: the size of the code point, and the array. -/
def uni8Encode (dst : Cursor UInt8) (point : BitVec 32) : Except UniStop (ℕ × Cursor UInt8) := do
  let written ← uni32Sizeof point
  if dst.left < written then throw (.errno .erange)
  let dst ← storeAt dst (uni8Bytes point written)
  return (written, dst)

/-- `(c & mask) << shift` -/
def unpackByte (c : UInt8) (mask : BitVec 32) (shift : ℕ) : BitVec 32 :=
  (c.toBitVec.setWidth 32 &&& mask) <<< shift

/-- The byte `src[i]` of a sequence, which is not the terminator. -/
def readTail (src : List UInt8) (i : ℕ) : Except UniStop UInt8 := do
  let c ← readAt src i
  if c = 0 then throw (.errno .eilseq)
  return c

/-- `uni8_decode`: the code point and its size. The first bits of a code point of four bytes are
shifted by 16. -/
def uni8Decode (src : List UInt8) : Except UniStop (BitVec 32 × ℕ) := do
  let c ← readAt src 0
  let parsed ← uni8Sizeof c
  match parsed with
  | 1 => return (c.toBitVec.setWidth 32, 1)
  | 2 =>
    let d ← readTail src 1
    return (unpackByte c 0x1f 6 ||| unpackByte d 0x3f 0, 2)
  | 3 =>
    let d ← readTail src 1
    let e ← readTail src 2
    return (unpackByte c 0x0f 12 ||| unpackByte d 0x3f 6 ||| unpackByte e 0x3f 0, 3)
  | _ =>
    let d ← readTail src 1
    let e ← readTail src 2
    let f ← readTail src 3
    return (unpackByte c 0x07 16 ||| unpackByte d 0x3f 12 ||| unpackByte e 0x3f 6 |||
      unpackByte f 0x3f 0, 4)

section Decode

variable {c d e f : UInt8} {n : ℕ} {tail behind : List UInt8}

theorem uni8Sizeof_pos (h : uni8Sizeof c = .ok n) : 1 ≤ n := by
  unfold uni8Sizeof at h
  split_ifs at h <;> cases h <;> decide

theorem uni8Sizeof_le (h : uni8Sizeof c = .ok n) : n ≤ 4 := by
  unfold uni8Sizeof at h
  split_ifs at h <;> cases h <;> decide

theorem uni8Sizeof_error {e : UniStop} (h : uni8Sizeof c = .error e) : e = .errno .eilseq := by
  unfold uni8Sizeof at h
  split_ifs at h
  cases h
  rfl

@[simp] theorem readTail_zero (d : UInt8) (s : List UInt8) :
    readTail (d :: s) 0 = if d = 0 then .error (.errno .eilseq) else .ok d := rfl

@[simp] theorem readTail_succ (d : UInt8) (s : List UInt8) (i : ℕ) :
    readTail (d :: s) (i + 1) = readTail s i := rfl

theorem uni8Decode_error {e : UniStop} (h : uni8Sizeof c = .error e) :
    uni8Decode (c :: behind) = .error e := by
  simp only [uni8Decode, readAt, List.getElem?_cons_zero, h, ok_bind, error_bind]

theorem uni8Decode_one (h : uni8Sizeof c = .ok 1) :
    uni8Decode (c :: behind) = .ok (c.toBitVec.setWidth 32, 1) := by
  simp only [uni8Decode, readAt, List.getElem?_cons_zero, h, ok_bind]
  rfl

theorem uni8Decode_two (h : uni8Sizeof c = .ok 2) (hd : d ≠ 0) :
    uni8Decode (c :: d :: behind) = .ok (unpackByte c 0x1f 6 ||| unpackByte d 0x3f 0, 2) := by
  simp only [uni8Decode, readAt, List.getElem?_cons_zero, h, ok_bind, readTail_succ,
    readTail_zero, if_neg hd]
  rfl

theorem uni8Decode_three (h : uni8Sizeof c = .ok 3) (hd : d ≠ 0) (he : e ≠ 0) :
    uni8Decode (c :: d :: e :: behind) =
      .ok (unpackByte c 0x0f 12 ||| unpackByte d 0x3f 6 ||| unpackByte e 0x3f 0, 3) := by
  simp only [uni8Decode, readAt, List.getElem?_cons_zero, h, ok_bind, readTail_succ,
    readTail_zero, if_neg hd, if_neg he]
  rfl

theorem uni8Decode_four (h : uni8Sizeof c = .ok 4) (hd : d ≠ 0) (he : e ≠ 0) (hf : f ≠ 0) :
    uni8Decode (c :: d :: e :: f :: behind) =
      .ok (unpackByte c 0x07 16 ||| unpackByte d 0x3f 12 ||| unpackByte e 0x3f 6 |||
        unpackByte f 0x3f 0, 4) := by
  simp only [uni8Decode, readAt, List.getElem?_cons_zero, h, ok_bind, readTail_succ,
    readTail_zero, if_neg hd, if_neg he, if_neg hf]
  rfl

/-- A whole sequence is decoded, whatever stands behind it. -/
theorem exists_uni8Decode (h : uni8Sizeof c = .ok n) (htail : ∀ b ∈ tail, b ≠ 0)
    (hlen : n = tail.length + 1) :
    ∃ point, uni8Decode (c :: (tail ++ behind)) = .ok (point, n) := by
  have hle := uni8Sizeof_le h
  rcases tail with _ | ⟨d, _ | ⟨e, _ | ⟨f, _ | ⟨g, tail⟩⟩⟩⟩
  · subst hlen
    exact ⟨_, uni8Decode_one h⟩
  · subst hlen
    exact ⟨_, uni8Decode_two h (htail d (by simp))⟩
  · subst hlen
    exact ⟨_, uni8Decode_three h (htail d (by simp)) (htail e (by simp))⟩
  · subst hlen
    exact ⟨_, uni8Decode_four h (htail d (by simp)) (htail e (by simp)) (htail f (by simp))⟩
  · simp only [List.length_cons] at hlen
    omega

/-- A sequence that the terminator cuts short. -/
theorem uni8Decode_cut (h : uni8Sizeof c = .ok n) (htail : ∀ b ∈ tail, b ≠ 0)
    (hlen : tail.length + 1 < n) :
    uni8Decode (c :: (tail ++ 0 :: behind)) = .error (.errno .eilseq) := by
  have hle := uni8Sizeof_le h
  simp only [uni8Decode, readAt, List.getElem?_cons_zero, h, ok_bind]
  rcases tail with _ | ⟨d, _ | ⟨e, _ | ⟨f, tail⟩⟩⟩
  · interval_cases n <;> simp at hlen ⊢
  · have hd := htail d (by simp)
    interval_cases n <;> simp [hd] at hlen ⊢
  · have hd := htail d (by simp)
    have he := htail e (by simp)
    interval_cases n <;> simp [hd, he] at hlen ⊢
  · simp only [List.length_cons] at hlen
    omega

/-- What is decoded is as long as the first byte announces. -/
theorem uni8Decode_ok {src : List UInt8} {point : BitVec 32} (h : uni8Decode src = .ok (point, n)) :
    ∃ c, src.head? = some c ∧ uni8Sizeof c = .ok n := by
  obtain ⟨c, hc, h⟩ := bind_eq_ok_iff.1 h
  obtain ⟨parsed, hparsed, h⟩ := bind_eq_ok_iff.1 h
  have hsrc : src.head? = some c := by
    cases src with
    | nil => cases hc
    | cons d rest =>
      cases hc
      rfl
  refine ⟨c, hsrc, ?_⟩
  rw [hparsed]
  congr 1
  have hpos := uni8Sizeof_pos hparsed
  have hle := uni8Sizeof_le hparsed
  -- each branch returns the size that it was chosen by
  interval_cases parsed
  · cases h
    rfl
  · obtain ⟨d, -, h⟩ := bind_eq_ok_iff.1 h
    cases h
    rfl
  · obtain ⟨d, -, h⟩ := bind_eq_ok_iff.1 h
    obtain ⟨e, -, h⟩ := bind_eq_ok_iff.1 h
    cases h
    rfl
  · obtain ⟨d, -, h⟩ := bind_eq_ok_iff.1 h
    obtain ⟨e, -, h⟩ := bind_eq_ok_iff.1 h
    obtain ⟨f, -, h⟩ := bind_eq_ok_iff.1 h
    cases h
    rfl

theorem uni8Decode_pos {src : List UInt8} {point : BitVec 32}
    (h : uni8Decode src = .ok (point, n)) : 1 ≤ n := by
  obtain ⟨c, -, hc⟩ := uni8Decode_ok h
  exact uni8Sizeof_pos hc

end Decode

/-! ## Strings -/

/-- The loop of `uni8_length`. -/
def uni8LengthLoop (src : List UInt8) (total : ℕ) : Except UniStop ℕ :=
  match src with
  | [] => .error .readPast
  | c :: rest =>
    if c = 0 then .ok total
    else
      match h : uni8Sizeof c with
      | .error e => .error e
      | .ok gap =>
        have : 0 < gap := uni8Sizeof_pos h
        uni8LengthLoop ((c :: rest).drop gap) (total + gap)
termination_by src.length
decreasing_by
  rw [List.length_drop, List.length_cons]
  omega

/-- `uni8_length` -/
def uni8Length (src : List UInt8) : Except UniStop ℕ := uni8LengthLoop src 0

/-- The loop of `uni8_to32`. -/
def uni8To32Loop (src : List UInt8) (dst : Cursor (BitVec 32)) (nwritten : ℕ) :
    Except UniStop (ℕ × Cursor (BitVec 32)) :=
  match src with
  | [] => .error .readPast
  | c :: rest =>
    if c = 0 ∨ dst.left = 0 then .ok (nwritten, dst)
    else
      match h : uni8Decode (c :: rest) with
      | .error e => .error e
      | .ok (point, gap) => do
        let dst ← storeAt dst [point]
        uni8To32Loop ((c :: rest).drop gap) (dst.advance 1) (nwritten + 1)
termination_by src.length
decreasing_by
  have := uni8Decode_pos h
  rw [List.length_drop, List.length_cons]
  omega

/-- `uni8_to32` -/
def uni8To32 (src : List UInt8) (dst : Cursor (BitVec 32)) :
    Except UniStop (ℕ × Cursor (BitVec 32)) := do
  let (nwritten, dst) ← uni8To32Loop src dst 0
  -- no more space to store the terminator
  if dst.left = 0 then throw (.errno .erange)
  let dst ← storeAt dst [0]
  return (nwritten, dst)

/-- The loop of `uni32_to8`. -/
def uni32To8Loop (src : List (BitVec 32)) (dst : Cursor UInt8) (nwritten : ℕ) :
    Except UniStop (ℕ × Cursor UInt8) :=
  match src with
  | [] => .error .readPast
  | point :: rest =>
    if point = 0 ∨ dst.left = 0 then .ok (nwritten, dst)
    else do
      let (gap, dst) ← uni8Encode dst point
      uni32To8Loop rest (dst.advance gap) (nwritten + gap)

/-- `uni32_to8` -/
def uni32To8 (src : List (BitVec 32)) (dst : Cursor UInt8) :
    Except UniStop (ℕ × Cursor UInt8) := do
  let (nwritten, dst) ← uni32To8Loop src dst 0
  if dst.left = 0 then throw (.errno .erange)
  let dst ← storeAt dst [0]
  return (nwritten, dst)

section Loops

variable {c : UInt8} {n : ℕ} {rest : List UInt8}

theorem uni8LengthLoop_error {e : UniStop} (hc : c ≠ 0) (h : uni8Sizeof c = .error e) (total : ℕ) :
    uni8LengthLoop (c :: rest) total = .error e := by
  rw [uni8LengthLoop, if_neg hc]
  split
  · rename_i herr
    exact herr.symm.trans h
  · rename_i hok
    cases h.symm.trans hok

theorem uni8LengthLoop_step (hc : c ≠ 0) (h : uni8Sizeof c = .ok n) (total : ℕ) :
    uni8LengthLoop (c :: rest) total = uni8LengthLoop ((c :: rest).drop n) (total + n) := by
  rw [uni8LengthLoop, if_neg hc]
  split
  · rename_i herr
    cases h.symm.trans herr
  · rename_i hok
    cases h.symm.trans hok
    rfl

variable {dst : Cursor (BitVec 32)}

theorem uni8To32Loop_error {e : UniStop} (hc : c ≠ 0) (hleft : dst.left ≠ 0)
    (h : uni8Decode (c :: rest) = .error e) (nwritten : ℕ) :
    uni8To32Loop (c :: rest) dst nwritten = .error e := by
  rw [uni8To32Loop, if_neg (not_or.2 ⟨hc, hleft⟩)]
  split
  · rename_i herr
    cases herr.symm.trans h
    rfl
  · rename_i hok
    cases h.symm.trans hok

theorem uni8To32Loop_step {point : BitVec 32} (hc : c ≠ 0) (hleft : dst.left ≠ 0)
    (h : uni8Decode (c :: rest) = .ok (point, n)) (nwritten : ℕ) :
    uni8To32Loop (c :: rest) dst nwritten = (storeAt dst [point] >>= fun dst =>
      uni8To32Loop ((c :: rest).drop n) (dst.advance 1) (nwritten + 1)) := by
  rw [uni8To32Loop, if_neg (not_or.2 ⟨hc, hleft⟩)]
  split
  · rename_i herr
    cases h.symm.trans herr
  · rename_i hok
    cases h.symm.trans hok
    rfl

theorem uni8LengthLoop_zero (behind : List UInt8) (total : ℕ) :
    uni8LengthLoop (0 :: behind) total = .ok total := by
  rw [uni8LengthLoop, if_pos rfl]

theorem uni8To32Loop_zero (behind : List UInt8) (dst : Cursor (BitVec 32)) (nwritten : ℕ) :
    uni8To32Loop (0 :: behind) dst nwritten = .ok (nwritten, dst) := by
  rw [uni8To32Loop, if_pos (.inl rfl)]

theorem uni8To32Loop_full (hleft : dst.left = 0) (nwritten : ℕ) :
    uni8To32Loop (c :: rest) dst nwritten = .ok (nwritten, dst) := by
  rw [uni8To32Loop, if_pos (.inr hleft)]

theorem uni32To8Loop_stop {p : BitVec 32} {dst : Cursor UInt8} (h : p = 0 ∨ dst.left = 0)
    (ps : List (BitVec 32)) (nwritten : ℕ) :
    uni32To8Loop (p :: ps) dst nwritten = .ok (nwritten, dst) := by
  rw [uni32To8Loop, if_pos h]

theorem uni32To8Loop_step {p : BitVec 32} {dst : Cursor UInt8} (hp : p ≠ 0) (hleft : dst.left ≠ 0)
    (ps : List (BitVec 32)) (nwritten : ℕ) :
    uni32To8Loop (p :: ps) dst nwritten = (uni8Encode dst p >>= fun r =>
      uni32To8Loop ps (r.2.advance r.1) (nwritten + r.1)) := by
  rw [uni32To8Loop, if_neg (not_or.2 ⟨hp, hleft⟩)]

end Loops

end Irccd
