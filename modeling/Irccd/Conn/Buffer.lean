import Irccd.Conn.Msg
import Irccd.Foundations.Framing

/-!
# The input and output buffers of a connection (`conn.h`, `conn.c`)

`struct conn` holds two fixed arrays, `in` and `out`, each with the number of bytes in use. They
are kept here as arrays of their full size, moved and overwritten as the source does. The lemmas
say what the operations do to the bytes in use (`InBuf.contents`, `OutBuf.contents`), which is all
that the rest of the development looks at.
-/

namespace Irccd

open Framing

/-- `CONN_IN_SIZE` -/
def connInSize : ℕ := 8096

/-- `CONN_OUT_SIZE` -/
def connOutSize : ℕ := 65536

def ENOBUFS : ℤ := 105

def ENOTCONN : ℤ := 107

/-! ## Arrays -/

/-- `memcpy (&dst[pos], src, n)` -/
def memcpyAt (dst : List UInt8) (pos : ℕ) (src : List UInt8) : List UInt8 :=
  dst.take pos ++ src ++ dst.drop (pos + src.length)

/-- `memmove (buf, buf + n, size - n)` on an array of `size` bytes: the last `n` bytes stay. -/
def memmoveDown (buf : List UInt8) (n : ℕ) : List UInt8 :=
  buf.drop n ++ buf.drop (buf.length - n)

theorem length_memcpyAt {dst src : List UInt8} {pos : ℕ} (h : pos + src.length ≤ dst.length) :
    (memcpyAt dst pos src).length = dst.length := by
  simp only [memcpyAt, List.length_append, List.length_take, List.length_drop]
  omega

theorem take_memcpyAt {dst src : List UInt8} {pos : ℕ} (h : pos ≤ dst.length) :
    (memcpyAt dst pos src).take (pos + src.length) = dst.take pos ++ src := by
  rw [memcpyAt, List.take_left']
  simp only [List.length_append, List.length_take]
  omega

theorem length_memmoveDown {buf : List UInt8} {n : ℕ} (h : n ≤ buf.length) :
    (memmoveDown buf n).length = buf.length := by
  simp only [memmoveDown, List.length_append, List.length_drop]
  omega

theorem take_memmoveDown {buf : List UInt8} {n size : ℕ} (h : size ≤ buf.length) :
    (memmoveDown buf n).take (size - n) = (buf.take size).drop n := by
  rw [memmoveDown, List.drop_take, List.take_append_of_le_length]
  rw [List.length_drop]
  omega

/-! ## The input buffer -/

/-- `in` and `insz` -/
structure InBuf where
  bytes : List UInt8
  insz : ℕ
  length_bytes : bytes.length = connInSize
  insz_le : insz ≤ connInSize

namespace InBuf

/-- The received bytes that are not consumed yet, `in[0 .. insz)`. -/
def contents (b : InBuf) : List UInt8 := b.bytes.take b.insz

/-- The buffer of a freshly allocated connection. -/
def zero : InBuf := ⟨List.replicate connInSize 0, 0, List.length_replicate, Nat.zero_le _⟩

/-- The room left, the size that `conn_recv` gives to `recv`. -/
def limit (b : InBuf) : ℕ := connInSize - b.insz

/-- The bytes in use grow by what `recv` stored after them. It stores no more than `limit`. -/
def store (b : InBuf) (data : List UInt8) : InBuf where
  bytes := memcpyAt b.bytes b.insz (data.take b.limit)
  insz := b.insz + (data.take b.limit).length
  length_bytes := by
    have := b.insz_le
    rw [length_memcpyAt, b.length_bytes]
    rw [b.length_bytes, List.length_take, limit]
    omega
  insz_le := by
    have := b.insz_le
    rw [List.length_take, limit]
    omega

/-- Remove the first `n` bytes. -/
def shift (b : InBuf) (n : ℕ) : InBuf where
  bytes := if n ≤ connInSize then memmoveDown b.bytes n else b.bytes
  insz := b.insz - n
  length_bytes := by
    split
    · rename_i h
      rw [length_memmoveDown (by rwa [b.length_bytes]), b.length_bytes]
    · exact b.length_bytes
  insz_le := Nat.le_trans (Nat.sub_le _ _) b.insz_le

/-- The pseudo message that `conn_ready` leaves in the buffer when the connection is lost. -/
def internalLine : CStr := cstr ":internal 000\r\n"

/-- `insz = snprintf (in, sizeof (in), ":internal 000\r\n")`, which also writes a NUL. -/
def inject (b : InBuf) : InBuf where
  bytes := memcpyAt b.bytes 0 (internalLine ++ [0])
  insz := internalLine.length
  length_bytes := by
    rw [length_memcpyAt, b.length_bytes]
    rw [b.length_bytes]
    decide +kernel
  insz_le := by decide +kernel

/-- `memmem (in, insz, "\r\n", 2)`, as an offset. -/
def findLine (b : InBuf) : Option ℕ := findPair isCR isLF b.contents

@[simp] theorem length_contents (b : InBuf) : b.contents.length = b.insz := by
  have := b.insz_le
  rw [contents, List.length_take, b.length_bytes]
  omega

@[simp] theorem contents_zero : zero.contents = [] := List.take_zero

@[simp] theorem contents_store (b : InBuf) (data : List UInt8) :
    (b.store data).contents = b.contents ++ data.take b.limit := by
  exact take_memcpyAt (by rw [b.length_bytes]; exact b.insz_le)

theorem contents_shift {b : InBuf} {n : ℕ} (h : n ≤ b.insz) :
    (b.shift n).contents = b.contents.drop n := by
  -- `memmove` moves the whole array, of which only the first `insz - n` bytes count
  have hn : n ≤ connInSize := Nat.le_trans h b.insz_le
  simp only [contents, shift, if_pos hn]
  exact take_memmoveDown (by rw [b.length_bytes]; exact b.insz_le)

@[simp] theorem contents_inject (b : InBuf) : b.inject.contents = internalLine := by
  have h : (memcpyAt b.bytes 0 (internalLine ++ [0])).take internalLine.length =
      internalLine := by
    rw [memcpyAt, List.take_zero, List.nil_append, List.append_assoc, List.take_left']
    rfl
  exact h

theorem findLine_lt {b : InBuf} {n : ℕ} (h : b.findLine = some n) : n + 2 ≤ b.insz := by
  have := findPair_lt h
  rwa [length_contents] at this

end InBuf

/-! ## The output buffer -/

/-- `out` and `outsz`. The size never reaches `CONN_OUT_SIZE`, so `sizeof (out) - outsz` does not
wrap around. -/
structure OutBuf where
  bytes : List UInt8
  outsz : ℕ
  length_bytes : bytes.length = connOutSize
  outsz_lt : outsz < connOutSize

namespace OutBuf

/-- The bytes to be sent, `out[0 .. outsz)`. -/
def contents (b : OutBuf) : List UInt8 := b.bytes.take b.outsz

/-- The buffer of a freshly allocated connection. -/
def zero : OutBuf :=
  ⟨List.replicate connOutSize 0, 0, List.length_replicate, by decide⟩

/-- There is room for the data and its line end. -/
def Fits (b : OutBuf) (data : CStr) : Prop := data.length + 2 < connOutSize - b.outsz

instance (b : OutBuf) (data : CStr) : Decidable (b.Fits data) :=
  inferInstanceAs (Decidable (_ < _))

/-- Put the data and a line end after the bytes in use. -/
def append (b : OutBuf) (data : CStr) (h : b.Fits data) : OutBuf where
  bytes := memcpyAt (memcpyAt b.bytes b.outsz data) (b.outsz + data.length) crlf
  outsz := b.outsz + data.length + 2
  length_bytes := by
    unfold Fits at h
    have hlen := b.length_bytes
    have hdata : (memcpyAt b.bytes b.outsz data).length = connOutSize := by
      rw [length_memcpyAt (by omega), hlen]
    rw [length_memcpyAt, hdata]
    rw [hdata, crlf, List.length_cons, List.length_singleton]
    omega
  outsz_lt := by unfold Fits at h; omega

/-- Remove the first `ns` bytes, which the transport accepted (`conn_send`). -/
def drain (b : OutBuf) (ns : ℕ) : OutBuf where
  bytes := if b.outsz ≤ ns then List.replicate connOutSize 0 else memmoveDown b.bytes ns
  outsz := if b.outsz ≤ ns then 0 else b.outsz - ns
  length_bytes := by
    split
    · exact List.length_replicate
    · have := b.outsz_lt
      rw [length_memmoveDown (by rw [b.length_bytes]; omega), b.length_bytes]
  outsz_lt := by
    have := b.outsz_lt
    split <;> omega

@[simp] theorem length_contents (b : OutBuf) : b.contents.length = b.outsz := by
  have := b.outsz_lt
  rw [contents, List.length_take, b.length_bytes]
  omega

@[simp] theorem contents_zero : zero.contents = [] := List.take_zero

theorem contents_eq_nil_iff {b : OutBuf} : b.contents = [] ↔ b.outsz = 0 := by
  rw [← List.length_eq_zero_iff, length_contents]

@[simp] theorem contents_append (b : OutBuf) (data : CStr) (h : b.Fits data) :
    (b.append data h).contents = b.contents ++ data ++ crlf := by
  have hsize := b.outsz_lt
  have hlen := b.length_bytes
  unfold Fits at h
  have hdata : (memcpyAt b.bytes b.outsz data).length = connOutSize := by
    rw [length_memcpyAt (by omega), hlen]
  calc (b.append data h).contents
      = (memcpyAt (memcpyAt b.bytes b.outsz data) (b.outsz + data.length) crlf).take
          (b.outsz + data.length + crlf.length) := rfl
    _ = (memcpyAt b.bytes b.outsz data).take (b.outsz + data.length) ++ crlf :=
        take_memcpyAt (by omega)
    _ = b.contents ++ data ++ crlf := by rw [take_memcpyAt (by omega)]; rfl

@[simp] theorem contents_drain (b : OutBuf) (ns : ℕ) :
    (b.drain ns).contents = b.contents.drop ns := by
  have hsize := b.outsz_lt
  have hlen := b.length_bytes
  by_cases h : b.outsz ≤ ns
  · rw [List.drop_eq_nil_of_le (by rwa [length_contents])]
    simp [contents, drain, h]
  · simp only [contents, drain, if_neg h]
    exact take_memmoveDown (by omega)

end OutBuf

end Irccd
