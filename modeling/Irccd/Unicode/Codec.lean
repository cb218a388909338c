import Irccd.Foundations.Bits
import Irccd.Unicode.Basic

/-!
# Encoding and decoding code points

What `uni8_encode` writes for a code point, `uni8_decode` reads. The highest bits of a code point of
four bytes are written from bit 18 on, and read back from bit 16 on.

* `encoded`: the bytes of a code point;
* `reread`: what is read back, `reread_eq_self_iff`: when it is the same;
* `uni32To8_eq`, `uni8To32_encoded`: the same for a sequence;
* `codec_roundTrips_iff`: the round trips.
-/

namespace Irccd

open Bits
open Writers (Cursor)

/-! ## One code point -/

/-- The bytes of a code point. -/
def encoded (p : BitVec 32) : List UInt8 :=
  match uni32Sizeof p with
  | .ok n => uni8Bytes p n
  | .error _ => []

/-- What is read back of a code point. -/
def reread (p : BitVec 32) : BitVec 32 :=
  if p ≤ 0xFFFF then p else (p >>> 18 &&& lowBits 32 3) <<< 16 ||| (p &&& lowBits 32 18)

/-- A code point for which there is an encoding. -/
def ValidPoint (p : BitVec 32) : Prop := 1 ≤ p ∧ p ≤ 0x1FFFFF

instance : DecidablePred ValidPoint := fun _ => inferInstanceAs (Decidable (_ ∧ _))

theorem uni8Sizeof_two (p : BitVec 32) (shift : ℕ) :
    uni8Sizeof (packByte 0xC0 p shift 0x1F) = .ok 2 := by
  have h : ∀ x : BitVec 8, uni8Sizeof ⟨0xC0 ||| (x &&& 0x1F)⟩ = .ok 2 := by decide
  exact h _

theorem uni8Sizeof_three (p : BitVec 32) (shift : ℕ) :
    uni8Sizeof (packByte 0xE0 p shift 0xF) = .ok 3 := by
  have h : ∀ x : BitVec 8, uni8Sizeof ⟨0xE0 ||| (x &&& 0xF)⟩ = .ok 3 := by decide
  exact h _

theorem uni8Sizeof_four (p : BitVec 32) (shift : ℕ) :
    uni8Sizeof (packByte 0xF0 p shift 0x7) = .ok 4 := by
  have h : ∀ x : BitVec 8, uni8Sizeof ⟨0xF0 ||| (x &&& 0x7)⟩ = .ok 4 := by decide
  exact h _

theorem packByte_tail_ne_zero (p : BitVec 32) (shift : ℕ) : packByte 0x80 p shift 0x3F ≠ 0 := by
  have h : ∀ x : BitVec 8, (⟨0x80 ||| (x &&& 0x3F)⟩ : UInt8) ≠ 0 := by decide
  exact h _

theorem uni8Sizeof_one {p : BitVec 32} (h : p ≤ 0x7F) : uni8Sizeof ⟨p.setWidth 8⟩ = .ok 1 := by
  have hle : (⟨p.setWidth 8⟩ : UInt8) ≤ 127 := by
    rw [UInt8.le_iff_toNat_le]
    show p.toNat % 2 ^ 8 ≤ 127
    have := BitVec.le_def.1 h
    have h7F : (0x7F : BitVec 32).toNat = 127 := rfl
    omega
  rw [uni8Sizeof, if_pos hle]

/-- The number of bytes of a code point, and what it means for the point. -/
theorem uni32Sizeof_cases {p : BitVec 32} (hp : p ≤ 0x1FFFFF) :
    (uni32Sizeof p = .ok 1 ∧ p ≤ 0x7F) ∨ (uni32Sizeof p = .ok 2 ∧ p ≤ 0x7FF) ∨
      (uni32Sizeof p = .ok 3 ∧ p ≤ 0xFFFF) ∨ (uni32Sizeof p = .ok 4 ∧ ¬ p ≤ 0xFFFF) := by
  unfold uni32Sizeof
  split_ifs with h1 h2 h3
  · exact .inl ⟨rfl, h1⟩
  · exact .inr (.inl ⟨rfl, h2⟩)
  · exact .inr (.inr (.inl ⟨rfl, h3⟩))
  · exact .inr (.inr (.inr ⟨rfl, h3⟩))

theorem toNat_lt_of_le {p m : BitVec 32} {k : ℕ} (h : p ≤ m) (hm : m.toNat < 2 ^ k) :
    p.toNat < 2 ^ k :=
  Nat.lt_of_le_of_lt (BitVec.le_def.1 h) hm

theorem unpackByte_packByte {mark mask : BitVec 8} (h : mark &&& mask = 0) (point : BitVec 32)
    (shift k : ℕ) :
    unpackByte (packByte mark point shift mask) (mask.setWidth 32) k =
      (point >>> shift &&& mask.setWidth 32) <<< k := by
  rw [unpackByte, packByte]
  exact congrArg (fun b : BitVec 32 => b <<< k) (setWidth_mark_or_and h (point >>> shift))

theorem unpackByte_tail (p : BitVec 32) (shift k : ℕ) :
    unpackByte (packByte 0x80 p shift 0x3F) 0x3f k = (p >>> shift &&& lowBits 32 6) <<< k :=
  @unpackByte_packByte 0x80 0x3F (by decide) p shift k

theorem unpackByte_two (p : BitVec 32) (shift k : ℕ) :
    unpackByte (packByte 0xC0 p shift 0x1F) 0x1f k = (p >>> shift &&& lowBits 32 5) <<< k :=
  @unpackByte_packByte 0xC0 0x1F (by decide) p shift k

theorem unpackByte_three (p : BitVec 32) (shift k : ℕ) :
    unpackByte (packByte 0xE0 p shift 0xF) 0x0f k = (p >>> shift &&& lowBits 32 4) <<< k :=
  @unpackByte_packByte 0xE0 0xF (by decide) p shift k

theorem unpackByte_four (p : BitVec 32) (shift k : ℕ) :
    unpackByte (packByte 0xF0 p shift 0x7) 0x07 k = (p >>> shift &&& lowBits 32 3) <<< k :=
  @unpackByte_packByte 0xF0 0x7 (by decide) p shift k

/-- The bytes of a code point are decoded, whatever stands behind them. -/
theorem uni8Decode_encoded {p : BitVec 32} (hp : p ≤ 0x1FFFFF) (behind : List UInt8) :
    uni8Decode (encoded p ++ behind) = .ok (reread p, (encoded p).length) := by
  have htail := packByte_tail_ne_zero p
  -- by the number of bytes; each tail byte gives six bits back
  rcases uni32Sizeof_cases hp with ⟨hsize, hle⟩ | ⟨hsize, hle⟩ | ⟨hsize, hle⟩ | ⟨hsize, hle⟩
  · have hsame : (p.setWidth 8).setWidth 32 = p := by
      apply BitVec.eq_of_toNat_eq
      have hlt := toNat_lt_of_le hle (k := 7) (by decide)
      rw [BitVec.toNat_setWidth, BitVec.toNat_setWidth]
      omega
    have hFFFF : p ≤ 0xFFFF := BitVec.le_trans hle (by decide)
    rw [encoded, hsize, reread, if_pos hFFFF]
    show uni8Decode (_ :: _) = _
    rw [uni8Decode_one (uni8Sizeof_one hle)]
    exact congrArg (fun q => Except.ok (q, 1)) hsame
  · have hFFFF : p ≤ 0xFFFF := BitVec.le_trans hle (by decide)
    rw [encoded, hsize, reread, if_pos hFFFF]
    show uni8Decode (_ :: _ :: _) = _
    rw [uni8Decode_two (uni8Sizeof_two p 6) (htail 0), unpackByte_two, unpackByte_tail,
      BitVec.ushiftRight_zero, BitVec.shiftLeft_zero, shiftLeft_or_lowBits,
      and_lowBits_eq_self (toNat_lt_of_le hle (by decide))]
    rfl
  · rw [encoded, hsize, reread, if_pos hle]
    show uni8Decode (_ :: _ :: _ :: _) = _
    rw [uni8Decode_three (uni8Sizeof_three p 12) (htail 6) (htail 0), unpackByte_three,
      unpackByte_tail, unpackByte_tail, BitVec.ushiftRight_zero, BitVec.shiftLeft_zero,
      BitVec.or_assoc, shiftLeft_or_lowBits, shiftLeft_or_lowBits,
      and_lowBits_eq_self (toNat_lt_of_le hle (by decide))]
    rfl
  · rw [encoded, hsize, reread, if_neg hle]
    show uni8Decode (_ :: _ :: _ :: _ :: _) = _
    rw [uni8Decode_four (uni8Sizeof_four p 18) (htail 12) (htail 6) (htail 0), unpackByte_four,
      unpackByte_tail, unpackByte_tail, unpackByte_tail, BitVec.ushiftRight_zero,
      BitVec.shiftLeft_zero, BitVec.or_assoc, BitVec.or_assoc, shiftLeft_or_lowBits,
      shiftLeft_or_lowBits]
    rfl

/-- Two bits of a code point of four bytes are read back in the place of others. -/
theorem reread_eq_self_iff {p : BitVec 32} : reread p = p ↔ p < 0x40000 := by
  have hlt : p < 0x40000 ↔ p.toNat < 2 ^ 18 := Iff.rfl
  rw [hlt, reread]
  split
  · rename_i hle
    have := toNat_lt_of_le hle (k := 18) (by decide)
    exact iff_of_true rfl this
  · constructor
    · intro h
      have hbit : ∀ i (hi : i < 32), 18 ≤ i →
          (p.getLsbD (18 + (i - 16)) && decide (i - 16 < 3)) = p[i] := by
        intro i hi h18
        have hget := congrArg (fun q : BitVec 32 => q.getLsbD i) h
        simpa [getElem_lowBits, hi, BitVec.getLsbD_eq_getElem, show ¬ i < 16 by omega,
          show ¬ i < 18 by omega] using hget
      -- nothing is read back from bit 19 on
      have h19 : ∀ i (hi : i < 32), 19 ≤ i → p[i] = false := by
        intro i hi h19
        rw [← hbit i hi (by omega), decide_eq_false (by omega), Bool.and_false]
      apply toNat_lt_of_getElem
      intro i hi h18
      rcases Nat.eq_or_lt_of_le h18 with rfl | hlt
      · rw [← hbit 18 hi (by omega), show 18 + (18 - 16) = 20 from rfl,
          BitVec.getLsbD_eq_getElem (by decide), h19 20 (by decide) (by decide), Bool.false_and]
      · exact h19 i hi hlt
    · intro hsmall
      have hshift : p >>> 18 = 0#32 := by
        apply BitVec.eq_of_toNat_eq
        rw [BitVec.toNat_ushiftRight, Nat.shiftRight_eq_div_pow, Nat.div_eq_of_lt hsmall]
        rfl
      rw [hshift, BitVec.zero_and, and_lowBits_eq_self hsmall, BitVec.zero_shiftLeft,
        BitVec.zero_or]

/-- A code point is encoded where there is room for it. -/
theorem uni8Encode_eq {p : BitVec 32} (hp : p ≤ 0x1FFFFF) {dst : Cursor UInt8} (hfits : dst.Fits) :
    if dst.left < (encoded p).length then uni8Encode dst p = .error (.errno .erange)
    else ∃ dst', uni8Encode dst p = .ok ((encoded p).length, dst') ∧
      dst.Wrote (encoded p) (dst'.advance (encoded p).length) := by
  obtain ⟨n, hsize, hlen⟩ : ∃ n, uni32Sizeof p = .ok n ∧ (uni8Bytes p n).length = n := by
    rcases uni32Sizeof_cases hp with ⟨hsize, -⟩ | ⟨hsize, -⟩ | ⟨hsize, -⟩ | ⟨hsize, -⟩ <;>
      exact ⟨_, hsize, rfl⟩
  have hencoded : encoded p = uni8Bytes p n := by rw [encoded, hsize]
  rw [uni8Encode, hsize, hencoded, hlen, ok_bind]
  by_cases hleft : dst.left < n
  · rw [if_pos hleft, if_pos hleft]
    rfl
  · obtain ⟨dst', hstore, hwrote⟩ :=
      @exists_storeAt _ dst (uni8Bytes p n) hfits (by rw [hlen]; exact Nat.le_of_not_lt hleft)
    rw [hlen] at hwrote
    rw [if_neg hleft, if_neg hleft]
    refine ⟨dst', ?_, hwrote⟩
    show (storeAt dst _ >>= _) = _
    rw [hstore]
    rfl

/-- The bytes of a code point are decoded to the code point. -/
def RoundTrips (p : BitVec 32) : Prop :=
  ∀ dst : Cursor UInt8, dst.Fits → ∀ n dst', uni8Encode dst p = .ok (n, dst') →
    uni8Decode (dst'.buf.drop dst.pos) = .ok (p, n)

theorem roundTrips_iff {p : BitVec 32} (hp : p ≤ 0x1FFFFF) : RoundTrips p ↔ p < 0x40000 := by
  rw [← reread_eq_self_iff]
  constructor
  · intro h
    -- an array that has as many bytes as the encoding
    let dst : Cursor UInt8 := ⟨List.replicate (encoded p).length 0, 0, (encoded p).length⟩
    have hfits : dst.Fits := by
      show 0 + _ = (List.replicate _ _).length
      rw [List.length_replicate, Nat.zero_add]
    have hencode := uni8Encode_eq hp hfits
    rw [if_neg (lt_irrefl _)] at hencode
    obtain ⟨dst', hencode, hwrote⟩ := hencode
    have hdrop : dst'.buf.drop dst.pos = _ := hwrote.drop hfits
    have hdecode := h dst hfits _ dst' hencode
    rw [hdrop, uni8Decode_encoded hp] at hdecode
    exact congrArg Prod.fst (Except.ok.inj hdecode)
  · intro hreread dst hfits n dst' hencode
    have hspec := uni8Encode_eq hp hfits
    split at hspec
    · cases hspec.symm.trans hencode
    · obtain ⟨dst'', hok, hwrote⟩ := hspec
      cases hok.symm.trans hencode
      have hdrop : dst'.buf.drop dst.pos = _ := hwrote.drop hfits
      rw [hdrop, uni8Decode_encoded hp, hreread]

/-! ## Sequences -/

theorem ValidPoint.ne_zero {p : BitVec 32} (hp : ValidPoint p) : p ≠ 0 := by
  rintro rfl
  exact absurd hp.1 (by decide)

/-- The loop writes the encoding of the sequence, or there is no room for it and for a
terminator. -/
theorem uni32To8Loop_append {ps : List (BitVec 32)} (hps : ∀ p ∈ ps, ValidPoint p)
    {dst : Cursor UInt8} (hfits : dst.Fits) (nwritten : ℕ) :
    if (ps.flatMap encoded).length < dst.left then
      ∃ dst', uni32To8Loop (ps ++ [0]) dst nwritten =
          .ok (nwritten + (ps.flatMap encoded).length, dst') ∧
        dst.Wrote (ps.flatMap encoded) dst'
    else
      uni32To8Loop (ps ++ [0]) dst nwritten = .error (.errno .erange) ∨
        ∃ m dst', uni32To8Loop (ps ++ [0]) dst nwritten = .ok (m, dst') ∧ dst'.left = 0 := by
  induction ps generalizing dst nwritten with
  | nil =>
    rw [List.nil_append, uni32To8Loop_stop (.inl rfl), List.flatMap_nil, List.length_nil]
    by_cases hleft : dst.left = 0
    · rw [if_neg (by rw [hleft]; exact Nat.not_lt_zero _)]
      exact .inr ⟨nwritten, dst, rfl, hleft⟩
    · rw [if_pos (Nat.pos_of_ne_zero hleft)]
      exact ⟨dst, rfl, .refl dst⟩
  | cons p ps ih =>
    have hp := hps p (by simp)
    rw [List.cons_append, List.flatMap_cons, List.length_append]
    by_cases hleft : dst.left = 0
    · rw [uni32To8Loop_stop (.inr hleft), if_neg (by omega)]
      exact .inr ⟨nwritten, dst, rfl, hleft⟩
    -- the room before the code point decides whether it is written, that behind it about the rest
    · have hencode := uni8Encode_eq hp.2 hfits
      rw [uni32To8Loop_step hp.ne_zero hleft]
      split at hencode
      · rw [if_neg (by omega), hencode]
        exact .inl rfl
      · obtain ⟨dst', hok, hwrote⟩ := hencode
        have hroom := hwrote.left
        have hrest := ih (fun q hq => hps q (List.mem_cons_of_mem p hq)) (hwrote.fits hfits)
          (nwritten + (encoded p).length)
        rw [hok, ok_bind]
        dsimp only
        split at hrest
        · rw [if_pos (by omega)]
          obtain ⟨dst'', hloop, hwrote'⟩ := hrest
          exact ⟨dst'', by rw [hloop, Nat.add_assoc], hwrote.trans hwrote'⟩
        · rw [if_neg (by omega)]
          exact hrest

/-- `uni32_to8` writes the encoding of the sequence and a terminator, if there is room for them. -/
theorem uni32To8_eq {ps : List (BitVec 32)} (hps : ∀ p ∈ ps, ValidPoint p) {dst : Cursor UInt8}
    (hfits : dst.Fits) :
    if (ps.flatMap encoded).length < dst.left then
      ∃ dst', uni32To8 (ps ++ [0]) dst = .ok ((ps.flatMap encoded).length, dst') ∧
        dst.Wrote (ps.flatMap encoded ++ [0]) (dst'.advance 1)
    else uni32To8 (ps ++ [0]) dst = .error (.errno .erange) := by
  have hloop := uni32To8Loop_append hps hfits 0
  rw [uni32To8]
  by_cases hroom : (ps.flatMap encoded).length < dst.left
  · rw [if_pos hroom] at hloop ⊢
    obtain ⟨dst', hok, hwrote⟩ := hloop
    have hleft := hwrote.left
    obtain ⟨dst'', hstore, hwrote'⟩ :=
      @exists_storeAt _ dst' [0] (hwrote.fits hfits) (by rw [List.length_singleton]; omega)
    refine ⟨dst'', ?_, hwrote.trans hwrote'⟩
    rw [hok, ok_bind]
    -- the terminator is written behind the room that the loop left
    dsimp only
    rw [if_neg (by omega)]
    show (storeAt dst' _ >>= _) = _
    rw [hstore, Nat.zero_add]
    rfl
  · rw [if_neg hroom] at hloop ⊢
    rcases hloop with herr | ⟨m, dst', hok, hleft⟩
    · rw [herr]
      rfl
    · rw [hok, ok_bind]
      dsimp only
      rw [if_pos hleft]
      rfl

/-- The first byte of an encoding is not a terminator. -/
theorem exists_encoded_eq_cons {p : BitVec 32} (hp : ValidPoint p) :
    ∃ c tail, encoded p = c :: tail ∧ c ≠ 0 := by
  have hzero : uni8Sizeof 0 = .ok 1 := by decide
  rw [encoded]
  rcases uni32Sizeof_cases hp.2 with ⟨hsize, hle⟩ | ⟨hsize, -⟩ | ⟨hsize, -⟩ | ⟨hsize, -⟩ <;>
    rw [hsize] <;> refine ⟨_, _, rfl, fun h => ?_⟩
  · apply hp.ne_zero
    have hnat : p.toNat % 2 ^ 8 = 0 := congrArg UInt8.toNat h
    have hlt := toNat_lt_of_le hle (k := 7) (by decide)
    apply BitVec.eq_of_toNat_eq
    show p.toNat = 0
    omega
  · have hlead := uni8Sizeof_two p 6
    rw [h, hzero] at hlead
    cases hlead
  · have hlead := uni8Sizeof_three p 12
    rw [h, hzero] at hlead
    cases hlead
  · have hlead := uni8Sizeof_four p 18
    rw [h, hzero] at hlead
    cases hlead

/-- A sequence that is decoded is stored, and what is stored is read back of each code point. -/
theorem uni8To32Loop_encoded {ps : List (BitVec 32)} (hps : ∀ p ∈ ps, ValidPoint p)
    (behind : List UInt8) {dst : Cursor (BitVec 32)} (hfits : dst.Fits)
    (hlen : ps.length < dst.left) (nwritten : ℕ) :
    ∃ dst', uni8To32Loop (ps.flatMap encoded ++ 0 :: behind) dst nwritten =
        .ok (nwritten + ps.length, dst') ∧
      dst.Wrote (ps.map reread) dst' := by
  induction ps generalizing dst nwritten with
  | nil => exact ⟨dst, uni8To32Loop_zero behind dst nwritten, .refl dst⟩
  | cons p ps ih =>
    have hp := hps p (by simp)
    rw [List.length_cons] at hlen
    -- one code point is decoded and stored, and the rest behind it
    have hdecode := uni8Decode_encoded hp.2 (ps.flatMap encoded ++ 0 :: behind)
    obtain ⟨dst', hstore, hwrote⟩ :=
      @exists_storeAt _ dst [reread p] hfits (by rw [List.length_singleton]; omega)
    have hleft := hwrote.left
    rw [List.length_singleton] at hleft
    obtain ⟨dst'', hloop, hwrote'⟩ := ih (fun q hq => hps q (List.mem_cons_of_mem p hq))
      (hwrote.fits hfits) (by rw [List.length_singleton]; omega) (nwritten + 1)
    refine ⟨dst'', ?_, hwrote.trans hwrote'⟩
    obtain ⟨c, tail, hc, hc0⟩ := exists_encoded_eq_cons hp
    have hdrop : (encoded p ++ (ps.flatMap encoded ++ 0 :: behind)).drop (encoded p).length =
      ps.flatMap encoded ++ 0 :: behind := List.drop_left' rfl
    rw [hc, List.cons_append] at hdecode hdrop
    rw [List.flatMap_cons, List.append_assoc, hc, List.cons_append,
      uni8To32Loop_step hc0 (by omega) hdecode, hstore, ok_bind, hdrop]
    rw [List.length_cons, Nat.add_comm ps.length, ← Nat.add_assoc]
    exact hloop

/-- `uni8_to32` on the encoding of a sequence. -/
theorem uni8To32_encoded {ps : List (BitVec 32)} (hps : ∀ p ∈ ps, ValidPoint p)
    (behind : List UInt8) {dst : Cursor (BitVec 32)} (hfits : dst.Fits)
    (hlen : ps.length < dst.left) :
    ∃ dst', uni8To32 (ps.flatMap encoded ++ 0 :: behind) dst = .ok (ps.length, dst') ∧
      dst.Wrote (ps.map reread ++ [0]) (dst'.advance 1) := by
  obtain ⟨dst', hloop, hwrote⟩ := uni8To32Loop_encoded hps behind hfits hlen 0
  have hleft := hwrote.left
  rw [List.length_map] at hleft
  obtain ⟨dst'', hstore, hwrote'⟩ :=
    @exists_storeAt _ dst' [0] (hwrote.fits hfits) (by rw [List.length_singleton]; omega)
  refine ⟨dst'', ?_, hwrote.trans hwrote'⟩
  rw [uni8To32, hloop, ok_bind]
  dsimp only
  rw [if_neg (by omega)]
  show (storeAt dst' _ >>= _) = _
  rw [hstore, Nat.zero_add]
  rfl

/-- What `uni32_to8` writes for a sequence, `uni8_to32` reads as the sequence. -/
def SequenceRoundTrips (ps : List (BitVec 32)) : Prop :=
  ∀ bytes : Cursor UInt8, bytes.Fits → ∀ n bytes', uni32To8 (ps ++ [0]) bytes = .ok (n, bytes') →
    ∀ points : Cursor (BitVec 32), points.Fits → ps.length < points.left →
      ∃ points', uni8To32 (bytes'.buf.drop bytes.pos) points = .ok (ps.length, points') ∧
        (points'.buf.drop points.pos).take (ps.length + 1) = ps ++ [0]

theorem map_reread_eq_self_iff {ps : List (BitVec 32)} :
    ps.map reread = ps ↔ ∀ p ∈ ps, p < 0x40000 := by
  calc ps.map reread = ps ↔ ps.map reread = ps.map id := by rw [List.map_id]
    _ ↔ ∀ p ∈ ps, reread p = id p := List.map_inj_left
    _ ↔ ∀ p ∈ ps, p < 0x40000 := forall₂_congr fun p _ => reread_eq_self_iff

/-- The bytes that have been written for a sequence, read into an array. -/
theorem uni8To32_of_uni32To8 {ps : List (BitVec 32)} (hps : ∀ p ∈ ps, ValidPoint p)
    {bytes bytes' : Cursor UInt8} (hbytes : bytes.Fits) {n : ℕ}
    (h : uni32To8 (ps ++ [0]) bytes = .ok (n, bytes')) {points : Cursor (BitVec 32)}
    (hpoints : points.Fits) (hlen : ps.length < points.left) :
    ∃ points', uni8To32 (bytes'.buf.drop bytes.pos) points = .ok (ps.length, points') ∧
      (points'.buf.drop points.pos).take (ps.length + 1) = ps.map reread ++ [0] := by
  have hspec := uni32To8_eq hps hbytes
  split at hspec
  · obtain ⟨bytes'', hok, hwrote⟩ := hspec
    cases hok.symm.trans h
    have hdrop : bytes'.buf.drop bytes.pos = _ := hwrote.drop hbytes
    rw [List.append_assoc, List.singleton_append] at hdrop
    rw [hdrop]
    obtain ⟨points', hread, hwrote'⟩ := uni8To32_encoded hps _ hpoints hlen
    have hdrop' : points'.buf.drop points.pos = _ := hwrote'.drop hpoints
    refine ⟨points', hread, ?_⟩
    rw [hdrop']
    exact List.take_left' (by rw [List.length_append, List.length_map, List.length_singleton])
  · cases hspec.symm.trans h

theorem sequenceRoundTrips_iff {ps : List (BitVec 32)} (hps : ∀ p ∈ ps, ValidPoint p) :
    SequenceRoundTrips ps ↔ ∀ p ∈ ps, p < 0x40000 := by
  rw [← map_reread_eq_self_iff]
  constructor
  · intro h
    -- arrays that have space for the sequence and its terminator
    let bytes : Cursor UInt8 :=
      ⟨List.replicate ((ps.flatMap encoded).length + 1) 0, 0, (ps.flatMap encoded).length + 1⟩
    let points : Cursor (BitVec 32) :=
      ⟨List.replicate (ps.length + 1) 0, 0, ps.length + 1⟩
    have hbytes : bytes.Fits := by
      show 0 + _ = (List.replicate _ _).length
      rw [List.length_replicate, Nat.zero_add]
    have hpoints : points.Fits := by
      show 0 + _ = (List.replicate _ _).length
      rw [List.length_replicate, Nat.zero_add]
    have hwrite := uni32To8_eq hps hbytes
    rw [if_pos (Nat.lt_succ_self _)] at hwrite
    obtain ⟨bytes', hok, -⟩ := hwrite
    obtain ⟨points', hread, hsame⟩ :=
      h bytes hbytes _ bytes' hok points hpoints (Nat.lt_succ_self _)
    obtain ⟨points'', hread', hreread⟩ :=
      uni8To32_of_uni32To8 hps hbytes hok hpoints (Nat.lt_succ_self _)
    cases hread.symm.trans hread'
    exact List.append_cancel_right (hreread.symm.trans hsame)
  · intro hreread bytes hbytes n bytes' h points hpoints hlen
    have hread := uni8To32_of_uni32To8 hps hbytes h hpoints hlen
    rw [hreread] at hread
    exact hread

/-- The round trips of a code point and of a sequence hold below bit 18, and nowhere else. -/
theorem codec_roundTrips_iff (p : BitVec 32) (ps : List (BitVec 32)) (hp : ValidPoint p)
    (hps : ∀ q ∈ ps, ValidPoint q) :
    (RoundTrips p ↔ p < 0x40000) ∧ (SequenceRoundTrips ps ↔ ∀ q ∈ ps, q < 0x40000) :=
  ⟨roundTrips_iff hp.2, sequenceRoundTrips_iff hps⟩

/-- A letter, and a sequence with a code point of four bytes. -/
theorem codec_roundTrips_emoji : RoundTrips 0xE9 ∧ SequenceRoundTrips [0xE9, 0x1F600] := by
  have hvalid : ∀ p ∈ [(0xE9 : BitVec 32), 0x1F600], ValidPoint p := by
    simp only [List.forall_mem_cons]
    exact ⟨by decide, by decide, nofun⟩
  have hsmall : ∀ p ∈ [(0xE9 : BitVec 32), 0x1F600], p < 0x40000 := by
    simp only [List.forall_mem_cons]
    exact ⟨by decide, by decide, nofun⟩
  obtain ⟨hpoint, hsequence⟩ := codec_roundTrips_iff 0xE9 [0xE9, 0x1F600] (by decide) hvalid
  exact ⟨hpoint.2 (by decide), hsequence.2 hsmall⟩

/-- Both fail at the first code point with bit 18. -/
theorem not_forall_codec_roundTrips :
    ¬ ((∀ p, ValidPoint p → RoundTrips p) ∧
      ∀ ps : List (BitVec 32), (∀ p ∈ ps, ValidPoint p) → SequenceRoundTrips ps) := by
  rintro ⟨h, -⟩
  have hencodable : ValidPoint 0x40000 := by decide
  exact absurd ((roundTrips_iff hencodable.2).1 (h 0x40000 hencodable)) (by decide)

end Irccd
