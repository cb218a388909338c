import Irccd.Unicode.Basic

/-!
# Scanning UTF-8

`uni8_length` and `uni8_to32` go through a string by the lengths that its first bytes announce.
`uni8_decode` looks at each byte of a sequence before it goes on, `uni8_length` does not.

* `scanEnd`: how a string ends for such a scan;
* `uni8LengthLoop_append`, `uni8To32Loop_append`: what the loops do with it;
* `scansSafely_iff`: they stay inside the arrays unless the terminator cuts a sequence short.
-/

namespace Irccd

open Writers (Cursor)

/-- How a string ends, for a scan by the announced lengths. -/
inductive ScanEnd
  /-- With its last sequence. -/
  | complete
  /-- At a byte that cannot start a sequence. -/
  | badLead
  /-- Inside a sequence. -/
  | cut
  deriving DecidableEq

/-- Where the scan of a string stops. -/
def scanEnd (s : CStr) : ScanEnd :=
  match s with
  | [] => .complete
  | c :: rest =>
    match h : uni8Sizeof c with
    | .error _ => .badLead
    | .ok gap =>
      have : 0 < gap := uni8Sizeof_pos h
      if rest.length + 1 < gap then .cut else scanEnd ((c :: rest).drop gap)
termination_by s.length
decreasing_by
  rw [List.length_drop, List.length_cons]
  omega

section Ends

variable {c : UInt8} {n : ℕ} {rest : CStr}

theorem scanEnd_error {e : UniStop} (h : uni8Sizeof c = .error e) :
    scanEnd (c :: rest) = .badLead := by
  rw [scanEnd]
  split
  · rfl
  · rename_i hok
    cases h.symm.trans hok

theorem scanEnd_cut (h : uni8Sizeof c = .ok n) (hlen : rest.length + 1 < n) :
    scanEnd (c :: rest) = .cut := by
  rw [scanEnd]
  split
  · rename_i herr
    cases h.symm.trans herr
  · rename_i hok
    cases h.symm.trans hok
    exact if_pos hlen

theorem scanEnd_step (h : uni8Sizeof c = .ok n) (hlen : ¬ rest.length + 1 < n) :
    scanEnd (c :: rest) = scanEnd ((c :: rest).drop n) := by
  rw [scanEnd]
  split
  · rename_i herr
    cases h.symm.trans herr
  · rename_i hok
    cases h.symm.trans hok
    exact if_neg hlen

end Ends

/-! ## The loops -/

/-- `uni8_length` on a string and its terminator. -/
theorem uni8LengthLoop_append {s : CStr} (h0 : ∀ b ∈ s, b ≠ 0) (total : ℕ) :
    uni8LengthLoop (s ++ [0]) total =
      match scanEnd s with
      | .complete => .ok (total + s.length)
      | .badLead => .error (.errno .eilseq)
      | .cut => .error .readPast := by
  -- on the scan, which stops where the loop does
  induction s using scanEnd.induct generalizing total with
  | case1 =>
    rw [scanEnd]
    exact uni8LengthLoop_zero [] total
  | case2 c rest e he =>
    obtain rfl := uni8Sizeof_error he
    rw [scanEnd_error he]
    exact uni8LengthLoop_error (h0 c (by simp)) he total
  | case3 c rest gap hgap _ hlen =>
    rw [scanEnd_cut hgap hlen, List.cons_append,
      uni8LengthLoop_step (h0 c (by simp)) hgap total, List.drop_eq_nil_of_le (by simp; omega),
      uni8LengthLoop]
  | case4 c rest gap hgap _ hlen ih =>
    have hdrop : (c :: (rest ++ [0])).drop gap = (c :: rest).drop gap ++ [0] := by
      rw [← List.cons_append, List.drop_append_of_le_length (by simp; omega)]
    rw [scanEnd_step hgap hlen, List.cons_append,
      uni8LengthLoop_step (h0 c (by simp)) hgap total, hdrop,
      ih (fun b hb => h0 b (List.mem_of_mem_drop hb))]
    have hlength : total + gap + ((c :: rest).drop gap).length = total + (c :: rest).length := by
      rw [List.length_drop, List.length_cons]
      omega
    rw [hlength]

/-- `uni8_to32` on a string and its terminator: it decodes the string, or it stops at the end of the
array, or it reports what is wrong. -/
theorem uni8To32Loop_append {s : CStr} (h0 : ∀ b ∈ s, b ≠ 0) {dst : Cursor (BitVec 32)}
    (hfits : dst.Fits) (nwritten : ℕ) :
    (∃ m dst', uni8To32Loop (s ++ [0]) dst nwritten = .ok (m, dst') ∧ dst'.Fits ∧
      (scanEnd s = .complete ∨ dst'.left = 0)) ∨
    uni8To32Loop (s ++ [0]) dst nwritten = .error (.errno .eilseq) := by
  induction s using scanEnd.induct generalizing dst nwritten with
  | case1 =>
    left
    exact ⟨nwritten, dst, uni8To32Loop_zero [] dst nwritten, hfits, .inl (by rw [scanEnd])⟩
  | case2 c rest e he =>
    rw [List.cons_append]
    by_cases hleft : dst.left = 0
    · left
      exact ⟨nwritten, dst, uni8To32Loop_full hleft nwritten, hfits, .inr hleft⟩
    · right
      obtain rfl := uni8Sizeof_error he
      exact uni8To32Loop_error (h0 c (by simp)) hleft (uni8Decode_error he) nwritten
  | case3 c rest gap hgap _ hlen =>
    rw [List.cons_append]
    by_cases hleft : dst.left = 0
    · left
      exact ⟨nwritten, dst, uni8To32Loop_full hleft nwritten, hfits, .inr hleft⟩
    · right
      have hrest : ∀ b ∈ rest, b ≠ 0 := fun b hb => h0 b (List.mem_cons_of_mem c hb)
      exact uni8To32Loop_error (h0 c (by simp)) hleft (uni8Decode_cut hgap hrest hlen) nwritten
  | case4 c rest gap hgap _ hlen ih =>
    rw [List.cons_append]
    by_cases hleft : dst.left = 0
    · left
      exact ⟨nwritten, dst, uni8To32Loop_full hleft nwritten, hfits, .inr hleft⟩
    · have hpos := uni8Sizeof_pos hgap
      have hrest : ∀ b ∈ rest.take (gap - 1), b ≠ 0 :=
        fun b hb => h0 b (List.mem_cons_of_mem c (List.mem_of_mem_take hb))
      have htake : (rest.take (gap - 1)).length = gap - 1 := List.length_take_of_le (by omega)
      -- the sequence is whole, so it is decoded and stored
      obtain ⟨point, hpoint⟩ := @exists_uni8Decode c gap (rest.take (gap - 1))
        (rest.drop (gap - 1) ++ [0]) hgap hrest (by omega)
      rw [← List.append_assoc, List.take_append_drop] at hpoint
      obtain ⟨dst', hstore, hwrote⟩ := @exists_storeAt _ dst [point] hfits (by simp; omega)
      have hdrop : (c :: (rest ++ [0])).drop gap = (c :: rest).drop gap ++ [0] := by
        rw [← List.cons_append, List.drop_append_of_le_length (by simp; omega)]
      rw [uni8To32Loop_step (h0 c (by simp)) hleft hpoint, hstore, ok_bind, hdrop,
        scanEnd_step hgap hlen]
      exact ih (fun b hb => h0 b (List.mem_of_mem_drop hb)) (hwrote.fits hfits) (nwritten + 1)

/-! ## The arrays -/

/-- The function has read and written inside the arrays only. -/
def Inside {α : Type} (r : Except UniStop α) : Prop :=
  r ≠ .error .readPast ∧ r ≠ .error .writePast

/-- The function reports an error. -/
def ReportsError {α : Type} (r : Except UniStop α) : Prop := ∃ er, r = .error (.errno er)

/-- Both scans of a string stay inside the arrays, whatever the size of the destination, and they
report a string that does not end with its last sequence. -/
structure ScansSafely (s : CStr) : Prop where
  length_inside : Inside (uni8Length (s ++ [0]))
  to32_inside : ∀ dst, dst.Fits → Inside (uni8To32 (s ++ [0]) dst)
  length_reports : scanEnd s ≠ .complete → ReportsError (uni8Length (s ++ [0]))
  to32_reports : scanEnd s ≠ .complete → ∀ dst, dst.Fits → ReportsError (uni8To32 (s ++ [0]) dst)

theorem inside_ok {α : Type} (a : α) : Inside (.ok a) := ⟨nofun, nofun⟩

theorem ReportsError.inside {α : Type} {r : Except UniStop α} (h : ReportsError r) : Inside r := by
  obtain ⟨er, rfl⟩ := h
  exact ⟨nofun, nofun⟩

/-- `uni8_to32` has a result, or it reports an error, which it always does when the string is not
complete. -/
theorem uni8To32_append {s : CStr} (h0 : ∀ b ∈ s, b ≠ 0) {dst : Cursor (BitVec 32)}
    (hfits : dst.Fits) :
    ReportsError (uni8To32 (s ++ [0]) dst) ∨
      scanEnd s = .complete ∧ ∃ m dst', uni8To32 (s ++ [0]) dst = .ok (m, dst') := by
  rw [uni8To32]
  rcases uni8To32Loop_append h0 hfits 0 with ⟨m, dst', hloop, hfits', hend⟩ | herr
  · rw [hloop, ok_bind]
    dsimp only
    by_cases hleft : dst'.left = 0
    · left
      rw [if_pos hleft]
      exact ⟨.erange, rfl⟩
    · right
      obtain ⟨dst'', hstore, -⟩ := @exists_storeAt _ dst' [0] hfits' (by simp; omega)
      refine ⟨hend.resolve_right hleft, m, dst'', ?_⟩
      rw [if_neg hleft]
      show (storeAt dst' [0] >>= _) = _
      rw [hstore]
      rfl
  · left
    rw [herr]
    exact ⟨.eilseq, rfl⟩

/-- `uni8_length` reads behind a terminator that cuts a sequence short, and nothing else goes
wrong. -/
theorem scansSafely_iff {s : CStr} (h0 : ∀ b ∈ s, b ≠ 0) : ScansSafely s ↔ scanEnd s ≠ .cut := by
  have hlength := uni8LengthLoop_append h0 0
  constructor
  · intro h hcut
    rw [hcut] at hlength
    exact h.length_inside.1 hlength
  · intro hcut
    refine ⟨?_, fun dst hfits => ?_, fun hend => ?_, fun hend dst hfits => ?_⟩
    · rw [uni8Length, hlength]
      cases hend : scanEnd s with
      | complete => exact inside_ok _
      | badLead => exact ReportsError.inside ⟨.eilseq, rfl⟩
      | cut => exact absurd hend hcut
    · rcases uni8To32_append h0 hfits with herr | ⟨-, m, dst', hok⟩
      · exact herr.inside
      · rw [hok]
        exact inside_ok _
    · rw [uni8Length, hlength]
      cases hbad : scanEnd s with
      | complete => exact absurd hbad hend
      | badLead => exact ⟨.eilseq, rfl⟩
      | cut => exact absurd hbad hcut
    · exact (uni8To32_append h0 hfits).resolve_right fun hok => hend hok.1

/-- A two-byte sequence that is whole. -/
theorem scansSafely_whole : ScansSafely [0xC3, 0xA9] := by
  apply (@scansSafely_iff [0xC3, 0xA9] (by simp)).2
  have hlead : uni8Sizeof 0xC3 = .ok 2 := by decide
  rw [scanEnd_step hlead (by decide), show List.drop 2 [0xC3, 0xA9] = ([] : CStr) from rfl, scanEnd]
  decide

/-- The first byte of a two-byte sequence, and nothing behind it. -/
theorem not_forall_scansSafely : ¬ ∀ s : CStr, (∀ b ∈ s, b ≠ 0) → ScansSafely s := by
  intro h
  have hlead : uni8Sizeof 0xC3 = .ok 2 := by decide
  apply (h [0xC3] (by simp)).length_inside.1
  show uni8LengthLoop (0xC3 :: [0]) 0 = _
  rw [uni8LengthLoop_step (by decide) hlead, show List.drop 2 [0xC3, 0] = ([] : CStr) from rfl,
    uni8LengthLoop]

end Irccd
