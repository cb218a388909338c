import Irccd.Ctl.Watch
import Irccd.Foundations.Fields
import Irccd.Foundations.Readers

/-!
# Splitting in place (`util.c`, `peer.c`)

Both sides of the control socket cut a line where it is. The separators become NULs, and an array of
the caller gets pointers to the fields.

* `SplitMem`: the memory with the line, and the array;
* `ircUtilSplitAt`, `parseAt`: `irc_util_split` and the `parse` of `peer.c` on them;
* `Gives`: the array has the fields;
* `splitLoop_eq`: what the loop leaves in memory;
* `ircUtilSplitAt_stored`, `parseAt_stored`: the array has the words that `ircUtilSplit` and `parse`
  give;
* `split_joined`: fields that were joined are given back.
-/

namespace Irccd

open Fields Terminated
open Readers (unlines starts stored_starts)

/-- What is done outside the memory. -/
inductive SplitFault
  /-- The line is read, and no NUL ends it. -/
  | unterminated
  /-- A pointer is stored at an index that the array does not have. -/
  | noRoom
  deriving DecidableEq

/-- The memory with the line, and the array `args` of the caller. A pointer into the line is an
offset. -/
structure SplitMem where
  buf : List UInt8
  args : List (Option ℕ)
  deriving DecidableEq

namespace SplitMem

variable (m : SplitMem)

/-- `args[idx] = line` -/
def store (idx line : ℕ) : Except SplitFault SplitMem :=
  if idx < m.args.length then .ok { m with args := m.args.set idx (some line) } else .error .noRoom

/-- `args[idx++] = line; break;` -/
def storeLast (idx line : ℕ) : Except SplitFault (ℕ × SplitMem) := do
  let m ← m.store idx line
  return (idx + 1, m)

/-- `*sp = '\0'` -/
def cut (sp : ℕ) : SplitMem := { m with buf := m.buf.set sp 0 }

end SplitMem

/-- `strchr (line, c)`: how far the byte is, if it is there. The NUL is a part of the string. -/
def strchr (c : UInt8) : List UInt8 → Except SplitFault (Option ℕ)
  | [] => .error .unterminated
  | b :: line =>
    if b = c then .ok (some 0)
    else if b = 0 then .ok none
    else do
      let sp ← strchr c line
      return sp.map (· + 1)

/-- The loop of `irc_util_split`, and of `parse`. There are `left` rounds left, which is
`max - idx`. -/
def splitLoop (delim : UInt8) : ℕ → ℕ → ℕ → SplitMem → Except SplitFault (ℕ × SplitMem)
  | 0, idx, _, m => .ok (idx, m)
  | left + 1, idx, line, m => do
    match ← strchr delim (m.buf.drop line) with
    | none => m.storeLast idx line
    | some sp =>
      -- `idx + 1 >= max`
      if left = 0 then m.storeLast idx line
      else
        let m ← (m.cut (line + sp)).store idx line
        splitLoop delim left (idx + 1) (line + sp + 1) m

/-- `irc_util_split (line, args, max, delim)`: the number of fields, and the memory. -/
def ircUtilSplitAt (m : SplitMem) (line max : ℕ) (delim : UInt8) :
    Except SplitFault (ℕ × SplitMem) :=
  match m.buf[line]? with
  | none => .error .unterminated
  | some b => if b = 0 then .ok (0, m) else splitLoop delim max 0 line m

/-- `while (*line && !isspace (*line++))`: how far it gets. -/
def skipCommand : List UInt8 → Except SplitFault ℕ
  | [] => .error .unterminated
  | b :: line =>
    if b = 0 then .ok 0
    else if isspace b then .ok 1
    else do
      let n ← skipCommand line
      return n + 1

/-- `parse (line, args, max)`, which goes on like `irc_util_split` behind the command. -/
def parseAt (m : SplitMem) (line max : ℕ) : Except SplitFault (ℕ × SplitMem) := do
  let n ← skipCommand (m.buf.drop line)
  ircUtilSplitAt m (line + n) max SP

/-- The fields are counted, and the array starts with pointers to them. -/
def Gives (m : SplitMem) (r : Except SplitFault (ℕ × SplitMem)) (fields : List CStr) : Prop :=
  ∃ m' ptrs, r = .ok (fields.length, m') ∧
    m'.args = ptrs.map some ++ m.args.drop fields.length ∧
    List.Forall₂ (Stored 0 m'.buf) ptrs fields

/-- At most `max` pointers are stored, as many as are counted. An array with room for so many is
enough. -/
def StoresAtMost (max : ℕ) (m : SplitMem) (r : Except SplitFault (ℕ × SplitMem)) : Prop :=
  (max ≤ m.args.length → r ≠ .error .noRoom) ∧
    ∀ n m', r = .ok (n, m') →
      n ≤ max ∧ m'.args.length = m.args.length ∧ m'.args.drop n = m.args.drop n

/-! ## What is read and written -/

section Steps

variable {delim : UInt8} {s f post buf : List UInt8} {args pre rest : List (Option ℕ)}

/-- The separator is found before the NUL. -/
theorem strchr_append (hdelim : delim ≠ 0) (hs : 0 ∉ s) :
    strchr delim (s ++ 0 :: post) =
      .ok (if delim ∈ s then some (s.takeWhile (· != delim)).length else none) := by
  induction s with
  | nil => simp [strchr, hdelim.symm]
  | cons b s ih =>
    have hb : b ≠ 0 := fun hb => hs (hb ▸ List.mem_cons_self)
    rw [List.cons_append, strchr]
    by_cases hc : b = delim
    · subst hc
      simp
    · have hmem : delim ∈ b :: s ↔ delim ∈ s := by simp [Ne.symm hc]
      rw [if_neg hc, if_neg hb, ih fun h => hs (List.mem_cons_of_mem b h), ok_bind]
      simp only [hmem]
      split <;> simp [hc, pure, Except.pure]

/-- The command is skipped with the blank behind it. -/
theorem skipCommand_append (hs : 0 ∉ s) (post : List UInt8) :
    ∃ n, skipCommand (s ++ 0 :: post) = .ok n ∧ n ≤ s.length ∧
      s.drop n = (s.dropWhile (!isspace ·)).drop 1 := by
  induction s with
  | nil => exact ⟨0, by simp [skipCommand], le_rfl, rfl⟩
  | cons b s ih =>
    have hb : b ≠ 0 := fun hb => hs (hb ▸ List.mem_cons_self)
    rw [List.cons_append, skipCommand, if_neg hb]
    by_cases hspace : isspace b
    · exact ⟨1, if_pos hspace, by simp, by simp [hspace]⟩
    · obtain ⟨n, hn, hle, hdrop⟩ := ih fun h => hs (List.mem_cons_of_mem b h)
      refine ⟨n + 1, ?_, Nat.succ_le_succ hle, by simpa [hspace] using hdrop⟩
      rw [if_neg hspace, hn]
      rfl

/-- The next pointer is stored. -/
theorem store_append (a : Option ℕ) (line : ℕ) :
    (⟨buf, pre ++ a :: rest⟩ : SplitMem).store pre.length line =
      .ok ⟨buf, pre ++ some line :: rest⟩ := by
  simp [SplitMem.store]

theorem storeLast_append (a : Option ℕ) (line : ℕ) :
    (⟨buf, pre ++ a :: rest⟩ : SplitMem).storeLast pre.length line =
      .ok (pre.length + 1, ⟨buf, pre ++ some line :: rest⟩) := by
  rw [SplitMem.storeLast, store_append]
  rfl

/-- The separator behind a field becomes a NUL. -/
theorem cut_append (done : List UInt8) :
    (⟨done ++ (f ++ delim :: s), args⟩ : SplitMem).cut (done.length + f.length) =
      ⟨done ++ (f ++ 0 :: s), args⟩ := by
  simp [SplitMem.cut, List.set_append_right]

/-! ## The loop -/

/-- The loop goes on behind the separator. -/
theorem splitLoop_append (hdelim : delim ≠ 0) (hf : delim ∉ f) (hs : 0 ∉ f ++ delim :: s)
    (left : ℕ) (done : List UInt8) (a : Option ℕ) :
    splitLoop delim (left + 2) pre.length done.length
        ⟨done ++ (f ++ delim :: s ++ 0 :: post), pre ++ a :: rest⟩ =
      splitLoop delim (left + 1) (pre ++ [some done.length]).length (done ++ (f ++ [0])).length
        ⟨done ++ (f ++ [0]) ++ (s ++ 0 :: post), pre ++ [some done.length] ++ rest⟩ := by
  have hfind : strchr delim (f ++ delim :: s ++ 0 :: post) = .ok (some f.length) := by
    rw [strchr_append hdelim hs, if_pos (by simp), takeWhile_of_not_mem hf]
  have hline : f ++ delim :: s ++ 0 :: post = f ++ delim :: (s ++ 0 :: post) := by simp
  rw [splitLoop, List.drop_left, hfind, ok_bind, hline]
  dsimp only
  rw [if_neg (Nat.succ_ne_zero left), cut_append, store_append, ok_bind]
  simp [Nat.add_assoc]

/-- The last field has the rest of the line. -/
theorem splitLoop_last (hdelim : delim ≠ 0) (hs : 0 ∉ s) {left : ℕ} (hlast : left ≠ 0 → delim ∉ s)
    (done : List UInt8) (a : Option ℕ) :
    splitLoop delim (left + 1) pre.length done.length
        ⟨done ++ (s ++ 0 :: post), pre ++ a :: rest⟩ =
      .ok (pre.length + 1, ⟨done ++ (s ++ 0 :: post), pre ++ some done.length :: rest⟩) := by
  rw [splitLoop, List.drop_left, strchr_append hdelim hs, ok_bind]
  split
  · exact storeLast_append a done.length
  · next sp hsp =>
    -- a separator that is found is in the last round
    have hleft : left = 0 := by
      by_contra hne
      simp [hlast hne] at hsp
    rw [if_pos hleft]
    exact storeLast_append a done.length

/-- The fields stand where the line was, each with a NUL, and the array goes on with pointers to
them. -/
theorem splitLoop_eq (hdelim : delim ≠ 0) (hs : 0 ∉ s) {left : ℕ} (hrest : left < rest.length)
    (done post : List UInt8) (pre : List (Option ℕ)) :
    splitLoop delim (left + 1) pre.length done.length
        ⟨done ++ (s ++ 0 :: post), pre ++ rest⟩ =
      .ok (pre.length + (fields delim (left + 1) s).length,
        ⟨done ++ (unlines 0 (fields delim (left + 1) s) ++ post),
          pre ++ ((starts done.length (fields delim (left + 1) s)).map some ++
            rest.drop (fields delim (left + 1) s).length)⟩) := by
  -- one round is one field; the rest of the line is the line of the rounds that are left
  induction left generalizing s done pre rest with
  | zero =>
    obtain ⟨a, rest, rfl⟩ := List.exists_cons_of_length_pos hrest
    rw [splitLoop_last hdelim hs (fun h => absurd rfl h), fields_last fun h => absurd rfl h]
    simp [unlines, starts]
  | succ left ih =>
    obtain ⟨a, rest, rfl⟩ := List.exists_cons_of_length_pos (Nat.zero_lt_of_lt hrest)
    by_cases hmem : delim ∈ s
    · obtain ⟨f, s, rfl, hf⟩ := List.eq_append_cons_of_mem hmem
      rw [splitLoop_append hdelim hf hs, ih (fun h => hs (by simp [h])) (by simpa using hrest),
        fields_append hf (Nat.succ_ne_zero left)]
      simp [unlines, starts, Nat.add_assoc, Nat.add_comm 1]
    · rw [splitLoop_last hdelim hs fun _ => hmem, fields_last fun _ => hmem]
      simp [unlines, starts]

end Steps

/-! ## The array has the fields -/

section Gives

variable {m : SplitMem} {line max : ℕ} {delim : UInt8} {s command : CStr} {fs : List CStr}

/-- The array has the fields of the line. -/
theorem ircUtilSplitAt_gives (hdelim : delim ≠ 0) (hmax : max ≤ m.args.length)
    (h : Stored 0 m.buf line s) :
    Gives m (ircUtilSplitAt m line max delim) (if s = [] then [] else fields delim max s) := by
  obtain ⟨buf, args⟩ := m
  obtain ⟨done, post, rfl, rfl⟩ := h.exists_append
  have hs := h.1
  cases s with
  | nil =>
    have hend : ircUtilSplitAt ⟨done ++ ([] ++ 0 :: post), args⟩ done.length max delim =
        .ok (0, ⟨done ++ ([] ++ 0 :: post), args⟩) := by simp [ircUtilSplitAt]
    exact ⟨_, [], hend, rfl, .nil⟩
  | cons b s =>
    have hb : b ≠ 0 := fun hb => hs (hb ▸ List.mem_cons_self)
    have hsplit : ircUtilSplitAt ⟨done ++ (b :: s ++ 0 :: post), args⟩ done.length max delim =
        splitLoop delim max 0 done.length ⟨done ++ (b :: s ++ 0 :: post), args⟩ := by
      simp [ircUtilSplitAt, hb]
    rw [if_neg (List.cons_ne_nil b s), hsplit]
    cases max with
    | zero => exact ⟨_, [], rfl, rfl, .nil⟩
    | succ max =>
      -- nothing is in the array yet
      have hloop := splitLoop_eq hdelim hs hmax done post []
      simp only [List.length_nil, Nat.zero_add, List.nil_append] at hloop
      exact ⟨_, _, hloop, rfl,
        stored_starts done post fun f hf h0 => hs (subset_of_mem_fields hf h0)⟩

/-- The array has the words that `ircUtilSplit` gives. -/
theorem ircUtilSplitAt_stored (hmax : max ≤ m.args.length) (h : Stored 0 m.buf line s) :
    Gives m (ircUtilSplitAt m line max SP) (ircUtilSplit s max) := by
  rw [ircUtilSplit, parseWords_eq_fields]
  exact ircUtilSplitAt_gives (by decide) hmax h

/-- Nothing of a line is lost: its words are joined to the line again. -/
theorem intercalate_ircUtilSplit (hmax : max ≠ 0) (s : CStr) :
    [SP].intercalate (ircUtilSplit s max) = s := by
  rw [ircUtilSplit]
  split
  · next hnil => rw [hnil, List.intercalate_nil]
  · rw [parseWords_eq_fields, intercalate_fields hmax]

/-- The array has the words that `parse` gives. -/
theorem parseAt_stored (hmax : max ≤ m.args.length) (h : Stored 0 m.buf line s) :
    Gives m (parseAt m line max) (parse s max) := by
  obtain ⟨hs, post, hpost⟩ := h
  obtain ⟨n, hskip, hle, hdrop⟩ := skipCommand_append hs post
  -- what is behind the command is a string of its own
  have hrest := Stored.drop ⟨hs, post, hpost⟩ hle
  rw [hdrop] at hrest
  have hparse : parseAt m line max = ircUtilSplitAt m (line + n) max SP := by
    rw [parseAt, hpost, hskip, ok_bind]
  rw [hparse]
  exact ircUtilSplitAt_stored hmax hrest

/-- Fields that are not all empty make a line that is not empty. -/
theorem intercalate_ne_nil (hne : ∃ f ∈ fs, f ≠ []) : [delim].intercalate fs ≠ [] := by
  obtain ⟨f, hf, hne⟩ := hne
  cases fs with
  | nil => simp at hf
  | cons g fs =>
    cases fs with
    | nil =>
      obtain rfl := List.mem_singleton.1 hf
      simpa [List.intercalate] using hne
    -- the separator between two fields is enough
    | cons h fs => simp

/-- The command is skipped with the space behind it. -/
theorem parse_command (hcommand : ∀ b ∈ command, isspace b = false) (s : CStr) :
    parse (command ++ SP :: s) max = ircUtilSplit s max := by
  have hdrop : (command ++ SP :: s).dropWhile (!isspace ·) = SP :: s := by
    rw [List.dropWhile_append_of_pos fun b hb => by simp [hcommand b hb]]
    rfl
  rw [parse, hdrop]
  rfl

end Gives

/-! ## How many pointers are stored -/

section Stores

variable {m m' : SplitMem} {delim c : UInt8} {left idx line max n : ℕ} {s : List UInt8}
  {e : SplitFault}

theorem store_eq_ok_iff :
    m.store idx line = .ok m' ↔
      idx < m.args.length ∧ m' = { m with args := m.args.set idx (some line) } := by
  rw [SplitMem.store]
  split
  · next h => simp [h, eq_comm]
  · next h => simp [h]

theorem store_of_lt (h : idx < m.args.length) (line : ℕ) :
    m.store idx line = .ok { m with args := m.args.set idx (some line) } := if_pos h

theorem storeLast_eq_ok_iff :
    m.storeLast idx line = .ok (n, m') ↔ m.store idx line = .ok m' ∧ n = idx + 1 := by
  rw [SplitMem.storeLast, bind_eq_ok_iff]
  simp [pure, Except.pure, and_comm, eq_comm]

theorem bind_pure_eq_error_iff {α β : Type} {x : Except SplitFault α} {f : α → β} :
    (x >>= fun a => pure (f a)) = .error e ↔ x = .error e := by
  cases x <;> simp [pure, Except.pure]

/-- To read needs no room in the array. -/
theorem strchr_eq_error (h : strchr c s = .error e) : e = .unterminated := by
  induction s with
  | nil => simpa [strchr, eq_comm] using h
  | cons b s ih =>
    rw [strchr] at h
    split at h
    · cases h
    · split at h
      · cases h
      · exact ih (bind_pure_eq_error_iff.1 h)

theorem skipCommand_eq_error (h : skipCommand s = .error e) : e = .unterminated := by
  induction s with
  | nil => simpa [skipCommand, eq_comm] using h
  | cons b s ih =>
    rw [skipCommand] at h
    split at h
    · cases h
    · split at h
      · cases h
      · exact ih (bind_pure_eq_error_iff.1 h)

/-- One round: the line has no end, or the pointer is the last one, or the loop goes on. -/
theorem splitLoop_succ_cases (delim : UInt8) (left idx line : ℕ) (m : SplitMem) :
    splitLoop delim (left + 1) idx line m = .error .unterminated ∨
      splitLoop delim (left + 1) idx line m = m.storeLast idx line ∨
      left ≠ 0 ∧ ∃ sp, splitLoop delim (left + 1) idx line m =
        (m.cut (line + sp)).store idx line >>=
          splitLoop delim left (idx + 1) (line + sp + 1) := by
  rw [splitLoop]
  cases hsp : strchr delim (m.buf.drop line) with
  | error e =>
    rw [strchr_eq_error hsp]
    exact .inl rfl
  | ok sp =>
    rw [ok_bind]
    cases sp with
    | none => exact .inr (.inl rfl)
    | some sp =>
      by_cases hleft : left = 0
      · exact .inr (.inl (if_pos hleft))
      · exact .inr (.inr ⟨hleft, sp, if_neg hleft⟩)

/-- An array with an index for each round is enough. -/
theorem splitLoop_ne_noRoom (h : idx + left ≤ m.args.length) :
    splitLoop delim left idx line m ≠ .error .noRoom := by
  induction left generalizing idx line m with
  | zero => simp [splitLoop]
  | succ left ih =>
    have hidx : idx < m.args.length := by omega
    obtain hr | hr | ⟨-, sp, hr⟩ := splitLoop_succ_cases delim left idx line m
    · simp [hr]
    · rw [hr, SplitMem.storeLast, store_of_lt hidx, ok_bind]
      simp [pure, Except.pure]
    · rw [hr, store_of_lt (m := m.cut (line + sp)) hidx, ok_bind]
      refine ih ?_
      simp only [SplitMem.cut, List.length_set]
      omega

/-- A round stores one pointer, at the index. -/
theorem splitLoop_stores (h : splitLoop delim left idx line m = .ok (n, m')) :
    idx ≤ n ∧ n ≤ idx + left ∧ m'.args.length = m.args.length ∧
      m'.args.drop n = m.args.drop n := by
  induction left generalizing idx line m with
  | zero =>
    cases h
    exact ⟨le_rfl, le_rfl, rfl, rfl⟩
  | succ left ih =>
    obtain hr | hr | ⟨-, sp, hr⟩ := splitLoop_succ_cases delim left idx line m
    · rw [hr] at h
      cases h
    · rw [hr, storeLast_eq_ok_iff, store_eq_ok_iff] at h
      obtain ⟨⟨-, rfl⟩, rfl⟩ := h
      exact ⟨by omega, by omega, List.length_set .., List.drop_set_of_lt (Nat.lt_succ_self idx)⟩
    · rw [hr, bind_eq_ok_iff] at h
      obtain ⟨m₁, hm₁, hloop⟩ := h
      obtain ⟨-, rfl⟩ := store_eq_ok_iff.1 hm₁
      obtain ⟨hle, hbound, hlen, hdrop⟩ := ih hloop
      refine ⟨by omega, by omega, by simpa [SplitMem.cut] using hlen, ?_⟩
      -- the other rounds store behind the index
      rw [hdrop]
      exact List.drop_set_of_lt hle

theorem ircUtilSplitAt_storesAtMost (m : SplitMem) (line max : ℕ) (delim : UInt8) :
    StoresAtMost max m (ircUtilSplitAt m line max delim) := by
  rw [ircUtilSplitAt]
  split
  · exact ⟨fun _ => by simp, by simp⟩
  · next b _ =>
    split
    · refine ⟨fun _ => by simp, fun n m' h => ?_⟩
      cases h
      exact ⟨Nat.zero_le max, rfl, rfl⟩
    · refine ⟨fun h => splitLoop_ne_noRoom (by omega), fun n m' h => ?_⟩
      obtain ⟨-, hbound, hargs⟩ := splitLoop_stores h
      exact ⟨by omega, hargs⟩

theorem parseAt_storesAtMost (m : SplitMem) (line max : ℕ) :
    StoresAtMost max m (parseAt m line max) := by
  rw [parseAt]
  cases hskip : skipCommand (m.buf.drop line) with
  | error e =>
    rw [skipCommand_eq_error hskip]
    exact ⟨fun _ => by simp, by simp⟩
  | ok n => exact ircUtilSplitAt_storesAtMost m (line + n) max SP

end Stores

/-! ## Joined fields -/

/-- Fields that are joined by the separator are given back, all of them, by `irc_util_split`, and by
`parse` behind a command. Whatever the line is, both store at most as many pointers as they may. -/
theorem split_joined :
    (∀ (m : SplitMem) (line max : ℕ) (delim : UInt8) (fs : List CStr), delim ≠ 0 →
      max ≤ m.args.length → Joinable delim max fs → (∃ f ∈ fs, f ≠ []) →
      Stored 0 m.buf line ([delim].intercalate fs) →
      Gives m (ircUtilSplitAt m line max delim) fs) ∧
    (∀ (m : SplitMem) (line max : ℕ) (command : CStr) (fs : List CStr),
      (∀ b ∈ command, isspace b = false) →
      max ≤ m.args.length → Joinable SP max fs → (∃ f ∈ fs, f ≠ []) →
      Stored 0 m.buf line (command ++ SP :: [SP].intercalate fs) →
      Gives m (parseAt m line max) fs) ∧
    (∀ (m : SplitMem) (line max : ℕ) (delim : UInt8),
      StoresAtMost max m (ircUtilSplitAt m line max delim)) ∧
    ∀ (m : SplitMem) (line max : ℕ), StoresAtMost max m (parseAt m line max) := by
  refine ⟨?_, ?_, ircUtilSplitAt_storesAtMost, parseAt_storesAtMost⟩
  · intro m line max delim fs hdelim hmax hfs hne hstored
    have hgives := ircUtilSplitAt_gives hdelim hmax hstored
    rwa [if_neg (intercalate_ne_nil hne), fields_intercalate hfs (by rintro rfl; simp at hne)]
      at hgives
  · intro m line max command fs hcommand hmax hfs hne hstored
    have hgives := parseAt_stored hmax hstored
    rwa [parse_command hcommand, ircUtilSplit, if_neg (intercalate_ne_nil hne),
      parseWords_eq_fields, fields_intercalate hfs (by rintro rfl; simp at hne)] at hgives

/-- The last of two fields has the spaces of the line, and a third place in the array stays free. -/
theorem split_joined_two :
    Gives ⟨cstr "a b c" ++ [0], [none, none, none]⟩
        (ircUtilSplitAt ⟨cstr "a b c" ++ [0], [none, none, none]⟩ 0 2 SP)
        [cstr "a", cstr "b c"] ∧
      Gives ⟨cstr "CMD a b c" ++ [0], [none, none, none]⟩
        (parseAt ⟨cstr "CMD a b c" ++ [0], [none, none, none]⟩ 0 2) [cstr "a", cstr "b c"] := by
  have hjoinable : Joinable SP 2 [cstr "a", cstr "b c"] :=
    joinable_cons.2 ⟨fun _ => by decide,
      joinable_cons.2 ⟨fun h => absurd rfl h, by simp [Joinable]⟩⟩
  have hne : ∃ f ∈ [cstr "a", cstr "b c"], f ≠ [] := ⟨cstr "a", by decide, by decide⟩
  refine ⟨?_, ?_⟩
  · exact split_joined.1 _ 0 2 SP _ (by decide) (by decide) hjoinable hne
      ⟨by decide, [], by decide⟩
  · exact split_joined.2.1 _ 0 2 (cstr "CMD") _ (not_isspace_of_all (by decide)) (by decide)
      hjoinable hne ⟨by decide, [], by decide⟩

end Irccd
