import Irccd.Server.Basic

/-!
# The symbols before a nickname (`server.c`)

A list of users gives the modes of each by symbols before the nickname. `irc_server_strip` takes the
symbols away in the order of the PREFIX table.

* `leading`, `bare`: the symbols before a nickname, and the nickname;
* `ircServerStrip_eq_bare_iff`: `irc_server_strip` gives the nickname exactly when the symbols are
  in the order of the table;
* `ircServerStrip_bit`: then it sets a bit for each symbol, at the place of the symbol in the table;
* `stripsRun_iff`: both together, with the modes as a whole.
-/

namespace Irccd

theorem getLsbD_bit {k : ℕ} (hk : k < 32) (i : ℕ) : (1#32 <<< k).getLsbD i = decide (i = k) := by
  rw [BitVec.getLsbD_shiftLeft, BitVec.getLsbD_one]
  by_cases hi : i = k
  · subst hi
    simp [hk]
  · rw [decide_eq_false hi]
    by_cases hlt : i < k
    · simp [hlt]
    · have hne : i - k ≠ 0 := by omega
      simp [hne]

/-- The byte is a symbol of the PREFIX table. -/
def isSymbol (prefixes : List IrcServerUmode) (c : UInt8) : Bool := prefixes.any (·.symbol == c)

/-- The symbols at the beginning of a word. -/
def leading (prefixes : List IrcServerUmode) (word : CStr) : CStr :=
  word.takeWhile (isSymbol prefixes)

/-- The word without the symbols at its beginning. -/
def bare (prefixes : List IrcServerUmode) (word : CStr) : CStr :=
  word.dropWhile (isSymbol prefixes)

theorem isSymbol_of_mem {prefixes : List IrcServerUmode} {u : IrcServerUmode} (h : u ∈ prefixes) :
    isSymbol prefixes u.symbol = true :=
  List.any_eq_true.2 ⟨u, h, by simp⟩

/-- The loop of `irc_server_strip` takes away some symbols, in the order of the table. -/
theorem ircServerStripLoop_cut (i : ℕ) (us : List IrcServerUmode) (what : CStr)
    (modes : BitVec 32) :
    ∃ cut : CStr, cut.Sublist (us.map (·.symbol)) ∧
      what = cut ++ (ircServerStripLoop i us what modes).2 := by
  induction us generalizing i what modes with
  | nil => exact ⟨[], List.nil_sublist _, rfl⟩
  | cons u us ih =>
    rw [ircServerStripLoop]
    by_cases hhead : what.head? = some u.symbol
    · obtain ⟨rest, rfl⟩ := List.head?_eq_some_iff.1 hhead
      rw [if_pos hhead]
      obtain ⟨cut, hcut, heq⟩ := ih (i + 1) rest (modes ||| 1#32 <<< i)
      refine ⟨u.symbol :: cut, List.cons_sublist_cons.2 hcut, ?_⟩
      rw [List.cons_append, List.drop_one, List.tail_cons, ← heq]
    · rw [if_neg hhead]
      obtain ⟨cut, hcut, heq⟩ := ih (i + 1) what modes
      exact ⟨cut, hcut.cons _, heq⟩

/-- Symbols in the order of the table that do not begin with the next one do not contain it. -/
theorem takeWhile_sublist_of_head_ne {p : UInt8 → Bool} {what syms : CStr} {d : UInt8}
    (h : (what.takeWhile p).Sublist (d :: syms)) (hhead : what.head? ≠ some d) :
    (what.takeWhile p).Sublist syms := by
  rcases List.sublist_cons_iff.1 h with h | ⟨r, heq, -⟩
  · exact h
  · refine absurd ?_ hhead
    cases what with
    | nil => simp at heq
    | cons c rest =>
      rw [List.takeWhile_cons] at heq
      split at heq
      · rw [(List.cons.inj heq).1]
        rfl
      · cases heq

/-- Symbols that come in the order of the table are all taken away. -/
theorem ircServerStripLoop_of_sublist {p : UInt8 → Bool} (i : ℕ) {us : List IrcServerUmode}
    {what : CStr} (modes : BitVec 32) (hp : ∀ u ∈ us, p u.symbol = true)
    (h : (what.takeWhile p).Sublist (us.map (·.symbol))) :
    (ircServerStripLoop i us what modes).2 = what.dropWhile p := by
  induction us generalizing i what modes with
  | nil =>
    have hnil : what.takeWhile p = [] := List.sublist_nil.1 h
    have hsplit := List.takeWhile_append_dropWhile (p := p) (l := what)
    rw [hnil, List.nil_append] at hsplit
    rw [hsplit]
    rfl
  | cons u us ih =>
    obtain ⟨hu, hus⟩ := List.forall_mem_cons.1 hp
    rw [ircServerStripLoop]
    by_cases hhead : what.head? = some u.symbol
    · obtain ⟨rest, rfl⟩ := List.head?_eq_some_iff.1 hhead
      rw [List.takeWhile_cons_of_pos hu, List.map_cons, List.cons_sublist_cons] at h
      rw [if_pos hhead, List.dropWhile_cons_of_pos hu]
      exact ih (i + 1) _ hus h
    · rw [if_neg hhead]
      exact ih (i + 1) modes hus (takeWhile_sublist_of_head_ne h hhead)

/-- `irc_server_strip` gives the nickname exactly when the symbols before it are in the order of the
table. -/
theorem ircServerStrip_eq_bare_iff {prefixes : List IrcServerUmode} {word : CStr} :
    (ircServerStrip prefixes word).2 = bare prefixes word ↔
      (leading prefixes word).Sublist (prefixes.map (·.symbol)) := by
  constructor
  · intro h
    -- what the loop takes away is all of the symbols, in the order of the table
    obtain ⟨cut, hcut, heq⟩ := ircServerStripLoop_cut 0 prefixes word 0
    have hsplit : leading prefixes word ++ bare prefixes word = word :=
      List.takeWhile_append_dropWhile
    rw [← ircServerStrip, h] at heq
    rw [List.append_cancel_right (hsplit.trans heq)]
    exact hcut
  · exact ircServerStripLoop_of_sublist 0 0 fun u hu => isSymbol_of_mem hu

/-- The loop sets the bit of each symbol that it takes away, counting from `i`. -/
theorem ircServerStripLoop_bit {p : UInt8 → Bool} (i : ℕ) {us : List IrcServerUmode} {what : CStr}
    (modes : BitVec 32) (hlen : i + us.length ≤ 32) (hp : ∀ u ∈ us, p u.symbol = true)
    (hnodup : (us.map (·.symbol)).Nodup) (h : (what.takeWhile p).Sublist (us.map (·.symbol)))
    (j : ℕ) :
    (ircServerStripLoop i us what modes).1.getLsbD j = true ↔
      modes.getLsbD j = true ∨
        ∃ k u, j = i + k ∧ us[k]? = some u ∧ u.symbol ∈ what.takeWhile p := by
  induction us generalizing i what modes with
  | nil => simp [ircServerStripLoop]
  | cons u us ih =>
    obtain ⟨hu, hus⟩ := List.forall_mem_cons.1 hp
    rw [List.map_cons, List.nodup_cons] at hnodup
    obtain ⟨hfresh, hnodup⟩ := hnodup
    rw [List.length_cons] at hlen
    -- the entries of the table are `u`, at `i`, and those of the rest, from `i + 1` on
    have hentries : ∀ run : CStr,
        (∃ k v, j = i + k ∧ (u :: us)[k]? = some v ∧ v.symbol ∈ run) ↔
          (j = i ∧ u.symbol ∈ run) ∨ ∃ k v, j = i + 1 + k ∧ us[k]? = some v ∧ v.symbol ∈ run := by
      intro run
      constructor
      · rintro ⟨_ | k, v, rfl, hv, hrun⟩
        · obtain rfl : u = v := by simpa using hv
          exact .inl ⟨rfl, hrun⟩
        · exact .inr ⟨k, v, by omega, by simpa using hv, hrun⟩
      · rintro (⟨rfl, hrun⟩ | ⟨k, v, rfl, hv, hrun⟩)
        · exact ⟨0, u, rfl, rfl, hrun⟩
        · exact ⟨k + 1, v, by omega, by simpa using hv, hrun⟩
    rw [ircServerStripLoop, hentries]
    by_cases hhead : what.head? = some u.symbol
    · obtain ⟨rest, rfl⟩ := List.head?_eq_some_iff.1 hhead
      rw [List.takeWhile_cons_of_pos hu, List.map_cons, List.cons_sublist_cons] at h
      rw [if_pos hhead, List.takeWhile_cons_of_pos hu, List.drop_one, List.tail_cons,
        ih (i + 1) _ (by omega) hus hnodup h, BitVec.getLsbD_or, Bool.or_eq_true,
        getLsbD_bit (by omega), decide_eq_true_iff, or_assoc]
      refine or_congr_right (or_congr (by simp) ?_)
      -- the symbols of the rest differ from that of `u`
      refine exists_congr fun k => exists_congr fun v => and_congr_right fun _ =>
        and_congr_right fun hv => ?_
      have hne : v.symbol ≠ u.symbol := fun heq =>
        hfresh (heq ▸ List.mem_map.2 ⟨v, List.mem_of_getElem? hv, rfl⟩)
      simp [hne]
    · have h' := takeWhile_sublist_of_head_ne h hhead
      rw [if_neg hhead, ih (i + 1) _ (by omega) hus hnodup h']
      -- the symbol of `u` does not occur, and its bit is not set
      have hnot : u.symbol ∉ what.takeWhile p := fun hmem => hfresh (h'.subset hmem)
      simp [hnot]

/-- `irc_server_strip` sets the bit `i` exactly when the symbol of the entry `i` of the table is one
of those before the nickname. -/
theorem ircServerStrip_bit {prefixes : List IrcServerUmode} {word : CStr}
    (hlen : prefixes.length ≤ 32) (hnodup : (prefixes.map (·.symbol)).Nodup)
    (h : (leading prefixes word).Sublist (prefixes.map (·.symbol))) (i : ℕ) :
    (ircServerStrip prefixes word).1.getLsbD i = true ↔
      ∃ u, prefixes[i]? = some u ∧ u.symbol ∈ leading prefixes word := by
  rw [ircServerStrip,
    ircServerStripLoop_bit 0 0 (by omega) (fun u hu => isSymbol_of_mem hu) hnodup h]
  simp [leading]

/-! ## The modes of a run of symbols -/

/-- The modes for the symbols of a run, by the places of the symbols in the table, counting
from `i`. -/
def runModesFrom : ℕ → List IrcServerUmode → CStr → BitVec 32
  | _, [], _ => 0
  | i, u :: us, run =>
    (if u.symbol ∈ run then 1#32 <<< i else 0) ||| runModesFrom (i + 1) us run

/-- The modes for the symbols of a run. -/
def runModes (prefixes : List IrcServerUmode) (run : CStr) : BitVec 32 :=
  runModesFrom 0 prefixes run

/-- The symbols before the nickname are taken away, whatever their order, and give its modes. -/
def StripsRun (prefixes : List IrcServerUmode) (word : CStr) : Prop :=
  ircServerStrip prefixes word = (runModes prefixes (leading prefixes word), bare prefixes word)

/-- A symbol that is not in the table makes no difference. -/
theorem runModesFrom_cons {c : UInt8} {us : List IrcServerUmode} (hc : c ∉ us.map (·.symbol))
    (i : ℕ) (run : CStr) : runModesFrom i us (c :: run) = runModesFrom i us run := by
  induction us generalizing i with
  | nil => rfl
  | cons u us ih =>
    rw [List.map_cons, List.mem_cons, not_or] at hc
    rw [runModesFrom, runModesFrom, ih hc.2]
    simp [Ne.symm hc.1]

/-- The loop gives the modes for the symbols, when they come in the order of the table. -/
theorem ircServerStripLoop_modes {p : UInt8 → Bool} (i : ℕ) {us : List IrcServerUmode}
    {what : CStr} (modes : BitVec 32) (hp : ∀ u ∈ us, p u.symbol = true)
    (hnodup : (us.map (·.symbol)).Nodup) (h : (what.takeWhile p).Sublist (us.map (·.symbol))) :
    (ircServerStripLoop i us what modes).1 = modes ||| runModesFrom i us (what.takeWhile p) := by
  induction us generalizing i what modes with
  | nil => simp [ircServerStripLoop, runModesFrom]
  | cons u us ih =>
    obtain ⟨hu, hus⟩ := List.forall_mem_cons.1 hp
    rw [List.map_cons, List.nodup_cons] at hnodup
    obtain ⟨hfresh, hnodup⟩ := hnodup
    rw [ircServerStripLoop, runModesFrom]
    by_cases hhead : what.head? = some u.symbol
    · obtain ⟨rest, rfl⟩ := List.head?_eq_some_iff.1 hhead
      rw [List.takeWhile_cons_of_pos hu, List.map_cons, List.cons_sublist_cons] at h
      rw [if_pos hhead, List.takeWhile_cons_of_pos hu, List.drop_one, List.tail_cons,
        ih (i + 1) _ hus hnodup h, runModesFrom_cons hfresh, if_pos List.mem_cons_self,
        BitVec.or_assoc]
    · have h' := takeWhile_sublist_of_head_ne h hhead
      -- the symbol of `u` does not occur
      have hnot : u.symbol ∉ what.takeWhile p := fun hmem => hfresh (h'.subset hmem)
      rw [if_neg hhead, ih (i + 1) _ hus hnodup h', if_neg hnot]
      simp

/-- `irc_server_strip` takes away the symbols before a nickname, and gives their modes, if and only
if the symbols are in the order of the table. -/
theorem stripsRun_iff (prefixes : List IrcServerUmode) (word : CStr)
    (hnodup : (prefixes.map (·.symbol)).Nodup) :
    StripsRun prefixes word ↔ (leading prefixes word).Sublist (prefixes.map (·.symbol)) := by
  rw [← ircServerStrip_eq_bare_iff, StripsRun, Prod.ext_iff]
  refine ⟨And.right, fun h => ⟨?_, h⟩⟩
  have hmodes := ircServerStripLoop_modes 0 0 (fun u hu => isSymbol_of_mem hu) hnodup
    (ircServerStrip_eq_bare_iff.1 h)
  simpa [ircServerStrip, runModes, leading] using hmodes

/-- The table of operators and voices. -/
def voiceTable : List IrcServerUmode := [⟨111, 64⟩, ⟨118, 43⟩]

theorem stripsRun_opVoice : StripsRun voiceTable (cstr "@+francis") :=
  (stripsRun_iff voiceTable _ (by decide)).2 (by decide)

/-- The symbols of `+@francis` are not in the order of the table. -/
theorem not_forall_stripsRun :
    ¬ ∀ (prefixes : List IrcServerUmode) (word : CStr),
      (prefixes.map (·.symbol)).Nodup → StripsRun prefixes word := by
  intro h
  have hstrip := h voiceTable (cstr "+@francis") (by decide)
  rw [StripsRun] at hstrip
  exact absurd hstrip (by decide)

end Irccd
