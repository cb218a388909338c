import Irccd.Conn.Msg
import Irccd.Foundations.Fields
import Irccd.Foundations.Terminated
import Mathlib.Data.List.TakeWhile

/-!
# Parsing in place (`conn.c`)

`irc__conn_msg_parse` cuts its private copy of the line with NULs, and keeps pointers into it.

* `MsgBuf`: the copy and the pointers, as offsets;
* `ircConnMsgParseAt`: `irc__conn_msg_parse` on them;
* `formatMsg`: the line of a message;
* `parseArgsAt_stored`: the loop stores the strings that `parseArgs` gives;
* `ircConnMsgParseAt_formatMsg`: a message that is formatted is parsed.
-/

namespace Irccd

open Terminated

/-- `struct conn_msg`, with its pointers as offsets into `buf`. The copy of the line has its
terminating NUL. -/
structure MsgBuf where
  buf : List UInt8
  pfx : Option ℕ
  cmd : Option ℕ
  args : List ℕ
  deriving DecidableEq

/-- The C string at an offset. -/
def cstrAt (buf : List UInt8) (i : ℕ) : CStr := strAt 0 buf i

/-- `irc__conn_msg_scan (line, str)`: the buffer, `*str` and `*line` afterwards. -/
def ircConnMsgScanAt (buf : List UInt8) (line : ℕ) : List UInt8 × ℕ × ℕ :=
  let text := cstrAt buf line
  if SP ∈ text then
    let p := line + (text.takeWhile (· != SP)).length
    (buf.set p 0, line, p + 1)
  else (buf, line, line + text.length)

/-- The `while (*ptr)` loop of `irc__conn_msg_parse`: the buffer and the pointers that it adds. A
round leaves a shorter line, which bounds the number of rounds. -/
def parseArgsAt : ℕ → List UInt8 → ℕ → List UInt8 × List ℕ
  | 0, buf, _ => (buf, [])
  | fuel + 1, buf, ptr =>
    match cstrAt buf ptr with
    | [] => (buf, [])
    | c :: line =>
      if c = 58 then
        -- the rest of the line is the last argument, and the loop meets the end
        let (buf, args) := parseArgsAt fuel buf (ptr + (c :: line).length)
        (buf, (ptr + 1) :: args)
      else
        let (buf, str, ptr) := ircConnMsgScanAt buf ptr
        let (buf, args) := parseArgsAt fuel buf ptr
        (buf, str :: args)

/-- `irc__conn_msg_parse`: the status and the message. -/
def ircConnMsgParseAt (line : List UInt8) (linesz : ℕ) : ℤ × MsgBuf :=
  let buf := strndup line linesz ++ [0]
  let (buf, pfx, ptr) :=
    if buf.head? = some 58 then
      let (buf, str, ptr) := ircConnMsgScanAt buf 1
      (buf, some str, ptr)
    else (buf, none, 0)
  let (buf, cmd, ptr) := ircConnMsgScanAt buf ptr
  let (buf, args) := parseArgsAt (cstrAt buf ptr).length buf ptr
  (0, { buf, pfx, cmd := some cmd, args })

namespace MsgBuf

variable (m : MsgBuf)

/-- The pointers of the message. -/
def pointers : List ℕ := m.pfx.toList ++ m.cmd.toList ++ m.args

end MsgBuf

/-! ## One word -/

section Scan

variable {line : CStr}

theorem cstrAt_length (done : List UInt8) (hline : 0 ∉ line) :
    cstrAt (done ++ (line ++ [0])) done.length = line :=
  (stored_length done [] hline).strAt_eq

theorem ircConnMsgScan_of_mem (h : SP ∈ line) :
    line = (ircConnMsgScan line).1 ++ SP :: (ircConnMsgScan line).2 := Fields.eq_append_of_mem h

theorem ircConnMsgScan_of_not_mem (h : SP ∉ line) : ircConnMsgScan line = (line, []) := by
  have hall : ∀ c ∈ line, (c != SP) = true := fun c hc => by
    rw [bne_iff_ne]
    rintro rfl
    exact h hc
  rw [ircConnMsgScan, List.takeWhile_eq_self_iff.2 hall, List.dropWhile_eq_nil_iff.2 hall,
    List.drop_nil]

theorem not_mem_ircConnMsgScan (hline : 0 ∉ line) :
    0 ∉ (ircConnMsgScan line).1 ∧ 0 ∉ (ircConnMsgScan line).2 := by
  refine ⟨fun h => hline (List.takeWhile_subset _ h), fun h => hline ?_⟩
  exact (List.dropWhile_sublist _).subset (List.mem_of_mem_drop h)

/-- A word is cut off the line. It is stored whatever becomes of the buffer behind it, except that
the last word needs the NUL that ends the line. -/
theorem ircConnMsgScanAt_stored (done : List UInt8) (hline : 0 ∉ line) :
    ∃ cut, ircConnMsgScanAt (done ++ (line ++ [0])) done.length =
        (done ++ cut ++ ((ircConnMsgScan line).2 ++ [0]), done.length, (done ++ cut).length) ∧
      (line = [] → cut = []) ∧ ∀ tail, ((ircConnMsgScan line).2 = [] → tail = [0]) →
        Stored 0 (done ++ cut ++ tail) done.length (ircConnMsgScan line).1 := by
  rw [ircConnMsgScanAt, cstrAt_length done hline]
  by_cases hsp : SP ∈ line
  · -- the NUL that replaces the space ends the word
    have hset : ∀ word rest : CStr, (done ++ (word ++ SP :: rest ++ [0])).set
        (done.length + word.length) 0 = done ++ (word ++ [0]) ++ (rest ++ [0]) := by
      intro word rest
      rw [List.set_append_right _ _ (by omega), Nat.add_sub_cancel_left, List.append_assoc,
        List.set_append_right _ _ (Nat.le_refl _), Nat.sub_self]
      simp
    have hcut := hset (ircConnMsgScan line).1 (ircConnMsgScan line).2
    rw [← ircConnMsgScan_of_mem hsp] at hcut
    refine ⟨(ircConnMsgScan line).1 ++ [0], ?_, by rintro rfl; simp at hsp, fun tail _ => ?_⟩
    · rw [if_pos hsp, ← hcut]
      simp only [List.length_append, List.length_singleton, ← Nat.add_assoc]
      rfl
    · have hstored := stored_length (z := (0 : UInt8)) done tail (not_mem_ircConnMsgScan hline).1
      simpa using hstored
  · -- the last word ends with the line
    refine ⟨line, ?_, id, fun tail htail => ?_⟩
    · rw [if_neg hsp, ircConnMsgScan_of_not_mem hsp]
      simp
    · rw [ircConnMsgScan_of_not_mem hsp] at htail ⊢
      obtain rfl := htail rfl
      have hstored := stored_length (z := (0 : UInt8)) done [] hline
      simpa using hstored

end Scan

/-! ## The arguments -/

/-- The loop stores the arguments, and leaves what is before them. At the end of the line it changes
nothing. -/
theorem parseArgsAt_stored (fuel : ℕ) (done : List UInt8) {line : CStr} (hline : 0 ∉ line) :
    ∃ tail args, parseArgsAt fuel (done ++ (line ++ [0])) done.length = (done ++ tail, args) ∧
      (line = [] → tail = [0]) ∧
      List.Forall₂ (Stored 0 (done ++ tail)) args (parseArgs fuel line) := by
  induction fuel generalizing done line with
  | zero => exact ⟨line ++ [0], [], rfl, by rintro rfl; rfl, .nil⟩
  | succ fuel ih =>
    cases line with
    | nil =>
      refine ⟨[0], [], ?_, fun _ => rfl, .nil⟩
      rw [parseArgsAt, cstrAt_length done hline]
      rfl
    | cons c line =>
      rw [parseArgsAt, cstrAt_length done hline, parseArgs]
      dsimp only
      by_cases hcolon : c = 58
      · -- the loop meets the end behind the last argument
        obtain ⟨tail, args, heq, htail, hargs⟩ := @ih (done ++ c :: line) [] (by simp)
        obtain rfl := htail rfl
        have hnil : parseArgs fuel [] = [] := by cases fuel <;> rfl
        rw [hnil] at hargs
        cases hargs
        have hbuf : done ++ (c :: line ++ [0]) = done ++ c :: line ++ ([] ++ [0]) := by simp
        have hptr : done.length + (c :: line).length = (done ++ c :: line).length := by simp
        have hstored : Stored 0 (done ++ (c :: line ++ [0])) (done.length + 1) line := by
          have h := stored_length (z := (0 : UInt8)) (done ++ [c]) []
            (fun h => hline (List.mem_cons_of_mem _ h))
          simpa using h
        rw [if_pos hcolon, if_pos hcolon, hptr, hbuf, heq]
        exact ⟨c :: line ++ [0], [done.length + 1], by simp, by simp, .cons hstored .nil⟩
      · obtain ⟨cut, hscan, -, hstored⟩ := ircConnMsgScanAt_stored done hline
        obtain ⟨tail, args, heq, htail, hargs⟩ :=
          ih (done ++ cut) (not_mem_ircConnMsgScan hline).2
        rw [if_neg hcolon, if_neg hcolon, hscan, heq, List.append_assoc]
        rw [List.append_assoc] at hargs
        exact ⟨cut ++ tail, done.length :: args, rfl, by simp,
          .cons (List.append_assoc done cut tail ▸ hstored tail htail) hargs⟩

/-- The command is followed by the arguments. -/
theorem parseCmdAt_stored (done : List UInt8) {line : CStr} (hline : 0 ∉ line) :
    ∃ buf ptr tail args,
      ircConnMsgScanAt (done ++ (line ++ [0])) done.length = (buf, done.length, ptr) ∧
      parseArgsAt (cstrAt buf ptr).length buf ptr = (done ++ tail, args) ∧
      (line = [] → tail = [0]) ∧
      Stored 0 (done ++ tail) done.length (ircConnMsgScan line).1 ∧
      List.Forall₂ (Stored 0 (done ++ tail)) args
        (parseArgs (ircConnMsgScan line).2.length (ircConnMsgScan line).2) := by
  obtain ⟨cut, hscan, hcut, hstored⟩ := ircConnMsgScanAt_stored done hline
  have hrest := (not_mem_ircConnMsgScan hline).2
  obtain ⟨tail, args, heq, htail, hargs⟩ :=
    parseArgsAt_stored (ircConnMsgScan line).2.length (done ++ cut) hrest
  refine ⟨_, _, cut ++ tail, args, hscan, ?_, ?_, ?_, ?_⟩
  · rw [cstrAt_length _ hrest, heq, List.append_assoc]
  · intro hnil
    rw [hcut hnil, List.nil_append]
    exact htail (by rw [hnil]; rfl)
  · rw [← List.append_assoc]
    exact hstored tail htail
  · rw [← List.append_assoc]
    exact hargs

/-! ## The message -/

/-- The pointers of the message point to its strings, inside the copy of the line. -/
structure MsgBuf.Holds (m : MsgBuf) (msg : ConnMsg) : Prop where
  pfx : m.pfx.map (cstrAt m.buf) = msg.pfx
  cmd : m.cmd.map (cstrAt m.buf) = some msg.cmd
  args : m.args.map (cstrAt m.buf) = msg.args
  inside : ∀ i ∈ m.pointers, i < m.buf.length

theorem map_cstrAt_of_stored {buf : List UInt8} {is : List ℕ} {ss : List CStr}
    (h : List.Forall₂ (Stored 0 buf) is ss) :
    is.map (cstrAt buf) = ss ∧ ∀ i ∈ is, i < buf.length := by
  induction h with
  | nil => exact ⟨rfl, by simp⟩
  | cons hstored _ ih =>
    have hlt := hstored.lt_length
    refine ⟨?_, List.forall_mem_cons.2 ⟨by omega, ih.2⟩⟩
    rw [List.map_cons, ih.1]
    exact congrArg (· :: _) hstored.strAt_eq

theorem MsgBuf.holds_of_stored {buf : List UInt8} {pfx : Option ℕ} {cmd : ℕ} {args : List ℕ}
    {msg : ConnMsg} (hpfx : List.Forall₂ (Stored 0 buf) pfx.toList msg.pfx.toList)
    (hcmd : Stored 0 buf cmd msg.cmd) (hargs : List.Forall₂ (Stored 0 buf) args msg.args) :
    MsgBuf.Holds ⟨buf, pfx, some cmd, args⟩ msg := by
  obtain ⟨hpfxs, hpfxIn⟩ := map_cstrAt_of_stored hpfx
  obtain ⟨hargss, hargsIn⟩ := map_cstrAt_of_stored hargs
  have hlt := hcmd.lt_length
  refine ⟨?_, congrArg some hcmd.strAt_eq, hargss, ?_⟩
  · cases pfx with
    | none =>
      cases hp : msg.pfx with
      | none => rfl
      | some p => simp [hp] at hpfxs
    | some i =>
      cases hp : msg.pfx with
      | none => simp [hp] at hpfxs
      | some p => simpa [hp] using hpfxs
  · intro i hi
    simp only [pointers, List.mem_append, Option.toList_some, List.mem_singleton] at hi
    rcases hi with (hi | rfl) | hi
    · exact hpfxIn i hi
    · exact Nat.lt_of_le_of_lt (Nat.le_add_right _ _) hlt
    · exact hargsIn i hi

/-- `irc__conn_msg_parse` in place gives the message of `ircConnMsgParse`. -/
theorem ircConnMsgParseAt_holds (line : List UInt8) (linesz : ℕ) :
    (ircConnMsgParseAt line linesz).1 = (ircConnMsgParse line linesz).1 ∧
      (ircConnMsgParseAt line linesz).2.Holds (ircConnMsgParse line linesz).2 := by
  refine ⟨rfl, ?_⟩
  have hbuf : 0 ∉ strndup line linesz := fun h => by
    have := List.mem_takeWhile_imp h
    simp at this
  unfold ircConnMsgParseAt ircConnMsgParse
  generalize strndup line linesz = text at hbuf
  by_cases hcolon : text.head? = some 58
  · -- a prefix is stored first
    obtain ⟨line, rfl⟩ : ∃ line, text = 58 :: line := by
      cases text with
      | nil => simp at hcolon
      | cons c line => exact ⟨line, by simpa using hcolon⟩
    have hline : 0 ∉ line := fun h => hbuf (List.mem_cons_of_mem _ h)
    obtain ⟨cut, hscan, -, hstored⟩ := ircConnMsgScanAt_stored [58] hline
    obtain ⟨buf, ptr, tail, args, hcmd, hargs, htail, hcmdStored, hargsStored⟩ :=
      parseCmdAt_stored ([58] ++ cut) (not_mem_ircConnMsgScan hline).2
    have hscan' : ircConnMsgScanAt (58 :: line ++ [0]) 1 = _ := hscan
    simp only [List.cons_append, List.head?_cons, if_true]
    rw [← List.cons_append, hscan']
    dsimp only
    rw [hcmd]
    dsimp only
    rw [hargs]
    exact MsgBuf.holds_of_stored (.cons (hstored tail htail) .nil) hcmdStored hargsStored
  · have hhead : ¬ (text ++ [0]).head? = some 58 := by
      cases text with
      | nil => simp
      | cons c line => simpa using hcolon
    obtain ⟨buf, ptr, tail, args, hcmd, hargs, -, hcmdStored, hargsStored⟩ :=
      parseCmdAt_stored [] hbuf
    simp only [List.nil_append, List.length_nil] at hcmd hargs hcmdStored hargsStored
    simp only [if_neg hhead, hcmd, hargs]
    split
    · rename_i line
      exact absurd rfl hcolon
    · exact MsgBuf.holds_of_stored .nil hcmdStored hargsStored

/-! ## Formatting -/

/-- A word of a message: the command, an argument or the prefix. -/
def MsgWord (w : CStr) : Prop := w ≠ [] ∧ SP ∉ w ∧ 0 ∉ w

instance (w : CStr) : Decidable (MsgWord w) := inferInstanceAs (Decidable (_ ∧ _))

/-- An argument, and the command, do not start with a colon. -/
def MsgArg (w : CStr) : Prop := MsgWord w ∧ w.head? ≠ some 58

instance (w : CStr) : Decidable (MsgArg w) := inferInstanceAs (Decidable (_ ∧ _))

/-- The end of a message: its arguments, and the one that may have spaces. -/
def formatArgs (args : List CStr) (trailing : Option CStr) : CStr :=
  args.flatMap (SP :: ·) ++ (trailing.map (cstr " :" ++ ·)).getD []

/-- The line of a message. -/
def formatMsg (pfx : Option CStr) (cmd : CStr) (args : List CStr) (trailing : Option CStr) : CStr :=
  (pfx.map fun p => cstr ":" ++ p ++ cstr " ").getD [] ++ cmd ++ formatArgs args trailing

section Format

variable {pfx trailing : Option CStr} {cmd w : CStr} {args : List CStr}

/-- A word is cut off, and the space behind it. -/
theorem ircConnMsgScan_append (hw : SP ∉ w) (rest : CStr) :
    ircConnMsgScan (w ++ SP :: rest) = (w, rest) := by
  have hpos : ∀ c ∈ w, (c != SP) = true := fun c hc => by
    rw [bne_iff_ne]
    rintro rfl
    exact hw hc
  rw [ircConnMsgScan, takeWhile_of_not_mem hw, List.dropWhile_append_of_pos hpos]
  simp

/-- After the command come the arguments, without the first space. -/
theorem ircConnMsgScan_formatArgs (args : List CStr) (trailing : Option CStr) (hw : SP ∉ w) :
    ircConnMsgScan (w ++ formatArgs args trailing) = (w, (formatArgs args trailing).drop 1) := by
  cases args with
  | cons a args =>
    have hcons : formatArgs (a :: args) trailing = SP :: (a ++ formatArgs args trailing) := by
      simp [formatArgs]
    rw [hcons, ircConnMsgScan_append hw]
    rfl
  | nil =>
    cases trailing with
    | some text =>
      have hcons : formatArgs [] (some text) = SP :: (cstr ":" ++ text) := rfl
      rw [hcons, ircConnMsgScan_append hw]
      rfl
    | none =>
      have hnil : formatArgs [] none = [] := rfl
      rw [hnil, List.append_nil, ircConnMsgScan_of_not_mem hw]
      rfl

/-- The loop reads the arguments back. -/
theorem parseArgs_formatArgs (hargs : ∀ a ∈ args, MsgArg a) (trailing : Option CStr) {fuel : ℕ}
    (hfuel : (formatArgs args trailing).length ≤ fuel + 1) :
    parseArgs fuel ((formatArgs args trailing).drop 1) = args ++ trailing.toList := by
  induction args generalizing fuel with
  | nil =>
    cases trailing with
    | none =>
      have hnil : (formatArgs [] none).drop 1 = [] := rfl
      rw [hnil]
      cases fuel <;> rfl
    | some text =>
      have hcons : (formatArgs [] (some text)).drop 1 = 58 :: text := rfl
      obtain ⟨fuel, rfl⟩ : ∃ n, fuel = n + 1 := ⟨fuel - 1, by
        simp [formatArgs, cstr] at hfuel
        omega⟩
      rw [hcons, parseArgs, if_pos rfl]
      rfl
  | cons a args ih =>
    obtain ⟨⟨⟨hne, hsp, -⟩, hcolon⟩, hrest⟩ := List.forall_mem_cons.1 hargs
    have hcons : formatArgs (a :: args) trailing = SP :: (a ++ formatArgs args trailing) := by
      simp [formatArgs]
    rw [hcons, List.drop_one, List.tail_cons]
    rw [hcons] at hfuel
    rw [List.length_cons, List.length_append] at hfuel
    obtain ⟨c, a, rfl⟩ := List.exists_cons_of_ne_nil hne
    rw [List.length_cons] at hfuel
    obtain ⟨fuel, rfl⟩ : ∃ n, fuel = n + 1 := ⟨fuel - 1, by omega⟩
    -- the argument does not start with a colon, and ends at the next space
    have hscan := ircConnMsgScan_formatArgs args trailing hsp
    rw [List.cons_append] at hscan ⊢
    rw [parseArgs, if_neg (by simpa using hcolon), hscan, ih hrest (by omega)]
    rfl

theorem not_mem_formatArgs (hargs : ∀ a ∈ args, MsgArg a) (htrailing : ∀ t ∈ trailing, 0 ∉ t) :
    0 ∉ formatArgs args trailing := by
  rw [formatArgs, List.mem_append, List.mem_flatMap]
  rintro (⟨a, ha, h⟩ | h)
  · rcases List.mem_cons.1 h with h | h
    · exact absurd h (by decide)
    · exact (hargs a ha).1.2.2 h
  · cases trailing with
    | none => simp at h
    | some text =>
      rcases List.mem_append.1 h with h | h
      · exact absurd h (by decide)
      · exact htrailing text rfl h

theorem not_mem_formatMsg (hpfx : ∀ p ∈ pfx, SP ∉ p ∧ 0 ∉ p) (hcmd : MsgArg cmd)
    (hargs : ∀ a ∈ args, MsgArg a) (htrailing : ∀ t ∈ trailing, 0 ∉ t) :
    0 ∉ formatMsg pfx cmd args trailing := by
  rw [formatMsg, List.mem_append, List.mem_append]
  rintro ((h | h) | h)
  · cases pfx with
    | none => simp at h
    | some p =>
      rcases List.mem_append.1 h with h | h
      · rcases List.mem_append.1 h with h | h
        · exact absurd h (by decide)
        · exact (hpfx p rfl).2 h
      · exact absurd h (by decide)
  · exact hcmd.1.2.2 h
  · exact not_mem_formatArgs hargs htrailing h

/-- A line without a NUL is copied whole, and nothing of what follows it. -/
theorem strndup_append {line : CStr} (hline : 0 ∉ line) (rest : List UInt8) :
    strndup (line ++ rest) line.length = line := by
  rw [strndup, List.take_left, List.takeWhile_eq_self_iff]
  intro c hc
  rw [bne_iff_ne]
  rintro rfl
  exact hline hc

theorem ircConnMsgParse_formatMsg (hpfx : ∀ p ∈ pfx, SP ∉ p ∧ 0 ∉ p) (hcmd : MsgArg cmd)
    (hargs : ∀ a ∈ args, MsgArg a) (htrailing : ∀ t ∈ trailing, 0 ∉ t) (rest : List UInt8) :
    ircConnMsgParse (formatMsg pfx cmd args trailing ++ rest)
        (formatMsg pfx cmd args trailing).length =
      (0, ⟨pfx, cmd, args ++ trailing.toList⟩) := by
  rw [ircConnMsgParse, strndup_append (not_mem_formatMsg hpfx hcmd hargs htrailing)]
  have hscan := ircConnMsgScan_formatArgs args trailing hcmd.1.2.1
  have hread : parseArgs ((formatArgs args trailing).drop 1).length
      ((formatArgs args trailing).drop 1) = args ++ trailing.toList :=
    parseArgs_formatArgs hargs trailing (by rw [List.length_drop]; omega)
  cases pfx with
  | some p =>
    have hcons : formatMsg (some p) cmd args trailing =
        58 :: (p ++ SP :: (cmd ++ formatArgs args trailing)) := by
      have hcolon : cstr ":" = [58] := rfl
      have hspace : cstr " " = [SP] := rfl
      simp [formatMsg, hcolon, hspace]
    simp only [hcons, ircConnMsgScan_append (hpfx p rfl).1, hscan, hread]
  | none =>
    have hnil : formatMsg none cmd args trailing = cmd ++ formatArgs args trailing := by
      simp [formatMsg]
    obtain ⟨c, word, rfl⟩ := List.exists_cons_of_ne_nil hcmd.1.1
    have hcolon : c ≠ 58 := fun h => hcmd.2 (by rw [h]; rfl)
    rw [hnil]
    dsimp only
    split
    · rename_i line heq
      exact absurd (List.cons.inj heq).1 hcolon
    · simp only [hscan, hread]

/-- A message that is formatted is parsed: the pointers point to the prefix, the command, the
arguments and the trailing text, inside the copy of the line. -/
theorem ircConnMsgParseAt_formatMsg (hpfx : ∀ p ∈ pfx, MsgWord p) (hcmd : MsgArg cmd)
    (hargs : ∀ a ∈ args, MsgArg a) (htrailing : ∀ t ∈ trailing, 0 ∉ t) (rest : List UInt8) :
    let line := formatMsg pfx cmd args trailing
    let parsed := ircConnMsgParseAt (line ++ rest) line.length
    parsed.1 = 0 ∧ parsed.2.Holds ⟨pfx, cmd, args ++ trailing.toList⟩ ∧
      parsed.2.args.length = args.length + trailing.toList.length := by
  intro line parsed
  have hparse : ircConnMsgParse (line ++ rest) line.length =
      (0, ⟨pfx, cmd, args ++ trailing.toList⟩) :=
    ircConnMsgParse_formatMsg (fun p hp => (hpfx p hp).2) hcmd hargs htrailing rest
  obtain ⟨hstatus, hholds⟩ : parsed.1 = (ircConnMsgParse (line ++ rest) line.length).1 ∧
      parsed.2.Holds (ircConnMsgParse (line ++ rest) line.length).2 :=
    ircConnMsgParseAt_holds (line ++ rest) line.length
  rw [hparse] at hstatus hholds
  -- there are as many pointers as arguments
  have hlength := congrArg List.length hholds.args
  rw [List.length_map, List.length_append] at hlength
  exact ⟨hstatus, hholds, hlength⟩

/-- A KICK whose reason starts with a colon. -/
theorem ircConnMsgParseAt_formatMsg_kick :
    let line := cstr ":a!b@c KICK #x bob ::bad  boy"
    let parsed := ircConnMsgParseAt (line ++ [0]) line.length
    parsed.1 = 0 ∧
      parsed.2.Holds
        ⟨some (cstr "a!b@c"), cstr "KICK", [cstr "#x", cstr "bob", cstr ":bad  boy"]⟩ ∧
      parsed.2.args.length = 3 :=
  have hpfx : ∀ p ∈ some (cstr "a!b@c"), MsgWord p := by decide
  have hcmd : MsgArg (cstr "KICK") := by decide
  have hargs : ∀ a ∈ [cstr "#x", cstr "bob"], MsgArg a := by decide
  have htrailing : ∀ t ∈ some (cstr ":bad  boy"), 0 ∉ t := by decide
  ircConnMsgParseAt_formatMsg hpfx hcmd hargs htrailing [0]

end Format

end Irccd
