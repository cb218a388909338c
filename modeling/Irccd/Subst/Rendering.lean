import Irccd.Subst.Lookups

/-!
# The text that a template is replaced by

Without the date, commands and attributes, what `irc_subst` writes is the rendering of the
template, if there is space for it and a NUL.

* `render`: what a template is replaced by;
* `ircSubst_eq_render`: the substitution against the rendering.
-/

namespace Irccd.Subst

open Writers

/-! ## The rendering -/

section Render

variable (env : SubstEnv) (subst : IrcSubst)

/-- What a part is replaced by: a keyword or a variable of the environment by its value, if they
are enabled. -/
def renderPart : Part → CStr
  | .char c => [c]
  | .doubled c => [c]
  | .construct token key =>
    if token = 35 ∧ subst.flags.keywords = true then keywordValue subst.keywords key
    else if token = 36 ∧ subst.flags.env = true then (env.getenv key).getD []
    else (Part.construct token key).text

/-- What a template is replaced by. -/
def render (text : CStr) : CStr := (template text).parts.flatMap (renderPart env subst)

end Render

/-- Neither the date nor commands nor attributes are enabled. -/
def IrcSubstFlags.Plain (flags : IrcSubstFlags) : Prop :=
  flags.date = false ∧ flags.shell = false ∧ flags.ircAttrs = false ∧ flags.shellAttrs = false

/-- The key of a construct is not too long. -/
def Part.Short : Part → Prop
  | .construct _ key => key.length < 64
  | _ => True

instance (part : Part) : Decidable part.Short :=
  match part with
  | .char _ => isTrue trivial
  | .doubled _ => isTrue trivial
  | .construct _ key => inferInstanceAs (Decidable (key.length < 64))

/-- Every construct is closed, and its key is not too long. -/
def WellFormed (text : CStr) : Prop :=
  (template text).unclosed = none ∧ ∀ part ∈ (template text).parts, part.Short

instance (text : CStr) : Decidable (WellFormed text) := inferInstanceAs (Decidable (_ ∧ _))

section Rendering

variable {env : SubstEnv} {subst : IrcSubst}

theorem writes_substKey (hplain : subst.flags.Plain) {token : UInt8}
    (htoken : isReserved token = true) (key : CStr) :
    Writes (substKey env subst token key) (renderPart env subst (.construct token key)) := by
  obtain ⟨-, hshell, hirc, hshellAttrs⟩ := hplain
  have hdefault : Writes (substDefault token key) (Part.construct token key).text :=
    writes_substDefault token key
  rcases isReserved_iff.1 htoken with rfl | rfl | rfl | rfl
  · -- `#`
    by_cases hkeywords : subst.flags.keywords = true
    · simpa +decide [substKey, renderPart, hkeywords] using writes_substKeyword subst key
    · simpa +decide [substKey, renderPart, hkeywords] using hdefault
  · -- `@`
    simpa +decide [substKey, renderPart, hirc, hshellAttrs] using hdefault
  · -- `$`
    by_cases henv : subst.flags.env = true
    · simpa +decide [substKey, renderPart, henv] using writes_substEnv env key
    · simpa +decide [substKey, renderPart, henv] using hdefault
  · -- `!`
    simpa +decide [substKey, renderPart, hshell] using hdefault

/-- A part whose key, if it has one, is not too long. -/
def Part.Ok : Part → Prop
  | .char _ => True
  | .doubled _ => True
  | .construct token key => isReserved token = true ∧ key.length < 64

theorem writes_substPart (hplain : subst.flags.Plain) {part : Part} (hok : part.Ok) :
    Writes (substPart env subst part) (renderPart env subst part) := by
  cases part with
  | char c => exact writes_ccat c
  | doubled c => exact writes_ccat c
  | construct token key =>
    rw [substPart, if_neg (Nat.not_le.2 hok.2)]
    exact writes_substKey hplain hok.1 key

/-- The loop writes what each of the parts of the template writes, as far as there is space. -/
theorem fills_substLoop {written : Part → List UInt8} {n : ℕ} {i : CStr} (hn : i.length < n)
    (hclosed : (scan n i).unclosed = none)
    (hparts : ∀ part ∈ (scan n i).parts, Writes (substPart env subst part) (written part)) :
    Fills SubstState.out SubstStop.nomem (substLoop env subst n i)
      ((scan n i).parts.flatMap written) := by
  induction n generalizing i with
  | zero => exact absurd hn (Nat.not_lt_zero _)
  | succ n ih =>
    cases i with
    | nil => exact (emits_pure ()).fills
    | cons c i =>
      intro s hfits
      by_cases hleft : s.out.left = 0
      · rw [substLoop_full hleft]
        exact .inr ⟨hleft, by rw [hleft]; exact Nat.zero_le _, rfl⟩
      cases hfirst : firstPart c i with
      | unclosed token rest =>
        rw [scan, hfirst] at hclosed
        cases hclosed
      | part part behind =>
        have hbehind := length_lt_of_firstPart hfirst
        rw [scan, hfirst] at hclosed hparts ⊢
        rw [substLoop_part hleft hfirst]
        have hrest := ih (by rw [List.length_cons] at hn; omega) hclosed
          fun part hpart => hparts part (List.mem_cons_of_mem _ hpart)
        exact (hparts part List.mem_cons_self).bind_fills (fun _ => hrest) s hfits

end Rendering

/-! ## The substitution -/

section Subst

variable {env : SubstEnv} {subst : IrcSubst}

theorem reserved_of_mem_scan {n : ℕ} {i : CStr} {token : UInt8} {key : CStr}
    (h : .construct token key ∈ (scan n i).parts) : isReserved token = true := by
  induction n generalizing i with
  | zero => cases h
  | succ n ih =>
    cases i with
    | nil => cases h
    | cons c i =>
      rw [scan] at h
      cases hfirst : firstPart c i with
      | unclosed token rest =>
        rw [hfirst] at h
        cases h
      | part part behind =>
        rw [hfirst] at h
        rcases List.mem_cons.1 h with heq | hmem
        · obtain ⟨rfl, -⟩ | ⟨-, rfl, -⟩ | ⟨key, hreserved, rfl, -⟩ := firstPart_part hfirst
          · cases heq
          · cases heq
          · cases heq
            exact hreserved
        · exact ih hmem

theorem WellFormed.ok {text : CStr} (h : WellFormed text) :
    ∀ part ∈ (template text).parts, part.Ok := by
  intro part hpart
  cases part with
  | char c => trivial
  | doubled c => trivial
  | construct token key => exact ⟨reserved_of_mem_scan hpart, h.2 _ hpart⟩

/-- Without the date, the body is the loop over the template, and its end. -/
theorem substBody_apply (hdate : subst.flags.date = false) (text : CStr) (s : SubstState) :
    substBody env subst text s =
      (substLoop env subst (text.length + 1) text >>= fun _ => substEnd) s := by
  rw [substBody, outsz_bind]
  have hinput : substInput env subst s.out.left text = .ok text := by
    rw [substInput, hdate]
    rfl
  rw [hinput]
  rfl

theorem substEnd_full {s : SubstState} (hleft : s.out.left = 0) :
    substEnd s = .error .nomem s := by
  rw [substEnd, outsz_bind, if_pos (by omega)]
  rfl

/-- The NUL is written behind the text. -/
theorem substEnd_apply {s : SubstState} (hfits : s.out.Fits) (hleft : 0 < s.out.left) :
    ∃ out, substEnd s = .ok s.out.pos { s with out } ∧ out.buf.length = s.out.buf.length ∧
      out.buf.take (s.out.pos + 1) = s.out.buf.take s.out.pos ++ [0] := by
  have hone : [(0 : UInt8)].length ≤ s.out.left := hleft
  obtain ⟨out, hstore⟩ := Cursor.exists_store hfits hone
  have hwrote := Cursor.Wrote.of_store hstore hone
  obtain ⟨-, hpos, -, -⟩ := Cursor.store_eq_some hstore
  refine ⟨out, ?_, Cursor.length_store hstore, ?_⟩
  · rw [substEnd, outsz_bind, if_neg (by omega), store_bind hstore]
    show EStateM.Result.ok out.pos _ = _
    rw [hpos]
  · have htake := hwrote.take
    rw [hwrote.pos] at htake
    exact htake

/-- What the end makes of a loop that writes a text, or fills the buffer. -/
theorem substEnd_of_fills {x : SubstM Unit} {text : List UInt8}
    (h : Fills SubstState.out SubstStop.nomem x text) {s : SubstState} (hfits : s.out.Fits) :
    (text.length < s.out.left →
      ∃ s', (x >>= fun _ => substEnd) s = .ok (s.out.pos + text.length) s' ∧
        s'.out.buf.length = s.out.buf.length ∧
        s'.out.buf.take (s.out.pos + text.length + 1) = s.out.buf.take s.out.pos ++ (text ++ [0])) ∧
      (s.out.left ≤ text.length →
        ∃ s', (x >>= fun _ => substEnd) s = .error .nomem s' ∧
          s'.out.buf.length = s.out.buf.length) := by
  have hs := h s hfits
  cases hx : x s with
  | error e s' =>
    rw [hx] at hs
    obtain ⟨rfl, hleft, hlength⟩ := hs
    exact ⟨fun hlt => absurd hleft (Nat.not_le.2 hlt), fun _ => ⟨s', bind_of_error hx, hlength⟩⟩
  | ok u s' =>
    rw [hx] at hs
    rw [bind_of_ok hx]
    rcases hs with hwrote | ⟨hzero, hleft, hlength⟩
    · -- the text is written, and the end needs room for the NUL
      refine ⟨fun hlt => ?_, fun hle => ?_⟩
      · have hpos : 0 < s'.out.left := by
          have := hwrote.left
          omega
        obtain ⟨out, hend, hlength, htake⟩ := substEnd_apply (hwrote.fits hfits) hpos
        refine ⟨_, by rw [hend, hwrote.pos], hlength.trans hwrote.length, ?_⟩
        rw [← hwrote.pos]
        dsimp only
        rw [htake, hwrote.take, List.append_assoc]
      · have hzero : s'.out.left = 0 := by
          have := hwrote.left
          omega
        exact ⟨s', substEnd_full hzero, hwrote.length⟩
    · -- the buffer was full before the end of the text
      refine ⟨fun hlt => absurd hleft (Nat.not_le.2 hlt), fun _ => ?_⟩
      exact ⟨s', substEnd_full hzero, hlength⟩

/-- `out[0] = '\0'` -/
theorem head?_set_zero {buf : List UInt8} (h : 0 < buf.length) : (buf.set 0 0).head? = some 0 := by
  cases buf with
  | nil => cases h
  | cons b buf => rfl

/-- A template whose parts all write what they write: the text and a NUL, or `-ENOMEM`. -/
theorem ircSubst_of_writes {written : Part → List UInt8} {out : List UInt8} {text : CStr}
    (hdate : subst.flags.date = false) (hclosed : (template text).unclosed = none)
    (hparts : ∀ part ∈ (template text).parts, Writes (substPart env subst part) (written part))
    (hout : 0 < out.length) :
    let r := (template text).parts.flatMap written
    let result := ircSubst env subst out text
    (r.length < out.length → result.rc = .ok r.length ∧ result.out.take (r.length + 1) = r ++ [0]) ∧
      (out.length ≤ r.length → result.rc = .error .nomem ∧ result.out.head? = some 0) ∧
      result.out.length = out.length := by
  have hloop : Fills SubstState.out SubstStop.nomem (substLoop env subst (text.length + 1) text)
      ((template text).parts.flatMap written) :=
    fills_substLoop (Nat.lt_succ_self _) hclosed hparts
  have hfits : (⟨out, 0, out.length⟩ : Cursor UInt8).Fits := Nat.zero_add _
  obtain ⟨hok, hfull⟩ := substEnd_of_fills hloop (s := ⟨⟨out, 0, out.length⟩, []⟩) hfits
  simp only [← substBody_apply hdate, Nat.zero_add, List.take_zero, List.nil_append] at hok hfull
  intro r result
  -- the text and its NUL fit, or they do not
  rcases Nat.lt_or_ge r.length out.length with hlt | hge
  · obtain ⟨s', hbody, hlength, htake⟩ := hok hlt
    have hresult : result = ⟨.ok r.length, s'.out.buf, s'.lookups⟩ := by
      show ircSubst env subst out text = _
      rw [ircSubst, if_neg (Nat.ne_of_gt hout), hbody]
    rw [hresult]
    exact ⟨fun _ => ⟨rfl, htake⟩, fun hle => absurd hle (Nat.not_le.2 hlt), hlength⟩
  · obtain ⟨s', hbody, hlength⟩ := hfull hge
    have hresult : result = ⟨.error .nomem, s'.out.buf.set 0 0, s'.lookups⟩ := by
      show ircSubst env subst out text = _
      rw [ircSubst, if_neg (Nat.ne_of_gt hout), hbody]
    rw [hresult]
    refine ⟨fun hlt => absurd hge (Nat.not_le.2 hlt), fun _ => ⟨rfl, ?_⟩, ?_⟩
    · exact head?_set_zero (hlength.trans_gt hout)
    · rw [List.length_set, hlength]

/-- The substitution writes the rendering of a template and a NUL, or it returns `-ENOMEM` and
leaves the empty string, and it never writes outside the buffer. -/
theorem ircSubst_eq_render (env : SubstEnv) (subst : IrcSubst) (out : List UInt8) (text : CStr)
    (hplain : subst.flags.Plain) (hwell : WellFormed text) (hout : 0 < out.length) :
    let r := render env subst text
    let result := ircSubst env subst out text
    (r.length < out.length → result.rc = .ok r.length ∧ result.out.take (r.length + 1) = r ++ [0]) ∧
      (out.length ≤ r.length → result.rc = .error .nomem ∧ result.out.head? = some 0) ∧
      result.rc ≠ .error .overflow ∧ result.out.length = out.length := by
  obtain ⟨hok, hfull, hlength⟩ := ircSubst_of_writes hplain.1 hwell.1
    (fun part hpart => writes_substPart hplain (hwell.ok part hpart)) hout
  intro r result
  refine ⟨hok, hfull, fun hoverflow => ?_, hlength⟩
  rcases Nat.lt_or_ge r.length out.length with hlt | hge
  · cases (hok hlt).1.symm.trans hoverflow
  · cases (hfull hge).1.symm.trans hoverflow

/-- A system without variables and commands, which does not change dates. -/
def bareEnv : SubstEnv := ⟨fun _ text => text, fun _ => none, fun _ _ => none⟩

/-- One keyword is enabled. -/
def greeting : IrcSubst where
  flags := { keywords := true }
  keywords := [⟨cstr "target", some (cstr "hello")⟩]

/-- A keyword behind a doubled token, with space for the text and the NUL. -/
theorem ircSubst_eq_render_greeting :
    (ircSubst bareEnv greeting (List.replicate 16 1) (cstr "##@#\x7btarget\x7d")).rc = .ok 7 :=
  have h := ircSubst_eq_render bareEnv greeting (List.replicate 16 1) (cstr "##@#\x7btarget\x7d")
    ⟨rfl, rfl, rfl, rfl⟩ (by decide) (by decide)
  (h.1 (by decide)).1

/-! ## Escaping -/

/-- The text with its reserved characters doubled. -/
def escape (text : CStr) : CStr :=
  text.flatMap fun c => if isReserved c then [c, c] else [c]

/-- The part of an escaped character. -/
def escapedPart (c : UInt8) : Part := if isReserved c then .doubled c else .char c

theorem firstPart_of_not_reserved {c : UInt8} (h : isReserved c = false) (i : CStr) :
    firstPart c i = .part (.char c) i := by
  rw [firstPart.eq_def, if_pos h]

theorem firstPart_doubled {c : UInt8} (h : isReserved c = true) (i : CStr) :
    firstPart c (c :: i) = .part (.doubled c) i := by
  have hbrace : c ≠ LBRACE := by
    rintro rfl
    exact absurd h (by decide)
  rw [firstPart.eq_def, if_neg (by rw [h]; decide)]
  dsimp only
  rw [if_neg hbrace, if_pos rfl]

/-- An escaped text has one part for every character. -/
theorem scan_escape {text : CStr} {n : ℕ} (hn : (escape text).length < n) :
    scan n (escape text) = ⟨text.map escapedPart, none⟩ := by
  induction text generalizing n with
  | nil => cases n <;> rfl
  | cons c text ih =>
    match n, hn with
    | n + 1, hn =>
      rw [escape, List.flatMap_cons] at hn ⊢
      rw [List.map_cons, escapedPart]
      by_cases hreserved : isReserved c = true
      · -- a reserved byte is doubled, which makes one part
        rw [if_pos hreserved] at hn ⊢
        rw [if_pos hreserved, List.cons_append, List.cons_append, List.nil_append, scan,
          firstPart_doubled hreserved]
        have hrest := @ih n (by
          simp only [List.length_append, List.length_cons, List.length_nil] at hn
          rw [escape]
          omega)
        dsimp only
        rw [← escape, hrest]
        rfl
      · rw [if_neg hreserved] at hn ⊢
        rw [if_neg hreserved, List.cons_append, List.nil_append, scan,
          firstPart_of_not_reserved (by simpa using hreserved)]
        have hrest := @ih n (by
          simp only [List.length_append, List.length_cons, List.length_nil] at hn
          rw [escape]
          omega)
        dsimp only
        rw [← escape, hrest]
        rfl

theorem template_escape (text : CStr) : template (escape text) = ⟨text.map escapedPart, none⟩ :=
  scan_escape (Nat.lt_succ_self _)

/-- The character of an escaped part. -/
def partChar : Part → List UInt8
  | .char c => [c]
  | .doubled c => [c]
  | .construct _ _ => []

/-- The rendering of an escaped text is the text, and nothing is looked up or run. -/
theorem ircSubst_escape (env : SubstEnv) (subst : IrcSubst) (out : List UInt8) (text : CStr)
    (hdate : subst.flags.date = false) (hlen : text.length < out.length) :
    let result := ircSubst env subst out (escape text)
    result.rc = .ok text.length ∧ result.out.take (text.length + 1) = text ++ [0] ∧
      result.lookups = [] := by
  have hparts : ∀ part ∈ (template (escape text)).parts,
      Writes (substPart env subst part) (partChar part) ∧ partLookups subst.flags part = [] := by
    intro part hpart
    rw [template_escape] at hpart
    obtain ⟨c, -, rfl⟩ := List.mem_map.1 hpart
    rw [escapedPart]
    split
    · exact ⟨writes_ccat c, rfl⟩
    · exact ⟨writes_ccat c, rfl⟩
  -- the parts write the bytes of the text again
  have htext : (template (escape text)).parts.flatMap partChar = text := by
    rw [template_escape]
    clear hparts hlen
    induction text with
    | nil => rfl
    | cons c text ih =>
      have hchar : partChar (escapedPart c) = [c] := by
        rw [escapedPart]
        split <;> rfl
      rw [List.map_cons, List.flatMap_cons, hchar, ih, List.singleton_append]
  have hlookups : (ircSubst env subst out (escape text)).lookups = [] := by
    have hbegins := lookups_ircSubst env subst out (escape text)
    have hexpand : expand env subst (escape text) = escape text := by
      rw [expand, hdate]
      rfl
    rw [hexpand, List.flatMap_eq_nil_iff.2 fun part hpart => (hparts part hpart).2] at hbegins
    exact List.prefix_nil.1 hbegins
  obtain ⟨hok, -, -⟩ := ircSubst_of_writes hdate (by rw [template_escape])
    (fun part hpart => (hparts part hpart).1) (Nat.zero_lt_of_lt hlen)
  rw [htext] at hok
  exact ⟨(hok hlen).1, (hok hlen).2, hlookups⟩

/-- Every reserved character, and a brace behind one. -/
theorem ircSubst_escape_tokens :
    (ircSubst bareEnv greeting (List.replicate 16 1) (escape (cstr "#@$!#\x7b"))).rc = .ok 6 :=
  (ircSubst_escape bareEnv greeting (List.replicate 16 1) (cstr "#@$!#\x7b") rfl (by decide)).1

end Subst

end Irccd.Subst
