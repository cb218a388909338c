import Irccd.Foundations.Terminated
import Irccd.Subst.Rendering

/-!
# Constructs without a closing brace

A construct that is not closed is found when the loop of `irc_subst` gets there. At the end of the
template, right behind the opening brace, nothing is found.

* `scan_text`: the text of the parts of a template;
* `ircSubst_inval_iff`: when a construct that is not closed is an error.
-/

namespace Irccd.Subst

open Writers

/-- The text of the parts of a template. -/
def Template.closedText (t : Template) : CStr := t.parts.flatMap Part.text

/-- The text of the construct that is not closed. -/
def Template.unclosedText (t : Template) : CStr :=
  match t.unclosed with
  | none => []
  | some (token, rest) => token :: LBRACE :: rest

/-- The parts and the construct that is not closed are the whole template. -/
theorem scan_text {n : ℕ} {i : CStr} (hn : i.length < n) :
    (scan n i).closedText ++ (scan n i).unclosedText = i := by
  induction n generalizing i with
  | zero => exact absurd hn (Nat.not_lt_zero _)
  | succ n ih =>
    cases i with
    | nil => rfl
    | cons c i =>
      cases hfirst : firstPart c i with
      | unclosed token rest =>
        obtain ⟨rfl, -, rfl, -⟩ := firstPart_unclosed hfirst
        rw [scan, hfirst]
        rfl
      | part part behind =>
        have hbehind := length_lt_of_firstPart hfirst
        have hrest := @ih behind (by rw [List.length_cons] at hn; omega)
        rw [scan, hfirst]
        show (part.text ++ (scan n behind).closedText) ++ (scan n behind).unclosedText = _
        rw [List.append_assoc, hrest, text_of_firstPart hfirst]

section First

variable {c : UInt8} {i pre post : CStr} {part : Part}

theorem firstPart_construct {key : CStr} (hreserved : isReserved c = true) (hkey : RBRACE ∉ key)
    (behind : CStr) :
    firstPart c (LBRACE :: (key ++ RBRACE :: behind)) = .part (.construct c key) behind := by
  rw [firstPart.eq_def, if_neg (by rw [hreserved]; decide)]
  dsimp only
  rw [if_pos rfl, Terminated.dropWhile_of_not_mem hkey, Terminated.takeWhile_of_not_mem hkey]

/-- A character is a part of its own also where the template ends earlier. -/
theorem firstPart_char_take (h : firstPart c (pre ++ post) = .part (.char c) (pre ++ post)) :
    firstPart c pre = .part (.char c) pre := by
  by_cases hreserved : isReserved c = false
  · exact firstPart_of_not_reserved hreserved pre
  rw [firstPart.eq_def, if_neg hreserved] at h ⊢
  cases pre with
  | nil => rfl
  | cons b pre =>
    rw [List.cons_append] at h
    dsimp only at h ⊢
    by_cases hbrace : b = LBRACE
    · rw [if_pos hbrace] at h
      split at h <;> cases h
    rw [if_neg hbrace] at h ⊢
    by_cases hdoubled : b = c
    · rw [if_pos hdoubled] at h
      cases h
    · rw [if_neg hdoubled]

/-- The first part of a template is the same where the template ends behind it, or later. -/
theorem firstPart_take (h : firstPart c i = .part part (pre ++ post)) :
    ∃ c' i', part.text ++ pre = c' :: i' ∧ firstPart c' i' = .part part pre := by
  obtain ⟨rfl, hi⟩ | ⟨hreserved, rfl, -⟩ | ⟨key, hreserved, rfl, hkey, -⟩ := firstPart_part h
  · rw [← hi] at h
    exact ⟨c, pre, rfl, firstPart_char_take h⟩
  · exact ⟨c, c :: pre, rfl, firstPart_doubled hreserved pre⟩
  · exact ⟨c, LBRACE :: (key ++ RBRACE :: pre), by simp [Part.text],
      firstPart_construct hreserved hkey pre⟩

end First

section Loop

variable {env : SubstEnv} {subst : IrcSubst} {token : UInt8} {rest : CStr}

/-- The loop gets to the construct that is not closed if it gets to the end of the text before. -/
theorem substLoop_of_closedText {n n' : ℕ} {i : CStr} {s s' : SubstState} (hn : i.length < n)
    (hunclosed : (scan n i).unclosed = some (token, rest))
    (hn' : (scan n i).closedText.length < n')
    (hrun : substLoop env subst n' (scan n i).closedText s = .ok () s') (hleft : s'.out.left ≠ 0) :
    substLoop env subst n i s = if rest = [] then .ok () s' else .error .inval s' := by
  -- on the rounds: both loops take the same part until the text that is closed ends
  induction n generalizing i n' s with
  | zero => exact absurd hn (Nat.not_lt_zero _)
  | succ n ih =>
    cases i with
    | nil => cases hunclosed
    | cons c i =>
      rw [List.length_cons] at hn
      cases hfirst : firstPart c i with
      | unclosed token' rest' =>
        rw [scan, hfirst] at hunclosed hn' hrun
        cases hunclosed
        obtain ⟨n', rfl⟩ := Nat.exists_eq_succ_of_ne_zero (Nat.ne_zero_of_lt hn')
        cases hrun
        obtain ⟨rfl, -, rfl, -⟩ := firstPart_unclosed hfirst
        rw [substLoop_unclosed hleft hfirst]
        obtain ⟨n, rfl⟩ := Nat.exists_eq_succ_of_ne_zero (show n ≠ 0 by rintro rfl; simp at hn)
        rfl
      -- the part is the first one of the cut text as well
      | part part behind =>
        have hbehind := length_lt_of_firstPart hfirst
        have htext := scan_text (show behind.length < n by omega)
        rw [scan, hfirst] at hunclosed hn' hrun
        have hclosed : ((scan n behind).cons part).closedText =
            part.text ++ (scan n behind).closedText := rfl
        rw [hclosed] at hn' hrun
        rw [← htext] at hfirst
        obtain ⟨c', i', hcons, hfirst'⟩ := firstPart_take hfirst
        rw [htext] at hfirst
        rw [hcons] at hn' hrun
        obtain ⟨n', rfl⟩ := Nat.exists_eq_succ_of_ne_zero (Nat.ne_zero_of_lt hn')
        by_cases hfull : s.out.left = 0
        · rw [substLoop_full hfull] at hrun
          cases hrun
          exact absurd hfull hleft
        rw [substLoop_part hfull hfirst]
        rw [substLoop_part hfull hfirst'] at hrun
        have hlen := length_lt_of_firstPart hfirst'
        rw [List.length_cons] at hn'
        cases hpart : substPart env subst part s with
        | error e s₁ =>
          rw [bind_of_error hpart] at hrun
          cases hrun
        | ok u s₁ =>
          rw [bind_of_ok hpart] at hrun ⊢
          exact ih (by omega) hunclosed (by omega) hrun

end Loop

/-! ## The substitution -/

section Subst

variable {env : SubstEnv} {subst : IrcSubst} {out : List UInt8} {token : UInt8} {rest : CStr}

theorem room_of_substEnd {s s' : SubstState} {n : ℕ} (h : substEnd s = .ok n s') :
    s.out.left ≠ 0 ∧ 0 < s.out.buf.length := by
  by_cases hfull : s.out.left = 0
  · rw [substEnd_full hfull] at h
    cases h
  · refine ⟨hfull, ?_⟩
    rw [substEnd, outsz_bind, if_neg (by omega)] at h
    cases hstore : s.out.store [0] with
    | none =>
      have hfault : store [0] s = .error .overflow s := by rw [store, hstore]
      rw [bind_of_error hfault] at h
      cases h
    | some out =>
      obtain ⟨hroom, -⟩ := Cursor.store_eq_some hstore
      exact Nat.zero_lt_of_lt hroom

/-- A substitution that succeeds gets to the end of its loop, and to its own. -/
theorem exists_substLoop_of_ok (hdate : subst.flags.date = false) (hout : out ≠ []) {text : CStr}
    {k : ℕ} (h : (ircSubst env subst out text).rc = .ok k) :
    ∃ s n s', substLoop env subst (text.length + 1) text ⟨⟨out, 0, out.length⟩, []⟩ = .ok () s ∧
      substEnd s = .ok n s' := by
  have hlen : out.length ≠ 0 := fun hlen => hout (List.length_eq_zero_iff.1 hlen)
  rw [ircSubst, if_neg hlen, substBody_apply hdate] at h
  cases hloop : substLoop env subst (text.length + 1) text ⟨⟨out, 0, out.length⟩, []⟩ with
  | error e s =>
    rw [bind_of_error hloop] at h
    cases h
  | ok u s =>
    rw [bind_of_ok hloop] at h
    cases hend : substEnd s with
    | error e s' =>
      rw [hend] at h
      cases h
    | ok n s' => exact ⟨s, n, s', rfl, hend⟩

/-- A construct that is not closed is an error unless the template ends right behind its brace, if
the text before it leaves space. -/
theorem ircSubst_inval_iff (env : SubstEnv) (subst : IrcSubst) (out : List UInt8) (text : CStr)
    (token : UInt8) (rest : CStr) (hdate : subst.flags.date = false)
    (hunclosed : (template text).unclosed = some (token, rest)) (hout : out ≠ []) (k : ℕ)
    (hspace : (ircSubst env subst out (template text).closedText).rc = .ok k) :
    ((ircSubst env subst out text).rc = .error .inval ∧
      (ircSubst env subst out text).out.head? = some 0) ↔ rest ≠ [] := by
  obtain ⟨s, n, s', hrun, hend⟩ := exists_substLoop_of_ok hdate hout hspace
  obtain ⟨hleft, hroom⟩ := room_of_substEnd hend
  have hlen : out.length ≠ 0 := fun hlen => hout (List.length_eq_zero_iff.1 hlen)
  have hloop := substLoop_of_closedText (Nat.lt_succ_self text.length) hunclosed
    (Nat.lt_succ_self _) hrun hleft
  rw [ircSubst, if_neg hlen, substBody_apply hdate]
  by_cases hrest : rest = []
  · rw [if_pos hrest] at hloop
    rw [bind_of_ok hloop, hend]
    constructor
    · rintro ⟨hrc, -⟩
      cases hrc
    · exact fun h => absurd hrest h
  · rw [if_neg hrest] at hloop
    rw [bind_of_error hloop]
    exact ⟨fun _ => hrest, fun _ => ⟨rfl, head?_set_zero hroom⟩⟩

/-- A key without a closing brace. -/
theorem ircSubst_inval_failure :
    ((ircSubst bareEnv greeting (List.replicate 16 1) (cstr "a #\x7bfailure")).rc =
        .error .inval ∧
      (ircSubst bareEnv greeting (List.replicate 16 1) (cstr "a #\x7bfailure")).out.head? =
        some 0) ↔ cstr "failure" ≠ [] :=
  ircSubst_inval_iff bareEnv greeting (List.replicate 16 1) (cstr "a #\x7bfailure") 35
    (cstr "failure") rfl (by decide) (by decide) 2 (by decide +kernel)

/-- A template that ends at the brace is accepted. -/
theorem not_forall_inval :
    ¬ ∀ (env : SubstEnv) (subst : IrcSubst) (out : List UInt8) (text : CStr) (token : UInt8)
      (rest : CStr), subst.flags.date = false →
      (template text).unclosed = some (token, rest) → out ≠ [] →
      (∃ k, (ircSubst env subst out (template text).closedText).rc = .ok k) →
      (ircSubst env subst out text).rc = .error .inval ∧
        (ircSubst env subst out text).out.head? = some 0 := by
  intro h
  have hbrace := (h bareEnv greeting (List.replicate 16 1) (cstr "#\x7b") 35 [] rfl (by decide)
    (by decide) ⟨0, by decide +kernel⟩).1
  exact absurd hbrace (by decide +kernel)

end Subst

end Irccd.Subst
