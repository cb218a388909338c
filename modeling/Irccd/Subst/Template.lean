import Irccd.Subst.Writes
import Mathlib.Data.List.TakeWhile

/-!
# The parts of a template

What a template says, apart from how it is copied: characters, doubled characters that stand for
one, and constructs. A construct without a closing brace ends the template.

* `template`: the parts of a template;
* `substPart`: what the loop of `irc_subst` does with one part;
* `substLoop_part`, `substLoop_unclosed`: one round of the loop.
-/

namespace Irccd.Subst

open Writers

/-! ## Parts -/

/-- A part of a template. -/
inductive Part
  | char (c : UInt8)
  | doubled (c : UInt8)
  | construct (token : UInt8) (key : CStr)
  deriving DecidableEq

/-- The text of a part. -/
def Part.text : Part → CStr
  | char c => [c]
  | doubled c => [c, c]
  | construct token key => token :: LBRACE :: (key ++ [RBRACE])

/-- The parts of a template, and the construct that is not closed: its token, and what is behind
the brace. -/
structure Template where
  parts : List Part
  unclosed : Option (UInt8 × CStr)
  deriving DecidableEq

/-- A template behind a part. -/
def Template.cons (part : Part) (t : Template) : Template := { t with parts := part :: t.parts }

/-- The beginning of a template: a part, with what is behind it, or a construct that is not
closed. -/
inductive First
  | part (part : Part) (behind : CStr)
  | unclosed (token : UInt8) (rest : CStr)

/-- The beginning of the template `c :: i`. -/
def firstPart (c : UInt8) (i : CStr) : First :=
  if isReserved c = false then .part (.char c) i
  else
    match i with
    | [] => .part (.char c) []
    | b :: rest =>
      if b = LBRACE then
        match rest.dropWhile (· != RBRACE) with
        | [] => .unclosed c rest
        | _ :: behind => .part (.construct c (rest.takeWhile (· != RBRACE))) behind
      else if b = c then .part (.doubled c) rest
      else .part (.char c) (b :: rest)

/-- The parts of a template, as far as the fuel goes. -/
def scan : ℕ → CStr → Template
  | 0, _ => ⟨[], none⟩
  | _ + 1, [] => ⟨[], none⟩
  | n + 1, c :: i =>
    match firstPart c i with
    | .part part behind => (scan n behind).cons part
    | .unclosed token rest => ⟨[], some (token, rest)⟩

/-- The parts of a template. -/
def template (text : CStr) : Template := scan (text.length + 1) text

example : template (cstr "##\x7ba\x7d #\x7bb\x7d $") =
    ⟨[.doubled 35, .char LBRACE, .char 97, .char RBRACE, .char SP, .construct 35 (cstr "b"),
      .char SP, .char 36], none⟩ := by
  decide

section First

variable {c token : UInt8} {i behind rest : CStr} {part : Part}

/-- A key ends at the first closing brace. -/
theorem eq_of_dropWhile_eq_cons {b x : UInt8} {s : CStr} (h : s.dropWhile (· != b) = x :: behind) :
    s = s.takeWhile (· != b) ++ b :: behind := by
  have hx : x = b := by
    have := List.head?_dropWhile_not (· != b) s
    rw [h] at this
    simpa using this
  subst hx
  rw [← h, List.takeWhile_append_dropWhile]

/-- What a template can start with. -/
theorem firstPart_part (h : firstPart c i = .part part behind) :
    (part = .char c ∧ behind = i) ∨
      (isReserved c = true ∧ part = .doubled c ∧ i = c :: behind) ∨
      ∃ key, isReserved c = true ∧ part = .construct c key ∧ RBRACE ∉ key ∧
        i = LBRACE :: (key ++ RBRACE :: behind) := by
  rw [firstPart.eq_def] at h
  split at h
  · cases h
    exact .inl ⟨rfl, rfl⟩
  · rename_i hreserved
    rw [Bool.not_eq_false] at hreserved
    -- a reserved byte: a construct, a doubled one, or one that stands for itself
    cases i with
    | nil =>
      cases h
      exact .inl ⟨rfl, rfl⟩
    | cons b rest =>
      dsimp only at h
      split at h
      · rename_i hbrace
        split at h
        · cases h
        · rename_i x behind' hdrop
          cases h
          refine .inr (.inr ⟨_, hreserved, rfl, ?_, ?_⟩)
          · intro hmem
            have := List.mem_takeWhile_imp hmem
            simp at this
          · rw [hbrace, ← eq_of_dropWhile_eq_cons hdrop]
      · split at h
        · rename_i hdoubled
          cases h
          exact .inr (.inl ⟨hreserved, rfl, by rw [hdoubled]⟩)
        · cases h
          exact .inl ⟨rfl, rfl⟩

theorem firstPart_unclosed (h : firstPart c i = .unclosed token rest) :
    token = c ∧ isReserved c = true ∧ i = LBRACE :: rest ∧ RBRACE ∉ rest := by
  rw [firstPart.eq_def] at h
  split at h
  · cases h
  · rename_i hreserved
    rw [Bool.not_eq_false] at hreserved
    cases i with
    | nil => cases h
    | cons b rest' =>
      dsimp only at h
      split at h
      · rename_i hbrace
        split at h
        · rename_i hdrop
          cases h
          refine ⟨rfl, hreserved, by rw [hbrace], fun hmem => ?_⟩
          have := List.dropWhile_eq_nil_iff.1 hdrop RBRACE hmem
          simp at this
        · cases h
      · split at h <;> cases h

/-- A part is the text before what is behind it. -/
theorem text_of_firstPart (h : firstPart c i = .part part behind) :
    part.text ++ behind = c :: i := by
  obtain ⟨rfl, rfl⟩ | ⟨-, rfl, rfl⟩ | ⟨key, -, rfl, -, rfl⟩ := firstPart_part h
  · rfl
  · rfl
  · simp [Part.text]

theorem length_lt_of_firstPart (h : firstPart c i = .part part behind) :
    behind.length ≤ i.length := by
  have hlen := congrArg List.length (text_of_firstPart h)
  have hpart : 0 < part.text.length := by cases part <;> simp [Part.text]
  rw [List.length_append, List.length_cons] at hlen
  omega

end First

/-! ## The loop -/

/-- One round of the loop of `irc_subst`. -/
def substPart (env : SubstEnv) (subst : IrcSubst) : Part → SubstM Unit
  | .char c => ccat c
  | .doubled c => ccat c
  | .construct token key => do
    if 64 ≤ key.length then throw .nomem
    else substKey env subst token key

section Loop

variable {env : SubstEnv} {subst : IrcSubst} {s : SubstState} {n : ℕ} {c token : UInt8}
  {i behind rest : CStr} {part : Part}

theorem isReserved_iff : isReserved c = true ↔ c = 35 ∨ c = 64 ∨ c = 36 ∨ c = 33 := by
  simp [isReserved, or_assoc]

theorem substLoop_full (hleft : s.out.left = 0) :
    substLoop env subst (n + 1) (c :: i) s = .ok () s := by
  show (outsz >>= fun left => if left = 0 then pure () else _) s = _
  rw [outsz_bind, if_pos hleft]
  rfl

/-- One round of the loop, with space left. -/
theorem substLoop_cons (hleft : s.out.left ≠ 0) :
    substLoop env subst (n + 1) (c :: i) s =
      (if isReserved c = false then do ccat c; substLoop env subst n i
      else
        match i with
        | [] => do ccat c; substLoop env subst n []
        | b :: rest =>
          if b = LBRACE then do
            let i ← substitute env subst c rest
            substLoop env subst n i
          else if b = c then do ccat c; substLoop env subst n rest
          else do ccat c; substLoop env subst n (b :: rest)) s := by
  show (outsz >>= fun left => if left = 0 then pure () else _) s = _
  rw [outsz_bind, if_neg hleft]
  rfl

theorem substitute_of_closed {p behind : CStr} {x : UInt8}
    (h : p.dropWhile (· != RBRACE) = x :: behind) :
    substitute env subst token p = do
      substPart env subst (.construct token (p.takeWhile (· != RBRACE)))
      return behind := by
  have hp : p ≠ [] := by
    rintro rfl
    cases h
  rw [substitute, if_neg hp, h, substPart]
  dsimp only
  by_cases hkey : 64 ≤ (p.takeWhile (· != RBRACE)).length
  · rw [if_pos hkey, if_pos hkey]
    rfl
  · rw [if_neg hkey, if_neg hkey]

theorem substitute_of_unclosed {p : CStr} (h : p.dropWhile (· != RBRACE) = []) :
    substitute env subst token p = if p = [] then pure [] else throw .inval := by
  rw [substitute, h]
  split
  · rename_i hp
    rw [hp]
  · rfl

/-- The loop takes the first part, and goes on behind it. -/
theorem substLoop_part (hleft : s.out.left ≠ 0) (h : firstPart c i = .part part behind) :
    substLoop env subst (n + 1) (c :: i) s =
      (substPart env subst part >>= fun _ => substLoop env subst n behind) s := by
  rw [substLoop_cons hleft]
  rw [firstPart.eq_def] at h
  by_cases hreserved : isReserved c = false
  · rw [if_pos hreserved] at h ⊢
    cases h
    rfl
  rw [if_neg hreserved] at h ⊢
  -- a reserved byte: a construct, a doubled one, or one that stands for itself
  cases i with
  | nil =>
    cases h
    rfl
  | cons b rest =>
    dsimp only at h ⊢
    by_cases hbrace : b = LBRACE
    · rw [if_pos hbrace] at h ⊢
      cases hdrop : rest.dropWhile (· != RBRACE) with
      | nil =>
        rw [hdrop] at h
        cases h
      | cons x behind' =>
        rw [hdrop] at h
        cases h
        rw [substitute_of_closed hdrop, bind_assoc]
        rfl
    · rw [if_neg hbrace] at h ⊢
      by_cases hdoubled : b = c
      · rw [if_pos hdoubled] at h ⊢
        cases h
        rfl
      · rw [if_neg hdoubled] at h ⊢
        cases h
        rfl

/-- A construct that is not closed is an error, unless the template ends at its brace. -/
theorem substLoop_unclosed (hleft : s.out.left ≠ 0) (h : firstPart c i = .unclosed token rest) :
    substLoop env subst (n + 1) (c :: i) s =
      if rest = [] then substLoop env subst n [] s else .error .inval s := by
  obtain ⟨-, hreserved, rfl, hrest⟩ := firstPart_unclosed h
  have hdrop : rest.dropWhile (· != RBRACE) = [] := by
    rw [List.dropWhile_eq_nil_iff]
    intro x hx
    rw [bne_iff_ne]
    rintro rfl
    exact hrest hx
  rw [substLoop_cons hleft, if_neg (by rw [hreserved]; decide)]
  dsimp only
  rw [if_pos rfl, substitute_of_unclosed hdrop]
  by_cases hnil : rest = []
  · rw [if_pos hnil, if_pos hnil]
    rfl
  · rw [if_neg hnil, if_neg hnil]
    rfl

end Loop

end Irccd.Subst
