import Irccd.Subst.Template

/-!
# Attributes

The table of `struct attributes` has four places, and the template says how many attributes there
are.

* `Attributes.InBounds`: four attributes at most, and every string ends in its array;
* `fieldCount`: the number of attributes in a list;
* `attributes_inBounds_iff`: when the table is large enough.
-/

namespace Irccd.Subst

open Writers

/-- The strings end in their arrays, and there are four attributes at most. -/
structure Attributes.InBounds (attrs : Attributes) : Prop where
  fg : 0 ∈ attrs.fg.1
  bg : 0 ∈ attrs.bg.1
  terminated (i : ℕ) (h : i < 4) : 0 ∈ attrs.attrs[i].1
  le_four : attrs.attrsz ≤ 4

/-- The number of attributes in a list with commas: there is none behind a comma at its end. -/
def fieldCount (list : CStr) : ℕ :=
  if list = [] then 0
  else if list.getLast? = some COMMA then list.count COMMA
  else list.count COMMA + 1

example : fieldCount (cstr "bold,,dim,") = 3 := by decide

/-! ## The loop of `attributes_parse` -/

section Loop

variable {list : CStr} {attrs : Attributes} {n : ℕ}

theorem CharArray.terminated_copy (a : CharArray) (s : CStr) : 0 ∈ (a.copy s).1 := by
  rw [copy]
  simp

/-- A round of the loop takes one attribute. -/
theorem fieldCount_of_ne_nil (h : list ≠ []) :
    fieldCount list = fieldCount (list.dropWhile (· != COMMA)).tail + 1 := by
  have hfield : (list.takeWhile (· != COMMA)).count COMMA = 0 := by
    rw [List.count_eq_zero]
    intro hmem
    have := List.mem_takeWhile_imp hmem
    simp at this
  -- the list has one field, or a comma behind its first one
  cases hdrop : list.dropWhile (· != COMMA) with
  | nil =>
    have hlist : list.takeWhile (· != COMMA) = list := by
      have := List.takeWhile_append_dropWhile (p := (· != COMMA)) (l := list)
      rwa [hdrop, List.append_nil] at this
    rw [hlist] at hfield
    have hlast : list.getLast? ≠ some COMMA := fun hlast =>
      List.count_eq_zero.1 hfield (List.mem_of_getLast? hlast)
    rw [fieldCount, if_neg h, if_neg hlast, hfield]
    rfl
  | cons x rest =>
    have hlist := eq_of_dropWhile_eq_cons hdrop
    have hcount : list.count COMMA = rest.count COMMA + 1 := by
      rw [hlist, List.count_append, hfield, List.count_cons_self, Nat.zero_add]
    -- a comma at the end ends the last field and opens none
    have hlast : list.getLast? = some (rest.getLast?.getD COMMA) := by
      rw [hlist, List.getLast?_append]
      cases rest with
      | nil => rfl
      | cons y rest => simp [List.getLast?_cons]
    rw [fieldCount, if_neg h, hlast, hcount, List.tail_cons, fieldCount]
    cases rest with
    | nil => rfl
    | cons y rest =>
      rw [if_neg (List.cons_ne_nil y rest)]
      rw [List.getLast?_cons, Option.getD_some]
      split <;> rfl

theorem attributesLoop_cons {c : UInt8} {attr : CStr} (hroom : attrs.attrsz < 4) :
    attributesLoop (n + 1) (c :: attr) attrs =
      attributesLoop n ((c :: attr).dropWhile (· != COMMA)).tail { attrs with
        attrs := attrs.attrs.set attrs.attrsz
          (attrs.attrs[attrs.attrsz].copy ((c :: attr).takeWhile (· != COMMA)))
        attrsz := attrs.attrsz + 1 } := by
  rw [attributesLoop]
  exact dif_pos hroom

theorem attributesLoop_full {c : UInt8} {attr : CStr} (hfull : ¬ attrs.attrsz < 4) :
    attributesLoop (n + 1) (c :: attr) attrs = .error .overflow := by
  rw [attributesLoop]
  exact dif_neg hfull

/-- One more string in the table. -/
theorem Attributes.InBounds.store (h : attrs.InBounds) (hroom : attrs.attrsz < 4) (s : CStr) :
    Attributes.InBounds { attrs with
      attrs := attrs.attrs.set attrs.attrsz (attrs.attrs[attrs.attrsz].copy s)
      attrsz := attrs.attrsz + 1 } where
  fg := h.fg
  bg := h.bg
  terminated i hi := by
    dsimp only
    rw [Vector.getElem_set]
    split
    · exact CharArray.terminated_copy _ s
    · exact h.terminated i hi
  le_four := hroom

/-- The loop fills the table, as far as there are places in it. -/
theorem attributesLoop_spec (hn : list.length < n) (h : attrs.InBounds) :
    (attrs.attrsz + fieldCount list ≤ 4 →
      ∃ attrs', attributesLoop n list attrs = .ok attrs' ∧ attrs'.InBounds) ∧
      (4 < attrs.attrsz + fieldCount list → attributesLoop n list attrs = .error .overflow) := by
  induction n generalizing list attrs with
  | zero => exact absurd hn (Nat.not_lt_zero _)
  | succ n ih =>
    cases list with
    | nil =>
      have hsz := h.le_four
      rw [show fieldCount [] = 0 from rfl]
      exact ⟨fun _ => ⟨attrs, rfl, h⟩, fun hgt => by omega⟩
    | cons c attr =>
      have hcount := fieldCount_of_ne_nil (List.cons_ne_nil c attr)
      by_cases hroom : attrs.attrsz < 4
      · have hnext : ((c :: attr).dropWhile (· != COMMA)).tail.length < n := by
          have := @List.length_dropWhile_le _ (· != COMMA) (c :: attr)
          rw [List.length_cons] at hn this
          rw [List.length_tail]
          omega
        obtain ⟨hfit, hover⟩ := ih hnext
          (h.store hroom ((c :: attr).takeWhile (· != COMMA)))
        rw [attributesLoop_cons hroom, hcount]
        exact ⟨fun hle => hfit (by dsimp only; omega), fun hgt => hover (by dsimp only; omega)⟩
      · rw [attributesLoop_full hroom, hcount]
        exact ⟨fun hle => by omega, fun _ => rfl⟩

/-- `attributes[64]` is large enough. -/
theorem length_scanAttributes (key : CStr) : (scanAttributes key).2.2.length ≤ 63 := by
  have hword (s : CStr) : (scanWord s).length ≤ 63 := List.length_take_le 63 _
  rw [scanAttributes]
  dsimp only
  split
  · exact Nat.zero_le _
  split
  · exact Nat.zero_le _
  split
  · exact Nat.zero_le _
  split
  · exact Nat.zero_le _
  split
  · exact Nat.zero_le _
  split
  · exact Nat.zero_le _
  · exact hword _

/-- `attributes_parse`, by the number of attributes. -/
theorem attributesParse_spec (key : CStr) :
    (fieldCount (scanAttributes key).2.2 ≤ 4 →
      ∃ attrs, attributesParse key = .ok attrs ∧ attrs.InBounds) ∧
      (4 < fieldCount (scanAttributes key).2.2 → attributesParse key = .error .overflow) := by
  have hlen := length_scanAttributes key
  rw [attributesParse]
  generalize scanAttributes key = scanned at hlen ⊢
  obtain ⟨fg, bg, attributes⟩ := scanned
  have hzero : (0 : UInt8) ∈ CharArray.zero.1 := by decide
  have hstart : Attributes.InBounds
      { fg := CharArray.zero.copy fg, bg := CharArray.zero.copy bg } :=
    ⟨CharArray.terminated_copy _ fg, CharArray.terminated_copy _ bg,
      fun i hi => by simpa using hzero, Nat.zero_le 4⟩
  have hspec := attributesLoop_spec (Nat.lt_succ_of_le hlen) hstart
  rw [Nat.zero_add] at hspec
  exact hspec

end Loop

/-! ## The functions that read the table -/

section Safe

variable {α β : Type} {x : SubstM α} {f : α → SubstM β} {attrs : Attributes}

/-- The function stays in its arrays, and stops only for lack of space. -/
def Safe (x : SubstM α) : Prop :=
  ∀ s, s.out.Fits →
    match x s with
    | .ok _ s' => s'.out.Fits
    | .error e _ => e = .nomem

theorem Writes.safe {text : List UInt8} (h : Writes x text) : Safe x := by
  intro s hfits
  have hs := h s hfits
  cases hx : x s with
  | ok a s' =>
    rw [hx] at hs
    exact hs.fits hfits
  | error e s' =>
    rw [hx] at hs
    exact hs.1

theorem Safe.bind (hx : Safe x) (hf : ∀ a, Safe (f a)) : Safe (x >>= f) := by
  intro s hfits
  have hs := hx s hfits
  cases h : x s with
  | ok a s' =>
    rw [h] at hs
    rw [bind_of_ok h]
    exact hf a s' hs
  | error e s' =>
    rw [h] at hs
    rw [bind_of_error h]
    exact hs

theorem Safe.ite {p : Prop} [Decidable p] {y : SubstM α} (hx : Safe x) (hy : Safe y) :
    Safe (if p then x else y) := by
  split
  · exact hx
  · exact hy

theorem safe_pure (a : α) : Safe (pure a : SubstM α) := fun _ hfits => hfits

theorem safe_ccat (c : UInt8) : Safe (ccat c) := (writes_ccat c).safe

theorem safe_scat (value : CStr) : Safe (scat value) := (writes_scat value).safe

theorem safe_scatFound (pairs : List Pair) (key : CStr) : Safe (scatFound pairs key) := by
  rw [scatFound]
  cases findPair pairs key with
  | some value => exact safe_scat value
  | none => exact safe_pure ()

theorem safe_attrAt {i : ℕ} (hi : i < 4) : Safe (attrAt attrs i) := by
  rw [attrAt, dif_pos hi]
  exact safe_pure _

/-- The loop reads the attributes that are in the table. -/
theorem safe_ircAttrsLoop {n i : ℕ} (h : i + n ≤ 4) : Safe (ircAttrsLoop attrs n i) := by
  induction n generalizing i with
  | zero => exact safe_pure ()
  | succ n ih =>
    exact (safe_attrAt (by omega)).bind fun attr => (safe_scatFound ircAttrs attr).bind fun _ =>
      ih (by omega)

theorem safe_shellAttrsLoop {n i : ℕ} (h : i + n ≤ 4) : Safe (shellAttrsLoop attrs n i) := by
  induction n generalizing i with
  | zero => exact safe_pure ()
  | succ n ih =>
    have hrest := @ih (i + 1) (by omega)
    exact (safe_attrAt (by omega)).bind fun attr => (safe_scatFound shellAttrs attr).bind fun _ =>
      Safe.ite ((safe_ccat 59).bind fun _ => hrest) hrest

variable {key : CStr}

theorem safe_orStop {a : α} {r : Except SubstStop α} (h : r = .ok a)
    {f : α → SubstM β} (hf : Safe (f a)) : Safe (orStop r >>= f) := by
  rw [h]
  exact hf

theorem safe_substIrcAttrs (hparse : attributesParse key = .ok attrs) (h : attrs.InBounds) :
    Safe (substIrcAttrs key) := by
  refine (safe_ccat _).ite (safe_orStop hparse ((safe_attrAt (by decide)).bind fun _ => ?_))
  have hloop : Safe (ircAttrsLoop attrs attrs.attrsz 0) :=
    safe_ircAttrsLoop (by have := h.le_four; omega)
  exact Safe.ite ((safe_ccat _).bind fun _ => (safe_scatFound _ _).bind fun _ =>
    Safe.ite ((safe_ccat _).bind fun _ => (safe_scatFound _ _).bind fun _ => hloop) hloop)
    (safe_pure ())

theorem safe_substShellAttrs (hparse : attributesParse key = .ok attrs) (h : attrs.InBounds) :
    Safe (substShellAttrs key) := by
  have hloop : Safe (shellAttrsLoop attrs attrs.attrsz 0) :=
    safe_shellAttrsLoop (by have := h.le_four; omega)
  refine (safe_scat _).ite (safe_orStop hparse ((safe_scat _).bind fun _ => hloop.bind fun _ => ?_))
  have hend := safe_ccat 109
  have hbg : Safe (if attrs.bg.string ≠ [] then do
      scatFound shellBg attrs.bg.string
      ccat 109
    else ccat 109) := Safe.ite ((safe_scatFound _ _).bind fun _ => hend) hend
  exact Safe.ite ((safe_scatFound _ _).bind fun _ =>
    Safe.ite ((safe_ccat _).bind fun _ => hbg) hbg) hbg

end Safe

/-- Attributes are parsed into the table, and read from it, as long as there are four of them at
most. -/
theorem attributes_inBounds_iff (key : CStr) :
    ((∃ attrs, attributesParse key = .ok attrs ∧ attrs.InBounds) ∧ Safe (substIrcAttrs key) ∧
        Safe (substShellAttrs key)) ↔
      fieldCount (scanAttributes key).2.2 ≤ 4 := by
  obtain ⟨hfit, hover⟩ := attributesParse_spec key
  constructor
  · rintro ⟨⟨attrs, hparse, -⟩, -⟩
    by_contra hgt
    rw [hover (by omega)] at hparse
    cases hparse
  · intro hle
    obtain ⟨attrs, hparse, hbounds⟩ := hfit hle
    exact ⟨⟨attrs, hparse, hbounds⟩, safe_substIrcAttrs hparse hbounds,
      safe_substShellAttrs hparse hbounds⟩

/-- The fifth attribute is stored outside the table. -/
theorem not_forall_inBounds :
    ¬ ∀ key : CStr, key.length < 64 → (∃ attrs, attributesParse key = .ok attrs ∧ attrs.InBounds) ∧
      Safe (substIrcAttrs key) ∧ Safe (substShellAttrs key) := by
  intro h
  obtain ⟨⟨attrs, hparse, -⟩, -⟩ := h (cstr "red,blue,bold,dim,underline,blink,reverse") (by decide)
  have hover := (attributesParse_spec (cstr "red,blue,bold,dim,underline,blink,reverse")).2
    (by decide)
  rw [hover] at hparse
  cases hparse

end Irccd.Subst
