import Irccd.Subst.Template

/-!
# What a template looks up and runs

The keywords and variables that are looked up and the commands that are run are those of the
template, from left to right. What is copied into the buffer is never read again.

* `Notes`, `Quiet`: what a function looks up or runs;
* `partLookups`: what a part of the template looks up or runs;
* `commands_isPrefix_enabled`: the commands and variables of a substitution.
-/

namespace Irccd.Subst

open Writers

/-- What a function looks up or runs, if it does not stop before. -/
abbrev Notes {α : Type} (x : SubstM α) (lookups : List Lookup) : Prop :=
  Logs SubstState.lookups x lookups

/-- The function looks up and runs nothing. -/
abbrev Quiet {α : Type} (x : SubstM α) : Prop := Notes x []

/-! ## Functions that look nothing up -/

section Quiet

variable {α β : Type} {x : SubstM α} {f : α → SubstM β}

theorem quiet_of_forall (h : ∀ s, (after (x s)).lookups = s.lookups) : Quiet x := by
  refine ⟨fun s => ⟨[], List.prefix_rfl, ?_⟩, fun s a s' hs => ?_⟩
  · rw [h, List.append_nil]
  · have := h s
    rw [hs] at this
    exact this.trans (List.append_nil _).symm

theorem Quiet.bind (hx : Quiet x) (hf : ∀ a, Quiet (f a)) : Quiet (x >>= f) := Logs.bind hx hf

theorem quiet_pure (a : α) : Quiet (pure a : SubstM α) := logs_pure a

theorem quiet_throw (e : SubstStop) : Quiet (throw e : SubstM α) := quiet_of_forall fun _ => rfl

theorem quiet_outsz : Quiet outsz := quiet_of_forall fun _ => rfl

theorem quiet_advance (n : ℕ) : Quiet (advance n) := quiet_of_forall fun _ => rfl

theorem quiet_store (bytes : List UInt8) : Quiet (store bytes) := by
  apply quiet_of_forall
  intro s
  rw [store]
  cases s.out.store bytes <;> rfl

theorem quiet_orStop (r : Except SubstStop α) : Quiet (orStop r) := by
  cases r with
  | ok a => exact quiet_pure a
  | error e => exact quiet_throw e

theorem Quiet.ite {p : Prop} [Decidable p] {y : SubstM α} (hx : Quiet x) (hy : Quiet y) :
    Quiet (if p then x else y) := by
  split
  · exact hx
  · exact hy

theorem quiet_ccat (c : UInt8) : Quiet (ccat c) :=
  quiet_outsz.bind fun _ => (quiet_throw _).ite ((quiet_store _).bind fun _ => quiet_advance 1)

theorem quiet_strlcpyOut (value : CStr) : Quiet (strlcpyOut value) :=
  quiet_outsz.bind fun _ => Quiet.ite ((quiet_store _).bind fun _ => quiet_pure _) (quiet_pure _)

theorem quiet_scat (value : CStr) : Quiet (scat value) :=
  quiet_outsz.bind fun _ => (quiet_strlcpyOut value).bind fun _ =>
    (quiet_throw _).ite (quiet_advance _)

theorem quiet_substDefault (token : UInt8) (key : CStr) : Quiet (substDefault token key) :=
  (quiet_ccat token).bind fun _ => (quiet_ccat LBRACE).bind fun _ =>
    (quiet_scat key).bind fun _ => quiet_ccat RBRACE

theorem quiet_attrAt (attrs : Attributes) (i : ℕ) : Quiet (attrAt attrs i) := by
  rw [attrAt]
  split
  · exact quiet_pure _
  · exact quiet_throw _

theorem quiet_scatFound (pairs : List Pair) (key : CStr) : Quiet (scatFound pairs key) := by
  rw [scatFound]
  cases findPair pairs key with
  | some value => exact quiet_scat value
  | none => exact quiet_pure ()

theorem quiet_ircAttrsLoop (attrs : Attributes) (n i : ℕ) : Quiet (ircAttrsLoop attrs n i) := by
  induction n generalizing i with
  | zero => exact quiet_pure ()
  | succ n ih =>
    exact (quiet_attrAt attrs i).bind fun attr => (quiet_scatFound ircAttrs attr).bind fun _ =>
      ih (i + 1)

theorem quiet_shellAttrsLoop (attrs : Attributes) (n i : ℕ) :
    Quiet (shellAttrsLoop attrs n i) := by
  induction n generalizing i with
  | zero => exact quiet_pure ()
  | succ n ih =>
    refine (quiet_attrAt attrs i).bind fun attr => ?_
    refine (quiet_scatFound shellAttrs attr).bind fun _ => ?_
    exact Quiet.ite ((quiet_ccat 59).bind fun _ => ih (i + 1)) (ih (i + 1))

theorem quiet_substIrcAttrs (key : CStr) : Quiet (substIrcAttrs key) := by
  refine (quiet_ccat _).ite ((quiet_orStop _).bind fun attrs => (quiet_attrAt attrs 0).bind
    fun _ => ?_)
  have hloop := quiet_ircAttrsLoop attrs attrs.attrsz 0
  exact Quiet.ite ((quiet_ccat _).bind fun _ => (quiet_scatFound _ _).bind fun _ =>
    Quiet.ite ((quiet_ccat _).bind fun _ => (quiet_scatFound _ _).bind fun _ => hloop) hloop)
    (quiet_pure ())

theorem quiet_substShellAttrs (key : CStr) : Quiet (substShellAttrs key) := by
  refine (quiet_scat _).ite ((quiet_orStop _).bind fun attrs => (quiet_scat _).bind fun _ =>
    (quiet_shellAttrsLoop attrs attrs.attrsz 0).bind fun _ => ?_)
  have hend := quiet_ccat 109
  have hbg : Quiet (if attrs.bg.string ≠ [] then do
      scatFound shellBg attrs.bg.string
      ccat 109
    else ccat 109) := Quiet.ite ((quiet_scatFound _ _).bind fun _ => hend) hend
  exact Quiet.ite ((quiet_scatFound _ _).bind fun _ =>
    Quiet.ite ((quiet_ccat _).bind fun _ => hbg) hbg) hbg

end Quiet

/-! ## The constructs -/

section Notes

variable {env : SubstEnv} {subst : IrcSubst}

/-- A note, and a function that looks nothing up. -/
theorem notes_note {α : Type} {x : SubstM α} (lookup : Lookup) (hx : Quiet x) :
    Notes (do note lookup; x) [lookup] := by
  have hnote : Notes (note lookup) [lookup] :=
    ⟨fun s => ⟨[lookup], List.prefix_rfl, rfl⟩, fun s u s' h => by cases h; rfl⟩
  exact hnote.bind fun _ => hx

theorem notes_substKeyword (key : CStr) : Notes (substKeyword subst key) [.keyword key] := by
  apply notes_note
  cases subst.keywords.find? fun keyword => keyword.key == key with
  | none => exact quiet_pure ()
  | some keyword =>
    dsimp only
    cases keyword.value with
    | none => exact quiet_pure ()
    | some value => exact quiet_scat value

theorem notes_substEnv (key : CStr) : Notes (substEnv env key) [.env key] := by
  apply notes_note
  cases env.getenv key with
  | none => exact quiet_pure ()
  | some value => exact quiet_scat value

theorem notes_substShell (key : CStr) : Notes (substShell env key) [.shell key] := by
  have hget : Quiet (get : SubstM SubstState) := quiet_of_forall fun _ => rfl
  refine Logs.bind hget fun past => notes_note (.shell key) ?_
  cases env.popen past.lookups key with
  | none => exact quiet_pure ()
  | some output =>
    refine quiet_outsz.bind fun left => ?_
    refine (quiet_pure ()).ite ((quiet_store _).bind fun _ => ?_)
    cases shellEnd _ with
    | some i => exact (quiet_advance i).bind fun _ => quiet_store [0]
    | none => exact quiet_advance _

/-- What a part of a template looks up or runs. -/
def partLookups (flags : IrcSubstFlags) : Part → List Lookup
  | .char _ => []
  | .doubled _ => []
  | .construct token key =>
    if token = 35 ∧ flags.keywords = true then [.keyword key]
    else if token = 36 ∧ flags.env = true then [.env key]
    else if token = 33 ∧ flags.shell = true then [.shell key]
    else []

theorem notes_substKey (token : UInt8) (key : CStr) :
    Notes (substKey env subst token key) (partLookups subst.flags (.construct token key)) := by
  have hdefault := quiet_substDefault token key
  rw [substKey]
  -- attributes, `@`: nothing is looked up
  by_cases h64 : token = 64
  · subst h64
    have hnone : partLookups subst.flags (.construct 64 key) = [] := by
      simp +decide [partLookups]
    rw [if_pos rfl, hnone]
    exact Quiet.ite (quiet_substIrcAttrs key) (Quiet.ite (quiet_substShellAttrs key) hdefault)
  rw [if_neg h64]
  -- keywords, `#`
  by_cases h35 : token = 35
  · subst h35
    rw [if_pos rfl]
    by_cases hkeywords : subst.flags.keywords = true
    · rw [if_pos hkeywords, partLookups, if_pos ⟨rfl, hkeywords⟩]
      exact notes_substKeyword key
    · have hnone : partLookups subst.flags (.construct 35 key) = [] := by
        simp +decide [partLookups, hkeywords]
      rw [if_neg hkeywords, hnone]
      exact hdefault
  rw [if_neg h35]
  -- the environment, `$`
  by_cases h36 : token = 36
  · subst h36
    rw [if_pos rfl]
    by_cases henv : subst.flags.env = true
    · rw [if_pos henv, partLookups, if_neg (fun h => h35 h.1), if_pos ⟨rfl, henv⟩]
      exact notes_substEnv key
    · have hnone : partLookups subst.flags (.construct 36 key) = [] := by
        simp +decide [partLookups, henv]
      rw [if_neg henv, hnone]
      exact hdefault
  rw [if_neg h36]
  -- the shell, `!`
  by_cases h33 : token = 33
  · subst h33
    rw [if_pos rfl]
    by_cases hshell : subst.flags.shell = true
    · have hone : partLookups subst.flags (.construct 33 key) = [.shell key] := by
        simp +decide [partLookups, hshell]
      rw [if_pos hshell, hone]
      exact notes_substShell key
    · have hnone : partLookups subst.flags (.construct 33 key) = [] := by
        simp +decide [partLookups, hshell]
      rw [if_neg hshell, hnone]
      exact hdefault
  · have hnone : partLookups subst.flags (.construct token key) = [] := by
      simp [partLookups, h35, h36, h33]
    rw [if_neg h33, hnone]
    exact quiet_pure ()

theorem notes_substPart (part : Part) :
    Notes (substPart env subst part) (partLookups subst.flags part) := by
  cases part with
  | char c => exact quiet_ccat c
  | doubled c => exact quiet_ccat c
  | construct token key =>
    rw [substPart]
    split
    · refine ⟨fun s => ⟨[], List.nil_prefix, (List.append_nil _).symm⟩, fun s u s' h => ?_⟩
      cases h
    · exact notes_substKey token key

/-- The loop looks up and runs what is in the template that is left, up to some part of it. -/
theorem notesUpTo_substLoop (n : ℕ) (i : CStr) :
    LogsUpTo SubstState.lookups (substLoop env subst n i)
      ((scan n i).parts.flatMap (partLookups subst.flags)) := by
  induction n generalizing i with
  | zero => exact (quiet_throw SubstStop.fuel).1
  | succ n ih =>
    cases i with
    | nil => exact (quiet_pure ()).1
    | cons c i =>
      intro s
      by_cases hleft : s.out.left = 0
      · rw [substLoop_full hleft]
        exact ⟨[], List.nil_prefix, (List.append_nil _).symm⟩
      cases hfirst : firstPart c i with
      | part part behind =>
        rw [substLoop_part hleft hfirst, scan, hfirst]
        exact (notes_substPart part).bind_upTo (fun _ => ih behind) s
      | unclosed token rest =>
        refine ⟨[], List.nil_prefix, ?_⟩
        rw [substLoop_unclosed hleft hfirst, List.append_nil]
        split
        · cases n <;> rfl
        · rfl

end Notes

/-! ## The substitution -/

/-- The template, with the date if it is enabled. -/
def expand (env : SubstEnv) (subst : IrcSubst) (input : CStr) : CStr :=
  if subst.flags.date then env.strftime subst.time input else input

/-- The commands that are run and the variables that are looked up. -/
def commands (lookups : List Lookup) : List Lookup :=
  lookups.filter fun
    | .keyword _ => false
    | _ => true

/-- The commands and variables of a template, if they are enabled. -/
def enabled (flags : IrcSubstFlags) (text : CStr) : List Lookup :=
  (template text).parts.filterMap fun
    | .construct token key =>
      if token = 36 ∧ flags.env = true then some (.env key)
      else if token = 33 ∧ flags.shell = true then some (.shell key)
      else none
    | _ => none

theorem commands_flatMap (flags : IrcSubstFlags) (text : CStr) :
    commands ((template text).parts.flatMap (partLookups flags)) = enabled flags text := by
  rw [commands, enabled]
  induction (template text).parts with
  | nil => rfl
  | cons part parts ih =>
    rw [List.flatMap_cons, List.filter_append, ih]
    cases part with
    | char c => rfl
    | doubled c => rfl
    | construct token key =>
      rw [List.filterMap_cons]
      dsimp only [partLookups]
      by_cases h35 : token = 35
      · subst h35
        by_cases hkeywords : flags.keywords = true <;> simp +decide [hkeywords]
      · rw [if_neg fun h => h35 h.1]
        by_cases henv : token = 36 ∧ flags.env = true
        · simp [henv]
        · rw [if_neg henv, if_neg henv]
          by_cases hshell : token = 33 ∧ flags.shell = true <;> simp [hshell]

theorem substInput_eq (env : SubstEnv) (subst : IrcSubst) (size : ℕ) (input : CStr) :
    substInput env subst size input = .error .nomem ∨
      substInput env subst size input = .ok (expand env subst input) := by
  rw [substInput, expand]
  by_cases hdate : subst.flags.date = true
  · rw [if_pos hdate, if_pos hdate, substDate]
    split
    · exact .inl rfl
    · exact .inr rfl
  · rw [if_neg hdate, if_neg hdate]
    exact .inr rfl

theorem quiet_substEnd : Quiet substEnd :=
  quiet_outsz.bind fun _ => (quiet_throw _).ite ((quiet_store _).bind fun _ =>
    (quiet_of_forall fun _ => rfl : Quiet get).bind fun _ => quiet_pure _)

/-- What the body of the substitution looks up and runs. -/
theorem notesUpTo_substBody (env : SubstEnv) (subst : IrcSubst) (input : CStr) :
    LogsUpTo SubstState.lookups (substBody env subst input)
      ((template (expand env subst input)).parts.flatMap (partLookups subst.flags)) := by
  intro s
  rw [substBody, outsz_bind]
  rcases substInput_eq env subst s.out.left input with hinput | hinput
  · rw [hinput]
    exact ⟨[], List.nil_prefix, (List.append_nil _).symm⟩
  · rw [hinput]
    exact (notesUpTo_substLoop _ _).bind_nil (fun _ => quiet_substEnd) s

/-- What a substitution has looked up and run. -/
theorem lookups_ircSubst (env : SubstEnv) (subst : IrcSubst) (out : List UInt8) (input : CStr) :
    (ircSubst env subst out input).lookups <+:
      (template (expand env subst input)).parts.flatMap (partLookups subst.flags) := by
  rw [ircSubst]
  split
  · exact List.nil_prefix
  · obtain ⟨left, hleft, hlog⟩ := notesUpTo_substBody env subst input ⟨⟨out, 0, out.length⟩, []⟩
    rw [List.nil_append] at hlog
    cases hbody : substBody env subst input ⟨⟨out, 0, out.length⟩, []⟩ with
    | ok n s =>
      rw [hbody] at hlog
      obtain rfl : s.lookups = left := hlog
      exact hleft
    | error e s =>
      rw [hbody] at hlog
      obtain rfl : s.lookups = left := hlog
      exact hleft

/-- The commands and variables of two substitutions of one template, whatever the values of the
keywords, the environment and the output of the commands, are those of the template, up to some of
them. -/
theorem commands_isPrefix_enabled (strftime : ℤ → CStr → CStr)
    (getenv getenv' : CStr → Option CStr) (popen popen' : List Lookup → CStr → Option (List UInt8))
    (flags : IrcSubstFlags) (time : ℤ) (keywords keywords' : List IrcSubstKeyword)
    (out out' : List UInt8) (input : CStr) :
    let text := if flags.date then strftime time input else input
    commands (ircSubst ⟨strftime, getenv, popen⟩ ⟨flags, time, keywords⟩ out input).lookups
        <+: enabled flags text ∧
      commands (ircSubst ⟨strftime, getenv', popen'⟩ ⟨flags, time, keywords'⟩ out' input).lookups
        <+: enabled flags text := by
  have hone (env : SubstEnv) (subst : IrcSubst) (out : List UInt8) :
      commands (ircSubst env subst out input).lookups <+:
        enabled subst.flags (expand env subst input) := by
    rw [← commands_flatMap]
    exact (lookups_ircSubst env subst out input).filter _
  exact ⟨hone ⟨strftime, getenv, popen⟩ ⟨flags, time, keywords⟩ out,
    hone ⟨strftime, getenv', popen'⟩ ⟨flags, time, keywords'⟩ out'⟩

end Irccd.Subst
