import Irccd.CString

/-!
# Options of the command line (`getopt (3)`)

The client sets `POSIXLY_CORRECT`, so that the options of a sub-command stand before its operands.

* `getopt`: the options, in order, and the operands;
* `forall_getopt`: what is read comes from the arguments.
-/

namespace Irccd

namespace Ctl

/-- The question mark, which `getopt` returns for an option that it does not know, or whose argument
is missing. -/
def badOption : UInt8 := 63

/-- Whether an option takes an argument: its letter is followed by a colon then. -/
def takesArg (opts : CStr) (ch : UInt8) : Option Bool :=
  match opts.dropWhile (· != ch) with
  | [] => none
  | _ :: rest => if ch = 58 then none else some (rest.head? == some 58)

/-- The options of one argument, less its dash, and whether the next argument belongs to the last
of them. -/
def optionLetters (opts : CStr) (next : Option CStr) : CStr → List (UInt8 × Option CStr) × Bool
  | [] => ([], false)
  | ch :: rest =>
    match takesArg opts ch with
    | none => ((badOption, none) :: (optionLetters opts next rest).1,
        (optionLetters opts next rest).2)
    | some false => ((ch, none) :: (optionLetters opts next rest).1,
        (optionLetters opts next rest).2)
    | some true =>
      -- the argument is the rest of this one, or the next one
      if rest ≠ [] then ([(ch, some rest)], false)
      else
        match next with
        | some optarg => ([(ch, some optarg)], true)
        | none => ([(badOption, none)], false)

/-- `while ((ch = getopt (argc, argv, opts)) != -1)`: each `ch` with its `optarg`, and the operands
that are left. -/
def getopt (opts : CStr) : List CStr → List (UInt8 × Option CStr) × List CStr
  | [] => ([], [])
  | [arg] =>
    match arg with
    | 45 :: ch :: rest =>
      if ch = 45 ∧ rest = [] then ([], [])
      else ((optionLetters opts none (ch :: rest)).1, [])
    | _ => ([], [arg])
  | arg :: next :: args =>
    match arg with
    | 45 :: ch :: rest =>
      -- two dashes end the options
      if ch = 45 ∧ rest = [] then ([], next :: args)
      else
        let (options, used) := optionLetters opts (some next) (ch :: rest)
        let (more, operands) := if used then getopt opts args else getopt opts (next :: args)
        (options ++ more, operands)
    | _ => ([], arg :: next :: args)

example : getopt (cstr "sn:p:") (["-sn", "jean", "-p6697", "local", "-s"].map cstr) =
    ([(115, none), (110, some (cstr "jean")), (112, some (cstr "6697"))],
      ["local", "-s"].map cstr) := by
  decide

section Options

variable {opts : CStr} {next : Option CStr} {args : List CStr} {o : UInt8 × Option CStr}

/-- An option that is not a bad one has an argument if and only if it takes one. -/
theorem option_of_mem_optionLetters {rest : CStr} (ho : o ∈ (optionLetters opts next rest).1) :
    o = (badOption, none) ∨ takesArg opts o.1 = some o.2.isSome := by
  induction rest with
  | nil => cases ho
  | cons ch rest ih =>
    unfold optionLetters at ho
    split at ho
    · rcases List.mem_cons.1 ho with rfl | ho
      · exact .inl rfl
      · exact ih ho
    · rename_i htakes
      rcases List.mem_cons.1 ho with rfl | ho
      · exact .inr htakes
      · exact ih ho
    · rename_i htakes
      split at ho
      · obtain rfl := List.mem_singleton.1 ho
        exact .inr htakes
      · split at ho
        · obtain rfl := List.mem_singleton.1 ho
          exact .inr htakes
        · obtain rfl := List.mem_singleton.1 ho
          exact .inl rfl

/-- The argument of an option is the end of the argument that it stands in, or the next one. -/
theorem optarg_of_mem_optionLetters {rest v : CStr} (ho : o ∈ (optionLetters opts next rest).1)
    (hv : o.2 = some v) : (v ≠ [] ∧ v <:+ rest) ∨ next = some v := by
  induction rest with
  | nil => cases ho
  | cons ch rest ih =>
    have hlift : (v ≠ [] ∧ v <:+ rest) ∨ next = some v →
        (v ≠ [] ∧ v <:+ ch :: rest) ∨ next = some v :=
      Or.imp_left (And.imp_right fun hsuffix => hsuffix.trans (List.suffix_cons ch rest))
    unfold optionLetters at ho
    split at ho
    · rcases List.mem_cons.1 ho with rfl | ho
      · cases hv
      · exact hlift (ih ho)
    · rcases List.mem_cons.1 ho with rfl | ho
      · cases hv
      · exact hlift (ih ho)
    · split at ho
      · rename_i hne
        obtain rfl := List.mem_singleton.1 ho
        obtain rfl : rest = v := Option.some.inj hv
        exact .inl ⟨hne, List.suffix_cons ch rest⟩
      · split at ho
        · obtain rfl := List.mem_singleton.1 ho
          exact .inr hv
        · obtain rfl := List.mem_singleton.1 ho
          cases hv

/-- An argument is an operand, two dashes, or some options, the last of which may take the next
argument. -/
theorem getopt_cons (opts arg : CStr) (args : List CStr) :
    getopt opts (arg :: args) = ([], arg :: args) ∨ getopt opts (arg :: args) = ([], args) ∨
      ∃ ch rest args', arg = 45 :: ch :: rest ∧ args' <:+ args ∧
        getopt opts (arg :: args) =
          ((optionLetters opts args.head? (ch :: rest)).1 ++ (getopt opts args').1,
            (getopt opts args').2) := by
  match arg with
  | [] => exact .inl (by cases args <;> rfl)
  | [ch] => exact .inl (by cases args <;> simp [getopt])
  | dash :: ch :: rest =>
    by_cases hdash : dash = 45
    · subst hdash
      by_cases hend : ch = 45 ∧ rest = []
      · refine .inr (.inl ?_)
        cases args <;> simp [getopt, hend]
      · refine .inr (.inr ⟨ch, rest, ?_⟩)
        cases args with
        | nil => exact ⟨[], rfl, List.suffix_rfl, by simp [getopt, hend]⟩
        | cons next args =>
          cases hused : (optionLetters opts (some next) (ch :: rest)).2 with
          | true =>
            exact ⟨args, rfl, List.suffix_cons next args, by simp [getopt, hend, hused]⟩
          | false => exact ⟨next :: args, rfl, List.suffix_rfl, by simp [getopt, hend, hused]⟩
    · exact .inl (by cases args <;> simp [getopt, hdash])

/-- The induction of `getopt`: what holds of the options of one argument, and of the operands that
are left, holds of all options and of the operands. -/
theorem getopt_induction {P : UInt8 × Option CStr → Prop} {Q : List CStr → Prop}
    (hP : ∀ ch rest args', (45 :: ch :: rest) :: args' <:+ args →
      ∀ o ∈ (optionLetters opts args'.head? (ch :: rest)).1, P o)
    (hQ : ∀ operands, operands <:+ args → Q operands) :
    (∀ o ∈ (getopt opts args).1, P o) ∧ Q (getopt opts args).2 := by
  obtain ⟨n, hn⟩ : ∃ n, args.length = n := ⟨_, rfl⟩
  induction n using Nat.strongRecOn generalizing args with
  | ind n ih =>
    cases args with
    | nil => exact ⟨by simp [getopt], hQ [] List.suffix_rfl⟩
    | cons arg args =>
      rcases getopt_cons opts arg args with heq | heq | ⟨ch, rest, args', rfl, hsuffix, heq⟩
      · rw [heq]
        exact ⟨by simp, hQ _ List.suffix_rfl⟩
      · rw [heq]
        exact ⟨by simp, hQ _ (List.suffix_cons arg args)⟩
      · have hlen := hsuffix.length_le
        have hafter : args' <:+ (45 :: ch :: rest) :: args :=
          hsuffix.trans (List.suffix_cons _ args)
        obtain ⟨hmore, hoperands⟩ := ih args'.length (by rw [← hn, List.length_cons]; omega)
          (fun ch' rest' args'' h => hP ch' rest' args'' (h.trans hafter))
          (fun operands h => hQ operands (h.trans hafter)) rfl
        rw [heq]
        refine ⟨fun o ho => ?_, hoperands⟩
        rcases List.mem_append.1 ho with ho | ho
        · exact hP ch rest args List.suffix_rfl o ho
        · exact hmore o ho

omit next args o in
/-- The letter of an option is one of those given to `getopt`. -/
theorem mem_of_takesArg {ch : UInt8} {b : Bool} (h : takesArg opts ch = some b) : ch ∈ opts := by
  unfold takesArg at h
  split at h
  · cases h
  · rename_i c rest heq
    have hc : c = ch := by
      have hnot := List.head_dropWhile_not (p := (· != ch)) (by rw [heq]; simp)
      simpa [heq] using hnot
    rw [← hc]
    exact (List.dropWhile_suffix _).mem (by rw [heq]; simp)

/-- An option of the command line is a bad one, or has an argument if and only if it takes one. -/
theorem option_of_mem_getopt (ho : o ∈ (getopt opts args).1) :
    o = (badOption, none) ∨ takesArg opts o.1 = some o.2.isSome :=
  (getopt_induction (Q := fun _ => True)
    (fun _ _ _ _ _ => option_of_mem_optionLetters) (fun _ _ => trivial)).1 o ho

/-- An operand is an argument. -/
theorem mem_of_mem_operands {w : CStr} (hw : w ∈ (getopt opts args).2) : w ∈ args :=
  (getopt_induction (P := fun _ => True) (fun _ _ _ _ _ _ => trivial)
    (fun _ hsuffix => hsuffix.mem (a := w))).2 hw

/-- The argument of an option is the end of an argument. -/
theorem exists_of_optarg {v : CStr} (hargs : [] ∉ args) (ho : o ∈ (getopt opts args).1)
    (hv : o.2 = some v) : v ≠ [] ∧ ∃ w ∈ args, v <:+ w := by
  revert v
  refine (getopt_induction (P := fun o => ∀ {v}, o.2 = some v → v ≠ [] ∧ ∃ w ∈ args, v <:+ w)
    (Q := fun _ => True) (fun ch rest args' hsuffix o ho v hv => ?_) (fun _ _ => trivial)).1 o ho
  rcases optarg_of_mem_optionLetters ho hv with ⟨hne, hend⟩ | hnext
  · exact ⟨hne, _, hsuffix.mem (by simp), hend.trans (List.suffix_cons 45 _)⟩
  · have hmem : v ∈ args := hsuffix.mem (List.mem_cons_of_mem _ (List.mem_of_mem_head? hnext))
    exact ⟨fun hnil => hargs (hnil ▸ hmem), v, hmem, List.suffix_rfl⟩

end Options

end Ctl

end Irccd
