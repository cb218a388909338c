import Irccd.Peer.Handlers

/-!
# The variables that a plugin lists (`peer.c`, `js-plugin.c`)

The keys of a native plugin are those of its table. Those of a script are what `duk_enum` gives, as
C reads them, and the value of each is asked for by that text.

* `Plugin.PlainVars`: C reads the keys and the values of an object as Duktape has them;
* `exists_listed`, `plainVars_of_listed`: the variables are all listed then, and only then.
-/

namespace Irccd

/-- C reads the keys and the values of an object as Duktape has them. -/
def Plugin.PlainVars (plg : Plugin) (kind : VarKind) : Prop :=
  plg.script = true → ∀ table ∈ plg.vars kind, ∀ v ∈ table.entries,
    IsPlainString v.1 ∧ v.2.IsPlain

namespace Daemon

variable {plg : Plugin} {kind : VarKind} {vars : List (CStr × CStr)} {f : CStr → Option CStr}

/-- The texts of the keys, if they are all there. -/
theorem listed_eq (h : ∀ key ∈ plg.keys kind, plg.get kind key = .ok (f key)) :
    listed plg kind = .ok ((plg.keys kind).map fun key => (key, (f key).getD [])) := by
  rw [listed]
  revert h
  generalize plg.keys kind = keys
  intro h
  induction keys with
  | nil => rfl
  | cons key keys ih =>
    obtain ⟨hkey, hkeys⟩ := List.forall_mem_cons.1 h
    rw [List.mapM_cons, ih hkeys, hkey]
    rfl

theorem defined_listed_iff :
    Defined (listed plg kind) ↔ ∀ key ∈ plg.keys kind, plg.HasText kind key := by
  rw [listed]
  induction plg.keys kind with
  | nil => simp [List.mapM_nil]
  | cons key keys ih =>
    rw [List.mapM_cons, List.forall_mem_cons, ← ih, ← Plugin.defined_get_iff]
    cases plg.get kind key with
    | error e => simp
    | ok value => exact (defined_bind_iff_left fun _ => defined_pure _).trans (by simp)

/-- What is listed is what each key has been asked for. -/
theorem exists_of_listed (h : listed plg kind = .ok vars) : ∃ f : CStr → Option CStr,
    (∀ key ∈ plg.keys kind, plg.get kind key = .ok (f key)) ∧
      vars = (plg.keys kind).map fun key => (key, (f key).getD []) := by
  have hdefined (key : CStr) (hkey : key ∈ plg.keys kind) : Defined (plg.get kind key) :=
    Plugin.defined_get_iff.2 (defined_listed_iff.1 ⟨vars, h⟩ key hkey)
  choose! f hf using hdefined
  exact ⟨f, hf, Except.ok.inj (h.symm.trans (listed_eq hf))⟩

theorem keys_of_native (h : plg.script = false) :
    plg.keys kind = (plg.entries kind).map Prod.fst := by
  rw [Plugin.keys]
  cases hvars : plg.vars kind with
  | none => simp [Plugin.entries, hvars]
  | some table => simp [Plugin.entries_of_vars hvars, VarTable.keys_texts, h]

theorem keys_of_script {table : VarTable JsValue} (h : plg.script = true)
    (hvars : plg.vars kind = some table) : plg.keys kind = getTable table := by
  rw [Plugin.keys, hvars]
  exact if_pos h

theorem nodup_entries (plg : Plugin) (kind : VarKind) :
    ((plg.entries kind).map Prod.fst).Nodup := by
  cases hvars : plg.vars kind with
  | none => simp [Plugin.entries, hvars]
  | some table =>
    rw [Plugin.entries_of_vars hvars, VarTable.keys_texts]
    exact table.nodup_keys

/-- A key of a table has the value of its entry. -/
theorem map_value_entries (plg : Plugin) (kind : VarKind) {entries : List (CStr × CStr)}
    (h : ∀ v ∈ entries, v ∈ plg.entries kind) :
    (entries.map Prod.fst).map (fun key => (key, (plg.value kind key).getD [])) = entries := by
  rw [List.map_map]
  refine (List.map_congr_left fun v hv => ?_).trans (List.map_id entries)
  have hvalue : plg.value kind v.1 = some v.2 :=
    (lookup_eq_some_iff_mem (nodup_entries plg kind)).2 (h v hv)
  rw [Function.comp_apply, hvalue, Option.getD_some, id]

/-- A native plugin lists its table. -/
theorem listed_of_native (h : plg.script = false) :
    listed plg kind = .ok (plg.entries kind) := by
  rw [listed_eq fun key _ => Plugin.get_of_native h key, keys_of_native h,
    map_value_entries plg kind fun _ hv => hv]

/-- An object whose strings are plain is listed, in the order of `duk_enum`. -/
theorem listed_of_script {table : VarTable JsValue} (h : plg.script = true)
    (hvars : plg.vars kind = some table)
    (hplain : ∀ v ∈ table.entries, IsPlainString v.1 ∧ v.2.IsPlain) :
    ∃ vars, listed plg kind = .ok vars ∧ vars.Perm table.texts := by
  -- no key is a symbol, so `duk_enum` leaves none out
  have hperm : table.enumerate.Perm table.entries := by
    refine VarTable.enumerate_perm fun key hkey => ?_
    obtain ⟨value, hvalue⟩ := Option.isSome_iff_exists.1 hkey
    exact (hplain _ (VarTable.mem_entries_iff.2 hvalue)).1.1
  have htexts : (table.enumerate.map fun v => (v.1, v.2.text)).Perm table.texts := hperm.map _
  have hkeys : plg.keys kind = (table.enumerate.map fun v => (v.1, v.2.text)).map Prod.fst := by
    rw [keys_of_script h hvars, getTable, List.map_map]
    exact List.map_congr_left fun v hv => cString_eq_self_iff.2 (hplain v (hperm.mem_iff.1 hv)).1.2
  refine ⟨_, ?_, htexts⟩
  -- each key is asked for by its text, which is the key itself
  rw [listed_eq (f := plg.value kind) fun key hkey => ?_, hkeys, map_value_entries plg kind]
  · rw [Plugin.entries_of_vars hvars]
    exact fun v hv => htexts.mem_iff.1 hv
  · rw [hkeys, List.map_map] at hkey
    obtain ⟨v, hv, rfl⟩ := List.mem_map.1 hkey
    have hentry := hperm.mem_iff.1 hv
    have hget : table.get? v.1 = some v.2 := VarTable.mem_entries_iff.1 hentry
    dsimp only [Function.comp_apply]
    rw [Plugin.get_of_script h hvars, getValue_of_isPlain hget (hplain v hentry).2,
      Plugin.value_of_vars hvars, hget]
    rfl

/-- The variables of a plugin whose strings are plain are all listed. -/
theorem exists_listed (h : plg.PlainVars kind) : ∃ vars, listed plg kind = .ok vars ∧
    vars.Perm (plg.entries kind) ∧ (plg.script = false → vars = plg.entries kind) := by
  cases hscript : plg.script with
  | false => exact ⟨_, listed_of_native hscript, .refl _, fun _ => rfl⟩
  | true =>
    cases hvars : plg.vars kind with
    | none =>
      have hkeys : plg.keys kind = [] := by rw [Plugin.keys, hvars]
      have hentries : plg.entries kind = [] := by rw [Plugin.entries, hvars]; rfl
      refine ⟨[], ?_, by rw [hentries], fun _ => hentries.symm⟩
      rw [listed, hkeys]
      rfl
    | some table =>
      obtain ⟨vars, hlisted, hperm⟩ := listed_of_script hscript hvars (h hscript table hvars)
      rw [Plugin.entries_of_vars hvars]
      exact ⟨vars, hlisted, hperm, fun h => by simp at h⟩

/-- What C has read of an object has no NUL. -/
theorem nul_notMem_of_listed (hscript : plg.script = true) (h : listed plg kind = .ok vars) :
    ∀ v ∈ vars, 0 ∉ v.1 ∧ 0 ∉ v.2 := by
  obtain ⟨f, hget, rfl⟩ := exists_of_listed h
  intro v hv
  obtain ⟨key, hkey, rfl⟩ := List.mem_map.1 hv
  cases hvars : plg.vars kind with
  | none => simp [Plugin.keys, hvars] at hkey
  | some table =>
    have hvalue := hget key hkey
    rw [Plugin.get_of_script hscript hvars] at hvalue
    cases htaken : getValue table key with
    | none => rw [htaken] at hvalue; cases hvalue
    | some value =>
      rw [htaken] at hvalue
      rw [← Except.ok.inj hvalue]
      rw [keys_of_script hscript hvars] at hkey
      obtain ⟨e, -, rfl⟩ := List.mem_map.1 hkey
      exact ⟨nul_notMem_cString _, nul_notMem_getValue htaken⟩

theorem plainVars_of_entries_eq_nil (h : plg.entries kind = []) : plg.PlainVars kind := by
  intro _ table hvars v hv
  rw [Plugin.entries_of_vars hvars, VarTable.texts, List.map_eq_nil_iff] at h
  simp [h] at hv

/-- The strings of an object are plain if as many variables are listed as it has, and none of its
texts has a NUL. -/
theorem plainVars_of_listed (hlisted : listed plg kind = .ok vars)
    (hlength : vars.length = (plg.entries kind).length)
    (hclean : ∀ v ∈ plg.entries kind, 0 ∉ v.1 ∧ 0 ∉ v.2) : plg.PlainVars kind := by
  intro hscript table hvars v hv
  rw [Option.mem_def] at hvars
  rw [Plugin.entries_of_vars hvars] at hlength hclean
  obtain ⟨f, hget, rfl⟩ := exists_of_listed hlisted
  have hkeys : plg.keys kind = table.enumerate.map fun e => cString e.1 :=
    keys_of_script hscript hvars
  -- as many keys are listed as there are, so none of them is a symbol
  have hsymbol : ∀ e ∈ table.entries, isJsSymbol e.1 = false := by
    rw [List.length_map, hkeys, List.length_map, VarTable.texts, List.length_map,
      VarTable.enumerate_perm_filter.length_eq, List.length_filter_eq_length_iff] at hlength
    simpa using hlength
  obtain ⟨hkey, hvalue⟩ := hclean (v.1, v.2.text) (List.mem_map.2 ⟨v, hv, rfl⟩)
  refine ⟨⟨hsymbol v hv, hkey⟩, JsValue.isPlain_iff.2 ⟨?_, hvalue⟩⟩
  -- the text of the value was there
  have hmem : v.1 ∈ plg.keys kind := by
    rw [hkeys]
    refine List.mem_map.2 ⟨v, ?_, cString_eq_self_iff.2 hkey⟩
    have hlisted : v ∈ table.entries.filter fun v => !isJsSymbol v.1 :=
      List.mem_filter.2 ⟨hv, by simp [hsymbol v hv]⟩
    exact VarTable.enumerate_perm_filter.mem_iff.2 hlisted
  exact (Plugin.hasText_iff_of_script hscript hvars (VarTable.mem_entries_iff.1 hv)).1
    (Plugin.defined_get_iff.1 ⟨_, hget v.1 hmem⟩)

/-! ## The text of a list -/

/-- The first line tells how many variables there are. -/
theorem takeWhile_varList (vars : List (CStr × CStr)) :
    (varList vars).takeWhile (· != LF) = cstr "OK " ++ decimal vars.length := by
  have hline : ∀ b ∈ cstr "OK " ++ decimal vars.length, (b != LF) = true := by
    intro b hb
    rw [bne_iff_ne]
    rintro rfl
    rcases List.mem_append.1 hb with hmem | hmem
    · exact absurd hmem (by decide)
    · exact absurd (isdigit_of_mem_decimal hmem) (by decide)
  rw [varList, List.append_assoc _ [LF], List.takeWhile_append_of_pos hline]
  simp

/-- So does the first line of a text that is cut behind it. -/
theorem takeWhile_memText_varList {size : ℕ} (hmem : LF ∈ memText size (varList vars)) :
    (memText size (varList vars)).takeWhile (· != LF) = cstr "OK " ++ decimal vars.length := by
  rw [← takeWhile_varList, memText]
  rw [memText] at hmem
  conv_rhs => rw [← List.take_append_drop (size - 1) (varList vars)]
  rw [List.takeWhile_append, if_neg]
  intro hlength
  have hall := List.takeWhile_eq_self_iff.1 ((List.takeWhile_prefix _).eq_of_length hlength)
  exact absurd (hall LF hmem) (by decide)

theorem nul_notMem_varList (h : ∀ v ∈ vars, 0 ∉ v.1 ∧ 0 ∉ v.2) : 0 ∉ varList vars := by
  have hOK : 0 ∉ cstr "OK " := by decide
  have hEq : 0 ∉ cstr "=" := by decide
  have hLF : (0 : UInt8) ≠ LF := by decide
  have hdecimal : 0 ∉ decimal vars.length := fun hmem =>
    absurd (isdigit_of_mem_decimal hmem) (by decide)
  simp only [varList, varLines, List.mem_append, List.mem_flatMap, List.mem_singleton, not_or,
    not_exists, not_and]
  exact ⟨⟨⟨hOK, hdecimal⟩, hLF⟩, fun v hv => ⟨⟨⟨(h v hv).1, hEq⟩, (h v hv).2⟩, hLF⟩⟩

end Daemon

end Irccd
