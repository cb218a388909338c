import Irccd.Foundations.Trials
import Irccd.Js.Variables

/-!
# The search for a plugin (`irccd.c`)

A plugin is looked for with each loader, in each of its directories and with each of its
extensions, unless its path is given.

* `PluginLoader`: what a loader has, and what it opens;
* `ircBotPluginSearch`: the loops over the loaders, the directories and the extensions;
* `candidates`: the files in the order in which they should be tried;
* `Prepared`: what becomes of the paths of a plugin that has been found;
* `search_inOrder`: what is found, what has been tried before, and when the search fails.
-/

namespace Irccd

/-- `struct irc_plugin_loader` -/
structure PluginLoader where
  paths : Option CStr
  extensions : Option CStr
  opens : CStr → CStr → Option Plugin

/-- The directories of `config.h`. -/
structure InstallDirs where
  cachedir : CStr
  datadir : CStr
  sysconfdir : CStr

namespace Search

/-- How the search goes wrong. -/
inductive SearchStop
  /-- `find_plugin` returns a pointer that has no value. -/
  | uninitialized
  /-- `is_extension_valid` copies the extensions of a loader that has none. -/
  | nullExtensions
  deriving DecidableEq

/-- A file that a loader is asked to open. -/
abbrev Candidate := PluginLoader × CStr

def COLON : UInt8 := 58

def DOT : UInt8 := 46

/-- What is printed in a buffer of `PATH_MAX` bytes. -/
def pathText (text : CStr) : CStr := text.take 4095

section Functions

variable (dirs : InstallDirs) (ldr : PluginLoader) (base name : CStr)

/-- The path that `try_plugin` prints. -/
def tryPath (ext : Option CStr) : CStr :=
  match ext with
  | some ext => pathText (base ++ cstr "/" ++ name ++ cstr "." ++ ext)
  | none => pathText (base ++ cstr "/" ++ name)

/-- `try_plugin` -/
def tryPlugin (ext : Option CStr) : Except SearchStop (Trials.Trial Candidate Plugin) :=
  let path := tryPath base name ext
  .ok ([(ldr, path)], ldr.opens name path)

/-- `find_plugin` -/
def findPlugin : Except SearchStop (Trials.Trial Candidate Plugin) :=
  match ldr.extensions with
  | some extensions =>
    match tokens COLON extensions with
    -- `p` is only set in the loop
    | [] => .error .uninitialized
    | exts => Trials.loop (fun ext => tryPlugin ldr base name (some ext)) exts
  | none => tryPlugin ldr base name none

/-- `open_plugin` -/
def openPlugin (path : CStr) : Except SearchStop (Trials.Trial Candidate Plugin) :=
  .ok ([(ldr, path)], ldr.opens name path)

/-- `is_extension_valid` -/
def isExtensionValid (path : CStr) : Except SearchStop Bool :=
  if DOT ∉ path then .ok true
  else
    match ldr.extensions with
    | none => .error .nullExtensions
    | some extensions =>
      .ok ((tokens COLON extensions).contains (path.reverse.takeWhile (· ≠ DOT)).reverse)

/-- The body of the loop over the loaders. -/
def searchLoader (path : Option CStr) : Except SearchStop (Trials.Trial Candidate Plugin) :=
  match path with
  | some path =>
    match isExtensionValid ldr path with
    | .error e => .error e
    | .ok true => openPlugin ldr name path
    | .ok false => .ok ([], none)
  | none =>
    match ldr.paths with
    | some paths => Trials.loop (fun base => findPlugin ldr base name) (tokens COLON paths)
    | none => .ok ([], none)

/-- The keys that `irc_bot_plugin_search` sets, and their values. -/
def defaultPaths : List (CStr × CStr) :=
  [(cstr "cache", pathText (dirs.cachedir ++ cstr "/plugin/" ++ name)),
    (cstr "data", pathText (dirs.datadir ++ cstr "/plugin/" ++ name)),
    (cstr "config", pathText (dirs.sysconfdir ++ cstr "/irccd/plugin/" ++ name))]

/-- The end of `irc_bot_plugin_search`. -/
def setDefaultPaths (p : Plugin) : Plugin :=
  (defaultPaths dirs p.name).foldl (fun p path => p.set .path path.1 path.2) p

/-- `irc_bot_plugin_search`, with the files that have been tried. -/
def ircBotPluginSearch (loaders : List PluginLoader) (path : Option CStr) :
    Except SearchStop (Trials.Trial Candidate Plugin) :=
  (Trials.loop (fun ldr => searchLoader ldr name path) loaders).map fun r =>
    (r.1, r.2.map (setDefaultPaths dirs))

end Functions

/-! ## Candidates -/

/-- The files of a directory that may be the plugin. -/
def filesOf (ldr : PluginLoader) (base name : CStr) : List (Except SearchStop Candidate) :=
  match ldr.extensions with
  | some extensions =>
    match tokens COLON extensions with
    | [] => [.error .uninitialized]
    | exts => exts.map fun ext => .ok (ldr, tryPath base name (some ext))
  | none => [.ok (ldr, tryPath base name none)]

/-- The files that a loader may be asked to open. -/
def candidates (ldr : PluginLoader) (name : CStr) (path : Option CStr) :
    List (Except SearchStop Candidate) :=
  match path with
  | some path =>
    match isExtensionValid ldr path with
    | .error e => [.error e]
    | .ok valid => if valid then [.ok (ldr, path)] else []
  | none => (tokens COLON (ldr.paths.getD [])).flatMap fun base => filesOf ldr base name

/-- What `irc_bot_plugin_search` makes of the plugin that has been opened: of its variables only the
default paths are set, whether or not it has set them itself. -/
structure Prepared (dirs : InstallDirs) (p q : Plugin) : Prop where
  name : q.name = p.name
  vars : ∀ kind, kind ≠ .path → q.vars kind = p.vars kind
  path : ∀ key, q.value .path key =
    if (p.vars .path).isSome then ((defaultPaths dirs p.name).lookup key).or (p.value .path key)
    else none

/-- The candidate is opened by its loader. -/
def opened (name : CStr) (c : Candidate) : Option Plugin := c.1.opens name c.2

section Lemmas

variable {dirs : InstallDirs} {ldr : PluginLoader} {base name : CStr}

theorem tryPlugin_eq_scan (ext : Option CStr) :
    tryPlugin ldr base name ext =
      Trials.scan (opened name) [.ok (ldr, tryPath base name ext)] := by
  rw [Trials.scan_singleton]
  rfl

theorem findPlugin_eq_scan :
    findPlugin ldr base name = Trials.scan (opened name) (filesOf ldr base name) := by
  rw [findPlugin, filesOf]
  cases ldr.extensions with
  | none => exact tryPlugin_eq_scan none
  | some extensions =>
    dsimp only
    split
    · rfl
    · rw [List.map_eq_flatMap]
      exact Trials.loop_eq_scan (fun ext => tryPlugin_eq_scan (some ext)) _

theorem searchLoader_eq_scan (path : Option CStr) :
    searchLoader ldr name path = Trials.scan (opened name) (candidates ldr name path) := by
  cases path with
  | some path =>
    simp only [searchLoader, candidates]
    cases isExtensionValid ldr path with
    | error e => rfl
    | ok valid =>
      cases valid with
      | false => rfl
      | true =>
        have hscan : Trials.scan (opened name) [(.ok (ldr, path) : Except SearchStop Candidate)] =
            .ok ([(ldr, path)], opened name (ldr, path)) := Trials.scan_singleton (ldr, path)
        exact hscan.symm
  | none =>
    simp only [searchLoader, candidates]
    cases ldr.paths with
    | none => rfl
    | some paths => exact Trials.loop_eq_scan (fun base => findPlugin_eq_scan) _

/-- The loops try the candidates of all loaders, in order. -/
theorem ircBotPluginSearch_eq (loaders : List PluginLoader) (path : Option CStr) :
    ircBotPluginSearch dirs name loaders path =
      (Trials.scan (opened name) (loaders.flatMap (candidates · name path))).map fun r =>
        (r.1, r.2.map (setDefaultPaths dirs)) := by
  rw [ircBotPluginSearch, Trials.loop_eq_scan fun ldr => searchLoader_eq_scan path]

section Outcomes

variable {x : Except SearchStop (Trials.Trial Candidate Plugin)} {tried : List Candidate}

theorem map_eq_some_iff {q : Plugin} :
    (x.map fun r => (r.1, r.2.map (setDefaultPaths dirs))) = .ok (tried, some q) ↔
      ∃ p, x = .ok (tried, some p) ∧ setDefaultPaths dirs p = q := by
  rcases x with e | ⟨tried', _ | p⟩ <;> simp [Except.map]

theorem map_eq_none_iff :
    (x.map fun r => (r.1, r.2.map (setDefaultPaths dirs))) = .ok (tried, none) ↔
      x = .ok (tried, none) := by
  rcases x with e | ⟨tried', _ | p⟩ <;> simp [Except.map]

theorem map_eq_error_iff {e : SearchStop} :
    (x.map fun r => (r.1, r.2.map (setDefaultPaths dirs))) = .error e ↔ x = .error e := by
  rcases x with e' | ⟨tried', _ | p⟩ <;> simp [Except.map]

end Outcomes

theorem vars_set_path (p : Plugin) (key value : CStr) (kind : VarKind) (h : kind ≠ .path) :
    (p.set .path key value).vars kind = p.vars kind := if_neg h

theorem isSome_vars_set (p : Plugin) (key value : CStr) :
    ((p.set .path key value).vars .path).isSome = (p.vars .path).isSome := by
  rw [Plugin.set]
  dsimp only
  rw [if_pos rfl, Option.isSome_map]

/-- The default paths are not ignored. -/
theorem value_set_of_ne {key : CStr} (hkey : key ≠ cstr "__proto__") (p : Plugin)
    (value k : CStr) : (p.set .path key value).value .path k =
      if (p.vars .path).isSome ∧ k = key then some value else p.value .path k :=
  Plugin.value_set value k fun _ heq => absurd heq hkey

theorem prepared_setDefaultPaths (p : Plugin) : Prepared dirs p (setDefaultPaths dirs p) := by
  refine ⟨rfl, fun kind hkind => ?_, fun key => ?_⟩
  · simp only [setDefaultPaths, defaultPaths, List.foldl_cons, List.foldl_nil]
    rw [vars_set_path _ _ _ _ hkind, vars_set_path _ _ _ _ hkind, vars_set_path _ _ _ _ hkind]
  · have hcache : cstr "cache" ≠ cstr "__proto__" := by decide
    have hdata : cstr "data" ≠ cstr "__proto__" := by decide
    have hconfig : cstr "config" ≠ cstr "__proto__" := by decide
    simp only [setDefaultPaths, defaultPaths, List.foldl_cons, List.foldl_nil,
      value_set_of_ne hcache, value_set_of_ne hdata, value_set_of_ne hconfig,
      isSome_vars_set, lookup_cons_eq_ite, List.lookup_nil]
    cases hsome : (p.vars .path).isSome with
    | false =>
      have hnone : p.vars .path = none := by simpa using hsome
      simp [Plugin.value_of_none hnone]
    | true =>
      -- the keys are different
      have hdata : cstr "data" ≠ cstr "cache" := by decide
      have hconfig : cstr "config" ≠ cstr "cache" ∧ cstr "config" ≠ cstr "data" := by decide
      by_cases hkey : key = cstr "config"
      · simp [hkey, hconfig]
      · by_cases hkey' : key = cstr "data"
        · simp [hkey', hdata, hconfig.2.symm]
        · by_cases hkey'' : key = cstr "cache"
          · simp [hkey'', hdata.symm, hconfig.1.symm]
          · simp [hkey, hkey', hkey'']

end Lemmas

/-- `ircBotPluginSearch dirs name loaders path` opens one candidate after another, in the order of
the loaders, of their directories and of their extensions. It returns the first plugin that is
opened, with the default paths; it fails at the first loader that it cannot use, if no plugin has
been opened before. -/
theorem search_inOrder (dirs : InstallDirs) (name : CStr) (loaders : List PluginLoader)
    (path : Option CStr) (tried : List Candidate) :
    (∀ q, ircBotPluginSearch dirs name loaders path = .ok (tried, some q) ↔
      ∃ (before : List Candidate) (c : Candidate) (rest : List (Except SearchStop Candidate)),
        loaders.flatMap (candidates · name path) = before.map .ok ++ .ok c :: rest ∧
        (∀ d ∈ before, opened name d = none) ∧ tried = before ++ [c] ∧
        (opened name c).map (setDefaultPaths dirs) = some q) ∧
    (ircBotPluginSearch dirs name loaders path = .ok (tried, none) ↔
      loaders.flatMap (candidates · name path) = tried.map .ok ∧
        ∀ d ∈ tried, opened name d = none) ∧
    (∀ e, ircBotPluginSearch dirs name loaders path = .error e ↔
      ∃ (before : List Candidate) (rest : List (Except SearchStop Candidate)),
        loaders.flatMap (candidates · name path) = before.map .ok ++ .error e :: rest ∧
        ∀ d ∈ before, opened name d = none) ∧
    ∀ p, Prepared dirs p (setDefaultPaths dirs p) := by
  have hsearch : ircBotPluginSearch dirs name loaders path =
      (Trials.scan (opened name) (loaders.flatMap (candidates · name path))).map fun r =>
        (r.1, r.2.map (setDefaultPaths dirs)) := ircBotPluginSearch_eq loaders path
  refine ⟨fun q => ?_, ?_, fun e => ?_, prepared_setDefaultPaths⟩
  · rw [hsearch, map_eq_some_iff]
    constructor
    · rintro ⟨p, hscan, rfl⟩
      obtain ⟨before, c, rest, hcs, hvain, hc, rfl⟩ := Trials.scan_eq_some_iff.1 hscan
      exact ⟨before, c, rest, hcs, hvain, rfl, by rw [hc]; rfl⟩
    · rintro ⟨before, c, rest, hcs, hvain, rfl, hq⟩
      obtain ⟨p, hc, hp⟩ := Option.map_eq_some_iff.1 hq
      exact ⟨p, Trials.scan_eq_some_iff.2 ⟨before, c, rest, hcs, hvain, hc, rfl⟩, hp⟩
  · rw [hsearch, map_eq_none_iff]
    exact Trials.scan_eq_none_iff
  · rw [hsearch, map_eq_error_iff]
    exact Trials.scan_eq_error_iff

end Search

end Irccd
