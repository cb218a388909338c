import Irccd.Foundations.Clearing
import Irccd.Js.Directory

/-!
# The removal of a directory (`jsapi-directory.c`)

`Directory.remove` removes what the walk visits, each entry when its turn comes, and the directory
at last. A directory that is not empty is not removed, nor is what the system does not let the bot
remove.

* `Files`: the files of the system, by their paths;
* `rmHelper`: the walk with the callback `rm`;
* `Lists`: the entries that the walk finds are what is below the directory;
* `removed_iff`: exactly when the directory is removed, and what is left.
-/

namespace Irccd

namespace Directory

/-- The path is that of a directory, and something else is in it. -/
def Below (p q : CStr) : Prop := p.getLast? = some 47 ∧ p <+: q ∧ p ≠ q

instance : DecidableRel Below := fun p q =>
  inferInstanceAs (Decidable (p.getLast? = some 47 ∧ p <+: q ∧ p ≠ q))

/-- The paths of the files. The path of a directory ends with a slash. -/
structure Files where
  paths : List CStr
  /-- `remove` fails, although nothing is in the file. -/
  denied : CStr → Bool
  nodup : paths.Nodup
  kind : ∀ p ∈ paths, p ++ cstr "/" ∉ paths

/-- The file cannot be removed as long as the other one is there. -/
def Blocked (denied : CStr → Bool) (p q : CStr) : Prop := Below p q ∨ p = q ∧ denied p = true

instance (denied : CStr → Bool) : DecidableRel (Blocked denied) := fun p q =>
  inferInstanceAs (Decidable (Below p q ∨ p = q ∧ denied p = true))

/-- What `stat` says of a path, and the entries if it is that of a directory that can be opened. -/
inductive Target
  | fails
  | other
  | directory (entries : Option Entries)

/-- The file that a path names. -/
def resolve (paths : List CStr) (path : CStr) : CStr :=
  if paths.contains path then path else path ++ cstr "/"

theorem resolve_of_mem {paths : List CStr} {path : CStr} (h : path ∈ paths) :
    resolve paths path = path := if_pos (List.contains_iff_mem.2 h)

/-- `remove (path)`: nothing happens to a directory that is not empty, or if it is denied. -/
def Files.remove (fs : Files) (path : CStr) : Files where
  paths := Clearing.remove (Blocked fs.denied) fs.paths (resolve fs.paths path)
  denied := fs.denied
  nodup := fs.nodup.sublist (Clearing.remove_sublist fs.paths _)
  kind p hp hmem :=
    have hsublist : (Clearing.remove (Blocked fs.denied) fs.paths (resolve fs.paths path)).Sublist
        fs.paths := Clearing.remove_sublist fs.paths _
    fs.kind p (hsublist.subset hp) (hsublist.subset hmem)

/-- `rm`, if the callback is called. -/
def rm (fs : Files) : Event → Files
  | .visit _ path _ => fs.remove path
  | .left _ _ => fs

/-- `rm_helper`, which throws if there is no such directory. The callback returns zero. -/
def rmHelper (fs : Files) (path : CStr) (recursive : Bool) : Target → Option Files
  | .fails => none
  | .other => none
  | .directory entries =>
    let fs := if recursive then (recurse true noStop path entries).events.foldl rm fs else fs
    some (fs.remove path)

/-! ## What is below a directory -/

/-- The paths of the entries and of those below them, children before their directory. -/
def Entries.inside : Entries → CStr → List CStr
  | .nil, _ => []
  | .other name _ rest, dir =>
    if isDot name then rest.inside dir else (dir ++ name) :: rest.inside dir
  | .directory name _ _ children rest, dir =>
    if isDot name then rest.inside dir
    else children.inside (dir ++ name ++ cstr "/") ++ (dir ++ name ++ cstr "/") :: rest.inside dir

/-- The names of the entries. -/
def Entries.names : Entries → List CStr
  | .nil => []
  | .other name _ rest => name :: rest.names
  | .directory name _ _ _ rest => name :: rest.names

/-- The entries of a directory have different names, without slashes. -/
def Entries.Named : Entries → Prop
  | .nil => True
  | .other name _ rest => name ≠ [] ∧ 47 ∉ name ∧ name ∉ rest.names ∧ rest.Named
  | .directory name _ _ children rest =>
    name ≠ [] ∧ 47 ∉ name ∧ name ∉ rest.names ∧ children.Named ∧ rest.Named

/-- Each entry can be examined, and each sub-directory opened. -/
def Entries.Examined : Entries → Prop
  | .nil => True
  | .other name stats rest => (isDot name = true ∨ stats = true) ∧ rest.Examined
  | .directory name stats opening children rest =>
    (isDot name = true ∨ stats = true ∧ opening = .opened ∧ children.Examined) ∧ rest.Examined

/-- The system lets the bot remove what is at the path and below. -/
def Files.Permits (fs : Files) (dir : CStr) : Prop :=
  ∀ p ∈ fs.paths, dir <+: p → fs.denied p = false

/-- The entries are what is in the directory. -/
structure Lists (fs : Files) (path : CStr) (entries : Entries) : Prop where
  named : entries.Named
  mem : base path ∈ fs.paths
  exist : ∀ p ∈ entries.inside (base path), p ∈ fs.paths
  all : ∀ p ∈ fs.paths, Below (base path) p → p ∈ entries.inside (base path)

/-! ## Paths -/

section Paths

variable {dir name p q : CStr} {entries children rest : Entries}

theorem takeWhile_append_slash {t : CStr} (h : 47 ∉ name) :
    (name ++ 47 :: t).takeWhile (· ≠ 47) = name := by
  rw [List.takeWhile_append_of_pos fun c hc => by
    simpa using fun heq : c = 47 => h (heq ▸ hc)]
  simp

theorem not_below_self (p : CStr) : ¬ Below p p := fun h => h.2.2 rfl

/-- A path below a directory begins with the name of an entry. -/
theorem exists_name_of_mem_inside (h : p ∈ entries.inside dir) :
    ∃ n ∈ entries.names, ∃ tail, p = dir ++ n ++ tail ∧ (tail = [] ∨ ∃ t, tail = 47 :: t) := by
  induction entries generalizing dir with
  | nil => cases h
  | other name stats rest ih =>
    rw [Entries.inside] at h
    split at h
    · obtain ⟨n, hn, hp⟩ := ih h
      exact ⟨n, List.mem_cons_of_mem name hn, hp⟩
    · rcases List.mem_cons.1 h with rfl | h
      · exact ⟨name, List.mem_cons_self, [], (List.append_nil _).symm, .inl rfl⟩
      · obtain ⟨n, hn, hp⟩ := ih h
        exact ⟨n, List.mem_cons_of_mem name hn, hp⟩
  | directory name stats opening children rest ihchildren ihrest =>
    rw [Entries.inside] at h
    split at h
    · obtain ⟨n, hn, hp⟩ := ihrest h
      exact ⟨n, List.mem_cons_of_mem name hn, hp⟩
    · rcases List.mem_append.1 h with h | h
      · obtain ⟨n, -, tail, rfl, -⟩ := ihchildren h
        refine ⟨name, List.mem_cons_self, 47 :: (n ++ tail), ?_, .inr ⟨_, rfl⟩⟩
        simp [cstr]
      · rcases List.mem_cons.1 h with rfl | h
        · exact ⟨name, List.mem_cons_self, cstr "/", rfl, .inr ⟨[], rfl⟩⟩
        · obtain ⟨n, hn, hp⟩ := ihrest h
          exact ⟨n, List.mem_cons_of_mem name hn, hp⟩

/-- What is below a directory begins with its path. -/
theorem prefix_of_mem_inside (h : p ∈ entries.inside dir) : dir <+: p := by
  obtain ⟨n, -, tail, rfl, -⟩ := exists_name_of_mem_inside h
  exact ⟨n ++ tail, (List.append_assoc _ _ _).symm⟩

theorem Entries.Named.names (h : entries.Named) : ∀ n ∈ entries.names, n ≠ [] ∧ 47 ∉ n := by
  induction entries with
  | nil => exact fun n hn => absurd hn List.not_mem_nil
  | other name stats rest ih =>
    obtain ⟨hne, hslash, -, hrest⟩ := h
    exact List.forall_mem_cons.2 ⟨⟨hne, hslash⟩, ih hrest⟩
  | directory name stats opening children rest ihchildren ihrest =>
    obtain ⟨hne, hslash, -, -, hrest⟩ := h
    exact List.forall_mem_cons.2 ⟨⟨hne, hslash⟩, ihrest hrest⟩

/-- A sub-directory has nothing of the entries after it. -/
theorem not_prefix_sibling (hname : 47 ∉ name) (hnew : name ∉ rest.names) (hrest : rest.Named)
    (hp : p ∈ rest.inside dir) : ¬ dir ++ name ++ cstr "/" <+: p := by
  obtain ⟨n, hn, tail, rfl, htail⟩ := exists_name_of_mem_inside hp
  have hslash := (hrest.names n hn).2
  rintro ⟨t, ht⟩
  have heq : name ++ 47 :: t = n ++ tail := by
    simpa [cstr, List.append_assoc] using ht
  rcases htail with rfl | ⟨t', rfl⟩
  · have hmem : (47 : UInt8) ∈ n ++ [] := heq ▸ List.mem_append_right _ List.mem_cons_self
    exact hslash (by simpa using hmem)
  · -- the names end at the first slash
    have htake := congrArg (List.takeWhile (· ≠ 47)) heq
    rw [takeWhile_append_slash hname, takeWhile_append_slash hslash] at htake
    exact hnew (htake ▸ hn)

/-- The path of a file does not end with a slash. -/
theorem not_below_file (hne : name ≠ []) (hname : 47 ∉ name) : ¬ Below (dir ++ name) q := by
  rintro ⟨hlast, -⟩
  rw [List.getLast?_append_of_ne_nil _ hne] at hlast
  exact hname (List.mem_of_getLast? hlast)

/-- Nothing comes twice, and nothing comes before what is below it. -/
theorem Entries.Named.pairwise (h : entries.Named) :
    (entries.inside dir).Pairwise fun p q => p ≠ q ∧ ¬ Below p q := by
  induction entries generalizing dir with
  | nil => exact List.Pairwise.nil
  | other name stats rest ih =>
    obtain ⟨hne, hslash, hnew, hrest⟩ := h
    rw [Entries.inside]
    split
    · exact ih hrest
    · refine List.pairwise_cons.2 ⟨fun q hq => ⟨?_, not_below_file hne hslash⟩, ih hrest⟩
      rintro rfl
      obtain ⟨n, hn, tail, heq, htail⟩ := exists_name_of_mem_inside hq
      rw [List.append_assoc, List.append_cancel_left_eq] at heq
      rcases htail with rfl | ⟨t, rfl⟩
      · exact hnew (by simpa [heq] using hn)
      · exact hslash (heq ▸ List.mem_append_right _ List.mem_cons_self)
  | directory name stats opening children rest ihchildren ihrest =>
    obtain ⟨-, hslash, hnew, hchildren, hrest⟩ := h
    have hsibling (q : CStr) (hq : q ∈ rest.inside dir) : ¬ dir ++ name ++ cstr "/" <+: q :=
      not_prefix_sibling hslash hnew hrest hq
    rw [Entries.inside]
    split
    · exact ihrest hrest
    · refine List.pairwise_append.2 ⟨ihchildren hchildren, ?_, fun p hp q hq => ?_⟩
      · refine List.pairwise_cons.2 ⟨fun q hq => ⟨?_, fun hbelow => ?_⟩, ihrest hrest⟩
        · rintro rfl
          exact hsibling _ hq (List.prefix_refl _)
        · exact hsibling q hq hbelow.2.1
      · have hlonger : ¬ p <+: dir ++ name ++ cstr "/" := by
          obtain ⟨n, hn, tail, rfl, -⟩ := exists_name_of_mem_inside hp
          intro hbegins
          have hlen := hbegins.length_le
          have hpos := List.length_pos_iff.2 (hchildren.names n hn).1
          simp only [List.length_append] at hlen
          omega
        have hbegins := prefix_of_mem_inside hp
        rcases List.mem_cons.1 hq with rfl | hq
        · exact ⟨fun heq => hlonger (heq ▸ List.prefix_refl _), fun hbelow => hlonger hbelow.2.1⟩
        · refine ⟨fun heq => hsibling q hq (heq ▸ hbegins), fun hbelow => ?_⟩
          exact hsibling q hq <| hbegins.trans hbelow.2.1

end Paths

/-! ## Visits -/

/-- The path that the callback sees. -/
def Event.path? : Event → Option CStr
  | .visit _ path _ => some path
  | .left _ _ => none

/-- The paths that the callback sees. -/
def Walk.visits (w : Walk) : List CStr := w.events.filterMap Event.path?

section Visits

variable {dir path name : CStr} {entries children rest : Entries} {w : Walk}

/-- The callback is not called for more than the entries, and for less if one cannot be
examined. -/
structure Entries.Counts (entries : Entries) (dir : CStr) (w : Walk) : Prop where
  le : w.visits.length ≤ (entries.inside dir).length
  lt : ¬ entries.Examined → w.visits.length < (entries.inside dir).length

theorem visits_after (w : Walk) (events : List Event) :
    (w.after events).visits = events.filterMap Event.path? ++ w.visits :=
  List.filterMap_append

theorem length_visits_visitEntry (dir entry path name : CStr) (entrylen : ℕ) (next : CStr → Walk) :
    (visitEntry noStop dir entry path name entrylen next).visits.length =
      (next (cut path entrylen)).visits.length + 1 := by
  rw [visitEntry_noStop, visits_after, List.length_append, Nat.add_comm]
  rfl

theorem opens_of_examined (h : entries.Examined) : entries.Opens true := by
  induction entries with
  | nil => trivial
  | other name stats rest ih => exact ih h.2
  | directory name stats opening children rest ihchildren ihrest =>
    refine ⟨?_, ihrest h.2⟩
    rcases h.1 with hdot | ⟨-, hopening, hchildren⟩
    · exact .inl (by simp [hdot])
    · exact .inr ⟨hopening, ihchildren hchildren⟩

theorem visitable_of_examined (h : entries.Examined) :
    entries.visitable true dir = entries.inside dir := by
  induction entries generalizing dir with
  | nil => rfl
  | other name stats rest ih =>
    rw [Entries.visitable, Entries.inside, ih h.2]
    rcases h.1 with hdot | rfl
    · simp [hdot]
    · simp
  | directory name stats opening children rest ihchildren ihrest =>
    rw [Entries.visitable, Entries.inside, ihrest h.2]
    rcases h.1 with hdot | ⟨rfl, rfl, hchildren⟩
    · simp [hdot]
    · simp [ihchildren hchildren]

/-- An entry over which the walk passes. -/
theorem Entries.Counts.pass (h : rest.Counts dir w)
    (hinside : entries.inside dir = rest.inside dir)
    (hexamined : rest.Examined → entries.Examined) : entries.Counts dir w where
  le := hinside ▸ h.le
  lt hfails := hinside ▸ h.lt fun hrest => hfails (hexamined hrest)

/-- An entry for which the callback is not called. -/
theorem Entries.Counts.skip {w' : Walk} (h : rest.Counts dir w) (hvisits : w'.visits = w.visits)
    (hinside : (rest.inside dir).length < (entries.inside dir).length) : entries.Counts dir w' where
  le := hvisits ▸ Nat.le_trans h.le (Nat.le_of_lt hinside)
  lt _ := hvisits ▸ Nat.lt_of_le_of_lt h.le hinside

/-- An entry for which the callback is called. -/
theorem Entries.Counts.visit {w' : Walk} (h : rest.Counts dir w)
    (hvisits : w'.visits.length = w.visits.length + 1)
    (hinside : (entries.inside dir).length = (rest.inside dir).length + 1)
    (hexamined : rest.Examined → entries.Examined) : entries.Counts dir w' where
  le := by
    have hle := h.le
    omega
  lt hfails := by
    have hlt := h.lt fun hrest => hfails (hexamined hrest)
    omega

/-- A sub-directory that is walked through. -/
theorem Entries.Counts.opened {sub entry : CStr} {n : ℕ} {next : CStr → Walk}
    (h : children.Counts sub w) (hrest : ∀ p, rest.Counts dir (next p))
    (hinside : (entries.inside dir).length =
      (children.inside sub).length + (rest.inside dir).length + 1)
    (hexamined : children.Examined → rest.Examined → entries.Examined) :
    entries.Counts dir (if w.ret ≠ 0 then { w with events := w.events ++ [.left dir w.path] }
      else (visitEntry noStop dir entry w.path name n next).after w.events) := by
  have hle := h.le
  split
  · -- the walk ends below
    have hvisits : Walk.visits { w with events := w.events ++ [.left dir w.path] } = w.visits := by
      rw [Walk.visits, List.filterMap_append]
      exact List.append_nil _
    refine ⟨?_, fun _ => ?_⟩ <;> rw [hvisits] <;> omega
  · have hrest := hrest (cut w.path n)
    have hle' := hrest.le
    have hvisits : ((visitEntry noStop dir entry w.path name n next).after w.events).visits.length =
        w.visits.length + ((next (cut w.path n)).visits.length + 1) := by
      rw [visits_after, List.length_append, length_visits_visitEntry]
      rfl
    refine ⟨by omega, fun hfails => ?_⟩
    by_cases hchildren : children.Examined
    · have hlt := hrest.lt fun hrest => hfails (hexamined hchildren hrest)
      omega
    · have hlt := h.lt hchildren
      omega

theorem counts_recursedir (entries : Entries) (dir path : CStr) :
    entries.Counts dir (recursedir true noStop entries dir path) := by
  induction entries generalizing dir path with
  | nil => exact ⟨Nat.le_refl _, fun h => absurd trivial h⟩
  | other name stats rest ih =>
    rw [recursedir]
    by_cases hdot : isDot name = true
    · rw [if_pos hdot]
      exact (ih dir path).pass (by rw [Entries.inside, if_pos hdot]) fun hrest => ⟨.inl hdot, hrest⟩
    · have hinside : ((Entries.other name stats rest).inside dir).length =
          (rest.inside dir).length + 1 := by
        rw [Entries.inside, if_neg hdot, List.length_cons]
      rw [if_neg hdot]
      cases stats with
      | false => exact (ih dir path).skip (visits_after _ _) (hinside ▸ Nat.lt_succ_self _)
      | true =>
        exact (ih dir _).visit (length_visits_visitEntry _ _ _ _ _ _) hinside
          fun hrest => ⟨.inr rfl, hrest⟩
  | directory name stats opening children rest ihchildren ihrest =>
    rw [recursedir]
    by_cases hdot : isDot name = true
    · rw [if_pos hdot]
      exact (ihrest dir path).pass (by rw [Entries.inside, if_pos hdot])
        fun hrest => ⟨.inl hdot, hrest⟩
    · have hinside : ((Entries.directory name stats opening children rest).inside dir).length =
          (children.inside (dir ++ name ++ cstr "/")).length + (rest.inside dir).length + 1 := by
        rw [Entries.inside, if_neg hdot, List.length_append, List.length_cons, Nat.add_assoc]
      have hmore : (rest.inside dir).length <
          ((Entries.directory name stats opening children rest).inside dir).length := by
        omega
      rw [if_neg hdot]
      cases stats with
      | false => exact (ihrest dir path).skip (visits_after _ _) hmore
      | true =>
        rw [if_neg (by decide), if_neg (by decide)]
        cases opening with
        | openatFails => exact (ihrest dir _).skip (visits_after _ _) hmore
        | fdopendirFails =>
          exact ⟨Nat.zero_le _, fun _ => Nat.lt_of_le_of_lt (Nat.zero_le _) hmore⟩
        | opened =>
          exact (ihchildren _ _).opened (fun p => ihrest dir p) hinside fun hchildren hrest =>
            ⟨.inr ⟨rfl, rfl, hchildren⟩, hrest⟩

/-- When each entry can be examined, the entries are visited in order, with their paths. -/
theorem visits_of_examined (hexamined : entries.Examined)
    (hfits : ∀ p ∈ entries.paths dir, p.length < PATH_MAX) :
    (recursedir true noStop entries dir dir).visits = entries.inside dir := by
  obtain ⟨-, -, hvisits, hright⟩ := (decided_recursedir true entries dir hfits).good
    (opens_of_examined hexamined)
  rw [← visitable_of_examined hexamined, ← hvisits]
  refine List.filterMap_congr fun event hevent => ?_
  cases event with
  | visit entry path name => exact congrArg some (hright _ hevent)
  | left dir path => rfl

end Visits

/-! ## What is left -/

section Removing

variable {fs : Files} {path p : CStr} {entries : Entries}

theorem paths_foldl_rm (events : List Event) :
    (events.foldl rm fs).paths =
      Clearing.removeAll (Blocked fs.denied) resolve fs.paths (events.filterMap Event.path?) := by
  induction events generalizing fs with
  | nil => rfl
  | cons event events ih =>
    rw [List.foldl_cons, ih]
    cases event <;> rfl

theorem base_below (h : base path <+: p) (hne : p ≠ base path) : Below (base path) p := by
  refine ⟨?_, h, hne.symm⟩
  rw [base]
  split
  · assumption
  · simp [cstr]

theorem ne_base_of_mem_inside (h : entries.Named) (hp : p ∈ entries.inside (base path)) :
    p ≠ base path := by
  obtain ⟨n, hn, tail, rfl, -⟩ := exists_name_of_mem_inside hp
  intro heq
  have hlen := congrArg List.length heq
  have hpos := List.length_pos_iff.2 (h.names n hn).1
  simp only [List.length_append] at hlen
  omega

/-- The directory itself is named with or without a slash. -/
theorem resolve_base (fs : Files) (h : base path ∈ fs.paths) :
    resolve fs.paths path = base path := by
  by_cases hlast : path.getLast? = some 47
  · have hbase : base path = path := if_pos hlast
    rw [hbase] at h ⊢
    exact resolve_of_mem h
  · have hbase : base path = path ++ cstr "/" := if_neg hlast
    rw [hbase] at h ⊢
    exact if_neg fun hmem => fs.kind path (List.contains_iff_mem.1 hmem) h

theorem recurse_eq (hbase : (base path).length < PATH_MAX) :
    recurse true noStop path (some entries) =
      recursedir true noStop entries (base path) (base path) := by
  have hpath : path.length ≤ (base path).length := by
    rw [base]
    split
    · exact Nat.le_refl _
    · simp
  rw [recurse, if_neg (by omega), if_neg (by omega)]

/-- The directory stays when something is in the way. -/
theorem mem_remove_of_blocked {q : CStr} (h : base path ∈ fs.paths) (hq : q ∈ fs.paths)
    (hblocked : Blocked fs.denied (base path) q) : base path ∈ (fs.remove path).paths := by
  show base path ∈ Clearing.remove (Blocked fs.denied) fs.paths (resolve fs.paths path)
  rw [resolve_base fs h, Clearing.remove, if_pos ⟨q, hq, hblocked⟩]
  exact h

/-- The directory goes when nothing is in the way. -/
theorem paths_remove (h : base path ∈ fs.paths)
    (hfree : ∀ q ∈ fs.paths, ¬ Blocked fs.denied (base path) q) :
    (fs.remove path).paths = fs.paths.filter (· != base path) := by
  show Clearing.remove (Blocked fs.denied) fs.paths (resolve fs.paths path) = _
  rw [resolve_base fs h, Clearing.remove_eq_filter fs.nodup hfree]

theorem rmHelper_eq (hbase : (base path).length < PATH_MAX) :
    rmHelper fs path true (.directory (some entries)) =
      some (((recursedir true noStop entries (base path) (base path)).events.foldl rm fs).remove
        path) := by
  rw [rmHelper, if_pos rfl, recurse_eq hbase]

theorem denied_foldl_rm (events : List Event) : (events.foldl rm fs).denied = fs.denied := by
  induction events generalizing fs with
  | nil => rfl
  | cons event events ih =>
    rw [List.foldl_cons, ih]
    cases event <;> rfl

/-- The walk removes what it visits, and then the directory is removed. -/
theorem exists_of_rmHelper (hbase : (base path).length < PATH_MAX) {fs' : Files}
    (h : rmHelper fs path true (.directory (some entries)) = some fs') :
    ∃ fs₁ : Files, fs' = fs₁.remove path ∧ fs₁.denied = fs.denied ∧
      fs₁.paths = Clearing.removeAll (Blocked fs.denied) resolve fs.paths
        (recursedir true noStop entries (base path) (base path)).visits := by
  rw [rmHelper_eq hbase, Option.some_inj] at h
  exact ⟨_, h.symm, denied_foldl_rm _, paths_foldl_rm _⟩

/-- What can be examined is removed, and nothing else. -/
theorem paths_of_examined (hlists : Lists fs path entries)
    (hbase : (base path).length < PATH_MAX)
    (hfits : ∀ p ∈ entries.paths (base path), p.length < PATH_MAX) (hexamined : entries.Examined)
    (hpermits : fs.Permits (base path)) {fs' : Files}
    (h : rmHelper fs path true (.directory (some entries)) = some fs') :
    fs'.paths = fs.paths.filter fun p => ¬ base path <+: p := by
  obtain ⟨fs₁, rfl, hsame, hgone⟩ := exists_of_rmHelper hbase h
  have hpaths : fs₁.paths = fs.paths.filter (· ∉ entries.inside (base path)) := by
    -- only what is below an entry is in its way
    have hbelow {a b : CStr} (ha : a ∈ entries.inside (base path)) (hab : Blocked fs.denied a b) :
        Below a b := by
      refine hab.resolve_right fun hself => ?_
      have hallowed := hpermits a (hlists.exist a ha) (prefix_of_mem_inside ha)
      rw [hself.2] at hallowed
      cases hallowed
    have horder : (entries.inside (base path)).Pairwise fun p q =>
        p ≠ q ∧ ¬ Blocked fs.denied p q :=
      hlists.named.pairwise.imp_of_mem fun hp _ hpq => ⟨hpq.1, fun hab => hpq.2 (hbelow hp hab)⟩
    rw [hgone, visits_of_examined hexamined hfits]
    refine Clearing.removeAll_eq_filter fs.nodup (horder.imp And.left) hlists.exist
      (fun _ _ => resolve_of_mem) (fun a ha hab => not_below_self a (hbelow ha hab))
      (horder.imp And.right) ?_
    intro a ha b hb hab
    have hab := hbelow ha hab
    -- what is below an entry is below the directory
    have hbegins := (prefix_of_mem_inside ha).trans hab.2.1
    refine hlists.all b hb (base_below hbegins ?_)
    rintro rfl
    have hlen := Nat.le_antisymm (prefix_of_mem_inside ha).length_le hab.2.1.length_le
    exact ne_base_of_mem_inside hlists.named ha ((prefix_of_mem_inside ha).eq_of_length hlen).symm
  have hmem : base path ∈ fs₁.paths := by
    rw [hpaths]
    exact List.mem_filter.2 ⟨hlists.mem, by
      simpa using fun hmem => ne_base_of_mem_inside hlists.named hmem rfl⟩
  rw [paths_remove hmem fun q hq hblocked => ?_, hpaths, List.filter_filter]
  · refine List.filter_congr fun p hp => ?_
    rw [Bool.eq_iff_iff]
    simp only [Bool.and_eq_true, bne_iff_ne, decide_eq_true_eq]
    constructor
    · rintro ⟨hne, hnew⟩ hbegins
      exact hnew (hlists.all p hp (base_below hbegins hne))
    · intro hbegins
      refine ⟨?_, fun hmem => hbegins (prefix_of_mem_inside hmem)⟩
      rintro rfl
      exact hbegins (List.prefix_refl _)
  · rw [hpaths] at hq
    obtain ⟨hq, hnew⟩ := List.mem_filter.1 hq
    rw [hsame] at hblocked
    rcases hblocked with hbelow | ⟨-, hdenied⟩
    · exact absurd (hlists.all q hq hbelow) (by simpa using hnew)
    · rw [hpermits _ hlists.mem (List.prefix_refl _)] at hdenied
      cases hdenied

/-- What cannot be examined is left below the directory. -/
theorem mem_of_not_examined (hlists : Lists fs path entries)
    (hbase : (base path).length < PATH_MAX) (hexamined : ¬ entries.Examined)
    {fs' : Files} (h : rmHelper fs path true (.directory (some entries)) = some fs') :
    base path ∈ fs'.paths := by
  obtain ⟨fs₁, rfl, -, hpaths⟩ := exists_of_rmHelper hbase h
  -- there are more entries than requests
  have hlt := (counts_recursedir entries (base path) (base path)).lt hexamined
  have hmore : (entries.inside (base path)).length ≤
      fs.paths.countP fun p => decide (Below (base path) p) := by
    rw [List.countP_eq_length_filter]
    have hnodup : (entries.inside (base path)).Nodup := hlists.named.pairwise.imp And.left
    refine (List.subperm_of_subset hnodup fun p hp => ?_).length_le
    exact List.mem_filter.2 ⟨hlists.exist p hp, decide_eq_true
      (base_below (prefix_of_mem_inside hp) (ne_base_of_mem_inside hlists.named hp))⟩
  have hleft := Clearing.countP_le_removeAll (Blocked fs.denied) resolve
    (fun p => decide (Below (base path) p)) fs.paths
    (recursedir true noStop entries (base path) (base path)).visits
  obtain ⟨q, hq, hbelow⟩ : ∃ q ∈ fs₁.paths, decide (Below (base path) q) = true := by
    rw [← List.countP_pos_iff, hpaths]
    omega
  have hbelow := of_decide_eq_true hbelow
  refine mem_remove_of_blocked ?_ hq (.inl hbelow)
  rw [hpaths] at hq ⊢
  exact Clearing.mem_removeAll hlists.mem (.inl hbelow) hq

/-- What the system does not let the bot remove is left, and the directory with it. -/
theorem mem_of_denied (hlists : Lists fs path entries) (hbase : (base path).length < PATH_MAX)
    (hp : p ∈ fs.paths) (hbegins : base path <+: p) (hdenied : fs.denied p = true) {fs' : Files}
    (h : rmHelper fs path true (.directory (some entries)) = some fs') : base path ∈ fs'.paths := by
  obtain ⟨fs₁, rfl, hsame, hpaths⟩ := exists_of_rmHelper hbase h
  have hleft : p ∈ fs₁.paths := by
    rw [hpaths]
    exact Clearing.mem_removeAll_of_self hp (.inr ⟨rfl, hdenied⟩)
  by_cases hself : p = base path
  · subst hself
    exact mem_remove_of_blocked hleft hleft (.inr ⟨rfl, by rw [hsame, hdenied]⟩)
  · -- what is left is in the way of the directory
    have hbelow : Below (base path) p := base_below hbegins hself
    refine mem_remove_of_blocked ?_ hleft (.inl hbelow)
    rw [hpaths] at hleft ⊢
    exact Clearing.mem_removeAll hlists.mem (.inl hbelow) hleft

end Removing

/-- `rmHelper fs path true (.directory (some entries))` removes the directory if and only if every
entry below it can be examined, every sub-directory opened, and everything removed, and then it
removes what is below the directory and nothing else. -/
theorem removed_iff (fs : Files) (path : CStr) (entries : Entries) (hlists : Lists fs path entries)
    (hbase : (base path).length < PATH_MAX)
    (hfits : ∀ p ∈ entries.paths (base path), p.length < PATH_MAX) :
    ∃ fs', rmHelper fs path true (.directory (some entries)) = some fs' ∧
      (base path ∉ fs'.paths ↔ entries.Examined ∧ fs.Permits (base path)) ∧
      (entries.Examined → fs.Permits (base path) →
        fs'.paths = fs.paths.filter fun p => ¬ base path <+: p) := by
  have hall (hexamined : entries.Examined) (hpermits : fs.Permits (base path)) {fs' : Files}
      (h : rmHelper fs path true (.directory (some entries)) = some fs') :
      fs'.paths = fs.paths.filter fun p => ¬ base path <+: p :=
    paths_of_examined hlists hbase hfits hexamined hpermits h
  refine ⟨_, rfl, ⟨fun hgone => ⟨?_, fun p hp hbegins => ?_⟩, fun ⟨hexamined, hpermits⟩ => ?_⟩,
    fun hexamined hpermits => hall hexamined hpermits rfl⟩
  · by_contra hfails
    exact hgone (mem_of_not_examined hlists hbase hfails rfl)
  · by_contra hdenied
    exact hgone (mem_of_denied hlists hbase hp hbegins (by simpa using hdenied) rfl)
  · rw [hall hexamined hpermits rfl]
    simp

/-- A directory with a sub-directory, and a file beside it. -/
def cacheFiles : Files where
  paths := [cstr "/tmp/", cstr "/tmp/cache/", cstr "/tmp/cache/a", cstr "/tmp/cache/old/",
    cstr "/tmp/cache/old/b", cstr "/tmp/log"]
  denied p := p = cstr "/tmp/log"
  nodup := by decide
  kind := by decide

def cacheEntries : Entries :=
  .directory (cstr ".") true .opened .nil (.other (cstr "a") true
    (.directory (cstr "old") true .opened (.other (cstr "b") true .nil) .nil))

theorem lists_cacheEntries : Lists cacheFiles (cstr "/tmp/cache") cacheEntries where
  named := by simp [cacheEntries, Entries.Named, Entries.names, cstr]
  mem := by decide
  exist := by decide
  all := by decide

theorem removed_cacheEntries :
    ∃ fs',
      rmHelper cacheFiles (cstr "/tmp/cache") true (.directory (some cacheEntries)) = some fs' ∧
      (base (cstr "/tmp/cache") ∉ fs'.paths ↔
        cacheEntries.Examined ∧ cacheFiles.Permits (base (cstr "/tmp/cache"))) ∧
      (cacheEntries.Examined → cacheFiles.Permits (base (cstr "/tmp/cache")) →
        fs'.paths = cacheFiles.paths.filter fun p => ¬ base (cstr "/tmp/cache") <+: p) :=
  removed_iff cacheFiles (cstr "/tmp/cache") cacheEntries lists_cacheEntries (by decide)
    (by decide)

end Directory

end Irccd
