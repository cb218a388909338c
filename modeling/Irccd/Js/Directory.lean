import Irccd.Util

/-!
# The walk through a directory (`jsapi-directory.c`)

The path of the entry that is visited is kept in one buffer, which is extended for each entry and
cut again after it.

* `Entries`: the entries of a directory, with those of its sub-directories, and the calls that fail;
* `recursedir`, `recurse`: the walk, with what the callback sees and what the buffer holds after
  each entry;
* `KeepsPath`: what the walk should do;
* `keepsPath_iff`: exactly when it does.
-/

namespace Irccd

namespace Directory

/-- The size of the buffer `path`, from `limits.h`. -/
def PATH_MAX : ℕ := 4096

/-- The size of the buffer `entry`, from `stdio.h`. -/
def FILENAME_MAX : ℕ := 4096

/-- What happens when a sub-directory is opened. -/
inductive Opening
  | opened
  | openatFails
  | fdopendirFails
  deriving DecidableEq

/-- The entries of a directory, in the order of `readdir`. Of each, `stats` tells if `fstatat`
succeeds. -/
inductive Entries
  | nil
  | other (name : CStr) (stats : Bool) (rest : Entries)
  | directory (name : CStr) (stats : Bool) (opening : Opening) (children rest : Entries)

/-- What is observed of the walk. -/
inductive Event
  /-- The callback is called for the entry of this path, and sees a path and a name. -/
  | visit (entry path name : CStr)
  /-- The walk has done with an entry of a directory, and leaves a path in the buffer. -/
  | left (dir path : CStr)

/-- The events, the buffer and the result of a walk. -/
structure Walk where
  events : List Event
  path : CStr
  ret : ℤ

/-- Some events come first. -/
def Walk.after (w : Walk) (events : List Event) : Walk := { w with events := events ++ w.events }

/-- `irc_util_strlcat (path, s, PATH_MAX)` -/
def strlcat (path s : CStr) : CStr := path ++ s.take (PATH_MAX - 1 - path.length)

/-- `path[strlen (path) - n] = '\0'` -/
def cut (path : CStr) (n : ℕ) : CStr := path.take (path.length - n)

/-- The entries `.` and `..`, over which the walk passes. -/
def isDot (name : CStr) : Bool := name == cstr "." || name == cstr ".."

section Walking

variable (recursive : Bool) (fn : CStr → CStr → Bool)

/-- The callback on an entry, after which the buffer is cut and the walk goes on with the rest. -/
def visitEntry (dir entry path name : CStr) (entrylen : ℕ) (rest : CStr → Walk) : Walk :=
  let visit := Event.visit entry path (name.take (FILENAME_MAX - 1))
  if fn path (name.take (FILENAME_MAX - 1)) then
    -- the buffer is not cut when the callback stops the walk
    { events := [visit, .left dir path], path, ret := 1 }
  else (rest (cut path entrylen)).after [visit, .left dir (cut path entrylen)]

/-- `recursedir` on what is left of a directory, whose path is `dir`. -/
def recursedir : Entries → CStr → CStr → Walk
  | .nil, _, path => { events := [], path, ret := 0 }
  | .other name stats rest, dir, path =>
    if isDot name then recursedir rest dir path
    else if !stats then (recursedir rest dir path).after [.left dir path]
    else
      visitEntry fn dir (dir ++ name) (strlcat path name) name name.length (recursedir rest dir)
  | .directory name stats opening children rest, dir, path =>
    if isDot name then recursedir rest dir path
    else if !stats then (recursedir rest dir path).after [.left dir path]
    else if !recursive then
      visitEntry fn dir (dir ++ name) (strlcat path name) name name.length (recursedir rest dir)
    else
      let entry := dir ++ name ++ cstr "/"
      let path := strlcat (strlcat path name) (cstr "/")
      match opening with
      -- the buffer is not cut before the next entry
      | .openatFails => (recursedir rest dir path).after [.left dir path]
      | .fdopendirFails => { events := [.left dir path], path, ret := -1 }
      | .opened =>
        let w := recursedir children entry path
        -- the callback has stopped below, or the walk has failed there
        if w.ret ≠ 0 then { w with events := w.events ++ [.left dir w.path] }
        else
          (visitEntry fn dir entry w.path name (name.length + 1) (recursedir rest dir)).after
            w.events

/-- The path with which the walk begins. -/
def base (path : CStr) : CStr := if path.getLast? = some 47 then path else path ++ cstr "/"

/-- `recurse`. There are no entries if the directory cannot be opened. -/
def recurse (path : CStr) : Option Entries → Walk
  | none => { events := [], path := [], ret := -1 }
  | some entries =>
    if PATH_MAX ≤ path.length then
      { events := [], path := path.take (PATH_MAX - 1), ret := -1 }
    else if PATH_MAX ≤ (base path).length then { events := [], path, ret := -1 }
    else recursedir recursive fn entries (base path) (base path)

end Walking

/-! ## What the walk should do -/

section Law

variable (recursive : Bool)

/-- The paths of the entries, and of those below them. -/
def Entries.paths : Entries → CStr → List CStr
  | .nil, _ => []
  | .other name _ rest, dir => (dir ++ name) :: rest.paths dir
  | .directory name _ _ children rest, dir =>
    (dir ++ name ++ cstr "/") :: children.paths (dir ++ name ++ cstr "/") ++ rest.paths dir

/-- The entries that neither fail nor are below one that fails, children before their directory. -/
def Entries.visitable : Entries → CStr → List CStr
  | .nil, _ => []
  | .other name stats rest, dir =>
    if isDot name || !stats then rest.visitable dir else (dir ++ name) :: rest.visitable dir
  | .directory name stats opening children rest, dir =>
    if isDot name || !stats then rest.visitable dir
    else if !recursive then (dir ++ name) :: rest.visitable dir
    else if opening ≠ .opened then rest.visitable dir
    else
      children.visitable (dir ++ name ++ cstr "/") ++
        (dir ++ name ++ cstr "/") :: rest.visitable dir

/-- No sub-directory that the walk reaches fails to open. -/
def Entries.Opens : Entries → Prop
  | .nil => True
  | .other _ _ rest => rest.Opens
  | .directory name stats opening children rest =>
    ((isDot name || !stats || !recursive) = true ∨ opening = .opened ∧ children.Opens) ∧ rest.Opens

/-- The entry of a visit. -/
def Event.entry? : Event → Option CStr
  | .visit entry _ _ => some entry
  | .left _ _ => none

/-- A visit sees the path of its entry, and after an entry the buffer holds the path of its
directory. -/
def Event.Right : Event → Prop
  | .visit entry path _ => path = entry
  | .left dir path => path = dir

/-- The walk visits the entries that it should, in their order, and keeps the right path. -/
structure Entries.KeepsPath (entries : Entries) (dir : CStr) (w : Walk) : Prop where
  visits : w.events.filterMap Event.entry? = entries.visitable recursive dir
  right : ∀ event ∈ w.events, event.Right

end Law

section Keeps

variable {recursive : Bool} {dir path name : CStr} {entries : Entries}

theorem strlcat_of_lt {s : CStr} (h : (path ++ s).length < PATH_MAX) :
    strlcat path s = path ++ s := by
  rw [List.length_append] at h
  rw [strlcat, List.take_of_length_le (by omega)]

theorem cut_append (path s : CStr) : cut (path ++ s) s.length = path := by
  rw [cut, List.length_append, Nat.add_sub_cancel, List.take_left]

/-- The callback that returns zero. -/
def noStop (_ _ : CStr) : Bool := false

theorem visitEntry_noStop (dir entry path name : CStr) (entrylen : ℕ) (rest : CStr → Walk) :
    visitEntry noStop dir entry path name entrylen rest =
      (rest (cut path entrylen)).after [.visit entry path (name.take (FILENAME_MAX - 1)),
        .left dir (cut path entrylen)] := rfl

/-- The walk comes to its end as it should, with the path with which it began. -/
structure Good (recursive : Bool) (entries : Entries) (dir : CStr) (w : Walk) : Prop where
  ret : w.ret = 0
  path : w.path = dir
  keeps : entries.KeepsPath recursive dir w

/-- Some event of the walk is not right. -/
def Bad (w : Walk) : Prop := ∃ event ∈ w.events, ¬ event.Right

theorem Bad.after {w : Walk} (h : Bad w) (events : List Event) : Bad (w.after events) := by
  obtain ⟨event, hevent, hwrong⟩ := h
  exact ⟨event, List.mem_append_right _ hevent, hwrong⟩

/-- What comes before the rest of a directory. -/
theorem Good.after {rest : Entries} {w : Walk} {events : List Event}
    (h : Good recursive rest dir w) (visited : List CStr) (hevents : ∀ event ∈ events, event.Right)
    (hvisited : events.filterMap Event.entry? = visited)
    (hvisitable : entries.visitable recursive dir = visited ++ rest.visitable recursive dir) :
    Good recursive entries dir (w.after events) where
  ret := h.ret
  path := h.path
  keeps :=
    { visits := by
        rw [Walk.after, List.filterMap_append, hvisited, h.keeps.visits, hvisitable]
      right := fun event hevent => by
        rcases List.mem_append.1 hevent with hevent | hevent
        · exact hevents event hevent
        · exact h.keeps.right event hevent }

/-- The walk is good under a condition, and otherwise it goes wrong. -/
structure Decided (recursive : Bool) (opens : Prop) (entries : Entries) (dir : CStr) (w : Walk) :
    Prop where
  good : opens → Good recursive entries dir w
  bad : ¬ opens → Bad w

variable {opens : Prop} {rest : Entries}

/-- A visit of an entry that is not walked through. -/
theorem Decided.visit {w : CStr → Walk} (h : Decided recursive opens rest dir (w dir))
    (hname : (dir ++ name).length < PATH_MAX)
    (hvisitable : entries.visitable recursive dir =
      (dir ++ name) :: rest.visitable recursive dir) :
    Decided recursive opens entries dir
      (visitEntry noStop dir (dir ++ name) (strlcat dir name) name name.length w) := by
  rw [visitEntry_noStop, strlcat_of_lt hname, cut_append]
  refine ⟨fun hopens => (h.good hopens).after [dir ++ name] ?_ rfl hvisitable,
    fun hfails => (h.bad hfails).after _⟩
  intro event hevent
  rcases List.mem_pair.1 hevent with rfl | rfl <;> rfl

/-- An entry over which the walk passes. -/
theorem Decided.pass {w : Walk} (h : Decided recursive opens rest dir w)
    (hvisitable : entries.visitable recursive dir = rest.visitable recursive dir) :
    Decided recursive opens entries dir w where
  good hopens :=
    { ret := (h.good hopens).ret
      path := (h.good hopens).path
      keeps := ⟨hvisitable ▸ (h.good hopens).keeps.visits, (h.good hopens).keeps.right⟩ }
  bad := h.bad

/-- An entry that fails without a change of the buffer. -/
theorem Decided.skip {w : Walk} (h : Decided recursive opens rest dir w)
    (hvisitable : entries.visitable recursive dir = rest.visitable recursive dir) :
    Decided recursive opens entries dir (w.after [.left dir dir]) := by
  refine ⟨fun hopens => (h.good hopens).after [] ?_ rfl hvisitable,
    fun hfails => (h.bad hfails).after _⟩
  intro event hevent
  obtain rfl := List.mem_singleton.1 hevent
  rfl

/-- A sub-directory that does not open leaves its path in the buffer. -/
theorem not_right_left (dir name : CStr) : ¬ (Event.left dir (dir ++ name ++ cstr "/")).Right := by
  intro h
  have hlen := congrArg List.length (show dir ++ name ++ cstr "/" = dir from h)
  simp [cstr] at hlen

/-- A sub-directory that is walked through. -/
theorem Decided.opened {children : Entries} {below : Prop} {w : Walk} {next : CStr → Walk}
    (hrest : Decided recursive opens rest dir (next dir))
    (hchildren : Decided recursive below children (dir ++ name ++ cstr "/") w)
    (hvisitable : entries.visitable recursive dir =
      children.visitable recursive (dir ++ name ++ cstr "/") ++
        (dir ++ name ++ cstr "/") :: rest.visitable recursive dir) :
    Decided recursive (below ∧ opens) entries dir
      (if w.ret ≠ 0 then { w with events := w.events ++ [.left dir w.path] }
      else
        (visitEntry noStop dir (dir ++ name ++ cstr "/") w.path name (name.length + 1) next).after
          w.events) := by
  generalize hwhole : (if w.ret ≠ 0 then { w with events := w.events ++ [.left dir w.path] } else
    _ : Walk) = whole
  by_cases hopens : below
  · obtain ⟨hret, hpath, hvisits, hright⟩ := hchildren.good hopens
    have hcut : cut (dir ++ name ++ cstr "/") (name.length + 1) = dir := by
      have hlen : name.length + 1 = (name ++ cstr "/").length := by simp [cstr]
      rw [hlen, List.append_assoc, cut_append]
    have hwhole : whole = (next dir).after (w.events ++
        [.visit (dir ++ name ++ cstr "/") (dir ++ name ++ cstr "/") (name.take (FILENAME_MAX - 1)),
          .left dir dir]) := by
      rw [← hwhole, if_neg (by simp [hret]), visitEntry_noStop, hpath, hcut]
      simp [Walk.after]
    rw [hwhole, and_iff_right hopens]
    refine ⟨fun hrestOpens => (hrest.good hrestOpens).after
      (children.visitable recursive (dir ++ name ++ cstr "/") ++ [dir ++ name ++ cstr "/"])
      ?_ ?_ (hvisitable.trans ?_), fun hfails => (hrest.bad hfails).after _⟩
    · intro event hevent
      rcases List.mem_append.1 hevent with hevent | hevent
      · exact hright event hevent
      · rcases List.mem_pair.1 hevent with rfl | rfl <;> rfl
    · rw [List.filterMap_append, hvisits]
      rfl
    · simp
  · refine ⟨fun h => absurd h.1 hopens, fun _ => ?_⟩
    -- what went wrong below is among the events
    obtain ⟨event, hevent, hwrong⟩ := hchildren.bad hopens
    refine ⟨event, ?_, hwrong⟩
    rw [← hwhole]
    split
    · exact List.mem_append_left _ hevent
    · exact List.mem_append_left _ hevent

/-- An entry that is not a sub-directory, and what comes after it. -/
theorem decided_other (stats : Bool) (hname : (dir ++ name).length < PATH_MAX)
    (h : Decided recursive (rest.Opens recursive) rest dir
      (recursedir recursive noStop rest dir dir)) :
    Decided recursive ((Entries.other name stats rest).Opens recursive) (.other name stats rest) dir
      (recursedir recursive noStop (.other name stats rest) dir dir) := by
  rw [recursedir, Entries.Opens]
  by_cases hdot : isDot name = true
  · rw [if_pos hdot]
    exact h.pass (by simp [Entries.visitable, hdot])
  · rw [if_neg hdot]
    cases stats with
    | false => exact h.skip (by simp [Entries.visitable])
    | true => exact h.visit hname (by simp [Entries.visitable, hdot])

/-- A sub-directory through which the walk should go, and what comes after it. -/
theorem decided_directory {children : Entries} (opening : Opening) (hdot : ¬ isDot name = true)
    (hentry : (dir ++ name ++ cstr "/").length < PATH_MAX)
    (hchildren : Decided true (children.Opens true) children (dir ++ name ++ cstr "/")
      (recursedir true noStop children (dir ++ name ++ cstr "/") (dir ++ name ++ cstr "/")))
    (hrest : Decided true (rest.Opens true) rest dir (recursedir true noStop rest dir dir)) :
    Decided true ((Entries.directory name true opening children rest).Opens true)
      (.directory name true opening children rest) dir
      (recursedir true noStop (.directory name true opening children rest) dir dir) := by
  have hname : (dir ++ name).length < PATH_MAX := by
    rw [List.length_append] at hentry
    omega
  have hpath : strlcat (strlcat dir name) (cstr "/") = dir ++ name ++ cstr "/" := by
    rw [strlcat_of_lt hname, strlcat_of_lt hentry]
  -- the walk goes in unless the entry is `.` or `..`
  have hflags : (isDot name || !true || !true) = true ↔ False := by simp [hdot]
  rw [recursedir, Entries.Opens, if_neg hdot, hflags, false_or, hpath]
  cases opening with
  | openatFails =>
    refine ⟨fun hopens => absurd hopens.1.1 (by decide), fun _ => ?_⟩
    exact ⟨_, List.mem_append_left _ List.mem_cons_self, not_right_left dir name⟩
  | fdopendirFails =>
    refine ⟨fun hopens => absurd hopens.1.1 (by decide), fun _ => ?_⟩
    exact ⟨_, List.mem_cons_self, not_right_left dir name⟩
  | opened =>
    rw [eq_self, true_and]
    have hvisitable : (Entries.directory name true .opened children rest).visitable true dir =
        children.visitable true (dir ++ name ++ cstr "/") ++
          (dir ++ name ++ cstr "/") :: rest.visitable true dir := by
      simp [Entries.visitable, hdot]
    simpa using hrest.opened hchildren hvisitable

/-- The walk is good if every sub-directory opens, and otherwise it goes wrong. -/
theorem decided_recursedir (recursive : Bool) (entries : Entries) (dir : CStr)
    (hfits : ∀ path ∈ entries.paths dir, path.length < PATH_MAX) :
    Decided recursive (entries.Opens recursive) entries dir
      (recursedir recursive noStop entries dir dir) := by
  induction entries generalizing dir with
  | nil =>
    exact ⟨fun _ => ⟨rfl, rfl, rfl, fun event hevent => by cases hevent⟩,
      fun hfails => absurd trivial hfails⟩
  | other name stats rest ih =>
    obtain ⟨hname, hrest⟩ := List.forall_mem_cons.1 hfits
    exact decided_other stats hname (ih dir hrest)
  | directory name stats opening children rest ihchildren ihrest =>
    rw [Entries.paths, List.cons_append, List.forall_mem_cons, List.forall_mem_append] at hfits
    obtain ⟨hentry, hchildren, hrest⟩ := hfits
    have ihrest := ihrest dir hrest
    -- the sub-directory counts only when it is walked through
    have hskip (h : (isDot name || !stats || !recursive) = true) :
        ((isDot name || !stats || !recursive) = true ∨
          opening = .opened ∧ children.Opens recursive) ∧ rest.Opens recursive ↔
            rest.Opens recursive := and_iff_right (.inl h)
    by_cases hdot : isDot name = true
    · rw [recursedir, Entries.Opens, if_pos hdot, hskip (by simp [hdot])]
      exact ihrest.pass (by simp [Entries.visitable, hdot])
    · cases stats with
      | false =>
        rw [recursedir, Entries.Opens, if_neg hdot, hskip (by simp)]
        exact ihrest.skip (by simp [Entries.visitable])
      | true =>
        cases recursive with
        | true => exact decided_directory opening hdot hentry (ihchildren _ hchildren) ihrest
        | false =>
          have hname : (dir ++ name).length < PATH_MAX := by
            rw [List.length_append] at hentry
            omega
          rw [recursedir, Entries.Opens, if_neg hdot, hskip (by simp)]
          exact ihrest.visit hname (by simp [Entries.visitable, hdot])

/-- The walk keeps the right path if and only if every sub-directory that it reaches opens. -/
theorem keepsPath_iff (recursive : Bool) (path : CStr) (entries : Entries)
    (hbase : (base path).length < PATH_MAX)
    (hfits : ∀ p ∈ entries.paths (base path), p.length < PATH_MAX) :
    entries.KeepsPath recursive (base path) (recurse recursive noStop path (some entries)) ↔
      entries.Opens recursive := by
  have hpath : path.length ≤ (base path).length := by
    rw [base]
    split
    · exact le_rfl
    · simp
  obtain ⟨hgood, hbad⟩ := decided_recursedir recursive entries (base path) hfits
  rw [recurse, if_neg (by omega), if_neg (by omega)]
  refine ⟨fun hkeeps => ?_, fun hopens => (hgood hopens).keeps⟩
  by_contra hfails
  obtain ⟨event, hevent, hwrong⟩ := hbad hfails
  exact hwrong (hkeeps.right event hevent)

/-- A directory with a sub-directory that does not open, and a file after it. -/
def closedEntries : Entries :=
  .directory (cstr "private") true .openatFails .nil (.other (cstr "readme") true .nil)

/-- A directory with a sub-directory that has another one, and a file after it. -/
def logsEntries : Entries :=
  .other (cstr ".") true
    (.directory (cstr "logs") true .opened
      (.directory (cstr "old") true .opened (.other (cstr "yesterday") true .nil)
        (.other (cstr "today") true .nil))
      (.other (cstr "readme") true .nil))

theorem keepsPath_logsEntries :
    logsEntries.KeepsPath true (cstr "/tmp/") (recurse true noStop (cstr "/tmp")
      (some logsEntries)) :=
  (keepsPath_iff true (cstr "/tmp") logsEntries (by decide) (by decide)).2
    ⟨.inr ⟨rfl, .inr ⟨rfl, trivial⟩, trivial⟩, trivial⟩

/-- The file after the sub-directory is visited with a wrong path. -/
theorem not_forall_keepsPath :
    ¬ ∀ (recursive : Bool) (path : CStr) (entries : Entries), (base path).length < PATH_MAX →
      (∀ p ∈ entries.paths (base path), p.length < PATH_MAX) →
      entries.KeepsPath recursive (base path) (recurse recursive noStop path (some entries)) := by
  intro h
  have hkeeps := h true (cstr "/tmp") closedEntries (by decide) (by decide)
  have hright : cstr "/tmp/private/readme" = cstr "/tmp/readme" :=
    hkeeps.right (.visit _ _ (cstr "readme")) (.tail _ (.head _))
  exact absurd hright (by decide)

end Keeps

end Directory

end Irccd
