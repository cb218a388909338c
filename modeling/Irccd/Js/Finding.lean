import Irccd.Js.Directory

/-!
# The search in a directory (`jsapi-directory.c`)

`Directory.find` walks through a directory until the callback finds a name, and returns the path in
the buffer.

* `findHelper`: the walk with the callback `find_name` or `find_regex`;
* `Entries.listed`: the entries in the order of the walk;
* `findHelper_eq`: the walk that is stopped is the walk that is not, up to the first name found;
* `find_first`: the path is that of the first entry that has the name.
-/

namespace Irccd

namespace Directory

section Functions

variable (found : CStr → Bool)

/-- `find_helper`. The callback is `find_name` or `find_regex`, which only see the name. -/
def findHelper (path : CStr) (recursive : Bool) (entries : Option Entries) : Option CStr :=
  let w := recurse recursive (fun _ entry => found entry) path entries
  if w.ret = 1 then some w.path else none

/-- `find_name` -/
def findName (pattern entry : CStr) : Bool := entry == pattern

/-! ## What should be found -/

/-- The paths and the names of the entries that the walk should visit, in its order. -/
def Entries.listed (recursive : Bool) : Entries → CStr → List (CStr × CStr)
  | .nil, _ => []
  | .other name stats rest, dir =>
    if isDot name || !stats then rest.listed recursive dir
    else (dir ++ name, name) :: rest.listed recursive dir
  | .directory name stats opening children rest, dir =>
    if isDot name || !stats then rest.listed recursive dir
    else if !recursive then (dir ++ name, name) :: rest.listed recursive dir
    else if opening ≠ .opened then rest.listed recursive dir
    else
      children.listed recursive (dir ++ name ++ cstr "/") ++
        (dir ++ name ++ cstr "/", name) :: rest.listed recursive dir

/-- The path of a visit that finds the name. -/
def Event.hit : Event → Option CStr
  | .visit _ path name => if found name then some path else none
  | .left _ _ => none

/-- The path of the first visit that finds the name. -/
def Walk.hit (w : Walk) : Option CStr := w.events.findSome? (Event.hit found)

end Functions

section Lemmas

variable {found : CStr → Bool} {recursive : Bool} {dir path name entry : CStr}
  {entries children rest : Entries}

/-- A walk that is stopped, beside the one that is not. -/
structure Stopped (found : CStr → Bool) (w v : Walk) : Prop where
  hit : ∀ p, v.hit found = some p → w.ret = 1 ∧ w.path = p
  miss : v.hit found = none → w.ret = v.ret ∧ w.path = v.path
  ret : v.ret ≠ 1

theorem hit_after (w : Walk) (events : List Event) :
    (w.after events).hit found = (events.findSome? (Event.hit found)).or (w.hit found) :=
  List.findSome?_append

theorem Stopped.after {w v : Walk} (h : Stopped found w v) {events events' : List Event}
    (hevents : events'.findSome? (Event.hit found) = none) :
    Stopped found (w.after events) (v.after events') where
  hit p hp := by
    rw [hit_after, hevents, Option.none_or] at hp
    exact h.hit p hp
  miss hmiss := by
    rw [hit_after, hevents, Option.none_or] at hmiss
    exact h.miss hmiss
  ret := h.ret

theorem Stopped.visitEntry {next next' : CStr → Walk} {n : ℕ}
    (h : ∀ p, Stopped found (next p) (next' p)) :
    Stopped found (visitEntry (fun _ entry => found entry) dir entry path name n next)
      (visitEntry noStop dir entry path name n next') := by
  rw [visitEntry_noStop, Directory.visitEntry]
  by_cases hfound : found (name.take (FILENAME_MAX - 1)) = true
  · have hhit (w : Walk) (events : List Event) :
        (w.after (.visit entry path (name.take (FILENAME_MAX - 1)) :: events)).hit found =
          some path := by
      rw [hit_after, List.findSome?_cons, Event.hit, if_pos hfound]
      rfl
    rw [if_pos hfound]
    refine ⟨fun p hp => ?_, fun hmiss => ?_, (h _).ret⟩
    · rw [hhit] at hp
      exact ⟨rfl, Option.some.inj hp⟩
    · rw [hhit] at hmiss
      cases hmiss
  · rw [if_neg hfound]
    refine (h _).after ?_
    simp [Event.hit, hfound]

/-- A sub-directory that is walked through. -/
theorem Stopped.opened {w v : Walk} {next next' : CStr → Walk} {n : ℕ} (h : Stopped found w v)
    (hnext : ∀ p, Stopped found (next p) (next' p)) :
    Stopped found
      (if w.ret ≠ 0 then { w with events := w.events ++ [.left dir w.path] }
        else (Directory.visitEntry (fun _ entry => found entry) dir entry w.path name n next).after
          w.events)
      (if v.ret ≠ 0 then { v with events := v.events ++ [.left dir v.path] }
        else (Directory.visitEntry noStop dir entry v.path name n next').after v.events) := by
  have hleft : Walk.hit found { v with events := v.events ++ [.left dir v.path] } =
      v.hit found := by
    rw [Walk.hit, List.findSome?_append]
    exact Option.or_none
  cases hhit : v.hit found with
  | some p =>
    -- the walk has been stopped below
    obtain ⟨hret, hpath⟩ := h.hit p hhit
    have hstopped : w.ret ≠ 0 := by rw [hret]; decide
    rw [if_pos hstopped]
    split
    · exact ⟨fun p' hp' => ⟨hret, hpath.trans (Option.some.inj (hhit.symm.trans (hleft ▸ hp')))⟩,
        fun hmiss => absurd (hleft.symm.trans hmiss) (by simp [hhit]), h.ret⟩
    · have hafter : ((Directory.visitEntry noStop dir entry v.path name n next').after
          v.events).hit found = some p := by
        rw [hit_after]
        exact congrArg (Option.or · _) hhit
      refine ⟨fun p' hp' => ⟨hret, hpath.trans (Option.some.inj (hafter.symm.trans hp'))⟩,
        fun hmiss => absurd (hafter.symm.trans hmiss) nofun, ?_⟩
      have hvisit : Stopped found
          (Directory.visitEntry (fun _ entry => found entry) dir entry v.path name n next)
          (Directory.visitEntry noStop dir entry v.path name n next') := Stopped.visitEntry hnext
      exact hvisit.ret
  | none =>
    obtain ⟨hret, hpath⟩ := h.miss hhit
    rw [hret, hpath]
    split
    · exact ⟨fun p hp => absurd (hleft.symm.trans hp) (by simp [hhit]), fun _ => ⟨rfl, rfl⟩, h.ret⟩
    · exact (Stopped.visitEntry hnext).after hhit

theorem stopped_recursedir (entries : Entries) (dir path : CStr) :
    Stopped found (recursedir recursive (fun _ entry => found entry) entries dir path)
      (recursedir recursive noStop entries dir path) := by
  induction entries generalizing dir path with
  | nil =>
    exact ⟨fun p hp => absurd hp.symm (Option.some_ne_none p), fun _ => ⟨rfl, rfl⟩, Int.zero_ne_one⟩
  | other name stats rest ih =>
    rw [recursedir, recursedir]
    by_cases hdot : isDot name = true
    · rw [if_pos hdot, if_pos hdot]
      exact ih dir path
    · rw [if_neg hdot, if_neg hdot]
      cases stats with
      | false => exact (ih dir path).after rfl
      | true => exact Stopped.visitEntry fun p => ih dir p
  | directory name stats opening children rest ihchildren ihrest =>
    rw [recursedir, recursedir]
    by_cases hdot : isDot name = true
    · rw [if_pos hdot, if_pos hdot]
      exact ihrest dir path
    · rw [if_neg hdot, if_neg hdot]
      cases stats with
      | false => exact (ihrest dir path).after rfl
      | true =>
        cases recursive with
        | false => exact Stopped.visitEntry fun p => ihrest dir p
        | true =>
          cases opening with
          | openatFails => exact (ihrest dir _).after rfl
          | fdopendirFails =>
            have hfails : (-1 : ℤ) ≠ 1 := by decide
            exact ⟨fun p hp => absurd hp.symm (Option.some_ne_none p), fun _ => ⟨rfl, rfl⟩, hfails⟩
          | opened => exact (ihchildren _ _).opened fun p => ihrest dir p

/-- The walk that is stopped returns the path of the first visit that finds the name. -/
theorem findHelper_eq (found : CStr → Bool) (path : CStr) (recursive : Bool)
    (entries : Option Entries) :
    findHelper found path recursive entries =
      (recurse recursive noStop path entries).hit found := by
  cases entries with
  | none => rfl
  | some entries =>
    rw [findHelper, recurse, recurse]
    split
    · rfl
    · split
      · rfl
      · have h : Stopped found (recursedir recursive (fun _ entry => found entry) entries
            (base path) (base path)) _ := stopped_recursedir entries (base path) (base path)
        cases hhit : (recursedir recursive noStop entries (base path) (base path)).hit found with
        | some p =>
          obtain ⟨hret, hpath⟩ := h.hit p hhit
          rw [if_pos hret, hpath]
        | none => rw [if_neg fun hret => h.ret ((h.miss hhit).1.symm.trans hret)]

/-- The path and the name that a visit sees. -/
def Event.seen : Event → Option (CStr × CStr)
  | .visit _ path name => some (path, name)
  | .left _ _ => none

theorem hit_eq (w : Walk) : w.hit found =
    ((w.events.filterMap Event.seen).find? fun e => found e.2).map Prod.fst := by
  rw [Walk.hit]
  induction w.events with
  | nil => rfl
  | cons event events ih =>
    rw [List.findSome?_cons]
    cases event with
    | left dir path => exact ih
    | visit entry path name =>
      by_cases hfound : found name = true
      · simp [Event.hit, Event.seen, hfound]
      · simpa [Event.hit, Event.seen, hfound] using ih

/-- A name that fits the path fits `entry`. -/
theorem take_name (h : (dir ++ name).length < PATH_MAX) :
    name.take (FILENAME_MAX - 1) = name := by
  rw [List.length_append] at h
  apply List.take_of_length_le
  have hsize : FILENAME_MAX = PATH_MAX := rfl
  omega

/-- The entries are seen in order, if every sub-directory opens. -/
theorem seen_of_opens (hopens : entries.Opens recursive)
    (hfits : ∀ p ∈ entries.paths dir, p.length < PATH_MAX) :
    (recursedir recursive noStop entries dir dir).events.filterMap Event.seen =
      entries.listed recursive dir := by
  induction entries generalizing dir with
  | nil => rfl
  | other name stats rest ih =>
    obtain ⟨hname, hfits⟩ := List.forall_mem_cons.1 hfits
    have ih := ih hopens hfits
    rw [recursedir, Entries.listed]
    by_cases hdot : isDot name = true
    · simpa [hdot] using ih
    · cases stats with
      | false => simpa [hdot, Walk.after, Event.seen, List.filterMap_cons] using ih
      | true =>
        rw [strlcat_of_lt hname, visitEntry_noStop, cut_append, take_name hname]
        simpa [hdot, Walk.after, Event.seen, List.filterMap_cons] using ih
  | directory name stats opening children rest ihchildren ihrest =>
    rw [Entries.paths, List.cons_append, List.forall_mem_cons, List.forall_mem_append] at hfits
    obtain ⟨hentry, hchildren, hfits⟩ := hfits
    have hname : (dir ++ name).length < PATH_MAX := by
      rw [List.length_append] at hentry
      omega
    have ihrest := ihrest hopens.2 hfits
    rw [recursedir, Entries.listed]
    by_cases hdot : isDot name = true
    · simpa [hdot] using ihrest
    · cases stats with
      | false => simpa [hdot, Walk.after, Event.seen, List.filterMap_cons] using ihrest
      | true =>
        cases recursive with
        | false =>
          rw [strlcat_of_lt hname, visitEntry_noStop, cut_append, take_name hname]
          simpa [hdot, Walk.after, Event.seen, List.filterMap_cons] using ihrest
        | true =>
          obtain ⟨rfl, hbelow⟩ := hopens.1.resolve_left (by simp [hdot])
          have hcut : cut (dir ++ name ++ cstr "/") (name.length + 1) = dir := by
            have hlen : name.length + 1 = (name ++ cstr "/").length := by simp [cstr]
            rw [hlen, List.append_assoc, cut_append]
          -- the walk comes back with the path with which it went in
          have hgood := (decided_recursedir true children (dir ++ name ++ cstr "/")
            hchildren).good hbelow
          have ihchildren := ihchildren hbelow hchildren
          rw [strlcat_of_lt hname, strlcat_of_lt hentry]
          simp only [hdot, if_false, Bool.false_or, Bool.not_true, Bool.false_eq_true, hgood.ret,
            ne_eq, not_true_eq_false, visitEntry_noStop, hgood.path, hcut, take_name hname]
          simp [Walk.after, Event.seen, List.filterMap_cons, ihchildren, ihrest, -List.append_assoc]

end Lemmas

/-- `findHelper found path recursive (some entries)` is the path of the first entry in the order of
the walk whose name is found, if every sub-directory that the walk reaches opens. -/
theorem find_first (found : CStr → Bool) (path : CStr) (recursive : Bool) (entries : Entries)
    (hopens : entries.Opens recursive) (hbase : (base path).length < PATH_MAX)
    (hfits : ∀ p ∈ entries.paths (base path), p.length < PATH_MAX) :
    findHelper found path recursive (some entries) =
      ((entries.listed recursive (base path)).find? fun e => found e.2).map Prod.fst := by
  have hpath : path.length ≤ (base path).length := by
    rw [base]
    split
    · exact Nat.le_refl _
    · simp
  rw [findHelper_eq, hit_eq, recurse, if_neg (by omega), if_neg (by omega),
    seen_of_opens hopens hfits]

/-- A name that is found in a sub-directory before the directory itself. -/
def nestedEntries : Entries :=
  .directory (cstr "a") true .opened (.directory (cstr "b") true .opened .nil .nil)
    (.other (cstr "b") true .nil)

theorem find_nestedEntries :
    findHelper (findName (cstr "b")) (cstr "/tmp") true (some nestedEntries) =
      ((nestedEntries.listed true (base (cstr "/tmp"))).find? fun e =>
        findName (cstr "b") e.2).map Prod.fst :=
  find_first (findName (cstr "b")) (cstr "/tmp") true nestedEntries
    ⟨.inr ⟨rfl, .inr ⟨rfl, trivial⟩, trivial⟩, trivial⟩ (by decide) (by decide)

/-- The path of a directory that has been walked through ends with a slash. -/
example : findHelper (findName (cstr "b")) (cstr "/tmp") true (some nestedEntries) =
    some (cstr "/tmp/a/b/") := by decide

end Directory

end Irccd
