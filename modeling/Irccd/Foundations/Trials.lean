import Mathlib.Data.List.Basic
import Mathlib.Tactic.Common

/-!
# Trying candidates in order

A search tries one candidate after another until one succeeds. It may be written as loops in loops,
each of which is left at the first success, and some candidate may make it fail.

The module introduces:

* `scan`: the candidates are tried in order;
* `loop`: a loop that is left at the first success;
* `loop_eq_scan`: loops in loops try the candidates of a flat list;
* `scan_eq_some_iff`, `scan_eq_none_iff`, `scan_eq_error_iff`: how a search ends.
-/

namespace Trials

variable {κ ε α β : Type*}

/-- The candidates that have been tried, and what the last of them gave. -/
abbrev Trial (κ α : Type*) := List κ × Option α

/-- Try the candidates in order. Instead of a candidate there may be a fault. -/
def scan (opens : κ → Option α) : List (Except ε κ) → Except ε (Trial κ α)
  | [] => .ok ([], none)
  | .error e :: _ => .error e
  | .ok c :: cs =>
    match opens c with
    | some a => .ok ([c], some a)
    | none => (scan opens cs).map fun r => (c :: r.1, r.2)

/-- A loop that is left when its body finds something. -/
def loop (body : β → Except ε (Trial κ α)) : List β → Except ε (Trial κ α)
  | [] => .ok ([], none)
  | b :: bs =>
    match body b with
    | .error e => .error e
    | .ok (tried, some a) => .ok (tried, some a)
    | .ok (tried, none) => (loop body bs).map fun r => (tried ++ r.1, r.2)

variable {opens : κ → Option α} {cs cs' : List (Except ε κ)} {tried : List κ} {a : α} {e : ε}

@[simp] theorem scan_nil : scan opens ([] : List (Except ε κ)) = .ok ([], none) := rfl

@[simp] theorem scan_error : scan opens (.error e :: cs) = .error e := rfl

theorem scan_some {c : κ} (h : opens c = some a) :
    scan opens (.ok c :: cs) = .ok ([c], some a) := by
  simp only [scan, h]

theorem scan_none {c : κ} (h : opens c = none) :
    scan opens (.ok c :: cs) = (scan opens cs).map fun r => (c :: r.1, r.2) := by
  simp only [scan, h]

theorem scan_singleton (c : κ) :
    scan opens [(.ok c : Except ε κ)] = .ok ([c], opens c) := by
  cases h : opens c with
  | none => rw [scan_none h]; rfl
  | some a => exact scan_some h

/-- A list of candidates behind another is only reached when there is nothing in that. -/
theorem scan_append :
    scan opens (cs ++ cs') =
      match scan opens cs with
      | .error e => .error e
      | .ok (tried, some a) => .ok (tried, some a)
      | .ok (tried, none) => (scan opens cs').map fun r => (tried ++ r.1, r.2) := by
  induction cs with
  | nil =>
    show scan opens cs' = (scan opens cs').map _
    cases scan opens cs' <;> rfl
  | cons c cs ih =>
    cases c with
    | error e => rfl
    | ok c =>
      cases h : opens c with
      | some a => rw [List.cons_append, scan_some h, scan_some h]
      | none =>
        rw [List.cons_append, scan_none h, scan_none h, ih]
        rcases scan opens cs with e | ⟨tried, _ | a⟩
        · rfl
        · show Except.map _ (Except.map _ (scan opens cs')) = _
          cases scan opens cs' <;> rfl
        · rfl

/-- A loop whose body tries the candidates of a list tries those of all lists. -/
theorem loop_eq_scan {body : β → Except ε (Trial κ α)} {candidates : β → List (Except ε κ)}
    (h : ∀ b, body b = scan opens (candidates b)) (bs : List β) :
    loop body bs = scan opens (bs.flatMap candidates) := by
  induction bs with
  | nil => rfl
  | cons b bs ih =>
    rw [List.flatMap_cons, scan_append, loop, h, ih]

/-- The candidates before the one that ends the search have been tried in vain. -/
theorem scan_map_ok_append (h : ∀ c ∈ tried, opens c = none) :
    scan opens (tried.map .ok ++ cs) = (scan opens cs).map fun r => (tried ++ r.1, r.2) := by
  induction tried with
  | nil =>
    show scan opens cs = (scan opens cs).map _
    cases scan opens cs <;> rfl
  | cons c tried ih =>
    rw [List.map_cons, List.cons_append, scan_none (h c List.mem_cons_self),
      ih fun c' hc' => h c' (List.mem_cons_of_mem c hc')]
    cases scan opens cs <;> rfl

/-- How a search goes: what has been tried in vain, and what it was ended by. -/
theorem exists_scan (opens : κ → Option α) (cs : List (Except ε κ)) :
    ∃ (tried : List κ) (rest : List (Except ε κ)),
      cs = tried.map .ok ++ rest ∧ (∀ c ∈ tried, opens c = none) ∧
      (rest = [] ∨ (∃ e rest', rest = .error e :: rest') ∨
        ∃ c a rest', rest = .ok c :: rest' ∧ opens c = some a) := by
  induction cs with
  | nil => exact ⟨[], [], rfl, nofun, .inl rfl⟩
  | cons c cs ih =>
    cases c with
    | error e => exact ⟨[], _, rfl, nofun, .inr (.inl ⟨e, cs, rfl⟩)⟩
    | ok c =>
      cases h : opens c with
      | some a => exact ⟨[], _, rfl, nofun, .inr (.inr ⟨c, a, cs, rfl, h⟩)⟩
      | none =>
        obtain ⟨tried, rest, rfl, hvain, hrest⟩ := ih
        refine ⟨c :: tried, rest, rfl, fun c' hc' => ?_, hrest⟩
        rcases List.mem_cons.1 hc' with rfl | hc'
        · exact h
        · exact hvain c' hc'

/-- Something is found at the first candidate that opens. -/
theorem scan_eq_some_iff : scan opens cs = .ok (tried, some a) ↔
    ∃ (before : List κ) (c : κ) (rest : List (Except ε κ)), cs = before.map .ok ++ .ok c :: rest ∧
      (∀ d ∈ before, opens d = none) ∧ opens c = some a ∧ tried = before ++ [c] := by
  constructor
  · intro h
    obtain ⟨before, rest, rfl, hvain, hrest⟩ := exists_scan opens cs
    rw [scan_map_ok_append hvain] at h
    rcases hrest with rfl | ⟨e, rest', rfl⟩ | ⟨c, a', rest', rfl, hc⟩
    · cases h
    · cases h
    · rw [scan_some hc] at h
      cases h
      exact ⟨before, c, rest', rfl, hvain, hc, rfl⟩
  · rintro ⟨before, c, rest, rfl, hvain, hc, rfl⟩
    rw [scan_map_ok_append hvain, scan_some hc]
    rfl

/-- Nothing is found when all candidates have been tried in vain. -/
theorem scan_eq_none_iff : scan opens cs = .ok (tried, none) ↔
    cs = tried.map .ok ∧ ∀ c ∈ tried, opens c = none := by
  constructor
  · intro h
    obtain ⟨before, rest, rfl, hvain, hrest⟩ := exists_scan opens cs
    rw [scan_map_ok_append hvain] at h
    rcases hrest with rfl | ⟨e, rest', rfl⟩ | ⟨c, a', rest', rfl, hc⟩
    · cases h
      rw [List.append_nil, List.append_nil]
      exact ⟨rfl, hvain⟩
    · cases h
    · rw [scan_some hc] at h
      cases h
  · rintro ⟨rfl, hvain⟩
    have hscan : scan opens (tried.map .ok ++ ([] : List (Except ε κ))) =
        (scan opens []).map fun r => (tried ++ r.1, r.2) := scan_map_ok_append hvain
    rw [List.append_nil, scan_nil] at hscan
    rw [hscan]
    simp [Except.map]

/-- The search fails when only candidates that do not open come before the fault. -/
theorem scan_eq_error_iff : scan opens cs = .error e ↔
    ∃ (before : List κ) (rest : List (Except ε κ)),
      cs = before.map .ok ++ .error e :: rest ∧ ∀ d ∈ before, opens d = none := by
  constructor
  · intro h
    obtain ⟨before, rest, rfl, hvain, hrest⟩ := exists_scan opens cs
    rw [scan_map_ok_append hvain] at h
    rcases hrest with rfl | ⟨e', rest', rfl⟩ | ⟨c, a', rest', rfl, hc⟩
    · cases h
    · cases h
      exact ⟨before, rest', rfl, hvain⟩
    · rw [scan_some hc] at h
      cases h
  · rintro ⟨before, rest, rfl, hvain⟩
    rw [scan_map_ok_append hvain, scan_error]
    rfl

end Trials
