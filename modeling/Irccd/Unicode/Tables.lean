import Mathlib.Data.List.Pairwise
import Irccd.Foundations.Bisection
import Irccd.Unicode.Basic
import Irccd.Unicode.Data

/-!
# The tables of Unicode (`unicode.c`)

The classes and the cases of code points are generated tables of ranges and of single code points,
in increasing order. `search` finds a row by bisection.

* `search`, `findRange`, `findSingle`: the lookup in a table;
* `RangeTable`, `SingleTable`: the tables, each with its order;
* `uniIsspace` and the like: the functions;
* `uni_plain`: each function answers what a look at all rows answers, and reads no row outside.
-/

namespace Irccd

/-- A row of a table of ranges, with what the table has for the range. -/
structure UniRange (δ : Type) where
  first : BitVec 32
  last : BitVec 32
  value : δ

/-- A row of a table of single code points. -/
structure UniSingle (δ : Type) where
  code : BitVec 32
  value : δ

/-- `search`, where `t` is the place of the pointer in the table. -/
def search {ρ : Type} (key : ρ → BitVec 32) (c : BitVec 32) (table : List ρ) (t n : ℕ) :
    Except UniStop (Option ρ) :=
  if 1 < n then
    match readAt table (t + n / 2) with
    | .error e => .error e
    | .ok p =>
      if key p ≤ c then search key c table (t + n / 2) (n - n / 2) else search key c table t (n / 2)
  else if n = 0 then .ok none
  else
    match readAt table t with
    | .error e => .error e
    | .ok p => if key p ≤ c then .ok (some p) else .ok none
termination_by n
decreasing_by all_goals omega

section Lookups

variable {δ : Type}

/-- The code point is in the range. -/
def UniRange.has (r : UniRange δ) (c : BitVec 32) : Bool := r.first ≤ c && c ≤ r.last

/-- `p = search (c, table, nelem (table) / ne, ne)`, then `p && c >= p[0] && c <= p[1]`. -/
def findRange (table : List (UniRange δ)) (c : BitVec 32) : Except UniStop (Option δ) :=
  (search UniRange.first c table 0 table.length).map fun p => (p.filter (·.has c)).map (·.value)

/-- `p = search (c, table, nelem (table), 1)`, then `p && c == p[0]`. -/
def findSingle (table : List (UniSingle δ)) (c : BitVec 32) : Except UniStop (Option δ) :=
  (search UniSingle.code c table 0 table.length).map fun p =>
    (p.filter (·.code == c)).map (·.value)

/-- A class of code points. -/
def uniIs (ranges : List (UniRange Unit)) (singles : List (UniSingle Unit)) (c : BitVec 32) :
    Except UniStop Bool := do
  if (← findRange ranges c).isSome then return true
  return (← findSingle singles c).isSome

/-- The code point of another case. -/
def uniTo (ranges : List (UniRange (BitVec 32))) (singles : List (UniSingle (BitVec 32)))
    (c : BitVec 32) : Except UniStop (BitVec 32) := do
  match ← findRange ranges c with
  | some delta => return c + delta - 1048576
  | none =>
    match ← findSingle singles c with
    | some delta => return c + delta - 1048576
    | none => return c

/-- The ranges are in increasing order, and none meets another. -/
def UniRange.Ordered (table : List (UniRange δ)) : Prop :=
  (∀ r ∈ table, r.first ≤ r.last) ∧ table.Pairwise fun a b => a.last < b.first

/-- The code points are in increasing order. -/
def UniSingle.Ordered (table : List (UniSingle δ)) : Prop :=
  table.Pairwise fun a b => a.code < b.code

end Lookups

/-- The rows of a table of ranges, as the source has them. -/
def ranges (rows : List (ℕ × ℕ)) : List (UniRange Unit) :=
  rows.map fun (first, last) => ⟨.ofNat 32 first, .ofNat 32 last, ()⟩

/-- The rows of a table of ranges with differences. -/
def rangesTo (rows : List (ℕ × ℕ × ℕ)) : List (UniRange (BitVec 32)) :=
  rows.map fun (first, last, delta) => ⟨.ofNat 32 first, .ofNat 32 last, .ofNat 32 delta⟩

/-- The rows of a table of single code points. -/
def singles (rows : List ℕ) : List (UniSingle Unit) := rows.map fun code => ⟨.ofNat 32 code, ()⟩

/-- The rows of a table of single code points with differences. -/
def singlesTo (rows : List (ℕ × ℕ)) : List (UniSingle (BitVec 32)) :=
  rows.map fun (code, delta) => ⟨.ofNat 32 code, .ofNat 32 delta⟩

/-- When every row ends before the next one begins, it ends before all those behind it do. -/
theorem pairwise_of_isChain {ρ : Type} {first last : ρ → BitVec 32} {table : List ρ}
    (hrows : ∀ r ∈ table, first r ≤ last r) (hchain : table.IsChain fun a b => last a < first b) :
    table.Pairwise fun a b => last a < first b := by
  induction table with
  | nil => exact .nil
  | cons a rest ih =>
    have hpairs := ih (fun r hr => hrows r (List.mem_cons_of_mem a hr)) hchain.of_cons
    refine List.pairwise_cons.2 ⟨fun c hc => ?_, hpairs⟩
    cases rest with
    | nil => cases hc
    | cons b rest =>
      have hab : last a < first b := (List.isChain_cons_cons.1 hchain).1
      have hb : first b ≤ last b := hrows b (List.mem_cons_of_mem a List.mem_cons_self)
      rcases List.mem_cons.1 hc with rfl | hc
      · exact hab
      · have hbc : last b < first c := (List.pairwise_cons.1 hpairs).1 c hc
        exact Nat.lt_trans (Nat.lt_of_lt_of_le hab hb) hbc

/-- A table of ranges. -/
abbrev RangeTable (δ : Type) := { table : List (UniRange δ) // UniRange.Ordered table }

/-- A table of single code points. -/
abbrev SingleTable (δ : Type) := { table : List (UniSingle δ) // UniSingle.Ordered table }

/-- A table of ranges in which neighbours are in order. -/
def RangeTable.ofRows {δ : Type} (table : List (UniRange δ))
    (h : (∀ r ∈ table, r.first ≤ r.last) ∧ table.IsChain fun a b => a.last < b.first) :
    RangeTable δ :=
  ⟨table, h.1, pairwise_of_isChain h.1 h.2⟩

/-- A table of single code points in which neighbours are in order. -/
def SingleTable.ofRows {δ : Type} (table : List (UniSingle δ))
    (h : table.IsChain fun a b => a.code < b.code) : SingleTable δ :=
  ⟨table, pairwise_of_isChain (fun r _ => BitVec.le_refl r.code) h⟩

section Tables

def isspacer : RangeTable Unit := .ofRows (ranges Unicode.isspacer) (by decide +kernel)
def isdigitr : RangeTable Unit := .ofRows (ranges Unicode.isdigitr) (by decide +kernel)
def isalphar : RangeTable Unit := .ofRows (ranges Unicode.isalphar) (by decide +kernel)
def isalphas : SingleTable Unit := .ofRows (singles Unicode.isalphas) (by decide +kernel)
def isupperr : RangeTable Unit := .ofRows (ranges Unicode.isupperr) (by decide +kernel)
def isuppers : SingleTable Unit := .ofRows (singles Unicode.isuppers) (by decide +kernel)
def islowerr : RangeTable Unit := .ofRows (ranges Unicode.islowerr) (by decide +kernel)
def islowers : SingleTable Unit := .ofRows (singles Unicode.islowers) (by decide +kernel)
def istitler : RangeTable Unit := .ofRows (ranges Unicode.istitler) (by decide +kernel)
def istitles : SingleTable Unit := .ofRows (singles Unicode.istitles) (by decide +kernel)
def toupperr : RangeTable (BitVec 32) := .ofRows (rangesTo Unicode.toupperr) (by decide +kernel)
def touppers : SingleTable (BitVec 32) := .ofRows (singlesTo Unicode.touppers) (by decide +kernel)
def tolowerr : RangeTable (BitVec 32) := .ofRows (rangesTo Unicode.tolowerr) (by decide +kernel)
def tolowers : SingleTable (BitVec 32) := .ofRows (singlesTo Unicode.tolowers) (by decide +kernel)
def totitler : RangeTable (BitVec 32) := .ofRows (rangesTo Unicode.totitler) (by decide +kernel)
def totitles : SingleTable (BitVec 32) := .ofRows (singlesTo Unicode.totitles) (by decide +kernel)

end Tables

section Functions

variable (c : BitVec 32)

/-- `uni_isspace` -/
def uniIsspace : Except UniStop Bool := (findRange isspacer.1 c).map (·.isSome)

/-- `uni_isdigit` -/
def uniIsdigit : Except UniStop Bool := (findRange isdigitr.1 c).map (·.isSome)

/-- `uni_isalpha` -/
def uniIsalpha : Except UniStop Bool := uniIs isalphar.1 isalphas.1 c

/-- `uni_isupper` -/
def uniIsupper : Except UniStop Bool := uniIs isupperr.1 isuppers.1 c

/-- `uni_islower` -/
def uniIslower : Except UniStop Bool := uniIs islowerr.1 islowers.1 c

/-- `uni_istitle` -/
def uniIstitle : Except UniStop Bool := uniIs istitler.1 istitles.1 c

/-- `uni_toupper` -/
def uniToupper : Except UniStop (BitVec 32) := uniTo toupperr.1 touppers.1 c

/-- `uni_tolower` -/
def uniTolower : Except UniStop (BitVec 32) := uniTo tolowerr.1 tolowers.1 c

/-- `uni_totitle` -/
def uniTotitle : Except UniStop (BitVec 32) := uniTo totitler.1 totitles.1 c

end Functions

/-! ## A look at all rows -/

section Plain

variable {δ : Type}

/-- What the first row with the code point has. -/
def plainRange (table : List (UniRange δ)) (c : BitVec 32) : Option δ :=
  (table.find? (·.has c)).map (·.value)

def plainSingle (table : List (UniSingle δ)) (c : BitVec 32) : Option δ :=
  (table.find? (·.code == c)).map (·.value)

/-- The code point is in a range, or is a single one. -/
def plainIs (ranges : List (UniRange Unit)) (singles : List (UniSingle Unit)) (c : BitVec 32) :
    Bool :=
  ranges.any (·.has c) || singles.any (·.code == c)

/-- The difference of the range, or of the single code point, or none. -/
def plainTo (ranges : List (UniRange (BitVec 32))) (singles : List (UniSingle (BitVec 32)))
    (c : BitVec 32) : BitVec 32 :=
  match (plainRange ranges c).or (plainSingle singles c) with
  | some delta => c + delta - 1048576
  | none => c

end Plain

section Lemmas

variable {ρ δ : Type} {key : ρ → BitVec 32} {c : BitVec 32} {table : List ρ} {t n : ℕ}

/-- The rows of a window of the table are read only, and it is searched by bisection. -/
theorem search_eq (hin : t + n ≤ table.length) :
    search key c table t n =
      .ok ((Bisection.search (fun i => (table[i]?).any (key · ≤ c)) t n).bind (table[·]?)) := by
  have hread (i : ℕ) (hi : i < table.length) : readAt table i = .ok table[i] := by
    rw [readAt, List.getElem?_eq_getElem hi]
  -- on the calls of `search`; the row in the middle is one of the window, so it is there
  fun_induction search key c table t n with
  | case1 t n h e he =>
    rw [hread _ (by omega)] at he
    cases he
  | case2 t n h p hp hle ih =>
    rw [hread _ (by omega)] at hp
    obtain rfl := Except.ok.inj hp
    rw [ih (by omega)]
    conv_rhs => rw [Bisection.search, dif_pos h]
    rw [if_pos (by simp [List.getElem?_eq_getElem (show t + n / 2 < table.length by omega), hle])]
  | case3 t n h p hp hle ih =>
    rw [hread _ (by omega)] at hp
    obtain rfl := Except.ok.inj hp
    rw [ih (by omega)]
    conv_rhs => rw [Bisection.search, dif_pos h]
    rw [if_neg (by simp [List.getElem?_eq_getElem (show t + n / 2 < table.length by omega), hle])]
  | case4 t h =>
    rw [Bisection.search, dif_neg h, if_neg fun hone => hone.1 rfl]
    rfl
  | case5 t n h hzero e he =>
    rw [hread _ (by omega)] at he
    cases he
  | case6 t n h hzero p hp hle =>
    rw [hread _ (by omega)] at hp
    obtain rfl := Except.ok.inj hp
    have ht : t < table.length := by omega
    rw [Bisection.search, dif_neg h,
      if_pos ⟨hzero, by simp [List.getElem?_eq_getElem ht, hle]⟩, Option.bind_some,
      List.getElem?_eq_getElem ht]
  | case7 t n h hzero p hp hle =>
    rw [hread _ (by omega)] at hp
    obtain rfl := Except.ok.inj hp
    have ht : t < table.length := by omega
    rw [Bisection.search, dif_neg h, if_neg fun hone => hle (by
      simpa [List.getElem?_eq_getElem ht] using hone.2)]
    rfl

/-- The row that is found is the last one that does not begin behind the code point. -/
theorem search_table (hsorted : table.Pairwise fun a b => key a < key b) (c : BitVec 32) :
    (search key c table 0 table.length = .ok none ∧ ∀ r ∈ table, ¬ key r ≤ c) ∨
    ∃ before r after, table = before ++ r :: after ∧ key r ≤ c ∧ (∀ a ∈ after, ¬ key a ≤ c) ∧
      search key c table 0 table.length = .ok (some r) := by
  -- in an ordered table the rows that do not begin behind the code point come first
  have hspec : Bisection.Last (fun i => (table[i]?).any (key · ≤ c)) 0 table.length _ :=
    Bisection.search_spec fun i j hij hj hbelow => by
      rcases Nat.lt_or_eq_of_le hij with hlt | rfl
      · have hj' : j < table.length := by omega
        have hi' : i < table.length := by omega
        have hkeys := List.pairwise_iff_getElem.1 hsorted i j hi' hj' hlt
        simp only [List.getElem?_eq_getElem hj', List.getElem?_eq_getElem hi', Option.any_some,
          decide_eq_true_eq] at hbelow ⊢
        exact BitVec.le_trans (BitVec.le_of_lt hkeys) hbelow
      · exact hbelow
  rw [search_eq (by omega)]
  generalize Bisection.search (fun i => (table[i]?).any (key · ≤ c)) 0 table.length = found at hspec
  cases found with
  | none =>
    refine .inl ⟨rfl, fun r hr hle => ?_⟩
    obtain ⟨i, hi, rfl⟩ := List.getElem_of_mem hr
    have hnot := hspec i (Nat.zero_le i) (by omega)
    simp [List.getElem?_eq_getElem hi, hle] at hnot
  | some k =>
    obtain ⟨-, hk, hbelow, hlast⟩ := hspec
    rw [Nat.zero_add] at hk hlast
    have hsplit : table = table.take k ++ table[k] :: table.drop (k + 1) := by
      rw [List.getElem_cons_drop, List.take_append_drop]
    refine .inr ⟨table.take k, table[k], table.drop (k + 1), hsplit, ?_, fun a ha hle => ?_, ?_⟩
    · simpa [List.getElem?_eq_getElem hk] using hbelow
    · obtain ⟨i, hi, rfl⟩ := List.getElem_of_mem ha
      rw [List.length_drop] at hi
      rw [List.getElem_drop] at hle
      have hnot := hlast (k + 1 + i) (by omega) (by omega)
      simp [List.getElem?_eq_getElem (show k + 1 + i < table.length by omega), hle] at hnot
    · rw [Option.bind_some, List.getElem?_eq_getElem hk]

/-- In an ordered table of ranges each begins behind the one before it. -/
theorem UniRange.Ordered.sorted {table : List (UniRange δ)} (h : UniRange.Ordered table) :
    table.Pairwise fun a b => a.first < b.first := by
  refine h.2.imp_of_mem fun ha _ hlt => ?_
  exact Nat.lt_of_le_of_lt (h.1 _ ha) hlt

theorem findRange_eq {table : List (UniRange δ)} (h : UniRange.Ordered table) (c : BitVec 32) :
    findRange table c = .ok (plainRange table c) := by
  rw [findRange, plainRange]
  rcases search_table h.sorted c with
    ⟨hsearch, hnone⟩ | ⟨before, r, after, rfl, hle, hafter, hsearch⟩
  · rw [hsearch, List.find?_eq_none.2 fun r hr hhas => hnone r hr (by
      simp [UniRange.has] at hhas; exact hhas.1)]
    rfl
  · -- the ranges before end before the one that is found
    have hbefore (b : UniRange δ) (hb : b ∈ before) : ¬ b.has c = true := by
      have hlt := (List.pairwise_append.1 h.2).2.2 b hb r List.mem_cons_self
      simp only [UniRange.has, Bool.and_eq_true, decide_eq_true_eq, not_and, BitVec.not_le]
      exact fun _ => Nat.lt_of_lt_of_le hlt hle
    have hrest (a : UniRange δ) (ha : a ∈ after) : ¬ a.has c = true := by
      simp only [UniRange.has, Bool.and_eq_true, decide_eq_true_eq, not_and]
      exact fun hfirst => absurd hfirst (hafter a ha)
    rw [hsearch, List.find?_append, List.find?_eq_none.2 hbefore, Option.none_or, List.find?_cons]
    cases hhas : r.has c with
    | true => simp [Except.map, hhas]
    | false => simp [Except.map, hhas, List.find?_eq_none.2 hrest]

theorem findSingle_eq {table : List (UniSingle δ)} (h : UniSingle.Ordered table) (c : BitVec 32) :
    findSingle table c = .ok (plainSingle table c) := by
  rw [findSingle, plainSingle]
  rcases search_table h c with ⟨hsearch, hnone⟩ | ⟨before, r, after, rfl, hle, hafter, hsearch⟩
  · rw [hsearch, List.find?_eq_none.2 fun r hr hcode => hnone r hr (by
      rw [beq_iff_eq.1 hcode]
      exact BitVec.le_refl c)]
    rfl
  · -- the code points before are less, those after are greater
    have hbefore (b : UniSingle δ) (hb : b ∈ before) : ¬ (b.code == c) = true := by
      have hlt := (List.pairwise_append.1 h).2.2 b hb r List.mem_cons_self
      rw [beq_iff_eq]
      rintro rfl
      exact BitVec.lt_irrefl b.code (Nat.lt_of_lt_of_le hlt hle)
    have hrest (a : UniSingle δ) (ha : a ∈ after) : ¬ (a.code == c) = true := by
      rw [beq_iff_eq]
      rintro rfl
      exact hafter a ha (BitVec.le_refl a.code)
    rw [hsearch, List.find?_append, List.find?_eq_none.2 hbefore, Option.none_or, List.find?_cons]
    by_cases hcode : r.code = c
    · simp [Except.map, hcode]
    · have hfalse : (r.code == c) = false := beq_eq_false_iff_ne.2 hcode
      simp [Except.map, Option.filter, hfalse, List.find?_eq_none.2 hrest]

theorem isSome_plainRange (table : List (UniRange δ)) (c : BitVec 32) :
    (plainRange table c).isSome = table.any (·.has c) := by
  rw [plainRange, Option.isSome_map, Bool.eq_iff_iff, List.find?_isSome, List.any_eq_true]

theorem isSome_plainSingle (table : List (UniSingle δ)) (c : BitVec 32) :
    (plainSingle table c).isSome = table.any (·.code == c) := by
  rw [plainSingle, Option.isSome_map, Bool.eq_iff_iff, List.find?_isSome, List.any_eq_true]

theorem uniIs_eq (ranges : RangeTable Unit) (singles : SingleTable Unit) (c : BitVec 32) :
    uniIs ranges.1 singles.1 c = .ok (plainIs ranges.1 singles.1 c) := by
  rw [uniIs, findRange_eq ranges.2, findSingle_eq singles.2]
  simp only [bind, Except.bind, pure, Except.pure, isSome_plainRange, isSome_plainSingle, plainIs]
  cases ranges.1.any (·.has c) <;> rfl

theorem uniTo_eq (ranges : RangeTable (BitVec 32)) (singles : SingleTable (BitVec 32))
    (c : BitVec 32) : uniTo ranges.1 singles.1 c = .ok (plainTo ranges.1 singles.1 c) := by
  rw [uniTo, findRange_eq ranges.2, findSingle_eq singles.2, plainTo]
  simp only [bind, Except.bind, pure, Except.pure]
  cases plainRange ranges.1 c with
  | some delta => rfl
  | none => cases plainSingle singles.1 c <;> rfl

end Lemmas

/-- For every code point each function answers what a look at all rows of its tables answers, and it
never reads outside of them. -/
theorem uni_plain (c : BitVec 32) :
    uniIsspace c = .ok (plainIs isspacer.1 [] c) ∧
    uniIsdigit c = .ok (plainIs isdigitr.1 [] c) ∧
    uniIsalpha c = .ok (plainIs isalphar.1 isalphas.1 c) ∧
    uniIsupper c = .ok (plainIs isupperr.1 isuppers.1 c) ∧
    uniIslower c = .ok (plainIs islowerr.1 islowers.1 c) ∧
    uniIstitle c = .ok (plainIs istitler.1 istitles.1 c) ∧
    uniToupper c = .ok (plainTo toupperr.1 touppers.1 c) ∧
    uniTolower c = .ok (plainTo tolowerr.1 tolowers.1 c) ∧
    uniTotitle c = .ok (plainTo totitler.1 totitles.1 c) := by
  have hranges (table : RangeTable Unit) :
      (findRange table.1 c).map (·.isSome) = .ok (plainIs table.1 [] c) := by
    rw [findRange_eq table.2, Except.map, isSome_plainRange, plainIs, List.any_nil, Bool.or_false]
  exact ⟨hranges isspacer, hranges isdigitr, uniIs_eq isalphar isalphas c,
    uniIs_eq isupperr isuppers c, uniIs_eq islowerr islowers c,
    uniIs_eq istitler istitles c, uniTo_eq toupperr touppers c,
    uniTo_eq tolowerr tolowers c, uniTo_eq totitler totitles c⟩

/-- The letter a becomes A. -/
example : uniToupper 0x61 = .ok 0x41 := by
  have hplain : plainTo toupperr.1 touppers.1 0x61 = 0x41 := by decide +kernel
  rw [uniToupper, uniTo_eq, hplain]

end Irccd
