import Irccd.Fault
import Irccd.Foundations.Segments
import Irccd.Util
import Mathlib.Algebra.Order.BigOperators.Group.List
import Mathlib.Algebra.Order.Ring.Nat

/-!
# Cutting text into lines (`jsapi-util.c`)

`Util_cut` splits its data into tokens, joins them with spaces and newlines, and splits the result
into lines.

* `split`, `join`, `utilCut`: the functions;
* `Wraps`: the lines hold the tokens in their order;
* `join_eq`: `join` puts as many tokens on each line as it can;
* `cutTokens_optimal`: there are as few lines as possible, and there is an error when they are too
  many or when a token is too long;
* `utilCut_optimal`: so are the lines of `Util_cut`.
-/

namespace Irccd.JsUtil

open Segments

/-- A `RangeError`. -/
structure RangeError where
  message : CStr
  deriving DecidableEq

/-! ## Tokens -/

/-- The first argument of `Util_cut`. -/
inductive CutData
  | string (s : CStr)
  | array (items : List CStr)
  /-- Any other object. -/
  | object

/-- `stringlist_concat`: the tokens of a `strtok_r` loop with the separators `" \t\n"`. -/
def stringlistConcat (list : List CStr) (value : CStr) : List CStr :=
  list ++ (value.splitOnP fun b => b == SP || b == 9 || b == LF).filter (· != [])

/-- `split` -/
def split : CutData → List CStr
  | .string s => stringlistConcat [] s
  | .array items => items.foldl stringlistConcat []
  | .object => []

/-- A token: it is not empty and there is no blank in it. -/
def IsWord (token : CStr) : Prop := token ≠ [] ∧ ∀ b ∈ token, b ≠ SP ∧ b ≠ 9 ∧ b ≠ LF

instance : DecidablePred IsWord := fun token =>
  decidable_of_iff (token ≠ [] ∧ token.all (fun b => b != SP && b != 9 && b != LF) = true)
    (and_congr_right fun _ => by simp [and_assoc])

/-! ## Lines -/

/-- The variables of `join`. -/
structure JoinState where
  out : CStr
  linesz : ℕ
  lineavail : ℕ

/-- `linesz += fprintf (fp, "%s%s", linesz > 0 ? " " : "", token->value)` -/
def putToken (s : JoinState) (token : CStr) : JoinState :=
  let text := (if 0 < s.linesz then [SP] else []) ++ token
  { s with out := s.out ++ text, linesz := s.linesz + text.length }

/-- The body of the loop of `join`. -/
def joinToken (maxc maxl : ℕ) (s : JoinState) (token : CStr) : Except RangeError JoinState :=
  if maxc < token.length then
    .error ⟨cstr "token '" ++ token ++ cstr "' could not fit in maxc limit (" ++ decimal maxc ++
      cstr ")"⟩
  else
    -- if there is something on the line, a space comes before the token
    let tokensz := if 0 < s.linesz then token.length + 1 else token.length
    if maxc < s.linesz + tokensz then
      if s.lineavail - 1 = 0 then
        .error ⟨cstr "number of lines exceeds maxl (" ++ decimal maxl ++ cstr ")"⟩
      else
        .ok (putToken { out := s.out ++ [LF], linesz := 0, lineavail := s.lineavail - 1 } token)
    else .ok (putToken s token)

/-- `join` -/
def join (maxc maxl : ℕ) (list : List CStr) : Except RangeError CStr := do
  let s ← list.foldlM (joinToken maxc maxl) { out := [], linesz := 0, lineavail := maxl }
  return s.out

/-- `join`, and the lines of a `strtok_r` loop with the separator `"\n"`. -/
def cutTokens (maxc maxl : ℕ) (list : List CStr) : Except RangeError (List CStr) := do
  let lines ← join maxc maxl list
  return tokens LF lines

/-- `limit`: an argument of `Util_cut` if it is a number, or the default. -/
def limit (index : ℕ) (name : CStr) (arg : Option ℤ) (value : ℕ) : Except RangeError ℕ :=
  match arg with
  | none => .ok value
  | some newvalue =>
    if newvalue ≤ 0 then
      .error ⟨cstr "argument " ++ decimal index ++ cstr " (" ++ name ++ cstr ") must be positive"⟩
    else .ok newvalue.toNat

/-- `Util_cut` -/
def utilCut (data : CutData) (maxc maxl : Option ℤ) : Except RangeError (List CStr) := do
  let maxc ← limit 1 (cstr "maxc") maxc 72
  let maxl ← limit 2 (cstr "maxl") maxl (2 ^ 64 - 1)
  cutTokens maxc maxl (split data)

example : utilCut (.string (cstr " hello  world ")) (some 5) none =
    .ok [cstr "hello", cstr "world"] := by decide

/-- There are no separators in the pieces of a list. -/
theorem not_of_mem_splitOnP {α : Type} {p : α → Bool} {l piece : List α}
    (h : piece ∈ l.splitOnP p) : ∀ b ∈ piece, p b = false := by
  induction l generalizing piece with
  | nil =>
    obtain rfl := List.mem_singleton.1 h
    nofun
  | cons x l ih =>
    rw [List.splitOnP_cons_eq_if_modifyHead] at h
    cases hx : p x with
    | true =>
      rw [if_pos hx] at h
      rcases List.mem_cons.1 h with rfl | h
      · nofun
      · exact ih h
    | false =>
      rw [if_neg (by rw [hx]; nofun)] at h
      obtain ⟨first, rest, hsplit⟩ := List.exists_cons_of_ne_nil (List.splitOnP_ne_nil p l)
      rw [hsplit, List.modifyHead_cons] at h
      rcases List.mem_cons.1 h with rfl | h
      · intro b hb
        rcases List.mem_cons.1 hb with rfl | hb
        · exact hx
        · exact ih (by rw [hsplit]; exact List.mem_cons_self) b hb
      · exact ih (by rw [hsplit]; exact List.mem_cons_of_mem first h)

theorem isWord_of_mem_stringlistConcat {list : List CStr} {value : CStr}
    (hlist : ∀ t ∈ list, IsWord t) : ∀ t ∈ stringlistConcat list value, IsWord t := by
  intro t ht
  rcases List.mem_append.1 ht with ht | ht
  · exact hlist t ht
  · obtain ⟨hpiece, hne⟩ := List.mem_filter.1 ht
    refine ⟨by simpa using hne, fun b hb => ?_⟩
    simpa [and_assoc] using not_of_mem_splitOnP hpiece b hb

/-- What `split` gives are words. -/
theorem isWord_of_mem_split {data : CutData} : ∀ t ∈ split data, IsWord t := by
  cases data with
  | string s => exact isWord_of_mem_stringlistConcat nofun
  | object => nofun
  | array items =>
    show ∀ t ∈ items.foldl stringlistConcat [], IsWord t
    have hfold : ∀ list : List CStr, (∀ t ∈ list, IsWord t) →
        ∀ t ∈ items.foldl stringlistConcat list, IsWord t := by
      induction items with
      | nil => exact fun list hlist => hlist
      | cons item items ih =>
        exact fun list hlist => ih _ (isWord_of_mem_stringlistConcat hlist)
    exact hfold [] nofun

theorem limit_pos {index value n : ℕ} {name : CStr} {arg : Option ℤ} (hvalue : 1 ≤ value)
    (h : limit index name arg value = .ok n) : 1 ≤ n := by
  cases arg with
  | none =>
    cases h
    exact hvalue
  | some newvalue =>
    simp only [limit] at h
    split at h
    · cases h
    · cases h
      omega

/-- `Util_cut` cuts the words of its data, with the limits that it is given. -/
theorem utilCut_eq_ok_iff {data : CutData} {maxc maxl : Option ℤ} {lines : List CStr} :
    utilCut data maxc maxl = .ok lines ↔
      ∃ c, limit 1 (cstr "maxc") maxc 72 = .ok c ∧
        ∃ l, limit 2 (cstr "maxl") maxl (2 ^ 64 - 1) = .ok l ∧
          cutTokens c l (split data) = .ok lines := by
  simp only [utilCut, bind_eq_ok_iff]

/-! ## The words of a line -/

/-- The text of a line. -/
def lineText (words : List CStr) : CStr := [SP].intercalate words

theorem intercalate_concat {α : Type} (sep : List α) {ls : List (List α)} (h : ls ≠ [])
    (l : List α) : sep.intercalate (ls ++ [l]) = sep.intercalate ls ++ (sep ++ l) := by
  induction ls with
  | nil => exact absurd rfl h
  | cons a ls ih =>
    cases ls with
    | nil => simp
    | cons b ls =>
      have hrest := ih (List.cons_ne_nil b ls)
      rw [List.cons_append, List.cons_append, List.intercalate_cons_cons,
        List.intercalate_cons_cons, ← List.cons_append, hrest, List.append_assoc,
        List.append_assoc, List.append_assoc]

/-- More at the end of the last piece. -/
theorem intercalate_concat_append {α : Type} (sep : List α) (ls : List (List α)) (l m : List α) :
    sep.intercalate (ls ++ [l ++ m]) = sep.intercalate (ls ++ [l]) ++ m := by
  cases ls with
  | nil => simp
  | cons a ls =>
    have hne := List.cons_ne_nil a ls
    rw [intercalate_concat sep hne, intercalate_concat sep hne, List.append_assoc,
      List.append_assoc]

theorem length_lineText_add (words : List CStr) :
    (lineText words).length + (if words = [] then 0 else 1) =
      (words.map fun w => w.length + 1).sum := by
  induction words with
  | nil => rfl
  | cons w words ih =>
    cases words with
    | nil => simp [lineText]
    | cons v words =>
      rw [List.map_cons, List.sum_cons, ← ih]
      simp only [lineText, List.intercalate_cons_cons, List.length_append, List.length_singleton,
        reduceCtorEq, if_false]
      omega

/-- The line is not longer than `maxc`. -/
def FitsLine (maxc : ℕ) (words : List CStr) : Prop := (lineText words).length ≤ maxc

instance (maxc : ℕ) : DecidablePred (FitsLine maxc) := fun _ => Nat.decLe _ _

/-- A line that is a part of another one is not longer. -/
theorem FitsLine.of_sublist {maxc : ℕ} {words words' : List CStr} (h : FitsLine maxc words')
    (hsub : words.Sublist words') : FitsLine maxc words := by
  rw [FitsLine] at h ⊢
  have hlen := length_lineText_add words
  have hlen' := length_lineText_add words'
  have hsum := (hsub.map fun w => w.length + 1).sum_le_sum (by simp)
  by_cases hnil : words = []
  · rw [hnil]
    exact Nat.zero_le _
  · have hnil' : words' ≠ [] := by
      rintro rfl
      exact hnil (List.sublist_nil.1 hsub)
    rw [if_neg hnil] at hlen
    rw [if_neg hnil'] at hlen'
    omega

/-! ## The loop -/

/-- The variables of `join` when these lines are finished and these words are on the current
one. -/
structure Joined (maxl : ℕ) (finished : List (List CStr)) (cur : List CStr) (s : JoinState) :
    Prop where
  out : s.out = [LF].intercalate ((finished ++ [cur]).map lineText)
  linesz : s.linesz = (lineText cur).length
  lineavail : s.lineavail + finished.length = maxl
  pos : 0 < s.lineavail
  words : 0 < (lineText cur).length

section Loop

variable {maxc maxl : ℕ} {finished : List (List CStr)} {cur : List CStr} {s : JoinState}
  {token : CStr}

theorem lineText_concat (hcur : cur ≠ []) (token : CStr) :
    lineText (cur ++ [token]) = lineText cur ++ SP :: token :=
  intercalate_concat [SP] hcur token

theorem Joined.cur_ne_nil (h : Joined maxl finished cur s) : cur ≠ [] := by
  rintro rfl
  exact Nat.lt_irrefl 0 h.words

theorem joinToken_of_lt (h : maxc < token.length) : ∃ e, joinToken maxc maxl s token = .error e :=
  ⟨_, if_pos h⟩

/-- There is space for the token on the line. -/
theorem Joined.extend (h : Joined maxl finished cur s) (htoken : token.length ≤ maxc)
    (hfits : FitsLine maxc (cur ++ [token])) :
    ∃ s', joinToken maxc maxl s token = .ok s' ∧ Joined maxl finished (cur ++ [token]) s' := by
  have hlinesz : 0 < s.linesz := by
    rw [h.linesz]
    exact h.words
  have htext := lineText_concat h.cur_ne_nil token
  have hlen : (lineText (cur ++ [token])).length = s.linesz + (token.length + 1) := by
    rw [htext, List.length_append, List.length_cons, h.linesz]
  rw [FitsLine, hlen] at hfits
  refine ⟨putToken s token, ?_, ?_⟩
  · rw [joinToken, if_neg (by omega)]
    dsimp only
    rw [if_pos hlinesz, if_neg (by omega)]
  · have hput : putToken s token =
        { s with out := s.out ++ SP :: token, linesz := s.linesz + (token.length + 1) } := by
      simp [putToken, hlinesz]
    rw [hput]
    refine ⟨?_, hlen.symm, h.lineavail, h.pos, by omega⟩
    dsimp only
    rw [h.out, List.map_append, List.map_append, List.map_singleton, List.map_singleton, htext,
      intercalate_concat_append]

/-- There is no space for the token on the line. -/
theorem Joined.start (h : Joined maxl finished cur s) (htoken : token.length ≤ maxc)
    (hpos : token ≠ []) (hfits : ¬ FitsLine maxc (cur ++ [token])) :
    (finished.length + 1 < maxl ∧
      ∃ s', joinToken maxc maxl s token = .ok s' ∧ Joined maxl (finished ++ [cur]) [token] s') ∨
    (maxl ≤ finished.length + 1 ∧ ∃ e, joinToken maxc maxl s token = .error e) := by
  have hlinesz : 0 < s.linesz := by
    rw [h.linesz]
    exact h.words
  have hlen : (lineText (cur ++ [token])).length = s.linesz + (token.length + 1) := by
    rw [lineText_concat h.cur_ne_nil token, List.length_append, List.length_cons, h.linesz]
  rw [FitsLine, hlen] at hfits
  have hlines := h.lineavail
  rw [joinToken, if_neg (by omega)]
  dsimp only
  rw [if_pos hlinesz, if_pos (by omega)]
  -- the line is counted before the token is written on it
  by_cases hlast : s.lineavail - 1 = 0
  · right
    exact ⟨by omega, _, if_pos hlast⟩
  · left
    rw [if_neg hlast]
    refine ⟨by omega, _, rfl, ?_, ?_, ?_, ?_, ?_⟩
    · have hne : (finished ++ [cur]).map lineText ≠ [] := by simp
      rw [List.map_append, List.map_singleton, intercalate_concat [LF] hne, ← h.out]
      simp [putToken, lineText]
    · simp [putToken, lineText]
    · simp only [putToken, List.length_append, List.length_singleton]
      omega
    · simp only [putToken]
      omega
    · simpa [lineText] using List.length_pos_of_ne_nil hpos

/-- The rest of the loop goes on with the greedy segments. -/
theorem Joined.foldlM (h : Joined maxl finished cur s) {l : List CStr}
    (hl : ∀ t ∈ l, IsWord t ∧ t.length ≤ maxc) :
    (finished.length + (greedy (FitsLine maxc) cur l).length ≤ maxl ∧
      ∃ s', l.foldlM (joinToken maxc maxl) s = .ok s' ∧
        s'.out = [LF].intercalate ((finished ++ greedy (FitsLine maxc) cur l).map lineText)) ∨
    (maxl < finished.length + (greedy (FitsLine maxc) cur l).length ∧
      ∃ e, l.foldlM (joinToken maxc maxl) s = .error e) := by
  -- on the tokens; each round keeps the invariant, with the token on this line or on the next one
  induction l generalizing finished cur s with
  | nil =>
    left
    have hlines := h.lineavail
    have hpos := h.pos
    exact ⟨by rw [greedy, List.length_singleton]; omega, s, rfl, h.out⟩
  | cons token l ih =>
    obtain ⟨⟨hword, htoken⟩, hrest⟩ := List.forall_mem_cons.1 hl
    rw [List.foldlM_cons]
    by_cases hfits : FitsLine maxc (cur ++ [token])
    · obtain ⟨s', hs', hjoined⟩ := h.extend htoken hfits
      rw [greedy_extend hfits, hs', ok_bind]
      exact ih hjoined hrest
    · rw [greedy_start hfits, List.length_cons]
      rcases h.start htoken hword.1 hfits with ⟨-, s', hs', hjoined⟩ | ⟨hfull, e, he⟩
      · have hstep := ih hjoined hrest
        rw [List.length_append, List.length_singleton, List.append_assoc,
          List.singleton_append, Nat.add_assoc, Nat.add_comm 1] at hstep
        rw [hs', ok_bind]
        exact hstep
      · right
        have hne := List.length_pos_of_ne_nil
          (@greedy_ne_nil _ (FitsLine maxc) [token] l _)
        exact ⟨by omega, e, by rw [he]; rfl⟩

/-- A token that is too long is an error, wherever it stands. -/
theorem exists_foldlM_error {l : List CStr} (h : ∃ t ∈ l, maxc < t.length) (s : JoinState) :
    ∃ e, l.foldlM (joinToken maxc maxl) s = .error e := by
  induction l generalizing s with
  | nil =>
    obtain ⟨t, ht, -⟩ := h
    cases ht
  | cons token l ih =>
    rw [List.foldlM_cons]
    cases hs : joinToken maxc maxl s token with
    | error e => exact ⟨e, rfl⟩
    | ok s' =>
      apply ih
      obtain ⟨t, ht, hlen⟩ := h
      rcases List.mem_cons.1 ht with rfl | ht
      · obtain ⟨e, he⟩ := @joinToken_of_lt maxc maxl s _ hlen
        cases he.symm.trans hs
      · exact ⟨t, ht, hlen⟩

end Loop

/-! ## The lines -/

/-- The lines hold the tokens in their order, with single spaces between those of a line. -/
def Wraps (tokens lines : List CStr) : Prop :=
  ∃ groups : List (List CStr), groups.flatten = tokens ∧ (∀ g ∈ groups, g ≠ []) ∧
    lines = groups.map lineText

/-- The lines that `join` makes. -/
def greedyLines (maxc : ℕ) : List CStr → List (List CStr)
  | [] => []
  | token :: list => greedy (FitsLine maxc) [token] list

section Lines

variable {maxc maxl : ℕ} {list : List CStr}

theorem cuts_greedyLines (h : ∀ t ∈ list, t.length ≤ maxc) :
    Cuts (FitsLine maxc) list (greedyLines maxc list) := by
  cases list with
  | nil => exact ⟨rfl, nofun⟩
  | cons token list =>
    obtain ⟨htoken, hrest⟩ := List.forall_mem_cons.1 h
    have hsingle : ∀ t : CStr, t.length ≤ maxc → FitsLine maxc [t] := by
      intro t ht
      simpa [FitsLine, lineText] using ht
    exact cuts_greedy (hsingle token htoken) fun t ht => hsingle t (hrest t ht)

theorem ne_nil_of_mem_greedyLines : ∀ g ∈ greedyLines maxc list, g ≠ [] := by
  cases list with
  | nil => nofun
  | cons token list => exact ne_nil_of_mem_greedy (List.cons_ne_nil token [])

/-- Nothing has fewer lines. -/
theorem length_greedyLines_le {groups : List (List CStr)}
    (h : Cuts (FitsLine maxc) list groups) : (greedyLines maxc list).length ≤ groups.length := by
  cases list with
  | nil => exact Nat.zero_le _
  | cons token list =>
    exact length_greedy_le (fun _ _ h hsub => h.of_sublist hsub.sublist)
      (fun _ _ h hsub => h.of_sublist hsub.sublist) (List.cons_ne_nil token []) h

/-- `join` makes the greedy lines, if there are not too many. -/
theorem join_eq (hwords : ∀ t ∈ list, IsWord t ∧ t.length ≤ maxc) (hmaxl : 1 ≤ maxl) :
    ((greedyLines maxc list).length ≤ maxl ∧
      join maxc maxl list = .ok ([LF].intercalate ((greedyLines maxc list).map lineText))) ∨
    (maxl < (greedyLines maxc list).length ∧ ∃ e, join maxc maxl list = .error e) := by
  cases list with
  | nil => exact .inl ⟨Nat.zero_le _, rfl⟩
  | cons token list =>
    obtain ⟨⟨hword, htoken⟩, hrest⟩ := List.forall_mem_cons.1 hwords
    -- the first token is written without a separator, so the loop starts behind it
    let first : JoinState := { out := token, linesz := token.length, lineavail := maxl }
    have hfirst : joinToken maxc maxl { out := [], linesz := 0, lineavail := maxl } token =
        .ok first := by
      rw [joinToken, if_neg (by omega)]
      simp [putToken, first, htoken]
    have hjoined : Joined maxl [] [token] first := by
      refine ⟨?_, ?_, rfl, hmaxl, ?_⟩
      · simp [first, lineText]
      · simp [first, lineText]
      · simpa [lineText] using List.length_pos_of_ne_nil hword.1
    have hloop := hjoined.foldlM hrest
    rw [List.length_nil, Nat.zero_add, List.nil_append] at hloop
    rw [join, List.foldlM_cons, hfirst, ok_bind]
    rcases hloop with ⟨hlen, s', hs', hout⟩ | ⟨hlen, e, he⟩
    · left
      refine ⟨hlen, ?_⟩
      rw [hs', ok_bind, hout]
      rfl
    · right
      exact ⟨hlen, e, by rw [he]; rfl⟩

/-- The words of lines are on lines again. -/
theorem tokens_intercalate {lines : List CStr} (h : ∀ l ∈ lines, l ≠ [] ∧ LF ∉ l) :
    tokens LF ([LF].intercalate lines) = lines := by
  cases lines with
  | nil => decide
  | cons l lines =>
    rw [tokens, List.splitOn_intercalate LF (fun l hl => (h l hl).2) (List.cons_ne_nil _ _),
      List.filter_eq_self]
    intro l hl
    simpa using (h l hl).1

theorem lineText_ne_nil {words : List CStr} (hne : words ≠ []) (h : ∀ w ∈ words, IsWord w) :
    lineText words ≠ [] ∧ LF ∉ lineText words := by
  induction words with
  | nil => exact absurd rfl hne
  | cons w words ih =>
    obtain ⟨hw, hwords⟩ := List.forall_mem_cons.1 h
    have hLF : LF ∉ w := fun hb => (hw.2 LF hb).2.2 rfl
    cases words with
    | nil => simpa [lineText] using ⟨hw.1, hLF⟩
    | cons v words =>
      have hrest := ih (List.cons_ne_nil v words) hwords
      have hcons : lineText (w :: v :: words) = w ++ [SP] ++ lineText (v :: words) :=
        List.intercalate_cons_cons
      have hSP : LF ≠ SP := by decide
      rw [hcons]
      exact ⟨by simp [hw.1], by simp [hLF, hrest.2, hSP]⟩

/-- What `join` and the split give when the greedy lines are not too many. -/
theorem cutTokens_eq (hwords : ∀ t ∈ list, IsWord t ∧ t.length ≤ maxc) (hmaxl : 1 ≤ maxl) :
    ((greedyLines maxc list).length ≤ maxl ∧
      cutTokens maxc maxl list = .ok ((greedyLines maxc list).map lineText)) ∨
    (maxl < (greedyLines maxc list).length ∧ ∃ e, cutTokens maxc maxl list = .error e) := by
  rcases join_eq hwords hmaxl with ⟨hlen, hjoin⟩ | ⟨hlen, e, he⟩
  · left
    refine ⟨hlen, ?_⟩
    have hlines : ∀ l ∈ (greedyLines maxc list).map lineText, l ≠ [] ∧ LF ∉ l := by
      intro l hl
      obtain ⟨g, hg, rfl⟩ := List.mem_map.1 hl
      refine lineText_ne_nil (ne_nil_of_mem_greedyLines g hg) fun w hw => (hwords w ?_).1
      rw [← (cuts_greedyLines fun t ht => (hwords t ht).2).flatten]
      exact List.mem_flatten_of_mem hg hw
    rw [cutTokens, hjoin, ok_bind, tokens_intercalate hlines]
    rfl
  · right
    exact ⟨hlen, e, by rw [cutTokens, he]; rfl⟩

/-- Lines that hold the tokens, none of which is too long, are segments that fit. -/
theorem Wraps.exists_cuts {lines : List CStr} (h : Wraps list lines)
    (hmaxc : ∀ l ∈ lines, l.length ≤ maxc) :
    ∃ groups, Cuts (FitsLine maxc) list groups ∧ lines.length = groups.length := by
  obtain ⟨groups, hflatten, -, rfl⟩ := h
  refine ⟨groups, ⟨hflatten, fun g hg => ?_⟩, List.length_map _⟩
  exact hmaxc _ (List.mem_map_of_mem hg)

theorem wraps_greedyLines (h : ∀ t ∈ list, t.length ≤ maxc) :
    Wraps list ((greedyLines maxc list).map lineText) :=
  ⟨greedyLines maxc list, (cuts_greedyLines h).flatten, ne_nil_of_mem_greedyLines, rfl⟩

/-- There are no fewer lines that hold the tokens than the greedy ones. -/
theorem Wraps.length_greedyLines_le {lines : List CStr} (h : Wraps list lines)
    (hmaxc : ∀ l ∈ lines, l.length ≤ maxc) : (greedyLines maxc list).length ≤ lines.length := by
  obtain ⟨groups, hcuts, hlen⟩ := h.exists_cuts hmaxc
  rw [hlen]
  exact JsUtil.length_greedyLines_le hcuts

theorem length_le_of_mem_greedyLines (h : ∀ t ∈ list, t.length ≤ maxc) :
    ∀ l ∈ (greedyLines maxc list).map lineText, l.length ≤ maxc := by
  intro l hl
  obtain ⟨g, hg, rfl⟩ := List.mem_map.1 hl
  exact (cuts_greedyLines h).fits g hg

/-- A token that is too long is an error. -/
theorem exists_cutTokens_error (h : ∃ t ∈ list, maxc < t.length) :
    ∃ e, cutTokens maxc maxl list = .error e := by
  obtain ⟨e, he⟩ :=
    @exists_foldlM_error maxc maxl list h { out := [], linesz := 0, lineavail := maxl }
  exact ⟨e, by rw [cutTokens, join, he]; rfl⟩

/-- The lines are as few as possible, and none of them is too long. -/
theorem wraps_of_cutTokens (hwords : ∀ t ∈ list, IsWord t) (hmaxl : 1 ≤ maxl) {lines : List CStr}
    (hok : cutTokens maxc maxl list = .ok lines) :
    Wraps list lines ∧ (∀ l ∈ lines, l.length ≤ maxc) ∧ lines.length ≤ maxl ∧
      ∀ lines', Wraps list lines' → (∀ l ∈ lines', l.length ≤ maxc) →
        lines.length ≤ lines'.length := by
  have hshort : ∀ t ∈ list, t.length ≤ maxc := by
    intro t ht
    by_contra hlong
    obtain ⟨e, he⟩ := @exists_cutTokens_error maxc maxl list ⟨t, ht, Nat.lt_of_not_le hlong⟩
    cases he.symm.trans hok
  rcases cutTokens_eq (fun t ht => ⟨hwords t ht, hshort t ht⟩) hmaxl with
    ⟨hlen, hgreedy⟩ | ⟨-, e, he⟩
  · obtain rfl := Except.ok.inj (hgreedy.symm.trans hok)
    rw [List.length_map]
    exact ⟨wraps_greedyLines hshort, length_le_of_mem_greedyLines hshort, hlen,
      fun lines' hwraps hmaxc => hwraps.length_greedyLines_le hmaxc⟩
  · cases he.symm.trans hok

/-- The lines are as few as possible, none of them is too long, and there is an error exactly when a
token is too long or all lines that hold the tokens are too many. -/
theorem cutTokens_optimal (hwords : ∀ t ∈ list, IsWord t) (hmaxl : 1 ≤ maxl) :
    (∀ lines, cutTokens maxc maxl list = .ok lines →
      Wraps list lines ∧ (∀ l ∈ lines, l.length ≤ maxc) ∧ lines.length ≤ maxl ∧
        ∀ lines', Wraps list lines' → (∀ l ∈ lines', l.length ≤ maxc) →
          lines.length ≤ lines'.length) ∧
    ((∃ e, cutTokens maxc maxl list = .error e) ↔
      (∃ t ∈ list, maxc < t.length) ∨
        ∀ lines', Wraps list lines' → (∀ l ∈ lines', l.length ≤ maxc) → maxl < lines'.length) := by
  refine ⟨fun lines hok => wraps_of_cutTokens hwords hmaxl hok, ?_⟩
  by_cases hlong : ∃ t ∈ list, maxc < t.length
  · exact iff_of_true (exists_cutTokens_error hlong) (.inl hlong)
  · have hshort : ∀ t ∈ list, t.length ≤ maxc := by
      intro t ht
      by_contra hlt
      exact hlong ⟨t, ht, by omega⟩
    rcases cutTokens_eq (fun t ht => ⟨hwords t ht, hshort t ht⟩) hmaxl with
      ⟨hlen, hok⟩ | ⟨hlen, e, he⟩
    · rw [hok]
      refine iff_of_false nofun ?_
      rintro (htoo | hmany)
      · exact hlong htoo
      · have hlt := hmany _ (wraps_greedyLines hshort) (length_le_of_mem_greedyLines hshort)
        rw [List.length_map] at hlt
        omega
    · rw [he]
      refine iff_of_true ⟨e, rfl⟩ (.inr fun lines' hwraps hmaxc => ?_)
      exact Nat.lt_of_lt_of_le hlen (hwraps.length_greedyLines_le hmaxc)

end Lines

/-- Two lines of at most eleven bytes, and a third token that would need another line. -/
theorem cutTokens_optimal_hello :
    cutTokens 11 2 [cstr "hello", cstr "world", cstr "irccd"] =
        .ok [cstr "hello world", cstr "irccd"] ∧
      ∀ lines', Wraps [cstr "hello", cstr "world", cstr "irccd"] lines' →
        (∀ l ∈ lines', l.length ≤ 11) → 2 ≤ lines'.length := by
  have hwords : ∀ t ∈ [cstr "hello", cstr "world", cstr "irccd"], IsWord t := by
    simp only [List.forall_mem_cons]
    exact ⟨by decide, by decide, by decide, nofun⟩
  have hcut : cutTokens 11 2 [cstr "hello", cstr "world", cstr "irccd"] =
      .ok [cstr "hello world", cstr "irccd"] := by decide
  exact ⟨hcut, ((cutTokens_optimal hwords (by decide)).1 _ hcut).2.2.2⟩

/-- The lines that `Util_cut` returns hold the words of its data, none is longer than the limit, and
they are as few as possible and no more than the other limit. -/
theorem utilCut_optimal {data : CutData} {maxc maxl : Option ℤ} {lines : List CStr}
    (h : utilCut data maxc maxl = .ok lines) :
    ∃ c, limit 1 (cstr "maxc") maxc 72 = .ok c ∧
      ∃ l, limit 2 (cstr "maxl") maxl (2 ^ 64 - 1) = .ok l ∧
        Wraps (split data) lines ∧ (∀ line ∈ lines, line.length ≤ c) ∧ lines.length ≤ l ∧
        ∀ lines', Wraps (split data) lines' → (∀ line ∈ lines', line.length ≤ c) →
          lines.length ≤ lines'.length := by
  obtain ⟨c, hc, l, hl, hcut⟩ := utilCut_eq_ok_iff.1 h
  exact ⟨c, hc, l, hl, wraps_of_cutTokens isWord_of_mem_split (limit_pos (by decide) hl) hcut⟩

end Irccd.JsUtil
