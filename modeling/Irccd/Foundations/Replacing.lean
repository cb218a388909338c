import Mathlib.Data.List.Infix

/-!
# Replacing words in texts

A text is decoded by replacing the words of a table one after the other, each wherever it occurs.
Some characters were escaped before, each by a word of the table. Every word begins with a marker,
which occurs nowhere else in it.

The module introduces:

* `split`, `replaceAll`: a text is cut at each occurrence of a word, and joined by another word;
* `Token`, `render`: a text in which some characters are escaped;
* `search_induction`: induction on a text as it is searched for a word;
* `replaceAll_render`: a word is replaced in the literal characters, or is an escape;
* `decode`, `Resolves`: a table that decodes all escapes, and shortens what it replaces;
* `decode_render_iff`: a text is decoded to itself if and only if no word of the table that comes
  after the escape of the marker occurs in it.
-/

namespace Replacing

variable {α : Type*}

/-! ## Replacement -/

section Replacement

variable [DecidableEq α]

/-- The parts of a text between the occurrences of a separator, after some characters that belong to
the last of them. -/
def split (sep : List α) : ℕ → List α → List (List α)
  | _, [] => [[]]
  | skip + 1, _ :: s => split sep skip s
  | 0, c :: s =>
    if sep.isPrefixOf (c :: s) then [] :: split sep (sep.length - 1) s
    else (split sep 0 s).modifyHead (c :: ·)

/-- Every occurrence of `search` is replaced, from the first one. -/
def replaceAll (s search replace : List α) : List α := List.intercalate replace (split search 0 s)

variable {s t search replace : List α} {c : α}

theorem split_ne_nil (sep : List α) (skip : ℕ) (s : List α) : split sep skip s ≠ [] := by
  induction s generalizing skip with
  | nil => simp [split]
  | cons c s ih =>
    cases skip with
    | succ skip => exact ih skip
    | zero =>
      rw [split]
      split
      · simp
      · simpa [List.modifyHead_eq_nil_iff] using ih 0

theorem split_skip (sep s : List α) (skip : ℕ) : split sep skip s = split sep 0 (s.drop skip) := by
  induction s generalizing skip with
  | nil => simp [split]
  | cons c s ih =>
    cases skip with
    | zero => rfl
    | succ skip => rw [split, ih, List.drop_succ_cons]

@[simp] theorem replaceAll_nil : replaceAll [] search replace = [] := rfl

/-- An occurrence at the beginning. -/
theorem replaceAll_append (hsearch : search ≠ []) :
    replaceAll (search ++ s) search replace = replace ++ replaceAll s search replace := by
  obtain ⟨c, search, rfl⟩ := List.exists_cons_of_ne_nil hsearch
  have hbegins : (c :: search).isPrefixOf (c :: search ++ s) = true :=
    List.isPrefixOf_iff_prefix.2 (List.prefix_append _ _)
  rw [replaceAll, replaceAll, List.cons_append, split, ← List.cons_append,
    if_pos hbegins, split_skip,
    List.length_cons, Nat.add_sub_cancel, List.drop_left]
  obtain ⟨part, parts, hsplit⟩ := List.exists_cons_of_ne_nil (split_ne_nil (c :: search) 0 s)
  rw [hsplit]
  simp [List.intercalate]

/-- No occurrence at the beginning. -/
theorem replaceAll_cons (hsearch : ¬ search <+: c :: s) :
    replaceAll (c :: s) search replace = c :: replaceAll s search replace := by
  rw [replaceAll, replaceAll, split, if_neg (by rwa [List.isPrefixOf_iff_prefix])]
  obtain ⟨part, parts, hsplit⟩ := List.exists_cons_of_ne_nil (split_ne_nil search 0 s)
  rw [hsplit]
  cases parts <;> simp [List.intercalate]

theorem replaceAll_of_not_occurs (hsearch : ¬ search <:+: s) : replaceAll s search replace = s := by
  induction s with
  | nil => rfl
  | cons c s ih =>
    rw [replaceAll_cons fun hbegins => hsearch hbegins.isInfix,
      ih fun hoccurs => hsearch (hoccurs.trans (List.suffix_cons c s).isInfix)]

/-- Induction on a text as it is searched: the word is at its beginning, and is skipped, or a
character is. -/
theorem search_induction {motive : List α → Prop} (hsearch : search ≠ []) (nil : motive [])
    (found : ∀ s, motive s → motive (search ++ s))
    (cons : ∀ c s, ¬ search <+: c :: s → motive s → motive (c :: s)) (s : List α) : motive s := by
  induction hn : s.length using Nat.strong_induction_on generalizing s with
  | _ n ih =>
    subst hn
    by_cases hbegins : search <+: s
    · obtain ⟨rest, rfl⟩ := hbegins
      have hpos := List.length_pos_of_ne_nil hsearch
      exact found rest (ih rest.length (by rw [List.length_append]; omega) rest rfl)
    · cases s with
      | nil => exact nil
      | cons c s => exact cons c s hbegins (ih s.length (Nat.lt_succ_self _) s rfl)

/-- A shorter word makes the text shorter, where there is an occurrence. -/
theorem length_replaceAll (hshort : replace.length < search.length) (s : List α) :
    (replaceAll s search replace).length ≤ s.length ∧
      (search <:+: s → (replaceAll s search replace).length < s.length) := by
  have hsearch : search ≠ [] := by
    rintro rfl
    exact absurd hshort (Nat.not_lt_zero _)
  induction s using search_induction hsearch with
  | nil => exact ⟨le_rfl, fun hoccurs => absurd (List.infix_nil.1 hoccurs) hsearch⟩
  | found s ih =>
    have hle := ih.1
    rw [replaceAll_append hsearch, List.length_append, List.length_append]
    exact ⟨by omega, fun _ => by omega⟩
  | cons c s hbegins ih =>
    obtain ⟨hle, hlt⟩ := ih
    rw [replaceAll_cons hbegins, List.length_cons, List.length_cons]
    refine ⟨by omega, fun hoccurs => ?_⟩
    have := hlt ((List.infix_cons_iff.1 hoccurs).resolve_left hbegins)
    omega

theorem mem_replaceAll (hsearch : search ≠ []) (h : c ∈ replaceAll s search replace) :
    c ∈ s ∨ c ∈ replace := by
  induction s using search_induction hsearch with
  | nil => exact .inl h
  | found s ih =>
    rw [replaceAll_append hsearch, List.mem_append] at h
    rcases h with h | h
    · exact .inr h
    · exact (ih h).imp_left (List.mem_append_right _)
  | cons d s hbegins ih =>
    rw [replaceAll_cons hbegins, List.mem_cons] at h
    rcases h with rfl | h
    · exact .inl List.mem_cons_self
    · exact (ih h).imp_left (List.mem_cons_of_mem _)

/-- Where the word cannot begin, nothing is replaced. -/
theorem replaceAll_append_of_notMem {m : α} {search : List α} (hm : m ∉ t) (s : List α) :
    replaceAll (t ++ s) (m :: search) replace = t ++ replaceAll s (m :: search) replace := by
  induction t with
  | nil => rfl
  | cons c t ih =>
    rw [List.mem_cons, not_or] at hm
    obtain ⟨hc, ht⟩ := hm
    rw [List.cons_append, replaceAll_cons, ih ht, List.cons_append]
    rintro ⟨rest, hrest⟩
    exact hc (List.cons.inj hrest).1

end Replacement

/-! ## Texts with escapes -/

/-- A character of a text, or an escaped one. -/
inductive Token (α : Type*)
  | lit (c : α)
  | esc (c : α)
  deriving DecidableEq

namespace Token

/-- The character. -/
def val : Token α → α
  | lit c => c
  | esc c => c

end Token

variable (escape : α → List α)

/-- The text of a token. -/
def renderToken : Token α → List α
  | .lit c => [c]
  | .esc c => escape c

/-- The text of some tokens. -/
def render (ts : List (Token α)) : List α := ts.flatMap (renderToken escape)

variable {escape} {m : α} {c : α} {s t search replace word value body : List α}
  {ts : List (Token α)}

@[simp] theorem render_nil : render escape ([] : List (Token α)) = [] := rfl

@[simp] theorem render_cons (token : Token α) (ts : List (Token α)) :
    render escape (token :: ts) = renderToken escape token ++ render escape ts := rfl

theorem render_append (ts us : List (Token α)) :
    render escape (ts ++ us) = render escape ts ++ render escape us := List.flatMap_append

theorem render_map_lit (s : List α) : render escape (s.map .lit) = s := by
  induction s with
  | nil => rfl
  | cons c s ih => rw [List.map_cons, render_cons, ih]; rfl

/-- Each escape begins with the marker, which is not again in it. -/
def Marked (escape : α → List α) (m : α) : Prop := ∀ c, ∃ name, escape c = m :: name ∧ m ∉ name

/-- A word without the marker that begins a text is made of literal characters. -/
theorem map_lit_prefix_of_prefix_render (hescape : Marked escape m) (hm : m ∉ body)
    (h : body <+: render escape ts) : body.map .lit <+: ts := by
  induction body generalizing ts with
  | nil => exact List.nil_prefix
  | cons c body ih =>
    rw [List.mem_cons, not_or] at hm
    obtain ⟨hc, hbody⟩ := hm
    cases ts with
    | nil => exact absurd (List.prefix_nil.1 h) (List.cons_ne_nil _ _)
    | cons token ts =>
      cases token with
      | lit d =>
        obtain ⟨rfl, hrest⟩ := List.cons_prefix_cons.1 h
        exact List.cons_prefix_cons.2 ⟨rfl, ih hbody hrest⟩
      | esc d =>
        obtain ⟨name, hname, -⟩ := hescape d
        rw [render_cons, renderToken, hname] at h
        exact absurd (List.cons_prefix_cons.1 h).1.symm hc

section Tokens

variable [DecidableEq α]

/-- A character, escaped if it is one of `special`. -/
def escaped (special : List α) (c : α) : Token α := if c ∈ special then .esc c else .lit c

variable (escape) in
/-- An escape that is replaced is the character. -/
def settle (word : List α) : Token α → Token α
  | .lit c => .lit c
  | .esc c => if escape c = word then .lit c else .esc c

variable (escape) in
/-- What a replacement does to the tokens: the word is replaced where it is literal, and the escape
that it is. -/
def replaceTokens (ts : List (Token α)) (word value : List α) : List (Token α) :=
  (replaceAll ts (word.map .lit) (value.map .lit)).map (settle escape word)

theorem map_settle_lit (word s : List α) :
    (s.map Token.lit).map (settle escape word) = s.map .lit := by
  rw [List.map_map]
  rfl

/-- A word at an escape: it is the word, or the word occurs neither at the escape nor in it. -/
theorem replaceAll_escape_append (hescape : Marked escape m) (hword : word = m :: body)
    (hresolves : escape c = word ∧ value = [c] ∨ ¬ word <+: escape c ∧ ¬ escape c <+: word) :
    replaceAll (escape c ++ s) word value =
      renderToken escape (settle escape word (.esc c)) ++ replaceAll s word value := by
  rw [settle]
  rcases hresolves with ⟨hescaped, rfl⟩ | ⟨hword', hescape'⟩
  · rw [if_pos hescaped, hescaped, replaceAll_append (by rw [hword]; exact List.cons_ne_nil _ _),
      renderToken]
  · obtain ⟨name, hname, hm⟩ := hescape c
    have hnot : ¬ word <+: m :: (name ++ s) := by
      rw [← List.cons_append, ← hname]
      intro hbegins
      rcases List.prefix_or_prefix_of_prefix hbegins (List.prefix_append _ _) with h | h
      · exact hword' h
      · exact hescape' h
    rw [if_neg fun heq => hword' (by rw [heq]), renderToken, hname, List.cons_append,
      replaceAll_cons hnot]
    rw [hword, replaceAll_append_of_notMem hm, List.cons_append]

/-- A word that is replaced in a text is replaced where it is literal, or is an escape. -/
theorem replaceAll_render (hescape : Marked escape m) (hword : word = m :: body) (hm : m ∉ body)
    (hresolves : ∀ c, .esc c ∈ ts →
      escape c = word ∧ value = [c] ∨ ¬ word <+: escape c ∧ ¬ escape c <+: word) :
    replaceAll (render escape ts) word value =
      render escape (replaceTokens escape ts word value) := by
  have hne : word ≠ [] := by rw [hword]; exact List.cons_ne_nil _ _
  have hnelit : word.map Token.lit ≠ [] := by simpa using hne
  -- the word is searched among the tokens as it is in their text
  induction ts using search_induction hnelit with
  | nil => rfl
  | found ts ih =>
    have ih := ih fun c hc => hresolves c (List.mem_append_right _ hc)
    rw [replaceTokens] at ih
    rw [replaceTokens, render_append, render_map_lit, replaceAll_append hne, ih,
      replaceAll_append hnelit, List.map_append, render_append, map_settle_lit, render_map_lit]
  | cons token ts hhead ih =>
    have ih := ih fun c hc => hresolves c (List.mem_cons_of_mem _ hc)
    rw [replaceTokens] at ih
    rw [replaceTokens, replaceAll_cons hhead, List.map_cons, render_cons, render_cons, ← ih]
    cases token with
    | esc c => exact replaceAll_escape_append hescape hword (hresolves c List.mem_cons_self)
    | lit c =>
      have hnot : ¬ word <+: c :: render escape ts := by
        intro hbegins
        rw [hword] at hbegins hhead
        obtain ⟨rfl, hbody⟩ := List.cons_prefix_cons.1 hbegins
        exact hhead (List.cons_prefix_cons.2
          ⟨rfl, map_lit_prefix_of_prefix_render hescape hm hbody⟩)
      exact replaceAll_cons hnot

/-! ## Tables -/

/-- The words of a table are replaced one after the other. -/
def decode (table : List (List α × List α)) (s : List α) : List α :=
  table.foldl (fun s entry => replaceAll s entry.1 entry.2) s

/-- Is a word the escape of a character, or neither the beginning of the other? -/
def isApart (escape : α → List α) (word value : List α) (c : α) : Bool :=
  escape c == word && value == [c] || !word.isPrefixOf (escape c) && !(escape c).isPrefixOf word

/-- Is an entry a word that begins with the marker, without another special character, and a shorter
value? -/
def isEntry (special : List α) (m : α) (entry : List α × List α) : Bool :=
  entry.1.head? == some m && entry.1.tail.all (!special.contains ·) &&
    decide (entry.2.length < entry.1.length)

/-- The escapes that are left after a word was replaced. -/
def unresolved (escape : α → List α) (rest word : List α) : List α :=
  rest.filter (escape · ≠ word)

/-- Does the table decode all escapes that are left? -/
def resolves (escape : α → List α) (special : List α) (m : α) :
    List α → List (List α × List α) → Bool
  | rest, [] => rest.isEmpty
  | rest, entry :: table =>
    isEntry special m entry && rest.all (isApart escape entry.1 entry.2) &&
      resolves escape special m (unresolved escape rest entry.1) table

/-- The escapes that are left behind a part of the table, if it can be one of such a table. -/
def leftBehind (escape : α → List α) (special : List α) (m : α) :
    List α → List (List α × List α) → Option (List α)
  | rest, [] => some rest
  | rest, entry :: table =>
    if isEntry special m entry && rest.all (isApart escape entry.1 entry.2) then
      leftBehind escape special m (unresolved escape rest entry.1) table
    else none

section Tables

variable {special rest : List α} {entry : List α × List α} {table table' : List (List α × List α)}

theorem isEntry_iff : isEntry special m entry = true ↔
    (∃ body, entry.1 = m :: body ∧ ∀ c ∈ body, c ∉ special) ∧ entry.2.length < entry.1.length := by
  obtain ⟨word, value⟩ := entry
  cases word with
  | nil => simp [isEntry]
  | cons c word => simp [isEntry, and_assoc]

theorem isApart_iff : isApart escape word value c = true ↔
    escape c = word ∧ value = [c] ∨ ¬ word <+: escape c ∧ ¬ escape c <+: word := by
  simp [isApart, ← List.isPrefixOf_iff_prefix]

theorem resolves_cons_iff : resolves escape special m rest (entry :: table) = true ↔
    isEntry special m entry = true ∧ (∀ c ∈ rest, isApart escape entry.1 entry.2 c = true) ∧
      resolves escape special m (unresolved escape rest entry.1) table = true := by
  rw [resolves, Bool.and_eq_true, Bool.and_eq_true, List.all_eq_true, and_assoc]

/-- A table is checked part by part. -/
theorem resolves_append {rest' : List α}
    (h : leftBehind escape special m rest table = some rest') :
    resolves escape special m rest (table ++ table') = resolves escape special m rest' table' := by
  induction table generalizing rest with
  | nil =>
    obtain rfl := Option.some.inj h
    rfl
  | cons entry table ih =>
    rw [leftBehind] at h
    split at h
    · next hentry => rw [List.cons_append, resolves, hentry, Bool.true_and, ih h]
    · cases h

/-- One replacement, in the tokens. -/
theorem decode_cons_render (hescape : Marked escape m) (hm : m ∈ special)
    (hentry : isEntry special m entry = true)
    (happart : ∀ c, .esc c ∈ ts → isApart escape entry.1 entry.2 c = true) :
    decode (entry :: table) (render escape ts) =
      decode table (render escape (replaceTokens escape ts entry.1 entry.2)) := by
  obtain ⟨⟨body, hword, hbody⟩, -⟩ := isEntry_iff.1 hentry
  rw [decode, List.foldl_cons, replaceAll_render hescape hword (fun hmem => hbody m hmem hm)
    fun c hc => isApart_iff.1 (happart c hc)]
  rfl

theorem length_replaceTokens (hentry : isEntry special m entry = true) (ts : List (Token α)) :
    (replaceTokens escape ts entry.1 entry.2).length ≤ ts.length ∧
      (entry.1.map .lit <:+: ts →
        (replaceTokens escape ts entry.1 entry.2).length < ts.length) := by
  rw [replaceTokens, List.length_map]
  exact length_replaceAll (by simpa using (isEntry_iff.1 hentry).2) ts

/-- The escapes after a replacement are those that it does not resolve. -/
theorem mem_unresolved (hentry : isEntry special m entry = true)
    (hts : ∀ c, .esc c ∈ ts → c ∈ rest) (hc : .esc c ∈ replaceTokens escape ts entry.1 entry.2) :
    c ∈ unresolved escape rest entry.1 := by
  obtain ⟨⟨body, hword, -⟩, -⟩ := isEntry_iff.1 hentry
  obtain ⟨token, htoken, hsettle⟩ := List.mem_map.1 hc
  cases token with
  | lit d => cases hsettle
  | esc d =>
    rw [settle] at hsettle
    split at hsettle
    · cases hsettle
    · next hne =>
      obtain rfl := Token.esc.inj hsettle
      rcases mem_replaceAll (by simp [hword]) htoken with hmem | hmem
      · exact List.mem_filter.2 ⟨hts d hmem, by simpa using hne⟩
      · obtain ⟨c, -, hlit⟩ := List.mem_map.1 hmem
        cases hlit

/-- A table makes no text longer than its tokens. -/
theorem length_decode_render (hescape : Marked escape m) (hm : m ∈ special)
    (hresolves : resolves escape special m rest table = true)
    (hts : ∀ c, .esc c ∈ ts → c ∈ rest) :
    (decode table (render escape ts)).length ≤ ts.length := by
  induction table generalizing rest ts with
  | nil =>
    rw [resolves, List.isEmpty_iff] at hresolves
    subst hresolves
    refine le_of_eq ?_
    rw [decode, List.foldl_nil]
    induction ts with
    | nil => rfl
    | cons token ts ih =>
      cases token with
      | lit c =>
        rw [render_cons, List.length_append, ih fun d hd => hts d (List.mem_cons_of_mem _ hd),
          renderToken, List.length_cons, Nat.add_comm]
        rfl
      | esc c => exact absurd (hts c List.mem_cons_self) List.not_mem_nil
  | cons entry table ih =>
    obtain ⟨hentry, happart, hrest⟩ := resolves_cons_iff.1 hresolves
    rw [decode_cons_render hescape hm hentry fun c hc => happart c (hts c hc)]
    exact (ih hrest fun c hc => mem_unresolved hentry hts hc).trans
      (length_replaceTokens hentry ts).1

/-- The tokens of a text, when some escapes are left. -/
theorem map_settle_escaped (t : List α) :
    (t.map (escaped rest)).map (settle escape word) =
      t.map (escaped (unresolved escape rest word)) := by
  rw [List.map_map]
  refine List.map_congr_left fun c _ => ?_
  rw [Function.comp_apply, escaped, escaped, unresolved]
  by_cases hc : c ∈ rest
  · by_cases hword : escape c = word
    · simp [hc, hword, settle]
    · simp [hc, hword, settle]
  · simp [hc, settle]

theorem occurs_of_map_lit (h : word.map .lit <:+: t.map (escaped rest)) : word <:+: t := by
  have hval : (t.map (escaped rest)).map Token.val = t := by
    rw [List.map_map]
    refine (List.map_congr_left fun c _ => ?_).trans (List.map_id t)
    rw [Function.comp_apply, escaped]
    split <;> rfl
  have := h.map Token.val
  rwa [hval, List.map_map, show Token.val ∘ Token.lit = (id : α → α) from rfl, List.map_id] at this

theorem map_lit_of_occurs (hrest : ∀ c ∈ word, c ∉ rest) (h : word <:+: t) :
    word.map .lit <:+: t.map (escaped rest) := by
  have hword : word.map (escaped rest) = word.map .lit :=
    List.map_congr_left fun c hc => if_neg (hrest c hc)
  rw [← hword]
  exact h.map _

/-- A replacement that touches no literal character. -/
theorem replaceTokens_of_not_occurs (h : ¬ word.map .lit <:+: t.map (escaped rest)) :
    replaceTokens escape (t.map (escaped rest)) word value =
      t.map (escaped (unresolved escape rest word)) := by
  rw [replaceTokens, replaceAll_of_not_occurs h, map_settle_escaped]

theorem mem_of_esc_mem (h : .esc c ∈ t.map (escaped rest)) : c ∈ rest := by
  obtain ⟨d, -, hd⟩ := List.mem_map.1 h
  rw [escaped] at hd
  split at hd
  · next hmem => rwa [← Token.esc.inj hd]
  · cases hd

/-- Once the marker is decoded, a text is decoded to itself if and only if no word of the rest of
the table occurs in it. -/
theorem decode_render_iff_of_notMem (hescape : Marked escape m) (hm : m ∈ special)
    (hspecial : rest ⊆ special) (hmarker : m ∉ rest)
    (hresolves : resolves escape special m rest table = true) (t : List α) :
    decode table (render escape (t.map (escaped rest))) = t ↔
      ∀ entry ∈ table, ¬ entry.1 <:+: t := by
  induction table generalizing rest with
  | nil =>
    rw [resolves, List.isEmpty_iff] at hresolves
    subst hresolves
    have hlit : t.map (escaped []) = t.map .lit := List.map_congr_left fun c _ => if_neg (by simp)
    simp [decode, hlit, render_map_lit]
  | cons entry table ih =>
    obtain ⟨hentry, happart, hrest⟩ := resolves_cons_iff.1 hresolves
    have hts : ∀ c, .esc c ∈ t.map (escaped rest) → c ∈ rest := fun c => mem_of_esc_mem
    rw [decode_cons_render hescape hm hentry fun c hc => happart c (hts c hc), List.forall_mem_cons]
    by_cases hoccurs : entry.1 <:+: t
    · -- the word is replaced in the text, which gets too short
      obtain ⟨⟨body, hword, hbody⟩, -⟩ := isEntry_iff.1 hentry
      have hfree : ∀ c ∈ entry.1, c ∉ rest := by
        intro c hc
        rw [hword] at hc
        rcases List.mem_cons.1 hc with rfl | hc
        · exact hmarker
        · exact fun hmem => hbody c hc (hspecial hmem)
      have hlt : (replaceTokens escape (t.map (escaped rest)) entry.1 entry.2).length <
          (t.map (escaped rest)).length :=
        (length_replaceTokens hentry _).2 (map_lit_of_occurs hfree hoccurs)
      have hle : (decode table (render escape
          (replaceTokens escape (t.map (escaped rest)) entry.1 entry.2))).length ≤
            (replaceTokens escape (t.map (escaped rest)) entry.1 entry.2).length :=
        length_decode_render hescape hm hrest fun c hc => mem_unresolved hentry hts hc
      rw [List.length_map] at hlt
      refine ⟨fun heq => ?_, fun hnone => absurd hoccurs hnone.1⟩
      rw [heq] at hle
      omega
    · rw [replaceTokens_of_not_occurs fun h => hoccurs (occurs_of_map_lit h),
        and_iff_right hoccurs]
      exact ih (fun c hc => hspecial (List.mem_of_mem_filter hc))
        (fun hmem => hmarker (List.mem_of_mem_filter hmem)) hrest

/-- An escaped text is decoded to itself if and only if no word that comes in the table after the
escape of the marker occurs in it. -/
theorem decode_render_iff (hescape : Marked escape m) (hm : m ∈ special)
    (hspecial : rest ⊆ special) (hmarker : m ∈ rest)
    (hresolves : resolves escape special m rest (table ++ (escape m, [m]) :: table') = true)
    (hfirst : ∀ entry ∈ table, entry.1 ≠ escape m) (t : List α) :
    decode (table ++ (escape m, [m]) :: table') (render escape (t.map (escaped rest))) = t ↔
      ∀ entry ∈ table', ¬ entry.1 <:+: t := by
  -- while the marker is escaped, no word is literal
  have hnone {word : List α} {rest : List α} (hword : ∃ body, word = m :: body) (hmem : m ∈ rest) :
      ¬ word.map .lit <:+: t.map (escaped rest) := by
    obtain ⟨body, rfl⟩ := hword
    intro hoccurs
    obtain ⟨c, -, hc⟩ := List.mem_map.1 (hoccurs.subset (List.mem_cons_self))
    rw [escaped] at hc
    split at hc
    · cases hc
    · next hnot => exact hnot (Token.lit.inj hc ▸ hmem)
  induction table generalizing rest with
  | nil =>
    obtain ⟨hentry, happart, hrest⟩ := resolves_cons_iff.1 hresolves
    obtain ⟨⟨body, hword, -⟩, -⟩ := isEntry_iff.1 hentry
    rw [List.nil_append, decode_cons_render hescape hm hentry fun c hc =>
      happart c (mem_of_esc_mem hc), replaceTokens_of_not_occurs (hnone ⟨body, hword⟩ hmarker)]
    refine decode_render_iff_of_notMem hescape hm
      (fun c hc => hspecial (List.mem_of_mem_filter hc)) ?_ hrest t
    simp
  | cons entry table ih =>
    obtain ⟨hentry, happart, hrest⟩ := resolves_cons_iff.1 hresolves
    obtain ⟨⟨body, hword, -⟩, -⟩ := isEntry_iff.1 hentry
    obtain ⟨hne, hfirst⟩ := List.forall_mem_cons.1 hfirst
    rw [List.cons_append, decode_cons_render hescape hm hentry fun c hc =>
      happart c (mem_of_esc_mem hc), replaceTokens_of_not_occurs (hnone ⟨body, hword⟩ hmarker)]
    refine ih (fun c hc => hspecial (List.mem_of_mem_filter hc)) ?_ hrest hfirst
    exact List.mem_filter.2 ⟨hmarker, by simpa using fun heq => hne heq.symm⟩

end Tables

end Tokens

end Replacing
