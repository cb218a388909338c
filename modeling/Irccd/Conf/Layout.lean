import Irccd.Conf.Printing

/-!
# Tokens with blanks and comments (`conf.c`)

Between two tokens there may be blanks and comments. The lexer skips blanks behind a token or a
comment, and so it does not skip those at the very start of the text.

* `lexRun`: what the lexer yields to someone who resumes it until it stops;
* `Layout`: tokens, and the blanks and comments before, between and behind them;
* `lexTokens_layout`: the tokens of a layout;
* `lexerLaw_iff`: exactly when the lexer reads layouts back and stops as it should.
-/

namespace Irccd

/-! ## Running the lexer -/

/-- The tokens that the lexer has yielded, each with the point where it was suspended then, and what
stopped it. -/
structure LexRun where
  yields : List (LexPoint × Token CStr)
  stop : Halt

/-- Resume the lexer so many times. -/
def lexRun : ℕ → ConfText → LexPoint → LexRun
  | 0, _, _ => ⟨[], .fuel⟩
  | n + 1, c, point =>
    match confLexResume c point with
    | .push token point c =>
      let run := lexRun n c point
      { run with yields := (point, c.see token) :: run.yields }
    | .returns _ => ⟨[], .ended⟩
    | .stop why _ => ⟨[], why⟩

/-- Resume the lexer of a file until it stops. -/
def lexFile (file : List UInt8) : LexRun := lexRun (file.length + 3) (confText file) .start

/-- There is fuel enough when the lexer is resumed more often than it has tokens to push. -/
theorem lexRun_eq {n : ℕ} {c : ConfText} {point : LexPoint}
    (hn : (point.upcoming c).toks.length < n) :
    (lexRun n c point).yields.map Prod.snd = (point.upcoming c).toks ∧
      (lexRun n c point).stop = (point.upcoming c).stop := by
  induction n generalizing c point with
  | zero => exact absurd hn (Nat.not_lt_zero _)
  | succ n ih =>
    have hforetell := foretell_confLexResume point c
    rw [lexRun]
    cases hresume : confLexResume c point with
    | push token point' c' =>
      rw [hresume, Tokens.Foretell] at hforetell
      rw [hforetell, Tokens.cons, List.length_cons] at hn
      obtain ⟨hyields, hstop⟩ := ih (Nat.lt_of_succ_lt_succ hn)
      rw [hforetell]
      exact ⟨congrArg (c'.see token :: ·) hyields, hstop⟩
    | returns c' =>
      rw [hresume, Tokens.Foretell] at hforetell
      rw [hforetell]
      exact ⟨rfl, rfl⟩
    | stop why c' =>
      rw [hresume, Tokens.Foretell] at hforetell
      rw [hforetell]
      exact ⟨rfl, rfl⟩

/-- The run over a file yields the tokens of its text. -/
theorem lexFile_eq (file : List UInt8) :
    (lexFile file).yields.map Prod.snd = (lexTokens (file ++ [0])).toks ∧
      (lexFile file).stop = (lexTokens (file ++ [0])).stop := by
  have hlen := length_lexTokens (file ++ [0])
  rw [List.length_append, List.length_singleton] at hlen
  exact @lexRun_eq (file.length + 3) (confText file) .start (by exact Nat.lt_succ_of_le hlen)

/-! ### Bare words -/

/-- A lexer that is suspended in `conf_lex_string` has pushed a word of at least one byte. -/
theorem ne_nil_of_confLexEntry {n : ℕ} {c c' : ConfText} {token : Token ℕ} {save : UInt8}
    (h : confLexEntry n c = .push token (.string save) c') :
    ∃ s, c'.see token = .str s ∧ s ≠ [] := by
  induction n generalizing c with
  | zero => cases h
  | succ n ih =>
    rw [confLexEntry] at h
    split at h
    · cases h
    split at h
    · cases h
    split at h
    · cases h
    split at h
    · cases h
    split at h
    -- a comment was skipped, and the lexer starts again
    · exact ih h
    split at h
    · rw [confLexQstring] at h
      dsimp only at h
      split at h
      · cases h
      · cases h
    split at h
    · cases h
    -- no other branch is left, so the first byte is one of a word
    · rename_i h0 h1 h2 h3 h4 h5 hspace
      obtain ⟨b, text, hrest⟩ : ∃ b text, c.rest = b :: text := by
        cases hrest : c.rest with
        | nil => exact absurd (cur_of_rest_eq_nil hrest) h0
        | cons b text => exact ⟨b, text, rfl⟩
      rw [cur_of_rest_eq_cons hrest] at h0 h1 h2 h3 h4 h5 hspace
      have hword : wordByte b = true := by
        simp [wordByte, confLexIstoken, h0, h1, h2, h3, h4, h5, hspace]
      have hstr := strAt_put (fun b => !isspace b && !confLexIstoken b) c
      rw [hrest] at hstr
      rw [confLexString] at h
      cases h
      refine ⟨_, rfl, ?_⟩
      rw [hstr]
      show (b :: text).takeWhile wordByte ≠ []
      rw [List.takeWhile_cons_of_pos hword]
      exact List.cons_ne_nil _ _

theorem ne_nil_of_confLexResume {c c' : ConfText} {point : LexPoint} {token : Token ℕ}
    {save : UInt8} (h : confLexResume c point = .push token (.string save) c') :
    ∃ s, c'.see token = .str s ∧ s ≠ [] := by
  cases point with
  | eof => cases h
  | returned => cases h
  | start => exact ne_nil_of_confLexEntry h
  | yield0 => exact ne_nil_of_confLexEntry h
  | qstring => exact ne_nil_of_confLexEntry h
  | string save => exact ne_nil_of_confLexEntry h

/-- No bare word of a run is empty. -/
theorem ne_nil_of_mem_lexRun {n : ℕ} {c : ConfText} {point : LexPoint} :
    ∀ y ∈ (lexRun n c point).yields, ∀ save, y.1 = .string save → ∃ s, y.2 = .str s ∧ s ≠ [] := by
  induction n generalizing c point with
  | zero => nofun
  | succ n ih =>
    rw [lexRun]
    cases hresume : confLexResume c point with
    | push token point' c' =>
      intro y hy save hsave
      rcases List.mem_cons.1 hy with rfl | hy
      · obtain rfl : point' = .string save := hsave
        exact ne_nil_of_confLexResume hresume
      · exact ih y hy save hsave
    | returns c' => nofun
    | stop why c' => nofun

/-! ## Layouts -/

/-- What may stand between two tokens. A newline is a blank, and a comment ends with one. -/
inductive Filler
  | blank (b : UInt8) (hb : isspace b = true)
  | comment (s : CStr) (hs : ∀ b ∈ s, commentByte b = true)

def Filler.text : Filler → List UInt8
  | blank b _ => [b]
  | comment s _ => TokenType.comment.char :: (s ++ [LF])

def gapText (gap : List Filler) : List UInt8 := gap.flatMap Filler.text

/-- A token that may be printed. -/
inductive LexItem
  | blkBegin
  | blkEnd
  | comma
  | word (s : CStr) (hne : s ≠ []) (hs : ∀ b ∈ s, wordByte b = true)
  | quoted (s : CStr) (hs : ∀ b ∈ s, quotedByte b = true)

namespace LexItem

def text : LexItem → List UInt8
  | blkBegin => [TokenType.blkBegin.char]
  | blkEnd => [TokenType.blkEnd.char]
  | comma => [TokenType.comma.char]
  | word s _ _ => s
  | quoted s _ => TokenType.string.char :: (s ++ [TokenType.string.char])

def token : LexItem → Token CStr
  | blkBegin => tokBegin
  | blkEnd => tokEnd
  | comma => tokComma
  | word s _ _ => .str s
  | quoted s _ => .str s

def IsBare : LexItem → Prop
  | word _ _ _ => True
  | _ => False

end LexItem

/-- Two bare words that follow each other have something between them. -/
def BareApart (p q : LexItem × List Filler) : Prop := p.1.IsBare → q.1.IsBare → p.2 ≠ []

/-- Tokens with what stands before the first one, between them and at the end, where there may be a
comment without a newline. -/
structure Layout where
  first : List Filler
  items : List (LexItem × List Filler)
  last : Option { s : CStr // ∀ b ∈ s, commentByte b = true }
  apart : items.IsChain BareApart

/-- The text of a comment at the end. -/
def lastText : Option { s : CStr // ∀ b ∈ s, commentByte b = true } → List UInt8
  | none => []
  | some s => TokenType.comment.char :: s

/-- The text of tokens with what stands behind each of them. -/
def itemsText (items : List (LexItem × List Filler)) : List UInt8 :=
  items.flatMap fun p => p.1.text ++ gapText p.2

namespace Layout

def text (l : Layout) : List UInt8 := gapText l.first ++ (itemsText l.items ++ lastText l.last)

def tokens (l : Layout) : List (Token CStr) := l.items.map fun p => p.1.token

end Layout

/-! ### Reading a layout -/

section Read

variable {rest : List UInt8}

/-- Blanks and comments are skipped. -/
theorem lexTokens_gap (gap : List Filler) (rest : List UInt8) :
    lexTokens ((gapText gap ++ rest).dropWhile isspace) = lexTokens (rest.dropWhile isspace) := by
  induction gap with
  | nil => rfl
  | cons f gap ih =>
    rw [gapText, List.flatMap_cons, ← gapText, List.append_assoc]
    cases f with
    | blank b hb =>
      rw [Filler.text, List.singleton_append, List.dropWhile_cons_of_pos hb]
      exact ih
    -- the comment ends before its line feed, which is a blank
    | comment s hs =>
      have hends : ∀ b ∈ (LF :: (gapText gap ++ rest)).head?, commentByte b = false := by
        intro b hb
        obtain rfl := Option.mem_some_iff.1 hb
        rfl
      have hLF : (LF :: (gapText gap ++ rest)).dropWhile isspace =
          (gapText gap ++ rest).dropWhile isspace := rfl
      rw [Filler.text, List.cons_append, List.append_assoc, List.singleton_append,
        List.dropWhile_cons_of_neg (by decide), lexTokens_eq, lexStep, if_neg (by decide),
        if_neg (by decide), if_neg (by decide), if_neg (by decide), if_pos rfl,
        dropWhile_append_of_forall hs hends, hLF]
      exact ih

/-- At the end there may be a comment that no newline ends. -/
theorem lexTokens_last (last : Option { s : CStr // ∀ b ∈ s, commentByte b = true }) :
    lexTokens ((lastText last ++ [0]).dropWhile isspace) = ⟨[tokEof], .ended⟩ := by
  cases last with
  | none => rfl
  | some s =>
    have hends : ∀ b ∈ [(0 : UInt8)].head?, commentByte b = false := by
      intro b hb
      obtain rfl := Option.mem_some_iff.1 hb
      rfl
    rw [lastText, List.cons_append, List.dropWhile_cons_of_neg (by decide), lexTokens_eq, lexStep,
      if_neg (by decide), if_neg (by decide), if_neg (by decide), if_neg (by decide), if_pos rfl,
      dropWhile_append_of_forall s.2 hends]
    rfl

/-- A token that nothing behind it can continue. -/
theorem lexTokens_item (item : LexItem)
    (hends : item.IsBare → ∀ b ∈ rest.head?, wordByte b = false) :
    lexTokens ((item.text ++ rest).dropWhile isspace) =
      (lexTokens (rest.dropWhile isspace)).cons item.token := by
  cases item with
  | blkBegin => exact lexTokens_blkBegin
  | blkEnd => exact lexTokens_blkEnd
  | comma =>
    show lexTokens (TokenType.comma.char :: rest) = _
    rw [lexTokens_eq, lexStep, if_neg (by decide), if_neg (by decide), if_neg (by decide),
      if_pos rfl]
    rfl
  | word s hne hs =>
    obtain ⟨b, s, rfl⟩ := List.exists_cons_of_ne_nil hne
    obtain ⟨-, hspace, -⟩ := ne_of_wordByte (hs b (by simp))
    rw [LexItem.text, List.cons_append, List.dropWhile_cons_of_neg (by simp [hspace]),
      ← List.cons_append, lexTokens_word hne hs (hends trivial)]
    rfl
  | quoted s hs =>
    rw [LexItem.text, List.cons_append, List.append_assoc, List.singleton_append,
      List.dropWhile_cons_of_neg (by decide), lexTokens_string hs]
    rfl

/-- A gap ends a word. -/
theorem not_wordByte_gap {gap : List Filler} (hgap : gap ≠ []) :
    ∀ b ∈ (gapText gap ++ rest).head?, wordByte b = false := by
  obtain ⟨f, gap, rfl⟩ := List.exists_cons_of_ne_nil hgap
  intro b hb
  cases f with
  | blank b' hb' =>
    obtain rfl := Option.mem_some_iff.1 hb
    simp [wordByte, hb']
  | comment s hs =>
    obtain rfl := Option.mem_some_iff.1 hb
    decide

/-- So does any other token. -/
theorem not_wordByte_item {item : LexItem} (hitem : ¬ item.IsBare) :
    ∀ b ∈ (item.text ++ rest).head?, wordByte b = false := by
  intro b hb
  cases item with
  | word s hne hs => exact absurd trivial hitem
  | _ =>
    obtain rfl := Option.mem_some_iff.1 hb
    decide

/-- So does the end of the text. -/
theorem not_wordByte_last (last : Option { s : CStr // ∀ b ∈ s, commentByte b = true }) :
    ∀ b ∈ (lastText last ++ [0]).head?, wordByte b = false := by
  intro b hb
  cases last with
  | none =>
    obtain rfl := Option.mem_some_iff.1 hb
    decide
  | some s =>
    obtain rfl := Option.mem_some_iff.1 hb
    decide

theorem itemsText_cons (p : LexItem × List Filler) (items : List (LexItem × List Filler)) :
    itemsText (p :: items) = p.1.text ++ (gapText p.2 ++ itemsText items) := by
  rw [itemsText, List.flatMap_cons, List.append_assoc, ← itemsText]

theorem lexTokens_items {items : List (LexItem × List Filler)} (happart : items.IsChain BareApart)
    (last : Option { s : CStr // ∀ b ∈ s, commentByte b = true }) :
    lexTokens ((itemsText items ++ (lastText last ++ [0])).dropWhile isspace) =
      ⟨items.map (fun p => p.1.token) ++ [tokEof], .ended⟩ := by
  induction items with
  | nil => exact lexTokens_last last
  | cons p items ih =>
    have hends : p.1.IsBare →
        ∀ b ∈ (gapText p.2 ++ (itemsText items ++ (lastText last ++ [0]))).head?,
          wordByte b = false := by
      intro hbare
      by_cases hgap : p.2 = []
      · rw [hgap]
        cases items with
        | nil => exact not_wordByte_last last
        | cons q items =>
          have hq : ¬ q.1.IsBare := fun hq => List.IsChain.rel happart hbare hq hgap
          rw [itemsText_cons, List.append_assoc]
          exact not_wordByte_item hq
      · exact not_wordByte_gap hgap
    rw [itemsText_cons, List.append_assoc, List.append_assoc, lexTokens_item p.1 hends,
      lexTokens_gap, ih happart.of_cons]
    rfl

/-- The tokens of a layout, when no blank comes first. -/
theorem lexTokens_layout (l : Layout) (hhead : ∀ b ∈ (l.text ++ [0]).head?, isspace b = false) :
    lexTokens (l.text ++ [0]) = ⟨l.tokens ++ [tokEof], .ended⟩ := by
  have hskip : (l.text ++ [0]).dropWhile isspace = l.text ++ [0] := by
    obtain ⟨b, text, htext⟩ := List.exists_cons_of_ne_nil (List.concat_ne_nil 0 l.text)
    rw [htext] at hhead ⊢
    exact List.dropWhile_cons_of_neg (by rw [hhead b rfl]; exact Bool.false_ne_true)
  rw [← hskip, Layout.text, List.append_assoc, List.append_assoc, lexTokens_gap]
  exact lexTokens_items l.apart l.last

end Read

/-! ## Every text -/

/-- The lexer has stopped with the end of the file or at an unterminated string. -/
def Tokens.Proper (ts : Tokens) : Prop :=
  (ts.stop = .ended ∧ ∃ before, ts.toks = before ++ [tokEof]) ∨ ts.stop = unterminated

theorem Tokens.Proper.cons {ts : Tokens} (h : ts.Proper) (token : Token CStr) :
    (ts.cons token).Proper := by
  rcases h with ⟨hstop, before, hbefore⟩ | hstop
  · exact .inl ⟨hstop, token :: before, congrArg (token :: ·) hbefore⟩
  · exact .inr hstop

/-- A text that does not start with a blank. -/
theorem proper_lexTokens {text : List UInt8} (hhead : ∀ b ∈ text.head?, isspace b = false) :
    (lexTokens text).Proper := by
  induction hlen : text.length using Nat.strong_induction_on generalizing text with
  | _ len ih =>
    subst hlen
    rw [lexTokens_eq]
    refine lexStep_induction hhead (.inl ⟨rfl, [], rfl⟩) (.inr rfl) (fun token ts h => h.cons token)
      fun t ht => ih _ (Nat.lt_of_le_of_lt (t.length_dropWhile_le isspace) ht) ?_ rfl
    intro b hb
    have hnot := List.head?_dropWhile_not isspace t
    rw [Option.mem_def.1 hb] at hnot
    exact hnot

/-- A text that starts with a blank. -/
theorem lexTokens_blank {b : UInt8} (hb : isspace b = true) (text : List UInt8) :
    lexTokens (b :: text) = ⟨[], .assertion⟩ := by
  have hne : ∀ c, isspace c = false → b ≠ c := by
    rintro c hc rfl
    exact absurd (hb.symm.trans hc) (by decide)
  rw [lexTokens_eq, lexStep, if_neg (hne _ (by decide)), if_neg (hne _ (by decide)),
    if_neg (hne _ (by decide)), if_neg (hne _ (by decide)), if_neg (hne _ (by decide)),
    if_neg (hne _ (by decide)), if_pos hb]

/-- What the lexer owes: it stops with the end of the file or at an unterminated string, it does not
yield a bare word of no bytes, and it reads every layout of the text back. -/
structure LexerLaw (text : List UInt8) : Prop where
  stops : ((lexFile text).stop = .ended ∧
      ∃ before, (lexFile text).yields.map Prod.snd = before ++ [tokEof]) ∨
    (lexFile text).stop = unterminated
  words : ∀ y ∈ (lexFile text).yields, ∀ save, y.1 = .string save → ∃ s, y.2 = .str s ∧ s ≠ []
  layouts : ∀ l : Layout, l.text = text →
    (lexFile text).yields.map Prod.snd = l.tokens ++ [tokEof] ∧ (lexFile text).stop = .ended

/-- The lexer keeps the law on all texts that do not start with a blank, and on no others. -/
theorem lexerLaw_iff (text : List UInt8) :
    LexerLaw text ↔ ∀ b ∈ text.head?, isspace b = false := by
  obtain ⟨hyields, hstop⟩ := lexFile_eq text
  constructor
  · intro h b hb
    obtain ⟨text, rfl⟩ : ∃ rest, text = b :: rest := ⟨_, (List.cons_head?_tail hb).symm⟩
    by_contra hspace
    rw [List.cons_append, lexTokens_blank (by simpa using hspace)] at hstop
    rcases h.stops with ⟨hended, -⟩ | hended
    · cases hended.symm.trans hstop
    · cases hended.symm.trans hstop
  · intro hhead
    have hhead' : ∀ b ∈ (text ++ [0]).head?, isspace b = false := by
      cases text with
      | nil =>
        intro b hb
        obtain rfl := Option.mem_some_iff.1 hb
        rfl
      | cons b text => exact hhead
    refine ⟨?_, ne_nil_of_mem_lexRun, fun l hl => ?_⟩
    · rw [hyields, hstop]
      exact proper_lexTokens hhead'
    · subst hl
      rw [hyields, hstop, lexTokens_layout l hhead']
      exact ⟨rfl, rfl⟩

/-- A newline before the first token. -/
theorem not_forall_lexerLaw : ¬ ∀ text : List UInt8, 0 ∉ text → LexerLaw text := by
  intro h
  have hlaw := (h (cstr "\nhook") (by decide)).stops
  have hstop := (lexFile_eq (cstr "\nhook")).2
  have hassertion : lexTokens (cstr "\nhook" ++ [0]) = ⟨[], .assertion⟩ :=
    lexTokens_blank (by decide) _
  rw [hassertion] at hstop
  rcases hlaw with ⟨hended, -⟩ | hended
  · cases hended.symm.trans hstop
  · cases hended.symm.trans hstop

end Irccd
