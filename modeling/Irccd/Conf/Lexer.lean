import Mathlib.Data.List.GetD
import Mathlib.Data.List.TakeWhile
import Irccd.CString

/-!
# The lexer of the configuration file (`conf.c`)

The lexer is a coroutine that walks over the text of the file and hands the tokens over one by one.
The data of a string is a pointer into the text, where the lexer has put a NUL behind the string.
The NUL behind a quoted string takes the place of the quote. The one behind a bare word takes the
place of a byte that is still to be read, which comes back when the lexer is resumed.

* `ConfText`: the text and the place of the lexer in it;
* `LexPoint`, `confLexResume`: where the lexer is suspended, and what it does when it is resumed;
* `lexTokens`: the tokens of a text, by a function that changes nothing.
-/

namespace Irccd

/-! ## Tokens -/

/-- `enum token_type` -/
inductive TokenType
  | blkBegin
  | blkEnd
  | comma
  | comment
  | eof
  | string
  deriving DecidableEq

/-- The byte that an enumerator stands for. -/
def TokenType.char : TokenType → UInt8
  | blkBegin => 123
  | blkEnd => 125
  | comma => 44
  | comment => 35
  | eof => 0
  | string => 34

/-- `struct token`. The data is a pointer, which is an index of the text, or the string there. -/
structure Token (δ : Type) where
  type : TokenType
  data : Option δ := none
  deriving DecidableEq

/-- A token whose data is the string `s`. -/
def Token.str (s : CStr) : Token CStr := ⟨.string, some s⟩

/-- Why a coroutine goes no further. -/
inductive Halt
  /-- `nce_coro_off` -/
  | off
  /-- The parser waits for a token and the lexer has returned. -/
  | ended
  /-- `conf_fatal` -/
  | fatal (message : CStr)
  /-- An assertion fails. -/
  | assertion
  /-- A loop of the model has gone round too often. -/
  | fuel
  deriving DecidableEq

/-! ## The text -/

/-- The fields of `struct conf` that belong to the lexer. The text has a NUL behind it. -/
structure ConfText where
  text : List UInt8
  off : ℕ
  line : ℕ
  column : ℕ
  deriving DecidableEq

/-- The text of a file, which `conf_open` has read. -/
def confText (file : List UInt8) : ConfText :=
  { text := file ++ [0], off := 0, line := 1, column := 1 }

namespace ConfText

/-- `*conf->off` -/
def cur (c : ConfText) : UInt8 := c.text.getD c.off 0

/-- What is left of the text. -/
def rest (c : ConfText) : List UInt8 := c.text.drop c.off

/-- `*conf->off = byte` -/
def put (c : ConfText) (byte : UInt8) : ConfText := { c with text := c.text.set c.off byte }

/-- The string at a pointer. -/
def strAt (c : ConfText) (p : ℕ) : CStr := (c.text.drop p).takeWhile (· != 0)

/-- A token with the string that its data points to. -/
def see (c : ConfText) (token : Token ℕ) : Token CStr := ⟨token.type, token.data.map c.strAt⟩

end ConfText

/-! ## The lexer -/

/-- `conf_lex_advance` -/
def confLexAdvance (c : ConfText) : ConfText :=
  if c.cur = LF then { c with off := c.off + 1, line := c.line + 1, column := 1 }
  else { c with off := c.off + 1, column := c.column + 1 }

/-- `while (*conf->off && p (*conf->off)) conf_lex_advance (conf);` -/
def advanceWhile (p : UInt8 → Bool) (c : ConfText) : ConfText :=
  (c.rest.takeWhile fun b => b != 0 && p b).foldl (fun c _ => confLexAdvance c) c

/-- `conf_lex_bskip` -/
def confLexBskip (c : ConfText) : ConfText := advanceWhile isspace c

/-- Where the lexer is suspended. -/
inductive LexPoint
  /-- Not resumed yet. -/
  | start
  /-- In `conf_lex_yield0`. -/
  | yield0
  /-- In `conf_lex_qstring`. -/
  | qstring
  /-- In `conf_lex_string`, which has replaced the byte `save`. -/
  | string (save : UInt8)
  /-- In `conf_lex_yield0`, with `TOKEN_EOF`. -/
  | eof
  /-- `conf_lex_entry` has returned. -/
  | returned
  deriving DecidableEq

/-- What a resumed lexer does: it pushes a token and is suspended, it returns, or it stops. -/
inductive Resumed
  | push (token : Token ℕ) (point : LexPoint) (c : ConfText)
  | returns (c : ConfText)
  | stop (why : Halt) (c : ConfText)

/-- The message of an unterminated string. -/
def unterminated : Halt := .fatal (cstr "unterminated string")

/-- `conf_lex_qstring`, up to the token. The quote that opens the string is not counted as a
column. -/
def confLexQstring (c : ConfText) : Resumed :=
  let start := c.off + 1
  let c := advanceWhile (· != TokenType.string.char) { c with off := start }
  if c.cur ≠ TokenType.string.char then .stop unterminated c
  else
    let c := c.put 0
    .push ⟨.string, some start⟩ .qstring { c with column := c.column + 1, off := c.off + 1 }

/-- `conf_lex_istoken` -/
def confLexIstoken (b : UInt8) : Bool :=
  b == TokenType.blkBegin.char || b == TokenType.blkEnd.char || b == TokenType.comma.char ||
    b == TokenType.comment.char || b == TokenType.string.char

/-- `conf_lex_string`, up to the token. -/
def confLexString (c : ConfText) : Resumed :=
  let start := c.off
  let c := advanceWhile (fun b => !isspace b && !confLexIstoken b) c
  .push ⟨.string, some start⟩ (.string c.cur) (c.put 0)

/-- `conf_lex_comment` -/
def confLexComment (c : ConfText) : ConfText :=
  confLexBskip (advanceWhile (· != LF) (confLexAdvance c))

/-- The loop of `conf_lex_entry`, up to the next token. It goes round again after a comment. -/
def confLexEntry : ℕ → ConfText → Resumed
  | 0, c => .stop .fuel c
  | n + 1, c =>
    if c.cur = 0 then .push ⟨.eof, none⟩ .eof c
    else if c.cur = TokenType.blkBegin.char then .push ⟨.blkBegin, none⟩ .yield0 (confLexAdvance c)
    else if c.cur = TokenType.blkEnd.char then .push ⟨.blkEnd, none⟩ .yield0 (confLexAdvance c)
    else if c.cur = TokenType.comma.char then .push ⟨.comma, none⟩ .yield0 (confLexAdvance c)
    else if c.cur = TokenType.comment.char then confLexEntry n (confLexComment c)
    else if c.cur = TokenType.string.char then confLexQstring c
    -- a string does not start with a blank
    else if isspace c.cur then .stop .assertion c
    else confLexString c

/-- The loop of `conf_lex_entry`, with as many rounds as there are bytes left. -/
def confLexLoop (c : ConfText) : Resumed := confLexEntry (c.rest.length + 1) c

/-- The lexer is resumed. -/
def confLexResume (c : ConfText) : LexPoint → Resumed
  | .start => confLexLoop c
  | .yield0 => confLexLoop (confLexBskip c)
  | .qstring => confLexLoop (confLexBskip c)
  | .string save => confLexLoop (confLexBskip (c.put save))
  | .eof => .returns (confLexBskip c)
  | .returned => .returns c

/-! ## The tokens of a text -/

/-- Tokens, and what stops the one who asks for more. -/
structure Tokens where
  toks : List (Token CStr)
  stop : Halt
  deriving DecidableEq

/-- A token before the others. -/
def Tokens.cons (token : Token CStr) (ts : Tokens) : Tokens := { ts with toks := token :: ts.toks }

/-- A byte of a bare word. -/
def wordByte (b : UInt8) : Bool := b != 0 && (!isspace b && !confLexIstoken b)

/-- A byte of a comment. -/
def commentByte (b : UInt8) : Bool := b != 0 && b != LF

/-- A byte of a quoted string. -/
def quotedByte (b : UInt8) : Bool := b != 0 && b != TokenType.string.char

/-- The first token of a text, and what `next` makes of the text behind it. -/
def lexStep (next : List UInt8 → Tokens) : List UInt8 → Tokens
  | [] => ⟨[⟨.eof, none⟩], .ended⟩
  | b :: text =>
    if b = 0 then ⟨[⟨.eof, none⟩], .ended⟩
    else if b = TokenType.blkBegin.char then
      (next (text.dropWhile isspace)).cons ⟨.blkBegin, none⟩
    else if b = TokenType.blkEnd.char then (next (text.dropWhile isspace)).cons ⟨.blkEnd, none⟩
    else if b = TokenType.comma.char then (next (text.dropWhile isspace)).cons ⟨.comma, none⟩
    else if b = TokenType.comment.char then
      next ((text.dropWhile commentByte).dropWhile isspace)
    else if b = TokenType.string.char then
      match text.dropWhile quotedByte with
      | [] => ⟨[], unterminated⟩
      | quote :: after =>
        if quote ≠ TokenType.string.char then ⟨[], unterminated⟩
        else (next (after.dropWhile isspace)).cons (.str (text.takeWhile quotedByte))
    else if isspace b then ⟨[], .assertion⟩
    else
      (next ((text.dropWhile wordByte).dropWhile isspace)).cons
        (.str (b :: text.takeWhile wordByte))

/-- The tokens of a text, as far as the fuel goes. -/
def lexFrom : ℕ → List UInt8 → Tokens
  | 0, _ => ⟨[], .fuel⟩
  | n + 1, text => lexStep (lexFrom n) text

/-- The tokens of a text. -/
def lexTokens (text : List UInt8) : Tokens := lexFrom (text.length + 1) text

example : lexTokens (cstr "hook \"a b\" to/x # comment") =
    ⟨[.str (cstr "hook"), .str (cstr "a b"), .str (cstr "to/x"), ⟨.eof, none⟩], .ended⟩ := by
  decide

/-! ### Unfolding -/

section Fuel

variable {f g : List UInt8 → Tokens} {text : List UInt8}

/-- The text behind the first token is shorter. -/
theorem lexStep_congr (h : ∀ t : List UInt8, t.length < text.length → f t = g t) :
    lexStep f text = lexStep g text := by
  cases text with
  | nil => rfl
  | cons b text =>
    have hdrop (p : UInt8 → Bool) (t : List UInt8) (ht : t.length ≤ text.length) :
        f (t.dropWhile p) = g (t.dropWhile p) :=
      h _ (Nat.lt_succ_of_le ((t.length_dropWhile_le p).trans ht))
    have hafter (p : UInt8 → Bool) : (text.dropWhile p).length ≤ text.length :=
      text.length_dropWhile_le p
    simp only [lexStep]
    rw [hdrop _ text le_rfl, hdrop _ _ (hafter commentByte), hdrop _ _ (hafter wordByte)]
    cases hquote : text.dropWhile quotedByte with
    | nil => rfl
    | cons quote after =>
      have hlen : after.length ≤ text.length := by
        have := hafter quotedByte
        rw [hquote, List.length_cons] at this
        omega
      dsimp only
      rw [hdrop _ after hlen]

theorem lexFrom_congr : ∀ {n m : ℕ} {text : List UInt8}, text.length < n → text.length < m →
    lexFrom n text = lexFrom m text
  | 0, _, _, hn, _ => absurd hn (Nat.not_lt_zero _)
  | _ + 1, 0, _, _, hm => absurd hm (Nat.not_lt_zero _)
  | n + 1, m + 1, text, hn, hm => by
    rw [lexFrom, lexFrom]
    exact lexStep_congr fun t ht => lexFrom_congr (by omega) (by omega)

/-- There is fuel enough. -/
theorem lexTokens_eq (text : List UInt8) : lexTokens text = lexStep lexTokens text := by
  rw [lexTokens, lexFrom]
  exact lexStep_congr fun t ht => lexFrom_congr ht (Nat.lt_succ_self _)

end Fuel

/-! ### What the tokens look like -/

/-- The first token, and those of the text behind it. -/
theorem length_lexStep {f : List UInt8 → Tokens} {b : UInt8} {text : List UInt8} {n : ℕ}
    (h : ∀ t : List UInt8, t.length ≤ text.length → (f t).toks.length ≤ n) :
    (lexStep f (b :: text)).toks.length ≤ n + 1 := by
  have hdrop (p : UInt8 → Bool) (t : List UInt8) (ht : t.length ≤ text.length) :
      (f (t.dropWhile p)).toks.length ≤ n := h _ ((t.length_dropWhile_le p).trans ht)
  have hafter (p : UInt8 → Bool) : (text.dropWhile p).length ≤ text.length :=
    text.length_dropWhile_le p
  have hcons (token : Token CStr) {ts : Tokens} (hts : ts.toks.length ≤ n) :
      (ts.cons token).toks.length ≤ n + 1 := Nat.succ_le_succ hts
  rw [lexStep]
  split
  · exact Nat.succ_le_succ (Nat.zero_le n)
  split
  · exact hcons _ (hdrop _ text le_rfl)
  split
  · exact hcons _ (hdrop _ text le_rfl)
  split
  · exact hcons _ (hdrop _ text le_rfl)
  split
  · exact Nat.le_succ_of_le (hdrop _ _ (hafter commentByte))
  split
  · -- a quoted string is a token if it is closed
    cases hquote : text.dropWhile quotedByte with
    | nil => exact Nat.zero_le _
    | cons quote after =>
      have hlen := hafter quotedByte
      rw [hquote, List.length_cons] at hlen
      dsimp only
      split
      · exact Nat.zero_le _
      · exact hcons _ (hdrop _ after (by omega))
  split
  · exact Nat.zero_le _
  · exact hcons _ (hdrop _ _ (hafter wordByte))

/-- A text does not have more tokens than bytes, and the end of the file. -/
theorem length_lexTokens (text : List UInt8) : (lexTokens text).toks.length ≤ text.length + 1 := by
  induction hlen : text.length using Nat.strong_induction_on generalizing text with
  | _ len ih =>
    subst hlen
    rw [lexTokens_eq]
    cases text with
    | nil => simp [lexStep]
    | cons b text =>
      refine length_lexStep fun t ht => ?_
      have := ih t.length (Nat.lt_succ_of_le ht) t rfl
      rw [List.length_cons]
      omega

/-- What holds of the tokens of all texts that do not start with a blank, when it holds of the end
of the file and of an unterminated string. -/
theorem lexStep_induction {P : Tokens → Prop} {f : List UInt8 → Tokens} {text : List UInt8}
    (hhead : ∀ b ∈ text.head?, isspace b = false) (heof : P ⟨[⟨.eof, none⟩], .ended⟩)
    (hunterminated : P ⟨[], unterminated⟩) (hcons : ∀ token ts, P ts → P (ts.cons token))
    (hnext : ∀ t : List UInt8, t.length < text.length → P (f (t.dropWhile isspace))) :
    P (lexStep f text) := by
  cases text with
  | nil => exact heof
  | cons b text =>
    have hafter (p : UInt8 → Bool) : (text.dropWhile p).length < (b :: text).length :=
      Nat.lt_succ_of_le (text.length_dropWhile_le p)
    -- every branch goes on with a shorter text
    have hself : text.length < (b :: text).length := Nat.lt_succ_self _
    rw [lexStep]
    split
    · exact heof
    split
    · exact hcons _ _ (hnext text hself)
    split
    · exact hcons _ _ (hnext text hself)
    split
    · exact hcons _ _ (hnext text hself)
    split
    · exact hnext _ (hafter commentByte)
    split
    · cases hquote : text.dropWhile quotedByte with
      | nil => exact hunterminated
      | cons quote after =>
        have hlen := hafter quotedByte
        rw [hquote, List.length_cons] at hlen
        dsimp only
        split
        · exact hunterminated
        · exact hcons _ _ (hnext after (by omega))
    rw [if_neg (by rw [hhead b rfl]; exact Bool.false_ne_true)]
    exact hcons _ _ (hnext _ (hafter wordByte))

/-! ## The lexer finds the tokens of the text -/

section Walk

variable {c : ConfText} {p : UInt8 → Bool}

@[simp] theorem text_confLexAdvance (c : ConfText) : (confLexAdvance c).text = c.text := by
  unfold confLexAdvance
  split <;> rfl

@[simp] theorem off_confLexAdvance (c : ConfText) : (confLexAdvance c).off = c.off + 1 := by
  unfold confLexAdvance
  split <;> rfl

theorem foldl_confLexAdvance (bytes : List UInt8) : ∀ c : ConfText,
    (bytes.foldl (fun c _ => confLexAdvance c) c).text = c.text ∧
      (bytes.foldl (fun c _ => confLexAdvance c) c).off = c.off + bytes.length := by
  induction bytes with
  | nil => exact fun c => ⟨rfl, rfl⟩
  | cons b bytes ih =>
    intro c
    obtain ⟨htext, hoff⟩ := ih (confLexAdvance c)
    rw [text_confLexAdvance] at htext
    rw [off_confLexAdvance] at hoff
    exact ⟨htext, by rw [List.foldl_cons, hoff, List.length_cons]; omega⟩

@[simp] theorem text_advanceWhile (p : UInt8 → Bool) (c : ConfText) :
    (advanceWhile p c).text = c.text :=
  (foldl_confLexAdvance _ c).1

theorem off_advanceWhile (p : UInt8 → Bool) (c : ConfText) :
    (advanceWhile p c).off = c.off + (c.rest.takeWhile fun b => b != 0 && p b).length :=
  (foldl_confLexAdvance _ c).2

theorem drop_length_takeWhile (p : UInt8 → Bool) (l : List UInt8) :
    l.drop (l.takeWhile p).length = l.dropWhile p := by
  induction l with
  | nil => rfl
  | cons b l ih =>
    by_cases hb : p b = true
    · simp [hb, ih]
    · simp [hb]

theorem rest_advanceWhile (p : UInt8 → Bool) (c : ConfText) :
    (advanceWhile p c).rest = c.rest.dropWhile fun b => b != 0 && p b := by
  rw [ConfText.rest, text_advanceWhile, off_advanceWhile, ← List.drop_drop]
  exact drop_length_takeWhile _ c.rest

/-- A NUL is not a blank. -/
theorem nonzero_and_isspace : (fun b : UInt8 => b != 0 && isspace b) = isspace := by
  funext b
  by_cases hb : b = 0
  · subst hb
    rfl
  · simp [hb]

@[simp] theorem rest_confLexBskip (c : ConfText) :
    (confLexBskip c).rest = c.rest.dropWhile isspace := by
  rw [confLexBskip, rest_advanceWhile, nonzero_and_isspace]

@[simp] theorem text_confLexBskip (c : ConfText) : (confLexBskip c).text = c.text :=
  text_advanceWhile _ c

theorem cur_of_rest_eq_nil (h : c.rest = []) : c.cur = 0 := by
  rw [ConfText.cur, List.getD_eq_default]
  exact List.drop_eq_nil_iff.1 h

theorem cur_of_rest_eq_cons {b : UInt8} {text : List UInt8} (h : c.rest = b :: text) :
    c.cur = b := by
  have hget : c.text[c.off]? = some b := by
    rw [← List.head?_drop, ← ConfText.rest, h, List.head?_cons]
  rw [ConfText.cur, List.getD_eq_getElem?_getD, hget, Option.getD_some]

theorem rest_confLexAdvance {b : UInt8} {text : List UInt8} (h : c.rest = b :: text) :
    (confLexAdvance c).rest = text := by
  rw [ConfText.rest, text_confLexAdvance, off_confLexAdvance, ← List.drop_drop, ← ConfText.rest, h]
  rfl

end Walk

/-- The text that a suspended lexer has not seen. -/
def LexPoint.unread (c : ConfText) : LexPoint → Option (List UInt8)
  | .start => some c.rest
  | .yield0 => some (c.rest.dropWhile isspace)
  | .qstring => some (c.rest.dropWhile isspace)
  | .string save => some ((c.put save).rest.dropWhile isspace)
  | .eof => none
  | .returned => none

/-- The tokens that a suspended lexer has not pushed. -/
def LexPoint.upcoming (point : LexPoint) (c : ConfText) : Tokens :=
  match point.unread c with
  | some text => lexTokens text
  | none => ⟨[], .ended⟩

/-- What the tokens to come say about the lexer once it is resumed. -/
def Tokens.Foretell (ts : Tokens) : Resumed → Prop
  | .push token point c => ts = (point.upcoming c).cons (c.see token)
  | .returns _ => ts = ⟨[], .ended⟩
  | .stop why _ => ts = ⟨[], why⟩

section Foretell

variable {c : ConfText} {b : UInt8} {text : List UInt8}

/-- The bytes of a string, once there is a NUL behind them. -/
theorem takeWhile_set_length {p : UInt8 → Bool} (hp : ∀ b, p b = true → b ≠ 0) (l : List UInt8) :
    (l.set (l.takeWhile p).length 0).takeWhile (· != 0) = l.takeWhile p := by
  induction l with
  | nil => rfl
  | cons b l ih =>
    by_cases hb : p b = true
    · simp [hb, hp b hb, ih]
    · simp [hb]

/-- The string that the lexer has just ended. -/
theorem strAt_put (p : UInt8 → Bool) (c : ConfText) :
    ((advanceWhile p c).put 0).strAt c.off = c.rest.takeWhile fun b => b != 0 && p b := by
  rw [ConfText.strAt, ConfText.put, text_advanceWhile, off_advanceWhile]
  dsimp only
  rw [List.drop_set, if_neg (by omega), Nat.add_sub_cancel_left]
  refine takeWhile_set_length (fun b hb => ?_) c.rest
  rw [Bool.and_eq_true, bne_iff_ne] at hb
  exact hb.1

/-- The byte that the lexer has replaced comes back. -/
theorem put_put_cur (c : ConfText) (byte : UInt8) : (c.put byte).put c.cur = c := by
  obtain ⟨text, off, line, column⟩ := c
  simp only [ConfText.put, ConfText.cur, List.set_set, ConfText.mk.injEq, and_self, and_true]
  by_cases hoff : off < text.length
  · rw [List.getD_eq_getElem _ _ hoff, List.set_getElem_self]
  · rw [List.set_eq_of_length_le (by omega)]

/-- The text behind a quote that a NUL has replaced. -/
theorem rest_behind {quote : UInt8} {after : List UInt8} {column : ℕ}
    (hrest : c.rest = quote :: after) :
    ConfText.rest { c.put 0 with column := column, off := (c.put 0).off + 1 } = after := by
  show (c.text.set c.off 0).drop (c.off + 1) = after
  rw [List.drop_set_of_lt (by omega), ← List.drop_drop]
  exact congrArg (List.drop 1) hrest

theorem foretell_punctuation {type : TokenType} (hrest : c.rest = b :: text) {ts : Tokens}
    (hts : ts = (lexTokens (text.dropWhile isspace)).cons ⟨type, none⟩) :
    ts.Foretell (.push ⟨type, none⟩ .yield0 (confLexAdvance c)) := by
  rw [Tokens.Foretell, hts, LexPoint.upcoming, LexPoint.unread]
  dsimp only
  rw [rest_confLexAdvance hrest]
  rfl

theorem foretell_qstring (hrest : c.rest = TokenType.string.char :: text) :
    (lexTokens c.rest).Foretell (confLexQstring c) := by
  have hstart : (ConfText.rest { c with off := c.off + 1 }) = text := by
    rw [ConfText.rest, ← List.drop_drop, ← ConfText.rest, hrest]
    rfl
  have hpred : (fun b : UInt8 => b != 0 && b != TokenType.string.char) = quotedByte := rfl
  have hquote := rest_advanceWhile (· != TokenType.string.char) { c with off := c.off + 1 }
  rw [hstart, hpred] at hquote
  rw [lexTokens_eq, hrest, confLexQstring]
  simp only [lexStep]
  rw [if_neg (by decide), if_neg (by decide), if_neg (by decide), if_neg (by decide),
    if_neg (by decide), if_pos trivial]
  -- the string ends at a quote, at the end of the text or at a terminator
  cases hdrop : text.dropWhile quotedByte with
  | nil =>
    rw [hdrop] at hquote
    rw [if_pos (by rw [cur_of_rest_eq_nil hquote]; decide)]
    rfl
  | cons quote after =>
    rw [hdrop] at hquote
    dsimp only
    rw [cur_of_rest_eq_cons hquote]
    split
    · rfl
    · have hstr := strAt_put (· != TokenType.string.char) { c with off := c.off + 1 }
      rw [hstart, hpred] at hstr
      rw [Tokens.Foretell, LexPoint.upcoming, LexPoint.unread]
      dsimp only
      rw [rest_behind hquote, ConfText.see, Token.str, ← hstr]
      rfl

theorem foretell_string (hrest : c.rest = b :: text) (hb : wordByte b = true) :
    ((lexTokens ((text.dropWhile wordByte).dropWhile isspace)).cons
      (.str (b :: text.takeWhile wordByte))).Foretell (confLexString c) := by
  have hpred : (fun b : UInt8 => b != 0 && (!isspace b && !confLexIstoken b)) = wordByte := rfl
  have hstr := strAt_put (fun b => !isspace b && !confLexIstoken b) c
  have hword := rest_advanceWhile (fun b => !isspace b && !confLexIstoken b) c
  rw [hpred, hrest, List.takeWhile_cons_of_pos hb] at hstr
  rw [hpred, hrest, List.dropWhile_cons_of_pos hb] at hword
  rw [confLexString, Tokens.Foretell, LexPoint.upcoming, LexPoint.unread]
  dsimp only
  rw [put_put_cur, hword, ConfText.see, Token.str, ← hstr]
  rfl

/-- The loop finds the first token of what is left of the text. -/
theorem foretell_confLexEntry : ∀ {n : ℕ} {c : ConfText}, c.rest.length < n →
    (lexTokens c.rest).Foretell (confLexEntry n c)
  | 0, _, h => absurd h (Nat.not_lt_zero _)
  | n + 1, c, h => by
    rw [confLexEntry]
    cases hrest : c.rest with
    | nil =>
      rw [cur_of_rest_eq_nil hrest, if_pos rfl]
      rfl
    | cons b text =>
      have hcomment : (confLexComment c).rest =
          (text.dropWhile commentByte).dropWhile isspace := by
        rw [confLexComment, rest_confLexBskip, rest_advanceWhile, rest_confLexAdvance hrest]
        rfl
      have hlen : (confLexComment c).rest.length < n := by
        have hspace := (text.dropWhile commentByte).length_dropWhile_le isspace
        have hline := text.length_dropWhile_le commentByte
        rw [hrest, List.length_cons] at h
        rw [hcomment]
        omega
      rw [cur_of_rest_eq_cons hrest, lexTokens_eq, lexStep]
      -- the branches are those of the lexer
      by_cases h0 : b = 0
      · rw [if_pos h0, if_pos h0]
        rfl
      rw [if_neg h0, if_neg h0]
      by_cases hbegin : b = TokenType.blkBegin.char
      · rw [if_pos hbegin, if_pos hbegin]
        exact foretell_punctuation hrest rfl
      rw [if_neg hbegin, if_neg hbegin]
      by_cases hend : b = TokenType.blkEnd.char
      · rw [if_pos hend, if_pos hend]
        exact foretell_punctuation hrest rfl
      rw [if_neg hend, if_neg hend]
      by_cases hcomma : b = TokenType.comma.char
      · rw [if_pos hcomma, if_pos hcomma]
        exact foretell_punctuation hrest rfl
      rw [if_neg hcomma, if_neg hcomma]
      by_cases hhash : b = TokenType.comment.char
      · rw [if_pos hhash, if_pos hhash, ← hcomment]
        exact foretell_confLexEntry hlen
      rw [if_neg hhash, if_neg hhash]
      by_cases hquote : b = TokenType.string.char
      · subst hquote
        have := foretell_qstring hrest
        rw [hrest, lexTokens_eq, lexStep] at this
        simpa only [if_neg h0, if_neg hbegin, if_neg hend, if_neg hcomma, if_neg hhash,
          if_true] using this
      rw [if_neg hquote, if_neg hquote]
      by_cases hspace : isspace b = true
      · rw [if_pos hspace, if_pos hspace]
        rfl
      rw [if_neg hspace, if_neg hspace]
      refine foretell_string hrest ?_
      simp [wordByte, confLexIstoken, h0, hbegin, hend, hcomma, hhash, hquote, hspace]

theorem foretell_confLexLoop (c : ConfText) : (lexTokens c.rest).Foretell (confLexLoop c) :=
  foretell_confLexEntry (Nat.lt_succ_self _)

/-- A resumed lexer pushes the first of the tokens that it has not pushed yet. -/
theorem foretell_confLexResume (point : LexPoint) (c : ConfText) :
    (point.upcoming c).Foretell (confLexResume c point) := by
  cases point with
  | start => exact foretell_confLexLoop c
  | yield0 =>
    have := foretell_confLexLoop (confLexBskip c)
    rwa [rest_confLexBskip] at this
  | qstring =>
    have := foretell_confLexLoop (confLexBskip c)
    rwa [rest_confLexBskip] at this
  | string save =>
    have := foretell_confLexLoop (confLexBskip (c.put save))
    rwa [rest_confLexBskip] at this
  | eof => rfl
  | returned => rfl

end Foretell

end Irccd
