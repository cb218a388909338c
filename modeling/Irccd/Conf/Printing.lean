import Irccd.Conf.Grammar

/-!
# Printed text, and its tokens

Words, strings in quotes and braces, with blanks behind them, are read as one token each.

* `Piece`, `Piece.printed`: pieces of text;
* `ServerDirective.pieces`: how a directive of a server is printed;
* `lexTokens_printed`: the tokens of a printed text.
-/

namespace Irccd

open Programs

/-! ## Printing -/

/-- Blanks between two pieces of text. -/
structure Blank where
  bytes : List UInt8
  ne_nil : bytes ≠ []
  blank : ∀ b ∈ bytes, isspace b = true

/-- A piece of text that is a token. -/
inductive Piece
  | bare (s : CStr)
  | quoted (s : CStr)
  | blkBegin
  | blkEnd

namespace Piece

/-- The text of a piece. -/
def text : Piece → List UInt8
  | bare s => s
  | quoted s => TokenType.string.char :: (s ++ [TokenType.string.char])
  | blkBegin => [TokenType.blkBegin.char]
  | blkEnd => [TokenType.blkEnd.char]

/-- The token of a piece. -/
def token : Piece → Token CStr
  | bare s => .str s
  | quoted s => .str s
  | blkBegin => tokBegin
  | blkEnd => tokEnd

/-- The text of a piece is one token. -/
def Ok : Piece → Prop
  | bare s => s ≠ [] ∧ ∀ b ∈ s, wordByte b = true
  | quoted s => ∀ b ∈ s, quotedByte b = true
  | blkBegin => True
  | blkEnd => True

/-- Pieces with blanks behind them. -/
def printed (pieces : List (Piece × Blank)) : List UInt8 :=
  pieces.flatMap fun p => p.1.text ++ p.2.bytes

end Piece

/-- Pieces with keys and values. -/
def pairPieces (pairs : List (CStr × CStr)) : List Piece :=
  pairs.flatMap fun v => [.quoted v.1, .quoted v.2]

/-- The pieces of the values of a directive. -/
def ServerDirective.argPieces : ServerDirective → List Piece
  | hostname value => [.quoted value]
  | port value => [.quoted value]
  | pfx value => [.quoted value]
  | ident nickname username realname => [.quoted nickname, .quoted username, .quoted realname]
  | password value => [.quoted value]
  | join channel _ => [.quoted channel]
  | joinWith channel key =>
    [.bare (cstr "with"), .bare (cstr "password"), .quoted channel, .quoted key]
  | ctcp pairs => .blkBegin :: (pairPieces pairs ++ [.blkEnd])
  | ssl => []
  | options names => names.map .quoted ++ [.blkEnd]
  | optionsBlock names => .blkBegin :: (names.map .quoted ++ [.blkEnd])
  | other _ _ => []

/-- The pieces of a directive. -/
def ServerDirective.pieces (d : ServerDirective) : List Piece := .bare d.name :: d.argPieces

theorem map_token_pairPieces (pairs : List (CStr × CStr)) :
    (pairPieces pairs).map Piece.token = pairTokens pairs := by
  induction pairs with
  | nil => rfl
  | cons v pairs ih => simpa [pairPieces, Piece.token] using ih

theorem map_token_pieces (d : ServerDirective) : d.pieces.map Piece.token = d.tokens := by
  have hnames (names : List CStr) : names.map (Piece.token ∘ .quoted) = names.map .str := rfl
  cases d <;>
    simp [ServerDirective.pieces, ServerDirective.argPieces, ServerDirective.tokens,
      ServerDirective.args, Piece.token, map_token_pairPieces, hnames, word]

/-! ### Reading what has been printed -/

section Lex

variable {p : UInt8 → Bool} {s rest : List UInt8}

theorem takeWhile_append_of_forall (hs : ∀ b ∈ s, p b = true)
    (hrest : ∀ b ∈ rest.head?, p b = false) : (s ++ rest).takeWhile p = s := by
  rw [List.takeWhile_append_of_pos hs]
  cases rest with
  | nil => simp
  | cons b rest => simp [hrest b rfl]

theorem dropWhile_append_of_forall (hs : ∀ b ∈ s, p b = true)
    (hrest : ∀ b ∈ rest.head?, p b = false) : (s ++ rest).dropWhile p = rest := by
  rw [List.dropWhile_append_of_pos hs]
  cases rest with
  | nil => rfl
  | cons b rest => simp [hrest b rfl]

theorem Blank.dropWhile_append (blank : Blank) (rest : List UInt8) :
    (blank.bytes ++ rest).dropWhile isspace = rest.dropWhile isspace :=
  List.dropWhile_append_of_pos blank.blank

/-- A blank ends a word. -/
theorem Blank.ends (blank : Blank) (rest : List UInt8) :
    ∀ b ∈ (blank.bytes ++ rest).head?, wordByte b = false := by
  intro b hb
  obtain ⟨b', bytes, hbytes⟩ := List.exists_cons_of_ne_nil blank.ne_nil
  rw [hbytes, List.cons_append, List.head?_cons, Option.mem_some_iff] at hb
  have hspace := blank.blank b' (by rw [hbytes]; simp)
  rw [← hb, wordByte, hspace]
  simp

/-- What a byte of a word is not. -/
theorem ne_of_wordByte {b : UInt8} (hb : wordByte b = true) :
    b ≠ 0 ∧ isspace b = false ∧ b ≠ TokenType.blkBegin.char ∧ b ≠ TokenType.blkEnd.char ∧
      b ≠ TokenType.comma.char ∧ b ≠ TokenType.comment.char ∧ b ≠ TokenType.string.char := by
  simpa [wordByte, confLexIstoken, and_assoc] using hb

/-- A word ends at the first byte that cannot be in it. -/
theorem lexTokens_word (hs : s ≠ []) (hword : ∀ b ∈ s, wordByte b = true)
    (hends : ∀ b ∈ rest.head?, wordByte b = false) :
    lexTokens (s ++ rest) = (lexTokens (rest.dropWhile isspace)).cons (.str s) := by
  obtain ⟨b, word, rfl⟩ := List.exists_cons_of_ne_nil hs
  have htake := takeWhile_append_of_forall (fun b h => hword b (List.mem_cons_of_mem _ h)) hends
  have hdrop := dropWhile_append_of_forall (fun b h => hword b (List.mem_cons_of_mem _ h)) hends
  obtain ⟨h0, hspace, h1, h2, h3, h4, h5⟩ := ne_of_wordByte (hword b (by simp))
  rw [lexTokens_eq, List.cons_append, lexStep, if_neg h0, if_neg h1, if_neg h2, if_neg h3,
    if_neg h4, if_neg h5, hspace, if_neg Bool.false_ne_true, htake, hdrop]

/-- A string ends at its quote. -/
theorem lexTokens_string (hs : ∀ b ∈ s, quotedByte b = true) :
    lexTokens (TokenType.string.char :: (s ++ TokenType.string.char :: rest)) =
      (lexTokens (rest.dropWhile isspace)).cons (.str s) := by
  have hends : ∀ b ∈ (TokenType.string.char :: rest).head?, quotedByte b = false := by
    simp [quotedByte]
  rw [lexTokens_eq, lexStep, if_neg (by decide), if_neg (by decide), if_neg (by decide),
    if_neg (by decide), if_neg (by decide), if_pos rfl, takeWhile_append_of_forall hs hends,
    dropWhile_append_of_forall hs hends]
  simp only [ne_eq, not_true_eq_false, if_false]

theorem lexTokens_blkBegin :
    lexTokens (TokenType.blkBegin.char :: rest) =
      (lexTokens (rest.dropWhile isspace)).cons tokBegin := by
  rw [lexTokens_eq, lexStep, if_neg (by decide), if_pos rfl]
  rfl

theorem lexTokens_blkEnd :
    lexTokens (TokenType.blkEnd.char :: rest) =
      (lexTokens (rest.dropWhile isspace)).cons tokEnd := by
  rw [lexTokens_eq, lexStep, if_neg (by decide), if_neg (by decide), if_pos rfl]
  rfl

/-- The lexer gets the token of a piece, and goes on with the text behind the blank. -/
theorem lexTokens_piece (piece : Piece) (hok : piece.Ok) (blank : Blank) :
    lexTokens (piece.text ++ (blank.bytes ++ rest)) =
      (lexTokens (rest.dropWhile isspace)).cons piece.token := by
  cases piece with
  | bare s =>
    rw [Piece.text, lexTokens_word hok.1 hok.2 (blank.ends rest), blank.dropWhile_append]
    rfl
  | quoted s =>
    rw [Piece.text, List.cons_append, List.append_assoc, List.singleton_append,
      lexTokens_string hok, blank.dropWhile_append]
    rfl
  | blkBegin =>
    rw [Piece.text, List.cons_append, List.nil_append, lexTokens_blkBegin, blank.dropWhile_append]
    rfl
  | blkEnd =>
    rw [Piece.text, List.cons_append, List.nil_append, lexTokens_blkEnd, blank.dropWhile_append]
    rfl

/-- A piece does not start with a blank. -/
theorem Piece.dropWhile_text (piece : Piece) (hok : piece.Ok) (rest : List UInt8) :
    (piece.text ++ rest).dropWhile isspace = piece.text ++ rest := by
  cases piece with
  | bare s =>
    obtain ⟨b, word, rfl⟩ := List.exists_cons_of_ne_nil hok.1
    obtain ⟨-, hspace, -⟩ := ne_of_wordByte (hok.2 b (by simp))
    rw [Piece.text, List.cons_append, List.dropWhile_cons_of_neg (by simp [hspace])]
  | quoted s => rfl
  | blkBegin => rfl
  | blkEnd => rfl

/-- The lexer gets the tokens of the pieces, and goes on with the text behind them. -/
theorem lexTokens_printed (pieces : List (Piece × Blank)) (hok : ∀ p ∈ pieces, p.1.Ok)
    (rest : List UInt8) :
    lexTokens ((Piece.printed pieces ++ rest).dropWhile isspace) =
      (pieces.map fun p => p.1.token).foldr Tokens.cons (lexTokens (rest.dropWhile isspace)) := by
  induction pieces with
  | nil => rfl
  | cons p pieces ih =>
    have hp := hok p (by simp)
    rw [Piece.printed, List.flatMap_cons, List.append_assoc, List.append_assoc,
      p.1.dropWhile_text hp, lexTokens_piece p.1 hp p.2]
    rw [List.map_cons, List.foldr_cons, ← ih fun p hp => hok p (List.mem_cons_of_mem _ hp)]
    rfl

end Lex

end Irccd
