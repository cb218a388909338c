import Irccd.Conf.Lexer
import Irccd.Foundations.Programs

/-!
# The tokens between the lexer and the parser (`conf.c`)

The lexer pushes a token and waits until the parser takes it. The parser takes a token, or waits
for one, and it may put the token back that it has just taken.

* `Coroutines`: the lexer, and the objects stored for the parser;
* `Op`: the operations of the parser on the tokens;
* `Op.verdict`, `Op.onTokens`: what they do to a list of tokens;
* `answer_related`: what they do to the coroutines is the same;
* `tokens_intact`: so every sequence of them gets the tokens of the file.
-/

namespace Irccd

open Programs

/-! ## The coroutines -/

/-- The text, where the lexer is suspended in it, and the objects that wait for the parser. -/
structure Coroutines where
  src : ConfText
  lex : LexPoint
  store : List (Token ℕ)
  deriving DecidableEq

/-- The coroutines of `conf_open`, once they are spawned. -/
def spawn (file : List UInt8) : Coroutines := { src := confText file, lex := .start, store := [] }

namespace Coroutines

variable (m : Coroutines)

/-- `nce_coro_queue`: an object goes back without a yield. -/
def queue (token : Token ℕ) : Coroutines := { m with store := token :: m.store }

/-- The loop of `conf_open` resumes the lexer, until it calls `nce_coro_push` or returns. -/
def resumeLex : RunResult Halt Coroutines Unit :=
  match confLexResume m.src m.lex with
  | .push token lex src => (.ok (), { src, lex, store := m.store ++ [token] })
  | .returns src => (.error .ended, { m with src, lex := .returned })
  | .stop why src => (.error why, { m with src })

/-- `nce_coro_pull`: without an object, the parser yields until there is one. -/
def pull : RunResult Halt Coroutines (Token ℕ) :=
  match m.store with
  | token :: store => (.ok token, { m with store })
  | [] => m.resumeLex.andThen fun _ m =>
    match m.store with
    | token :: store => (.ok token, { m with store })
    | [] => (.error .ended, m)

/-! ## The operations of the parser -/

/-- `conf_next`: the parser is stopped at the end. -/
def confNext : RunResult Halt Coroutines (Token ℕ) :=
  m.pull.andThen fun token m =>
    if token.type = .eof then (.error .off, m) else (.ok token, m)

/-- `conf_next_is`: the token is put back when it does not match. -/
def confNextIs (type : TokenType) : RunResult Halt Coroutines (Bool × Token ℕ) :=
  m.pull.andThen fun token m =>
    if token.type ≠ type then (.ok (false, token), m.queue token) else (.ok (true, token), m)

/-- `conf_string_is` -/
def confStringIs (what : CStr) : RunResult Halt Coroutines (Bool × Token ℕ) :=
  (m.confNextIs .string).andThen fun (rc, token) m =>
    if rc then
      if (m.src.see token).data = some what then (.ok (true, token), m)
      else (.ok (false, token), m.queue token)
    else (.ok (false, token), m)

/-- `conf_string` -/
def confString : RunResult Halt Coroutines (Token ℕ) :=
  m.confNext.andThen fun token m =>
    if token.type ≠ .string then (.error (.fatal (cstr "string expected")), m)
    else (.ok token, m)

/-- `conf_begin_is` -/
def confBeginIs : RunResult Halt Coroutines (Bool × Token ℕ) := m.confNextIs .blkBegin

end Coroutines

/-- The operations of the parser on the tokens. -/
inductive Op
  | next
  | nextIs (type : TokenType)
  | stringIs (what : CStr)
  | string
  | beginIs
  deriving DecidableEq

namespace Op

/-- An operation: whether it keeps a token, and the token that it has looked at. -/
def perform (m : Coroutines) : Op → RunResult Halt Coroutines (Bool × Token ℕ)
  | next => m.confNext.andThen fun token m => (.ok (true, token), m)
  | nextIs type => m.confNextIs type
  | stringIs what => m.confStringIs what
  | string => m.confString.andThen fun token m => (.ok (true, token), m)
  | beginIs => m.confBeginIs

/-- The parser reads the data of the token, before the next operation. -/
def answer (op : Op) (m : Coroutines) : RunResult Halt Coroutines (Bool × Token CStr) :=
  (op.perform m).andThen fun (rc, token) m => (.ok (rc, m.src.see token), m)

/-! ## The operations on a list of tokens -/

/-- Whether an operation keeps a token. -/
def verdict (token : Token CStr) : Op → Except Halt Bool
  | next => if token.type = .eof then .error .off else .ok true
  | nextIs type => .ok (token.type = type)
  | stringIs what => .ok (token.type = .string ∧ token.data = some what)
  | string =>
    if token.type = .eof then .error .off
    else if token.type ≠ .string then .error (.fatal (cstr "string expected"))
    else .ok true
  | beginIs => .ok (token.type = .blkBegin)

/-- An operation looks at the first token, and takes it off the list when it keeps it. -/
def onTokens (op : Op) : Tokens → RunResult Halt Tokens (Bool × Token CStr)
  | ⟨[], stop⟩ => (.error stop, ⟨[], stop⟩)
  | ⟨token :: toks, stop⟩ =>
    match op.verdict token with
    | .ok true => (.ok (true, token), ⟨toks, stop⟩)
    | .ok false => (.ok (false, token), ⟨token :: toks, stop⟩)
    | .error why => (.error why, ⟨toks, stop⟩)

end Op

/-! ## The coroutines and the list -/

namespace Coroutines

/-- The tokens that the parser has not taken: those that are stored, with the strings that can be
read now, and those that the lexer is going to find. -/
def upcoming (m : Coroutines) : Tokens :=
  { m.lex.upcoming m.src with toks := m.store.map m.src.see ++ (m.lex.upcoming m.src).toks }

/-- The coroutines have these tokens to come, and store at most one of them. -/
def Offers (m : Coroutines) (ts : Tokens) : Prop := m.upcoming = ts ∧ m.store.length ≤ 1

/-- A token has been taken, which reads as `t`, and none is stored. -/
def Taken (t : Token CStr) (ts : Tokens) (token : Token ℕ) (m : Coroutines) : Prop :=
  m.src.see token = t ∧ m.upcoming = ts ∧ m.store = []

variable {m : Coroutines} {ts : Tokens} {token : Token ℕ} {t : Token CStr}

theorem Taken.offers (h : Taken t ts token m) : m.Offers ts :=
  ⟨h.2.1, by rw [h.2.2]; exact Nat.zero_le 1⟩

/-- The token goes back. -/
theorem Taken.queue (h : Taken t ts token m) : (m.queue token).Offers (ts.cons t) := by
  obtain ⟨rfl, rfl, hstore⟩ := h
  constructor
  · simp [upcoming, Coroutines.queue, Tokens.cons]
  · simp [Coroutines.queue, hstore]

/-- `nce_coro_pull` takes the first of the tokens to come. -/
theorem pull_eq_ok {toks : List (Token CStr)} {stop : Halt} (h : m.Offers ⟨t :: toks, stop⟩) :
    ∃ token m', m.pull = (.ok token, m') ∧ Taken t ⟨toks, stop⟩ token m' := by
  obtain ⟨src, lex, store⟩ := m
  obtain ⟨hup, hlen⟩ := h
  match store, hlen with
  | [], _ =>
    -- the store is empty, and the lexer is resumed for one token
    have hresume := foretell_confLexResume lex src
    change lex.upcoming src = _ at hup
    rw [hup] at hresume
    rw [pull, resumeLex]
    dsimp only
    cases hlex : confLexResume src lex with
    | push token lex' src' =>
      rw [hlex] at hresume
      simp only [Tokens.Foretell, Tokens.cons, Tokens.mk.injEq, List.cons.injEq] at hresume
      obtain ⟨⟨rfl, rfl⟩, rfl⟩ := hresume
      exact ⟨token, ⟨src', lex', []⟩, rfl, rfl, rfl, rfl⟩
    | returns src' =>
      rw [hlex] at hresume
      cases hresume
    | stop why src' =>
      rw [hlex] at hresume
      cases hresume
  | [token], _ =>
    -- the token that was pushed is still there
    simp only [upcoming, List.map_cons, List.map_nil, List.cons_append, List.nil_append,
      Tokens.mk.injEq, List.cons.injEq] at hup
    obtain ⟨⟨rfl, rfl⟩, rfl⟩ := hup
    exact ⟨token, ⟨src, lex, []⟩, rfl, rfl, rfl, rfl⟩

/-- Without a token to come, the parser stops where the lexer has stopped. -/
theorem pull_eq_error {stop : Halt} (h : m.Offers ⟨[], stop⟩) :
    ∃ m', m.pull = (.error stop, m') ∧ m'.store = [] := by
  obtain ⟨src, lex, store⟩ := m
  obtain ⟨hup, -⟩ := h
  have hstore : store = [] := by
    simp only [upcoming, Tokens.mk.injEq, List.append_eq_nil_iff, List.map_eq_nil_iff] at hup
    exact hup.1.1
  subst hstore
  have hresume := foretell_confLexResume lex src
  change lex.upcoming src = _ at hup
  rw [hup] at hresume
  rw [pull, resumeLex]
  dsimp only
  cases hlex : confLexResume src lex with
  | push token lex' src' =>
    rw [hlex] at hresume
    cases hresume
  | returns src' =>
    rw [hlex] at hresume
    cases hresume
    exact ⟨_, rfl, rfl⟩
  | stop why src' =>
    rw [hlex] at hresume
    cases hresume
    exact ⟨_, rfl, rfl⟩

end Coroutines

/-- An operation that stops the parser leaves nothing stored. -/
def Stopped (m : Coroutines) (_ : Tokens) : Prop := m.store = []

section Answers

variable {m m' : Coroutines} {token : Token ℕ} {t : Token CStr} {toks : List (Token CStr)}
  {stop : Halt}

theorem type_of_see (h : m.src.see token = t) : token.type = t.type := by
  rw [← h]
  rfl

theorem answer_next (hpull : m.pull = (.ok token, m'))
    (htaken : Coroutines.Taken t ⟨toks, stop⟩ token m') :
    Related Coroutines.Offers Stopped (Op.next.answer m) (Op.next.onTokens ⟨t :: toks, stop⟩) := by
  have htype := type_of_see htaken.1
  simp only [Op.answer, Op.perform, Coroutines.confNext, hpull, RunResult.andThen_ok, htype,
    Op.onTokens, Op.verdict]
  by_cases heof : t.type = .eof
  · simp only [if_pos heof, RunResult.andThen_error]
    exact ⟨rfl, htaken.2.2⟩
  · simp only [if_neg heof, RunResult.andThen_ok, htaken.1]
    exact ⟨rfl, htaken.offers⟩

theorem answer_nextIs {type : TokenType} (hpull : m.pull = (.ok token, m'))
    (htaken : Coroutines.Taken t ⟨toks, stop⟩ token m') :
    Related Coroutines.Offers Stopped ((Op.nextIs type).answer m)
      ((Op.nextIs type).onTokens ⟨t :: toks, stop⟩) := by
  have htype := type_of_see htaken.1
  simp only [Op.answer, Op.perform, Coroutines.confNextIs, hpull, RunResult.andThen_ok, htype,
    Op.onTokens, Op.verdict]
  by_cases heq : t.type = type
  · simp only [ne_eq, heq, not_true_eq_false, if_false, RunResult.andThen_ok, htaken.1,
      decide_true]
    exact ⟨rfl, htaken.offers⟩
  · simp only [ne_eq, heq, not_false_eq_true, if_true, RunResult.andThen_ok, decide_false]
    exact ⟨congrArg (Prod.mk false) htaken.1, htaken.queue⟩

theorem answer_stringIs {what : CStr} (hpull : m.pull = (.ok token, m'))
    (htaken : Coroutines.Taken t ⟨toks, stop⟩ token m') :
    Related Coroutines.Offers Stopped ((Op.stringIs what).answer m)
      ((Op.stringIs what).onTokens ⟨t :: toks, stop⟩) := by
  have htype := type_of_see htaken.1
  simp only [Op.answer, Op.perform, Coroutines.confStringIs, Coroutines.confNextIs, hpull,
    RunResult.andThen_ok, htype, Op.onTokens, Op.verdict]
  by_cases heq : t.type = .string
  · simp only [ne_eq, heq, not_true_eq_false, if_false, RunResult.andThen_ok, if_true, htaken.1,
      true_and]
    by_cases hwhat : t.data = some what
    · simp only [hwhat, if_true, RunResult.andThen_ok, htaken.1, decide_true]
      exact ⟨rfl, htaken.offers⟩
    · simp only [hwhat, if_false, RunResult.andThen_ok, decide_false]
      exact ⟨congrArg (Prod.mk false) htaken.1, htaken.queue⟩
  · simp only [ne_eq, heq, not_false_eq_true, if_true, RunResult.andThen_ok, Bool.false_eq_true,
      if_false, false_and, decide_false]
    exact ⟨congrArg (Prod.mk false) htaken.1, htaken.queue⟩

theorem answer_string (hpull : m.pull = (.ok token, m'))
    (htaken : Coroutines.Taken t ⟨toks, stop⟩ token m') :
    Related Coroutines.Offers Stopped (Op.string.answer m)
      (Op.string.onTokens ⟨t :: toks, stop⟩) := by
  have htype := type_of_see htaken.1
  simp only [Op.answer, Op.perform, Coroutines.confString, Coroutines.confNext, hpull,
    RunResult.andThen_ok, htype, Op.onTokens, Op.verdict]
  by_cases heof : t.type = .eof
  · simp only [if_pos heof, RunResult.andThen_error]
    exact ⟨rfl, htaken.2.2⟩
  by_cases hstr : t.type = .string
  · simp only [hstr, reduceCtorEq, if_false, RunResult.andThen_ok, htype, ne_eq, not_true_eq_false,
      htaken.1]
    exact ⟨rfl, htaken.offers⟩
  · simp only [heof, if_false, RunResult.andThen_ok, htype, ne_eq, hstr, not_false_eq_true, if_true,
      RunResult.andThen_error]
    exact ⟨rfl, htaken.2.2⟩

/-- Every operation does to the coroutines what it does to the tokens that they have to come. -/
theorem answer_related (op : Op) (m : Coroutines) (ts : Tokens) (h : m.Offers ts) :
    Related Coroutines.Offers Stopped (op.answer m) (op.onTokens ts) := by
  obtain ⟨toks, stop⟩ := ts
  cases toks with
  | nil =>
    obtain ⟨m', hpull, hstore⟩ := Coroutines.pull_eq_error h
    cases op <;>
      simp [Op.answer, Op.perform, Op.onTokens, Coroutines.confNext, Coroutines.confNextIs,
        Coroutines.confStringIs, Coroutines.confString, Coroutines.confBeginIs, hpull, Related,
        Stopped, hstore]
  | cons t toks =>
    obtain ⟨token, m', hpull, htaken⟩ := Coroutines.pull_eq_ok h
    cases op with
    | next => exact answer_next hpull htaken
    | nextIs type => exact answer_nextIs hpull htaken
    | stringIs what => exact answer_stringIs hpull htaken
    | string => exact answer_string hpull htaken
    | beginIs => exact answer_nextIs hpull htaken

end Answers

/-! ## Any sequence of operations -/

/-- The answers to a sequence of operations, up to one that stops the parser, and the coroutines
afterwards. -/
def performs : List Op → Coroutines → List (Bool × Token CStr) × Coroutines
  | [], m => ([], m)
  | op :: ops, m =>
    match op.answer m with
    | (.ok answer, m) => (answer :: (performs ops m).1, (performs ops m).2)
    | (.error _, m) => ([], m)

/-- What a sequence of operations answers, up to one that stops the parser. -/
def outcomes {σ : Type} (answer : Op → σ → RunResult Halt σ (Bool × Token CStr)) :
    List Op → σ → List (Except Halt (Bool × Token CStr))
  | [], _ => []
  | op :: ops, s =>
    match answer op s with
    | (.ok a, s) => .ok a :: outcomes answer ops s
    | (.error why, _) => [.error why]

/-- The tokens that the parser has kept. -/
def kept (answers : List (Bool × Token CStr)) : List (Token CStr) :=
  (answers.filter (·.1)).map (·.2)

/-- The tokens of a text are taken in order, with at most one stored, and an operation looks at
the one behind those that the parser has kept. -/
structure Intact (toks : List (Token CStr)) (answers : List (Bool × Token CStr))
    (m : Coroutines) : Prop where
  isPrefix_kept : kept answers ++ m.store.map m.src.see <+: toks
  store_le_one : m.store.length ≤ 1
  seen : ∀ i a, answers[i]? = some a → toks[(kept (answers.take i)).length]? = some a.2

section Intact

variable {m : Coroutines} {toks : List (Token CStr)} {t : Token CStr}
  {answers : List (Bool × Token CStr)}

/-- Nothing has been done yet. -/
theorem Intact.nil (h : m.Offers ⟨toks, stop⟩) : Intact toks [] m := by
  obtain ⟨hup, hlen⟩ := h
  refine ⟨⟨(m.lex.upcoming m.src).toks, ?_⟩, hlen, by simp⟩
  exact congrArg Tokens.toks hup

/-- An answer that keeps the first token, before the others. -/
theorem Intact.keep (h : Intact toks answers m) : Intact (t :: toks) ((true, t) :: answers) m := by
  refine ⟨?_, h.store_le_one, fun i a ha => ?_⟩
  · exact (List.prefix_cons_inj t).2 h.isPrefix_kept
  · cases i with
    | zero =>
      obtain rfl : (true, t) = a := by simpa using ha
      rfl
    | succ i => exact h.seen i a (by simpa using ha)

/-- An answer that leaves the first token, before the others. -/
theorem Intact.leave (h : Intact (t :: toks) answers m) :
    Intact (t :: toks) ((false, t) :: answers) m := by
  refine ⟨h.isPrefix_kept, h.store_le_one, fun i a ha => ?_⟩
  cases i with
  | zero =>
    obtain rfl : (false, t) = a := by simpa using ha
    rfl
  | succ i => exact h.seen i a (by simpa using ha)

theorem stopped_of_related {op : Op} {m m' : Coroutines} {why : Halt} {ts : Tokens}
    (hop : op.answer m = (.error why, m'))
    (hrel : Related Coroutines.Offers Stopped (op.answer m) (op.onTokens ts)) :
    m'.store = [] := by
  rw [hop] at hrel
  match op.onTokens ts, hrel with
  | (.error _, _), hrel => exact hrel.2

theorem intact_performs (ops : List Op) : ∀ (m : Coroutines) (ts : Tokens), m.Offers ts →
    Intact ts.toks (performs ops m).1 (performs ops m).2 := by
  induction ops with
  | nil => exact fun m ts h => .nil h
  | cons op ops ih =>
    intro m ts h
    -- the operation keeps or leaves the first token, on the queue as on the list
    have hrel := answer_related op m ts h
    rw [performs]
    cases hop : op.answer m with
    | mk result m' =>
      cases result with
      | error why =>
        have hstore : m'.store = [] := stopped_of_related hop hrel
        exact ⟨by simp [kept, hstore], by simp [hstore], by simp⟩
      | ok answer =>
        rw [hop] at hrel
        obtain ⟨toks, stop⟩ := ts
        cases toks with
        | nil => exact absurd hrel id
        | cons t toks =>
          rw [Op.onTokens] at hrel
          cases hverdict : op.verdict t with
          | error why =>
            rw [hverdict] at hrel
            exact absurd hrel id
          | ok keeps =>
            rw [hverdict] at hrel
            cases keeps with
            | true =>
              obtain ⟨rfl, hoffers⟩ := hrel
              exact (ih m' _ hoffers).keep
            | false =>
              obtain ⟨rfl, hoffers⟩ := hrel
              exact (ih m' _ hoffers).leave

/-- The coroutines answer as the list of the tokens that they have to come. -/
theorem outcomes_eq (ops : List Op) : ∀ (m : Coroutines) (ts : Tokens), m.Offers ts →
    outcomes Op.answer ops m = outcomes Op.onTokens ops ts := by
  induction ops with
  | nil => exact fun m ts h => rfl
  | cons op ops ih =>
    intro m ts h
    have hrel := answer_related op m ts h
    rw [outcomes, outcomes]
    -- both go on with what is left, or both are stopped
    match op.answer m, op.onTokens ts, hrel with
    | (.ok _, m'), (.ok _, ts'), ⟨rfl, hoffers⟩ => exact congrArg _ (ih m' ts' hoffers)
    | (.error _, _), (.error _, _), ⟨rfl, _⟩ => rfl

end Intact

/-- The tokens of a file. -/
def fileTokens (file : List UInt8) : Tokens := lexTokens (confText file).text

theorem offers_spawn (file : List UInt8) : (spawn file).Offers (fileTokens file) :=
  ⟨rfl, Nat.zero_le 1⟩

/-- Whatever the parser does, each operation answers as it would on what is left of the tokens of
the file, and these are taken in order. -/
theorem tokens_intact (file : List UInt8) (ops : List Op) :
    outcomes Op.answer ops (spawn file) = outcomes Op.onTokens ops (fileTokens file) ∧
      Intact (fileTokens file).toks (performs ops (spawn file)).1 (performs ops (spawn file)).2 :=
  ⟨outcomes_eq ops _ _ (offers_spawn file), intact_performs ops _ _ (offers_spawn file)⟩

end Irccd
