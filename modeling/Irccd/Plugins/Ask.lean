import Irccd.Foundations.Runs
import Irccd.Js.File
import Irccd.Plugins.Basic

/-!
# The plugin ask (`ask.js`)

A command is answered with a line of a file, which is drawn at random. The loop of `onLoad` stops at
an empty line, which is false, where it is to skip it.

* `Ask`, `onLoad`, `onCommand`: the answers and the handlers;
* `readAnswers_eq`: what the loop reads;
* `Ask.answers_iff`: exactly when all lines of the file are answers, and nothing else.
-/

namespace Irccd

namespace Ask

/-- A call of `server.message`. -/
structure Sent where
  server : CStr
  channel : CStr
  text : CStr
  deriving DecidableEq

end Ask

/-- The answers, and the messages sent. -/
structure Ask where
  answers : List CStr
  sent : List Ask.Sent

namespace Ask

/-- The plugin before it is loaded. -/
def start : Ask := { answers := [cstr "Yes", cstr "No"], sent := [] }

/-- The loop of `onLoad`: an empty line ends it, as the end of the file does. -/
def readAnswers (f : JsFile) (answers : List CStr) : List CStr :=
  match h : f.readline with
  | (none, _) => answers
  | (some line, f') =>
    have := (JsFile.texts_of_readline h).2
    if line = [] then answers
    else readAnswers f' (if 0 < line.length then answers ++ [line] else answers)
termination_by f.rest.length

section Functions

variable (s : Ask)

/-- `onLoad`, which is `onReload` too, with what is in the file if it can be opened. -/
def onLoad : Option (List UInt8) → Ask
  | some data => { s with answers := readAnswers (.opened data) [] }
  -- the constructor throws before the answers are reset
  | none => s

/-- `answers[Math.floor(Math.random() * answers.length)]` -/
def response (r : Random) : Option CStr := s.answers[r.below s.answers.length]?

/-- `onCommand` -/
def onCommand (server origin channel : CStr) (r : Random) : Ask :=
  let text := splituser origin ++ cstr ", " ++ (s.response r).getD (cstr "undefined")
  { s with sent := s.sent ++ [⟨server, channel, text⟩] }

end Functions

/-- What happens to the plugin. -/
inductive Action
  | load (file : Option (List UInt8))
  | command (server origin channel : CStr) (r : Random)

/-- A handler is called. -/
def step (s : Ask) : Action → Option Ask
  | .load file => some (s.onLoad file)
  | .command server origin channel r => some (s.onCommand server origin channel r)

/-! ## What is answered -/

/-- The lines of a file that are not empty. -/
def entries (data : List UInt8) : List CStr := (JsFile.texts data).filter (· ≠ [])

/-- The plugin, with the lines of the last file that could be opened. -/
def tracked (p : Ask × List CStr) (a : Action) : Option (Ask × List CStr) :=
  (step p.1 a).map fun s => (s, match a with
    | .load (some data) => entries data
    | _ => p.2)

/-- Every line may be the answer, and nothing else. -/
def Fair (p : Ask × List CStr) : Prop :=
  (∀ r, p.1.response r ≠ none) ∧ ∀ l, (∃ r, p.1.response r = some l) ↔ l ∈ p.2

/-- The first line is not empty, and each line that is not occurs before the first empty one. -/
def Dense (lines : List CStr) : Prop :=
  lines.takeWhile (· ≠ []) ≠ [] ∧ ∀ l ∈ lines, l ≠ [] → l ∈ lines.takeWhile (· ≠ [])

section Lemmas

variable {s : Ask} {p p' : Ask × List CStr} {a : Action}

/-- The loop reads the lines up to the first empty one. -/
theorem readAnswers_eq (f : JsFile) (answers : List CStr) :
    readAnswers f answers = answers ++ (JsFile.texts f.rest).takeWhile (· ≠ []) := by
  fun_induction readAnswers f answers with
  | case1 f answers f' h =>
    rw [JsFile.rest_of_readline_none h]
    simp
  | case2 f answers f' h _ =>
    rw [(JsFile.texts_of_readline h).1]
    simp
  | case3 f answers line f' h _ hne ih =>
    rw [dite_eq_ite] at ih
    rw [ih, if_pos (List.length_pos_iff.2 hne), (JsFile.texts_of_readline h).1,
      List.takeWhile_cons_of_pos (by simpa using hne), List.append_assoc]
    rfl

/-- Every answer may be drawn. -/
theorem exists_response_iff {l : CStr} : (∃ r, s.response r = some l) ↔ l ∈ s.answers := by
  constructor
  · rintro ⟨r, hr⟩
    exact List.mem_of_getElem? hr
  · intro hl
    obtain ⟨i, hi, rfl⟩ := List.getElem_of_mem hl
    have hpos : 0 < s.answers.length := Nat.zero_lt_of_lt hi
    refine ⟨⟨i, s.answers.length, hi⟩, ?_⟩
    rw [response, Random.below, Nat.mul_div_cancel _ hpos, List.getElem?_eq_getElem hi]

theorem response_ne_none_iff : (∀ r, s.response r ≠ none) ↔ s.answers ≠ [] := by
  constructor
  · intro hall hnil
    exact hall ⟨0, 1, Nat.zero_lt_one⟩ (by rw [response, hnil]; rfl)
  · intro hne r
    have hlt := r.below_lt (List.length_pos_iff.2 hne)
    rw [response, List.getElem?_eq_getElem hlt]
    exact Option.some_ne_none _

/-- After a file has been read the plugin is fair exactly when the loop has reached all lines. -/
theorem fair_onLoad_iff (data : List UInt8) :
    Fair (s.onLoad (some data), entries data) ↔ Dense (JsFile.texts data) := by
  have hanswers : (s.onLoad (some data)).answers = (JsFile.texts data).takeWhile (· ≠ []) :=
    readAnswers_eq (.opened data) []
  rw [Fair, response_ne_none_iff, hanswers, Dense]
  refine and_congr_right fun _ => ?_
  simp only [exists_response_iff, hanswers, entries, List.mem_filter, decide_eq_true_eq]
  constructor
  · intro hall l hl hne
    exact (hall l).2 ⟨hl, hne⟩
  · intro hall l
    refine ⟨fun hl => ?_, fun hl => hall l hl.1 hl.2⟩
    exact ⟨(List.takeWhile_prefix _).subset hl, by simpa using List.mem_takeWhile_imp hl⟩

/-- Only the file that is read decides. -/
theorem Fair.step (h : Fair p) (hstep : tracked p a = some p') :
    Fair p' ↔ ∀ data, a = .load (some data) → Dense (JsFile.texts data) := by
  obtain ⟨s, lines⟩ := p
  cases a with
  | load file =>
    cases file with
    | none =>
      cases hstep
      exact iff_of_true h nofun
    | some data =>
      cases hstep
      rw [fair_onLoad_iff]
      constructor
      · intro hdense data' heq
        cases heq
        exact hdense
      · intro hall
        exact hall data rfl
  | command server origin channel r =>
    cases hstep
    exact iff_of_true h nofun

end Lemmas

/-- In every run, each command may be answered with every line of the last file that could be
opened, less the empty ones, and with nothing else, if and only if in each file the first line is
not empty and each other occurs before the first empty one. -/
theorem answers_iff (as : List Action) :
    Runs.AllStates tracked Fair (start, start.answers) as ↔
      Runs.AllSteps tracked
        (fun _ a _ => ∀ data, a = .load (some data) → Dense (JsFile.texts data))
        (start, start.answers) as := by
  refine Runs.allStates_iff_allSteps (I := Fair) (fun p a p' h hstep => (h.step hstep).2)
    (fun _ h => h) (fun p a p' h hstep => mt (h.step hstep).1) ?_
  exact ⟨response_ne_none_iff.2 (List.cons_ne_nil _ _), fun l => exists_response_iff⟩

end Ask

end Irccd
