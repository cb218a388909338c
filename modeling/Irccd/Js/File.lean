import Mathlib.Data.List.TakeWhile
import Irccd.CString
import Irccd.Foundations.Lines

/-!
# Files of the scripts (`jsapi-file.c`)

A script reads a file line by line. `getline` takes a line with its newline, of which the script
gets what comes before the first carriage return, newline or NUL.

* `JsFile`: a file that is open for reading;
* `readline`, `lines`: the methods;
* `texts`: the lines of a file, as the methods give them;
* `readline_cases`, `lines_eq`: the methods give them in order, and none twice.
-/

namespace Irccd

/-- A file that is open, and how much of it has been read. -/
structure JsFile where
  data : List UInt8
  pos : ℕ

namespace JsFile

/-- `new File (path, "r")` -/
def opened (data : List UInt8) : JsFile := { data, pos := 0 }

/-- What has not been read. -/
def rest (f : JsFile) : List UInt8 := f.data.drop f.pos

/-- `getline` at the end of a file has no line. -/
def getline (f : JsFile) : Option (List UInt8) × JsFile :=
  if f.rest = [] then (none, f)
  else
    let line := f.rest.takeWhile (· != LF) ++ (f.rest.dropWhile (· != LF)).take 1
    (some line, { f with pos := f.pos + line.length })

/-- `line[strcspn (line, "\r\n")] = 0`, then `duk_push_string (ctx, line)`. -/
def lineText (line : List UInt8) : CStr := line.takeWhile fun c => c != 0 && c != CR && c != LF

/-- `File_prototype_readline`: undefined at the end of the file. -/
def readline (f : JsFile) : Option CStr × JsFile := (f.getline.1.map lineText, f.getline.2)

section Lemmas

variable {f : JsFile} {l s data : List UInt8}

theorem rest_drop (f : JsFile) (n : ℕ) :
    ({ f with pos := f.pos + n } : JsFile).rest = f.rest.drop n := by
  rw [rest, rest, List.drop_drop]

/-- The newline that ends a line is not part of its text. -/
theorem lineText_append (l : List UInt8) : lineText (l ++ [LF]) = lineText l := by
  rw [lineText, lineText, List.takeWhile_append]
  split
  · rename_i hall
    have hnot : ([LF] : List UInt8).takeWhile (fun c => c != 0 && c != CR && c != LF) = [] := by
      decide
    rw [hnot, List.append_nil, List.takeWhile_eq_self_iff.2]
    exact List.takeWhile_eq_self_iff.1 (List.takeWhile_prefix _ |>.eq_of_length hall)
  · rfl

theorem takeWhile_line (h : LF ∉ l) (s : List UInt8) :
    (l ++ LF :: s).takeWhile (· != LF) = l ∧ (l ++ LF :: s).dropWhile (· != LF) = LF :: s := by
  have hall : ∀ c ∈ l, (c != LF) = true := by
    intro c hc
    rw [bne_iff_ne]
    rintro rfl
    exact h hc
  constructor
  · rw [List.takeWhile_append_of_pos hall]
    simp
  · rw [List.dropWhile_append_of_pos hall]
    simp

/-- A line that is complete is read with its newline. -/
theorem readline_line (h : LF ∉ l) (hrest : f.rest = l ++ LF :: s) :
    f.readline.1 = some (lineText l) ∧ f.readline.2.rest = s := by
  obtain ⟨htake, hdrop⟩ := takeWhile_line h s
  have hne : f.rest ≠ [] := by
    rw [hrest]
    exact List.append_ne_nil_of_right_ne_nil _ (List.cons_ne_nil _ _)
  rw [readline, getline, if_neg hne, hrest, htake, hdrop]
  constructor
  · show some (lineText (l ++ [LF])) = _
    rw [lineText_append]
  · show ({ f with pos := f.pos + (l ++ [LF]).length } : JsFile).rest = s
    have hline : l ++ LF :: s = (l ++ [LF]) ++ s := List.append_cons l LF s
    rw [rest_drop, hrest, hline]
    exact List.drop_left

/-- The end of the file ends the last line. -/
theorem readline_last (h : LF ∉ f.rest) (hne : f.rest ≠ []) :
    f.readline.1 = some (lineText f.rest) ∧ f.readline.2.rest = [] := by
  have hall : ∀ c ∈ f.rest, (c != LF) = true := by
    intro c hc
    rw [bne_iff_ne]
    rintro rfl
    exact h hc
  have hline : f.rest.takeWhile (· != LF) ++ (f.rest.dropWhile (· != LF)).take 1 = f.rest := by
    rw [List.takeWhile_eq_self_iff.2 hall, List.dropWhile_eq_nil_iff.2 hall, List.take_nil,
      List.append_nil]
  rw [readline, getline, if_neg hne]
  dsimp only
  rw [hline]
  refine ⟨rfl, ?_⟩
  rw [rest_drop, List.drop_length]

theorem readline_end (h : f.rest = []) : f.readline = (none, f) := by
  rw [readline, getline, if_pos h]
  rfl

/-- The texts of the lines, the last of which may have no newline. -/
def texts (data : List UInt8) : List CStr :=
  let (lines, last) := Lines.cut LF data
  (lines ++ if last = [] then [] else [last]).map lineText

@[simp] theorem texts_nil : texts [] = [] := rfl

theorem texts_line (h : LF ∉ l) (s : List UInt8) :
    texts (l ++ LF :: s) = lineText l :: texts s := by
  rw [texts, Lines.cut_line h]
  rfl

theorem texts_last (h : LF ∉ data) (hne : data ≠ []) : texts data = [lineText data] := by
  rw [texts, Lines.cut_of_not_mem h]
  dsimp only
  rw [if_neg hne]
  rfl

/-- Nothing is left, or a line is read and the lines that are left are the others. -/
theorem readline_cases (f : JsFile) :
    f.rest = [] ∧ f.readline = (none, f) ∨
    ∃ text f', f.readline = (some text, f') ∧ texts f.rest = text :: texts f'.rest ∧
      f'.rest.length < f.rest.length := by
  by_cases hnil : f.rest = []
  · exact .inl ⟨hnil, readline_end hnil⟩
  · right
    by_cases hmem : LF ∈ f.rest
    · obtain ⟨l, s, hrest, hl⟩ := List.eq_append_cons_of_mem hmem
      obtain ⟨htext, hafter⟩ := readline_line hl hrest
      refine ⟨_, f.readline.2, Prod.ext htext rfl, ?_, ?_⟩
      · rw [hrest, texts_line hl, hafter]
      · rw [hafter, hrest, List.length_append, List.length_cons]
        omega
    · obtain ⟨htext, hafter⟩ := readline_last hmem hnil
      refine ⟨_, f.readline.2, Prod.ext htext rfl, ?_, ?_⟩
      · rw [texts_last hmem hnil, hafter]
        rfl
      · rw [hafter]
        exact List.length_pos_iff.2 hnil

theorem rest_of_readline_none {f f' : JsFile} (h : f.readline = (none, f')) : f.rest = [] := by
  rcases f.readline_cases with ⟨hrest, -⟩ | ⟨text, f'', hsome, -, -⟩
  · exact hrest
  · cases hsome.symm.trans h

theorem texts_of_readline {f f' : JsFile} {text : CStr} (h : f.readline = (some text, f')) :
    texts f.rest = text :: texts f'.rest ∧ f'.rest.length < f.rest.length := by
  rcases f.readline_cases with ⟨-, hnone⟩ | ⟨text', f'', hsome, htexts, hlt⟩
  · cases hnone.symm.trans h
  · cases hsome.symm.trans h
    exact ⟨htexts, hlt⟩

end Lemmas

/-- The loop of `File_prototype_lines`. -/
def lines (f : JsFile) : List CStr :=
  match h : f.readline with
  | (none, _) => []
  | (some text, f') =>
    have := (texts_of_readline h).2
    text :: lines f'
termination_by f.rest.length

/-- All lines that are left are read, in order. -/
theorem lines_eq (f : JsFile) : f.lines = texts f.rest := by
  fun_induction lines f with
  | case1 f f' h =>
    rw [rest_of_readline_none h]
    rfl
  | case2 f text f' h _ ih => rw [ih, (texts_of_readline h).1]

end JsFile

end Irccd
