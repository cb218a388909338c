import Irccd.CString
import Irccd.Foundations.Writers

/-!
# Templates (`subst.c`)

A template is copied into a buffer of the caller, and its constructs are replaced on the way. What
the system answers is a parameter: the environment, the output of the commands, and the date.

* `SubstM`: what the functions do to the buffer, with the errors that they return;
* `attributesParse`: the attributes of `@{...}`;
* `substitute`, `substLoop`: one construct, and the loop over the template;
* `ircSubst`: the whole substitution.
-/

namespace Irccd.Subst

open Writers

/-! ## The data -/

/-- `enum irc_subst_flags` -/
structure IrcSubstFlags where
  date : Bool := false
  keywords : Bool := false
  env : Bool := false
  shell : Bool := false
  ircAttrs : Bool := false
  shellAttrs : Bool := false
  deriving DecidableEq

/-- `struct irc_subst_keyword` -/
structure IrcSubstKeyword where
  key : CStr
  value : Option CStr
  deriving DecidableEq

/-- `struct irc_subst` -/
structure IrcSubst where
  flags : IrcSubstFlags := {}
  time : ℤ := 0
  keywords : List IrcSubstKeyword := []
  deriving DecidableEq

/-- What is looked up or run for a construct. -/
inductive Lookup
  | keyword (key : CStr)
  | env (key : CStr)
  | shell (command : CStr)
  deriving DecidableEq

/-- What the system answers. -/
structure SubstEnv where
  /-- The text of a format for `strftime`, at a time. -/
  strftime : ℤ → CStr → CStr
  getenv : CStr → Option CStr
  /-- The output of a command, behind what has been looked up or run before. -/
  popen : List Lookup → CStr → Option (List UInt8)

/-- Why a substitution stops. -/
inductive SubstStop
  /-- `-EINVAL` -/
  | inval
  /-- `-ENOMEM` -/
  | nomem
  /-- A store or a read outside an array. -/
  | overflow
  /-- A loop of the model has gone round too often. -/
  | fuel
  deriving DecidableEq

/-- The buffer with `o` and `outsz`, and what has been looked up or run. -/
structure SubstState where
  out : Cursor UInt8
  lookups : List Lookup
  deriving DecidableEq

/-- What a function does to the buffer. -/
abbrev SubstM : Type → Type := EStateM SubstStop SubstState

/-- Store bytes at `*out`. -/
def store (bytes : List UInt8) : SubstM Unit := fun s =>
  match s.out.store bytes with
  | some out => .ok () { s with out }
  | none => .error .overflow s

/-- `*out += n` and `*outsz -= n` -/
def advance (n : ℕ) : SubstM Unit := modify fun s => { s with out := s.out.advance n }

/-- `*outsz` -/
def outsz : SubstM ℕ := return (← get).out.left

/-- Something is looked up or run. -/
def note (lookup : Lookup) : SubstM Unit :=
  modify fun s => { s with lookups := s.lookups ++ [lookup] }

/-- An error of a function without a buffer. -/
def orStop {α : Type} : Except SubstStop α → SubstM α
  | .ok a => pure a
  | .error e => throw e

/-! ## The buffer -/

/-- The characters that open a construct. -/
def isReserved (token : UInt8) : Bool := token == 35 || token == 64 || token == 36 || token == 33

/-- `{` -/
def LBRACE : UInt8 := 123

/-- `}` -/
def RBRACE : UInt8 := 125

/-- `,` -/
def COMMA : UInt8 := 44

/-- `irc_util_strlcpy` to `*out`, with the space that is left. -/
def strlcpyOut (value : CStr) : SubstM ℕ := do
  let left ← outsz
  if 0 < left then
    store (value.take (left - 1) ++ [0])
    return value.length
  else return value.length

def scat (value : CStr) : SubstM Unit := do
  let left ← outsz
  let written ← strlcpyOut value
  if left ≤ written then throw .nomem
  else advance written

def ccat (c : UInt8) : SubstM Unit := do
  let left ← outsz
  if left = 0 then throw .nomem
  else
    store [c]
    advance 1

/-! ## Attributes -/

/-- `char[16]` -/
abbrev CharArray : Type := { bytes : List UInt8 // bytes.length = 16 }

namespace CharArray

/-- After `memset`. -/
def zero : CharArray := ⟨List.replicate 16 0, List.length_replicate⟩

/-- The string in the array. -/
def string (a : CharArray) : CStr := a.1.takeWhile (· != 0)

/-- Copy a string, or the beginning of it, with a NUL behind it. -/
def copy (a : CharArray) (s : CStr) : CharArray :=
  ⟨s.take 15 ++ 0 :: a.1.drop ((s.take 15).length + 1), by
    have := a.2
    simp only [List.length_append, List.length_cons, List.length_drop, List.length_take]
    omega⟩

end CharArray

/-- `struct attributes` -/
structure Attributes where
  fg : CharArray := .zero
  bg : CharArray := .zero
  attrs : Vector CharArray 4 := Vector.replicate 4 .zero
  attrsz : ℕ := 0

/-- `%15[^,]` -/
def scanField (s : CStr) : CStr := (s.takeWhile (· != COMMA)).take 15

/-- `%63s` -/
def scanWord (s : CStr) : CStr := ((s.dropWhile isspace).takeWhile (!isspace ·)).take 63

/-- `sscanf (key, "%15[^,],%15[^,],%63s", ...)`: what is not matched stays empty. -/
def scanAttributes (key : CStr) : CStr × CStr × CStr :=
  let fg := scanField key
  if fg = [] then ([], [], [])
  else
    match key.drop fg.length with
    | [] => (fg, [], [])
    | c :: rest =>
      if c ≠ COMMA then (fg, [], [])
      else
        let bg := scanField rest
        if bg = [] then (fg, [], [])
        else
          match rest.drop bg.length with
          | [] => (fg, bg, [])
          | c :: rest => if c ≠ COMMA then (fg, bg, []) else (fg, bg, scanWord rest)

/-- The loop of `attributes_parse`. A field is stored in the next array, whether there is one or
not. -/
def attributesLoop : ℕ → CStr → Attributes → Except SubstStop Attributes
  | 0, _, _ => .error .fuel
  | _ + 1, [], attrs => .ok attrs
  | n + 1, c :: attr, attrs =>
    let field := (c :: attr).takeWhile (· != COMMA)
    -- without a comma, `*attr = '\0'` ends the loop
    let next := ((c :: attr).dropWhile (· != COMMA)).tail
    if h : attrs.attrsz < 4 then
      attributesLoop n next { attrs with
        attrs := attrs.attrs.set attrs.attrsz (attrs.attrs[attrs.attrsz].copy field)
        attrsz := attrs.attrsz + 1 }
    else .error .overflow

/-- `attributes_parse` -/
def attributesParse (key : CStr) : Except SubstStop Attributes :=
  let (fg, bg, attributes) := scanAttributes key
  attributesLoop 64 attributes { fg := CharArray.zero.copy fg, bg := CharArray.zero.copy bg }

/-- `attrs.attrs[i]` -/
def attrAt (attrs : Attributes) (i : ℕ) : SubstM CStr :=
  if h : i < 4 then return attrs.attrs[i].string else throw .overflow

/-! ### Tables -/

/-- `struct pair` -/
abbrev Pair : Type := CStr × CStr

/-- `find` -/
def findPair (pairs : List Pair) (key : CStr) : Option CStr :=
  (pairs.find? fun pair => pair.1 == key).map (·.2)

/-- `irc_colors` -/
def ircColors : List Pair :=
  [("white", "0"), ("black", "1"), ("blue", "2"), ("green", "3"), ("red", "4"), ("brown", "5"),
    ("purple", "6"), ("orange", "7"), ("yellow", "8"), ("lightgreen", "9"), ("cyan", "10"),
    ("lightcyan", "11"), ("lightblue", "12"), ("pink", "13"), ("grey", "14"),
    ("lightgrey", "15")].map fun pair => (cstr pair.1, cstr pair.2)

/-- `irc_attrs` -/
def ircAttrs : List Pair :=
  [(cstr "bold", [0x02]), (cstr "italic", [0x09]), (cstr "reverse", [0x16]),
    (cstr "strike", [0x13]), (cstr "underline", [0x15]), (cstr "underline2", [0x1f])]

/-- `shell_fg` -/
def shellFg : List Pair :=
  [("black", "30"), ("red", "31"), ("green", "32"), ("orange", "33"), ("blue", "34"),
    ("purple", "35"), ("cyan", "36"), ("white", "37"),
    ("default", "39")].map fun pair => (cstr pair.1, cstr pair.2)

/-- `shell_bg` -/
def shellBg : List Pair :=
  [("black", "40"), ("red", "41"), ("green", "42"), ("orange", "43"), ("blue", "44"),
    ("purple", "45"), ("cyan", "46"), ("white", "47"),
    ("default", "49")].map fun pair => (cstr pair.1, cstr pair.2)

/-- `shell_attrs` -/
def shellAttrs : List Pair :=
  [("bold", "1"), ("dim", "2"), ("underline", "4"), ("blink", "5"), ("reverse", "7"),
    ("hidden", "8")].map fun pair => (cstr pair.1, cstr pair.2)

/-- The value that `find` returns, if it is not NULL. -/
def scatFound (pairs : List Pair) (key : CStr) : SubstM Unit :=
  match findPair pairs key with
  | some value => scat value
  | none => return ()

/-! ### Colors and styles -/

/-- The last loop of `subst_irc_attrs`, with `n` rounds to go. -/
def ircAttrsLoop (attrs : Attributes) : ℕ → ℕ → SubstM Unit
  | 0, _ => return ()
  | n + 1, i => do
    let attr ← attrAt attrs i
    scatFound ircAttrs attr
    ircAttrsLoop attrs n (i + 1)

/-- `subst_irc_attrs` -/
def substIrcAttrs (key : CStr) : SubstM Unit :=
  if key = [] then ccat 0x03
  else do
    let attrs ← orStop (attributesParse key)
    let first ← attrAt attrs 0
    if attrs.fg.string ≠ [] ∨ first ≠ [] then
      ccat 0x03
      scatFound ircColors attrs.fg.string
      if attrs.bg.string ≠ [] then
        ccat COMMA
        scatFound ircColors attrs.bg.string
      ircAttrsLoop attrs attrs.attrsz 0

/-- The first loop of `subst_shell_attrs`, with `n` rounds to go. -/
def shellAttrsLoop (attrs : Attributes) : ℕ → ℕ → SubstM Unit
  | 0, _ => return ()
  | n + 1, i => do
    let attr ← attrAt attrs i
    scatFound shellAttrs attr
    if i < attrs.attrsz ∨ attrs.fg.string ≠ [] ∨ attrs.bg.string ≠ [] then ccat 59
    shellAttrsLoop attrs n (i + 1)

/-- `subst_shell_attrs` -/
def substShellAttrs (key : CStr) : SubstM Unit :=
  if key = [] then scat (27 :: cstr "[0m")
  else do
    let attrs ← orStop (attributesParse key)
    scat [27, 91]
    shellAttrsLoop attrs attrs.attrsz 0
    if attrs.fg.string ≠ [] then
      scatFound shellFg attrs.fg.string
      if attrs.bg.string ≠ [] then ccat 59
    if attrs.bg.string ≠ [] then
      scatFound shellBg attrs.bg.string
    ccat 109

/-! ## Constructs -/

section Construct

variable (env : SubstEnv) (subst : IrcSubst)

/-- `subst_date`: `strftime` returns 0 if the text does not fit, and if it is empty. -/
def substDate (size : ℕ) (input : CStr) : Except SubstStop CStr :=
  let text := env.strftime subst.time input
  if text = [] ∨ size ≤ text.length then .error .nomem else .ok text

/-- `subst_keyword` -/
def substKeyword (key : CStr) : SubstM Unit := do
  note (.keyword key)
  match subst.keywords.find? fun keyword => keyword.key == key with
  | none => return ()
  | some keyword =>
    match keyword.value with
    | none => return ()
    | some value => scat value

/-- `subst_env` -/
def substEnv (key : CStr) : SubstM Unit := do
  note (.env key)
  match env.getenv key with
  | none => return ()
  | some value => scat value

/-- Where the output of a command ends: at the first `\r`, or else at the first `\n`. -/
def shellEnd (output : List UInt8) : Option ℕ :=
  match output.findIdx? isCR with
  | some i => some i
  | none => output.findIdx? isLF

/-- `subst_shell` -/
def substShell (key : CStr) : SubstM Unit := do
  let past := (← get).lookups
  note (.shell key)
  match env.popen past key with
  | none => return ()
  | some output =>
    let left ← outsz
    -- `fread` of `*outsz - 1` bytes, a `size_t`
    let output := output.take (if left = 0 then 18446744073709551615 else left - 1)
    if output = [] then return ()
    else
      store output
      match shellEnd output with
      | some i =>
        advance i
        store [0]
      | none => advance output.length

/-- `subst_default` -/
def substDefault (token : UInt8) (key : CStr) : SubstM Unit := do
  ccat token
  ccat LBRACE
  scat key
  ccat RBRACE

/-- The switch of `substitute`. -/
def substKey (token : UInt8) (key : CStr) : SubstM Unit :=
  if token = 64 then
    if subst.flags.ircAttrs then substIrcAttrs key
    else if subst.flags.shellAttrs then substShellAttrs key
    else substDefault token key
  else if token = 35 then
    if subst.flags.keywords then substKeyword subst key else substDefault token key
  else if token = 36 then
    if subst.flags.env then substEnv env key else substDefault token key
  else if token = 33 then
    if subst.flags.shell then substShell env key else substDefault token key
  else return ()

/-- `substitute`, with the token before the brace. It returns what is behind the construct. -/
def substitute (token : UInt8) (p : CStr) : SubstM CStr :=
  if p = [] then return p
  else
    match p.dropWhile (· != RBRACE) with
    | [] => throw .inval
    | _ :: behind => do
      let key := p.takeWhile (· != RBRACE)
      if 64 ≤ key.length then throw .nomem
      else
        substKey env subst token key
        return behind

/-- The loop of `irc_subst`. -/
def substLoop : ℕ → CStr → SubstM Unit
  | 0, _ => throw .fuel
  | _ + 1, [] => return ()
  | n + 1, c :: i => do
    let left ← outsz
    if left = 0 then return ()
    else if isReserved c = false then
      ccat c
      substLoop n i
    else
      match i with
      | [] =>
        ccat c
        substLoop n []
      | b :: rest =>
        if b = LBRACE then
          let i ← substitute env subst c rest
          substLoop n i
        else if b = c then
          -- the token is doubled
          ccat c
          substLoop n rest
        else
          ccat c
          substLoop n (b :: rest)

/-- The template, with the date if it is enabled. -/
def substInput (size : ℕ) (input : CStr) : Except SubstStop CStr :=
  if subst.flags.date then substDate env subst size input else .ok input

end Construct

/-- The end of `irc_subst`: the NUL behind the text, and `o - out`. -/
def substEnd : SubstM ℕ := do
  let left ← outsz
  if left < 1 then throw .nomem
  else
    store [0]
    return (← get).out.pos

/-- The body of `irc_subst`. -/
def substBody (env : SubstEnv) (subst : IrcSubst) (input : CStr) : SubstM ℕ := do
  let size ← outsz
  let i ← orStop (substInput env subst size input)
  substLoop env subst (i.length + 1) i
  substEnd

/-- What `irc_subst` returns, the buffer behind it, and what it has looked up or run. -/
structure Substituted where
  rc : Except SubstStop ℕ
  out : List UInt8
  lookups : List Lookup
  deriving DecidableEq

/-- `irc_subst`, with a buffer of `outsz` bytes. -/
def ircSubst (env : SubstEnv) (subst : IrcSubst) (out : List UInt8) (input : CStr) : Substituted :=
  if out.length = 0 then ⟨.ok 0, out, []⟩
  else
    match substBody env subst input ⟨⟨out, 0, out.length⟩, []⟩ with
    | .ok n s => ⟨.ok n, s.out.buf, s.lookups⟩
    | .error e s => ⟨.error e, s.out.buf.set 0 0, s.lookups⟩

end Irccd.Subst
