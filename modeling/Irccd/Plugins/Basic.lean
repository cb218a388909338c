import Mathlib.Data.List.AList
import Mathlib.Data.List.TakeWhile
import Irccd.Util

/-!
# What the scripts of the plugins use

The scripts under `plugins/` run in Duktape, which keeps a string as the bytes that C gives it.

* `cString`: a string as C reads it;
* `JsEnv`: the functions of Duktape on strings, and the name of the plugin;
* `ServerInfo`: what a script reads of `server.info()`;
* `Random`: a result of `Math.random()`;
* `JsMap`: an object whose keys are not names of properties that all objects have.
-/

namespace Irccd

/-- The string that C reads, up to the first NUL. -/
def cString (s : CStr) : CStr := s.takeWhile (· != 0)

/-- C reads the whole string if it has no NUL. -/
theorem cString_eq_self_iff {s : CStr} : cString s = s ↔ 0 ∉ s := by
  rw [cString, List.takeWhile_eq_self_iff]
  simp only [bne_iff_ne]
  exact ⟨fun hall hzero => hall 0 hzero rfl, fun hzero c hc heq => hzero (heq ▸ hc)⟩

/-- The functions of Duktape that need tables of Unicode, and `Plugin.info().name`. -/
structure JsEnv where
  /-- `s.toLowerCase()` -/
  toLowerCase : CStr → CStr
  /-- `s.trim()` -/
  trim : CStr → CStr
  /-- `s.charCodeAt(i)`, for each `i < s.length`. -/
  charCodes : CStr → List ℕ
  /-- `String.fromCharCode(ch)` -/
  fromCharCode : ℕ → CStr
  /-- `Unicode.isLetter(ch)` -/
  isLetter : ℕ → Bool
  /-- `JSON.parse(JSON.stringify(s)) === s`, where `s` is no symbol: Duktape writes a byte that is
  not part of a character as another one. -/
  isText : CStr → Bool
  plugin : CStr

/-- Strings of ASCII characters. -/
def asciiEnv (plugin : CStr) : JsEnv where
  toLowerCase := foldCase
  trim s := ((s.dropWhile isspace).reverse.dropWhile isspace).reverse
  charCodes s := s.map UInt8.toNat
  fromCharCode ch := [UInt8.ofNat ch]
  isLetter ch := (65 ≤ ch && ch ≤ 90) || (97 ≤ ch && ch ≤ 122)
  isText s := s.all (· < 128)
  plugin

/-- What `server.info()` returns, less the fields that no script of the repository reads. A channel
has the nicknames of its users. -/
structure ServerInfo where
  pfx : CStr
  nickname : CStr
  channels : List (CStr × List CStr)
  deriving DecidableEq

/-- `server.isSelf(target)` -/
def ServerInfo.isSelf (info : ServerInfo) (target : CStr) : Bool :=
  strncmp target info.nickname info.nickname.length

/-- `Util.splituser(origin)` -/
def splituser (origin : CStr) : CStr := (ircUtilUserSplit origin).nickname

/-- A result of `Math.random()`: a fraction that is less than one. -/
structure Random where
  num : ℕ
  den : ℕ
  lt : num < den

namespace Random

/-- `Math.floor(Math.random() * n)` -/
def below (r : Random) (n : ℕ) : ℕ := r.num * n / r.den

theorem below_lt (r : Random) {n : ℕ} (hn : 0 < n) : r.below n < n := by
  have hden : 0 < r.den := Nat.zero_lt_of_lt r.lt
  rw [below, Nat.div_lt_iff_lt_mul hden, Nat.mul_comm n]
  exact Nat.mul_lt_mul_of_pos_right r.lt hn

end Random

/-- The names of the properties that objects inherit from `Object.prototype`. -/
def objectPrototype : List CStr :=
  [cstr "constructor", cstr "toString", cstr "toLocaleString", cstr "valueOf",
    cstr "hasOwnProperty", cstr "isPrototypeOf", cstr "propertyIsEnumerable",
    cstr "__defineGetter__", cstr "__defineSetter__", cstr "__lookupGetter__",
    cstr "__lookupSetter__", cstr "__proto__"]

/-- An object that is used as a map. -/
abbrev JsMap (α : Type) := AList fun _ : CStr => α

end Irccd
