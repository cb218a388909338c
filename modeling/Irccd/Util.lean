import Mathlib.Algebra.Ring.Nat
import Irccd.CString

/-!
# Utilities (`util.c`)

* `ircUtilUserSplit` cuts a full origin `nick!user@host`;
* `ircUtilStoi` reads a number that has to be the whole string.
-/

namespace Irccd

/-- `struct irc_user` -/
structure IrcUser where
  nickname : CStr
  username : Option CStr := none
  host : Option CStr := none
  deriving DecidableEq

/-- A match of `([^!]+)!([^@]+)@(.*)` that starts with the string. -/
def userMatch (s : CStr) : Option IrcUser :=
  let nick := s.takeWhile (· != 33)
  match s.drop nick.length with
  | 33 :: t =>
    let user := t.takeWhile (· != 64)
    match t.drop user.length with
    | 64 :: host => if nick = [] ∨ user = [] then none else some ⟨nick, user, host⟩
    | _ => none
  | _ => none

/-- `regexec` on `([^!]+)!([^@]+)@(.*)`: the match that starts first. -/
def userSearch : CStr → Option IrcUser
  | [] => none
  | c :: s => (userMatch (c :: s)).or (userSearch s)

/-- `irc_util_user_split`: a string that does not match is a nickname. -/
def ircUtilUserSplit (s : CStr) : IrcUser := (userSearch s).getD { nickname := s }

example : ircUtilUserSplit (cstr "jean!j@localhost") =
    ⟨cstr "jean", some (cstr "j"), some (cstr "localhost")⟩ := by decide

/-! ## Numbers -/

/-- The codes of `errno` that the control socket and the configuration report. -/
inductive CmdErrno
  | einval
  | eexist
  | erange
  | emsgsize
  | enoent
  deriving DecidableEq

/-- `strerror` -/
def strerror : CmdErrno → CStr
  | .einval => cstr "Invalid argument"
  | .eexist => cstr "File exists"
  | .erange => cstr "Numerical result out of range"
  | .emsgsize => cstr "Message too long"
  | .enoent => cstr "No such file or directory"

/-- The value of decimal digits. -/
def digitsValue (digits : CStr) : ℕ := digits.foldl (fun n c => 10 * n + (c.toNat - 48)) 0

/-- White space, an optional sign and digits, as `strtoll` reads them: the number and what follows.
There has to be a digit. -/
def scanNumber (s : CStr) : Option (ℤ × CStr) :=
  let (sign, t) : ℤ × CStr :=
    match s.dropWhile isspace with
    -- a minus sign, then a plus sign
    | 45 :: t => (-1, t)
    | 43 :: t => (1, t)
    | t => (1, t)
  let digits := t.takeWhile isdigit
  if digits = [] then none else some (sign * digitsValue digits, t.drop digits.length)

/-- The numbers of a `long long int`. -/
def LongLong (n : ℤ) : Prop := -9223372036854775808 ≤ n ∧ n ≤ 9223372036854775807

instance (n : ℤ) : Decidable (LongLong n) := inferInstanceAs (Decidable (_ ∧ _))

/-- `irc_util_stoi`, which is `strtonum` without bounds of its own. -/
def ircUtilStoi (s : CStr) : Except CmdErrno ℤ :=
  match scanNumber s with
  | some (n, []) => if LongLong n then .ok n else .error .erange
  | _ => .error .einval

/-- `%zu`, when it reads: a number that is too large becomes the largest one. -/
def scanSize (s : CStr) : Option ℕ :=
  (scanNumber s).map fun n =>
    if n.1.natAbs < 2 ^ 64 then (BitVec.ofInt 64 n.1).toNat else 2 ^ 64 - 1

/-- A number in decimal, as `%zu` and `%u` print it. -/
def decimal (n : ℕ) : CStr := (Nat.toDigits 10 n).map fun c => UInt8.ofNat c.toNat

example : ircUtilStoi (cstr " -12") = .ok (-12) := by decide

/-! ## Printed numbers -/

section Decimal

variable {n : ℕ} {c : Char} {rest : CStr}

theorem toNat_of_isDigit (hc : c.isDigit) : (UInt8.ofNat c.toNat).toNat = c.toNat := by
  simp only [Char.isDigit, Bool.and_eq_true, decide_eq_true_eq, UInt32.le_iff_toNat_le] at hc
  have hle : c.toNat ≤ 57 := hc.2
  rw [UInt8.toNat_ofNat']
  omega

theorem isdigit_of_isDigit (hc : c.isDigit) : isdigit (UInt8.ofNat c.toNat) = true := by
  have htoNat := toNat_of_isDigit hc
  simp only [Char.isDigit, Bool.and_eq_true, decide_eq_true_eq, UInt32.le_iff_toNat_le] at hc
  simp only [isdigit, Bool.and_eq_true, decide_eq_true_eq, UInt8.le_iff_toNat_le, htoNat]
  exact hc

/-- The bytes of a printed number are digits. -/
theorem isdigit_of_mem_decimal {b : UInt8} (hb : b ∈ decimal n) : isdigit b = true := by
  obtain ⟨c, hc, rfl⟩ := List.mem_map.1 hb
  exact isdigit_of_isDigit (Nat.isDigit_of_mem_toDigits (by decide) (by decide) hc)

theorem decimal_ne_nil : decimal n ≠ [] := by
  simp [decimal, Nat.toDigits_ne_nil]

theorem digitsValue_decimal : digitsValue (decimal n) = n := by
  have hdigits : ∀ c ∈ Nat.toDigits 10 n, c.isDigit := fun c hc =>
    Nat.isDigit_of_mem_toDigits (by decide) (by decide) hc
  calc digitsValue (decimal n)
      = (Nat.toDigits 10 n).foldl (fun k c => 10 * k + (c.toNat - 48)) 0 := by
        rw [digitsValue, decimal, List.foldl_map]
        refine List.foldl_ext _ _ _ fun k c hc => ?_
        rw [toNat_of_isDigit (hdigits c hc)]
    _ = Nat.ofDigitChars 10 (Nat.toDigits 10 n) 0 := rfl
    _ = n := Nat.ofDigitChars_ten_toDigits

theorem not_isspace_of_isdigit {b : UInt8} (hb : isdigit b = true) : isspace b = false := by
  simp only [isdigit, Bool.and_eq_true, decide_eq_true_eq, UInt8.le_iff_toNat_le] at hb
  have h48 : (48 : UInt8).toNat = 48 := rfl
  simp only [isspace, Bool.or_eq_false_iff, Bool.and_eq_false_iff, decide_eq_false_iff_not,
    UInt8.le_iff_toNat_le, beq_eq_false_iff_ne]
  have h13 : (13 : UInt8).toNat = 13 := rfl
  refine ⟨?_, .inr (by omega)⟩
  rintro rfl
  exact absurd hb.1 (by decide)

/-- A printed number is read back, up to what follows it. -/
theorem scanNumber_decimal (hrest : ∀ b ∈ rest.head?, isdigit b = false) :
    scanNumber (decimal n ++ rest) = some ((n : ℤ), rest) := by
  obtain ⟨b, digits, hdecimal⟩ := List.exists_cons_of_ne_nil (decimal_ne_nil (n := n))
  have hb : isdigit b = true := isdigit_of_mem_decimal (by rw [hdecimal]; simp)
  have htake : (decimal n ++ rest).takeWhile isdigit = decimal n := by
    rw [List.takeWhile_append_of_pos fun b hb => isdigit_of_mem_decimal hb]
    cases rest with
    | nil => simp
    | cons c rest => simp [hrest c rfl]
  -- there is no blank and no sign before the digits
  have hdrop : (decimal n ++ rest).dropWhile isspace = decimal n ++ rest := by
    rw [hdecimal, List.cons_append, List.dropWhile_cons_of_neg]
    simp [not_isspace_of_isdigit hb]
  have hminus : b ≠ 45 := by rintro rfl; exact absurd hb (by decide)
  have hplus : b ≠ 43 := by rintro rfl; exact absurd hb (by decide)
  unfold scanNumber
  rw [hdrop]
  split
  · rename_i hsign
    split at hsign
    · rename_i heq
      simp [hdecimal, hminus] at heq
    · rename_i heq
      simp [hdecimal, hplus] at heq
    · obtain ⟨rfl, rfl⟩ := Prod.mk.inj hsign
      rw [htake, if_neg decimal_ne_nil, digitsValue_decimal, List.drop_left, Int.one_mul]

end Decimal

end Irccd
