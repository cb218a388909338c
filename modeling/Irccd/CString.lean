import Mathlib.Data.Int.Notation
import Mathlib.Data.List.Basic
import Mathlib.Tactic.Common

/-!
# C strings

A C string is the list of its bytes before the terminating NUL. The functions of the C library
that irccd calls on strings are given here, in the "C" locale (the program never calls
`setlocale`).
-/

namespace Irccd

/-- The bytes of a C string before its terminating NUL. -/
abbrev CStr := List UInt8

/-- The C string written as a literal in the source. -/
def cstr (s : String) : CStr := s.toList.map fun c => UInt8.ofNat c.toNat

/-- The carriage return byte. -/
def CR : UInt8 := 13

/-- The line feed byte. -/
def LF : UInt8 := 10

/-- The space byte. -/
def SP : UInt8 := 32

/-- `"\r\n"`. -/
def crlf : CStr := [CR, LF]

def isCR (b : UInt8) : Bool := b == CR

def isLF (b : UInt8) : Bool := b == LF

def tolower (c : UInt8) : UInt8 := if 65 ≤ c ∧ c ≤ 90 then c + 32 else c

def isspace (c : UInt8) : Bool := c == SP || (9 ≤ c && c ≤ 13)

def isdigit (c : UInt8) : Bool := 48 ≤ c && c ≤ 57

/-- The string with its letters in lower case. -/
def foldCase (s : CStr) : CStr := s.map tolower

/-- `strcasecmp (a, b) == 0` -/
def strcasecmp (a b : CStr) : Bool := foldCase a == foldCase b

/-- `strncasecmp (a, b, n) == 0` -/
def strncasecmp (a b : CStr) (n : ℕ) : Bool := foldCase (a.take n) == foldCase (b.take n)

/-- `strncmp (a, b, n) == 0` -/
def strncmp (a b : CStr) (n : ℕ) : Bool := a.take n == b.take n

/-- `strndup (s, n)`: a copy of at most `n` bytes, which stops at a NUL. -/
def strndup (s : List UInt8) (n : ℕ) : CStr := (s.take n).takeWhile (· != 0)

/-- The tokens of a `for (p = s; (token = strtok_r (p, sep, &p)); )` loop. -/
def tokens (sep : UInt8) (s : CStr) : List CStr := (s.splitOn sep).filter (· != [])

/-- The number that `atoi (s)` reads: white space, an optional sign, then digits up to the first
other byte. -/
def atoi (s : CStr) : ℤ :=
  let digits (t : CStr) : ℕ :=
    (t.takeWhile isdigit).foldl (fun n c => 10 * n + (c.toNat - 48)) 0
  match s.dropWhile isspace with
  -- a minus sign, then a plus sign
  | 45 :: t => -(digits t : ℤ)
  | 43 :: t => digits t
  | t => digits t

/-- `atoi (s)`, stored in an `unsigned int`. The value is that of `strtol`, which is at the end of
`long` when the number is not in it. -/
def atoiUnsigned (s : CStr) : BitVec 32 :=
  BitVec.ofInt 32 (max (-9223372036854775808) (min 9223372036854775807 (atoi s)))

/-- The white space of a string, looked for byte by byte. -/
theorem not_isspace_of_all {s : CStr} (h : s.all (!isspace ·) = true) :
    ∀ b ∈ s, isspace b = false := by
  intro b hb
  simpa using List.all_eq_true.1 h b hb

@[simp] theorem strcasecmp_iff {a b : CStr} : strcasecmp a b = true ↔ foldCase a = foldCase b := by
  simp [strcasecmp]

theorem strcasecmp_self (a : CStr) : strcasecmp a a = true := by simp

theorem tolower_tolower (c : UInt8) : tolower (tolower c) = tolower c := by
  unfold tolower
  split
  · rename_i h
    -- a lower case letter is beyond 90
    simp only [UInt8.le_iff_toNat_le, UInt8.toNat_add] at h ⊢
    have h1 : (65 : UInt8).toNat = 65 := rfl
    have h2 : (90 : UInt8).toNat = 90 := rfl
    have h3 : (32 : UInt8).toNat = 32 := rfl
    rw [if_neg (by omega)]
  · rfl

@[simp] theorem foldCase_foldCase (s : CStr) : foldCase (foldCase s) = foldCase s := by
  simp [foldCase, tolower_tolower]

@[simp] theorem length_foldCase (s : CStr) : (foldCase s).length = s.length := by
  simp [foldCase]

/-- Comparing as many bytes as the first string has tells whether it is an initial part of the
second one, ignoring case. -/
theorem strncasecmp_length_iff {a b : CStr} :
    strncasecmp a b a.length = true ↔ foldCase a <+: foldCase b := by
  rw [List.prefix_iff_eq_take]
  simp [strncasecmp, foldCase, List.map_take]

/-- Comparing as many bytes as the second string has tells whether it is an initial part of the
first one. -/
theorem strncmp_length_iff {a b : CStr} : strncmp a b b.length = true ↔ b <+: a := by
  rw [List.prefix_iff_eq_take, strncmp, List.take_length, beq_iff_eq]
  exact eq_comm

example : strcasecmp (cstr "#Games") (cstr "#games") = true := by decide

example : tokens SP (cstr " @jean  paul ") = [cstr "@jean", cstr "paul"] := by decide

end Irccd
