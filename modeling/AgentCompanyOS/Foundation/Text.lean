import Mathlib.Algebra.GroupWithZero.Nat
import Mathlib.Data.List.DropRight

/-!
# Python strings

A Python string is a list of code points, lone surrogates included (`PyStr`).
`strip` removes the outer white space; stripping twice is stripping once, and a
string with a visible code point does not strip to nothing. The decimal text of a number
determines it.
-/

set_option autoImplicit false

namespace AgentCompanyOS.Foundation

/-- A code point of a Python string. -/
abbrev CodePoint := Fin 0x110000

/-- A Python string. -/
abbrev PyStr := List CodePoint

theorem neZeroCodePoints : NeZero 0x110000 := ⟨by decide⟩

attribute [instance] neZeroCodePoints

instance lawfulPyStr : LawfulBEq PyStr := inferInstance

/-- The code point of a character. -/
def code (c : Char) : CodePoint := Fin.ofNat 0x110000 c.toNat

/-- A literal as a Python string. -/
def py (s : String) : PyStr := s.toList.map code

/-- `str(n)`. -/
def pyNat (n : Nat) : PyStr := (Nat.toDigits 10 n).map code

/-- `str.isspace` on one code point. -/
def isSpace (c : CodePoint) : Bool :=
  let n := c.val
  (9 ≤ n && n ≤ 13) || (28 ≤ n && n ≤ 32) || n == 0x85 || n == 0xa0 || n == 0x1680 ||
    (0x2000 ≤ n && n ≤ 0x200a) || n == 0x2028 || n == 0x2029 || n == 0x202f || n == 0x205f ||
    n == 0x3000

/-- `str.strip()`. -/
def strip (s : PyStr) : PyStr := (s.dropWhile isSpace).rdropWhile isSpace

/-- Whether a code point is half of a surrogate pair; such a string has no UTF-8 form. -/
def isSurrogate (c : CodePoint) : Bool := 0xd800 ≤ c.val && c.val ≤ 0xdfff

/-- The bytes of one code point in UTF-8. -/
def utf8Bytes (c : CodePoint) : List Nat :=
  let n := c.val
  if n < 0x80 then [n]
  else if n < 0x800 then [0xc0 + n / 64, 0x80 + n % 64]
  else if n < 0x10000 then [0xe0 + n / 4096, 0x80 + n / 64 % 64, 0x80 + n % 64]
  else [0xf0 + n / 262144, 0x80 + n / 4096 % 64, 0x80 + n / 64 % 64, 0x80 + n % 64]

/-- `s.encode("utf-8")`; there is no result where Python raises `UnicodeEncodeError`. -/
def utf8 (s : PyStr) : Option (List Nat) :=
  if s.any isSurrogate then none else some (s.flatMap utf8Bytes)

/-- The bytes that `urllib.parse.quote(s, safe="")` keeps. -/
def isUnreserved (b : Nat) : Bool :=
  (48 ≤ b && b ≤ 57) || (65 ≤ b && b ≤ 90) || (97 ≤ b && b ≤ 122) || b == 45 || b == 46 ||
    b == 95 || b == 126

/-- One byte of a percent-encoded text. -/
def percentByte (b : Nat) : PyStr :=
  let digit (n : Nat) : CodePoint := Fin.ofNat _ (if n < 10 then 48 + n else 55 + n)
  if isUnreserved b then [Fin.ofNat _ b] else [37, digit (b / 16), digit (b % 16)]

/-- `urllib.parse.quote(s, safe="")`. -/
def percentEncode (s : PyStr) : Option PyStr := (utf8 s).map (·.flatMap percentByte)

theorem strip_strip (s : PyStr) : strip (strip s) = strip s := by
  have inner : (strip s).dropWhile isSpace = strip s := by
    cases h : strip s with
    | nil => rfl
    | cons c rest =>
        -- The first kept code point is the head of `s.dropWhile isSpace`.
        have prefixed : strip s <+: s.dropWhile isSpace := List.rdropWhile_prefix _ _
        obtain ⟨tail, htail⟩ := prefixed
        rw [h, List.cons_append] at htail
        have notSpace := List.head?_dropWhile_not isSpace s
        rw [← htail] at notSpace
        simp only [List.head?_cons] at notSpace
        simp [notSpace]
  show ((strip s).dropWhile isSpace).rdropWhile isSpace = strip s
  rw [inner]
  exact List.rdropWhile_idempotent isSpace (s.dropWhile isSpace)

theorem strip_ne_nil_of_mem {s : PyStr} {c : CodePoint} (mem : c ∈ s)
    (visible : isSpace c = false) : strip s ≠ [] := by
  intro blank
  have allSpace := List.rdropWhile_eq_nil_iff.mp blank
  have hc : c ∈ s.dropWhile isSpace := by
    rw [← List.takeWhile_append_dropWhile (p := isSpace) (l := s)] at mem
    rcases List.mem_append.mp mem with taken | dropped
    · exact absurd (List.mem_takeWhile_imp taken) (by simp [visible])
    · exact dropped
  exact absurd (allSpace c hc) (by simp [visible])

theorem strip_py_ne_nil (cs : List Char)
    (h : (cs.any fun c => !isSpace (code c)) = true) :
    strip (py (String.ofList cs)) ≠ [] := by
  obtain ⟨c, hc, visible⟩ := List.any_eq_true.mp h
  have mem : code c ∈ py (String.ofList cs) := by
    rw [py, String.toList_ofList]
    exact List.mem_map_of_mem hc
  exact strip_ne_nil_of_mem mem (by simpa using visible)

/-! ## Decimal numbers -/

theorem val_code (c : Char) : (code c).val = c.toNat := by
  have valid : c.toNat < 0xd800 ∨ (0xdfff < c.toNat ∧ c.toNat < 0x110000) := c.valid
  exact Nat.mod_eq_of_lt (by omega)

/-- The digits of a number. -/
theorem digit_of_mem_pyNat {n : Nat} {c : CodePoint} (mem : c ∈ pyNat n) :
    48 ≤ c.val ∧ c.val ≤ 57 := by
  obtain ⟨d, listed, rfl⟩ := List.mem_map.mp mem
  have digit := Nat.isDigit_of_mem_toDigits (by decide) (by decide) listed
  rw [val_code]
  exact Char.isDigit_iff_toNat.mp digit

theorem pyNat_injective : Function.Injective pyNat := by
  intro n m same
  have coded : Function.Injective code := by
    intro a b eq
    have values := congrArg Fin.val eq
    rw [val_code, val_code] at values
    exact Char.toNat_inj.mp values
  have digits := List.map_injective_iff.mpr coded same
  rw [← Nat.ofDigitChars_toDigits (b := 10) (n := n) (by decide) (by decide), digits,
    Nat.ofDigitChars_toDigits (by decide) (by decide)]

end AgentCompanyOS.Foundation
