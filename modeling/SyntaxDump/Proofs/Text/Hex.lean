import Mathlib.Algebra.Group.Nat.Defs
import SyntaxDump.Text.Hex

/-!
# Numbers in hexadecimal digits

Digits of a fixed width are read back as the number, as long as the width is enough for it.

## Main statement

- `Text.ofHex?_hexDigits`: reading the last digits of a number gives what they tell of it.
-/

namespace SyntaxDump.Text

/-- The value of a digit. -/
theorem hexValue?_hexDigit : ∀ d < 16, hexValue? (hexDigit d) = some d := by decide

/-- What consists of hexadecimal digits consists of characters with a value. -/
theorem isSome_hexValue?_of_mem {width n : Nat} {c : Char} (h : c ∈ hexDigits width n) :
    (hexValue? c).isSome := by
  induction width generalizing n with
  | zero => cases h
  | succ width ih =>
    rw [hexDigits, List.mem_append, List.mem_singleton] at h
    rcases h with hmem | rfl
    · exact ih hmem
    · rw [hexValue?_hexDigit _ (Nat.mod_lt n (by decide))]
      rfl

/-- The first of the digits stands for what the others leave out. -/
theorem hexDigits_succ (width n : Nat) :
    hexDigits (width + 1) n = hexDigit (n / 16 ^ width % 16) :: hexDigits width n := by
  induction width generalizing n with
  | zero => simp [hexDigits]
  | succ width ih =>
    rw [hexDigits, ih (n / 16), hexDigits, Nat.div_div_eq_div_mul, ← Nat.pow_succ',
      List.cons_append]

/-- Reading the digits of a number. -/
theorem ofHex?_hexDigits (width n : Nat) : ofHex? (hexDigits width n) = some (n % 16 ^ width) := by
  induction width generalizing n with
  | zero => rw [Nat.pow_zero, Nat.mod_one]; rfl
  | succ width ih =>
    -- the last digit stands for the remainder, the others for the quotient
    have hlast := hexValue?_hexDigit (n % 16) (Nat.mod_lt n (by decide))
    have hread := ih (n / 16)
    rw [ofHex?] at hread ⊢
    rw [hexDigits, List.foldlM_append, hread]
    simp only [Option.bind_eq_bind, Option.bind_some, List.foldlM_cons, List.foldlM_nil, hlast,
      Option.map_some, Option.pure_def]
    rw [Nat.pow_succ, Nat.mul_comm (16 ^ width) 16, Nat.mod_mul, Nat.add_comm]

end SyntaxDump.Text
