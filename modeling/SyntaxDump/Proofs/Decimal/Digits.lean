import Mathlib.Algebra.Group.Nat.Defs
import Mathlib.Data.List.Basic
import Mathlib.Data.List.TakeWhile
import SyntaxDump.Decimal.Layout

/-!
# Digits

The digits of a natural number, and those of a decimal without the zeros at their end.

## Main statements

- `Decimal.head_digits_ne_zero`: the digits of a positive number do not begin with a zero;
- `Decimal.digits_eq_append`: the digits of a coefficient are the significant ones and zeros.
-/

namespace SyntaxDump.Decimal

theorem isDigit_of_mem_digits {n : Nat} : ∀ c ∈ digits n, c.isDigit :=
  fun _ hc => Nat.isDigit_of_mem_toDigits (by decide) (by decide) hc

theorem digits_ne_nil (n : Nat) : digits n ≠ [] := Nat.toDigits_ne_nil

/-- Digits make the number that they are those of. -/
theorem ofDigitChars_digits (n : Nat) : Nat.ofDigitChars 10 (digits n) 0 = n :=
  Nat.ofDigitChars_toDigits (by decide) (by decide)

/-- Digits make a number below the power of ten of their length. -/
theorem ofDigitChars_lt {ds : List Char} (hds : ∀ c ∈ ds, c.isDigit) (n : Nat) :
    Nat.ofDigitChars 10 ds n < 10 ^ ds.length * (n + 1) := by
  induction ds generalizing n with
  | nil => simp
  | cons c ds ih =>
    obtain ⟨hc, hds⟩ := List.forall_mem_cons.mp hds
    have hdigit : c.toNat - '0'.toNat ≤ 9 := by
      have hle : c.toNat ≤ 57 := by
        rw [Char.isDigit, Bool.and_eq_true, decide_eq_true_iff, decide_eq_true_iff] at hc
        exact UInt32.le_iff_toNat_le.mp hc.2
      change c.toNat - 48 ≤ 9
      omega
    rw [Nat.ofDigitChars_cons, List.length_cons, Nat.pow_succ, Nat.mul_assoc]
    refine Nat.lt_of_lt_of_le (ih hds _) (Nat.mul_le_mul_left _ ?_)
    omega

/-- The digits of a positive number do not begin with a zero. -/
theorem head_digits_ne_zero {n : Nat} (hn : 0 < n) : ∀ c ∈ (digits n).head?, c ≠ '0' := by
  induction n using Nat.strong_induction_on with
  | _ n ih =>
    rw [digits]
    rcases Nat.lt_or_ge n 10 with hlt | hge
    · have hdigit : ∀ m < 10, 0 < m → Nat.digitChar m ≠ '0' := by decide
      rw [Nat.toDigits_of_lt_base hlt]
      simpa using hdigit n hlt hn
    · -- the last digit is not the first one
      rw [Nat.toDigits_of_base_le (by decide) hge,
        List.head?_append_of_ne_nil _ Nat.toDigits_ne_nil]
      exact ih (n / 10) (by omega) (by omega)

/-- A positive number has no more digits than it is large. -/
theorem pow_length_digits_le {n : Nat} (hn : 0 < n) : 10 ^ ((digits n).length - 1) ≤ n := by
  rcases Nat.eq_zero_or_pos ((digits n).length - 1) with hzero | hpos
  · rwa [hzero]
  · have hlength : 0 < (digits n).length := Nat.length_toDigits_pos
    refine Nat.le_of_not_lt fun hlt => ?_
    have hle : (digits n).length ≤ (digits n).length - 1 :=
      (Nat.length_toDigits_le_iff (by decide) hpos).mpr hlt
    omega

variable {d : Decimal}

/-- The digits of the coefficient are the significant ones and the zeros that were left out. -/
theorem digits_eq_append (d : Decimal) :
    ∃ zeros, digits d.coefficient = d.significantDigits ++ List.replicate zeros '0' := by
  generalize hreverse : (digits d.coefficient).reverse = ds
  have hzeros : (ds.takeWhile (· == '0')).reverse =
      List.replicate (ds.takeWhile (· == '0')).length '0' :=
    List.eq_replicate_iff.mpr ⟨List.length_reverse, fun c hc => by
      simpa using List.mem_takeWhile_imp (List.mem_reverse.mp hc)⟩
  refine ⟨(ds.takeWhile (· == '0')).length, ?_⟩
  calc digits d.coefficient = ds.reverse := by rw [← hreverse, List.reverse_reverse]
    _ = (ds.dropWhile (· == '0')).reverse ++ (ds.takeWhile (· == '0')).reverse := by
      rw [← List.reverse_append, List.takeWhile_append_dropWhile]
    _ = d.significantDigits ++ List.replicate (ds.takeWhile (· == '0')).length '0' := by
      rw [significantDigits, hreverse, hzeros]

theorem isDigit_of_mem_significantDigits : ∀ c ∈ d.significantDigits, c.isDigit := by
  obtain ⟨zeros, happend⟩ := d.digits_eq_append
  intro c hc
  exact isDigit_of_mem_digits c (happend ▸ List.mem_append_left _ hc)

/-- A positive decimal has significant digits, and the first one is no zero. -/
theorem head_significantDigits_ne_zero (h : 0 < d.coefficient) :
    d.significantDigits ≠ [] ∧ ∀ c ∈ d.significantDigits.head?, c ≠ '0' := by
  obtain ⟨zeros, happend⟩ := d.digits_eq_append
  have hhead := head_digits_ne_zero h
  have hne := digits_ne_nil d.coefficient
  rw [happend] at hhead hne
  have hsignificant : d.significantDigits ≠ [] := by
    intro hnil
    rw [hnil, List.nil_append] at hhead hne
    -- otherwise all digits would be zeros
    cases zeros with
    | zero => exact hne rfl
    | succ zeros => exact hhead '0' rfl rfl
  rw [List.head?_append_of_ne_nil _ hsignificant] at hhead
  exact ⟨hsignificant, hhead⟩

end SyntaxDump.Decimal
