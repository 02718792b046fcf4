import Mathlib
import SyntaxDump.Json.Numeral
import SyntaxDump.Proofs.Binary64.Rounding

/-!
# Scaling by powers of ten

The reader makes a float of a significand and a power of ten: it rounds the significand, and then
the product or the quotient with the rounded power. The result, if there is one, is finite, and
there is one for every numeral whose value leaves room for the two errors.

## Main statements

- `Json.isFinite_of_combine`: the float is finite;
- `Json.combine_isSome`: there is one if the value is not beyond `Json.safeMagnitude`.
-/

namespace SyntaxDump.Json

open Binary64

/-! ## Powers of ten -/

/-- The overflow with the power of two taken apart, so that it can be evaluated. -/
private theorem overflow_eq : overflow = (2 ^ 53 - 1 / 2) * (2 * (2 ^ 97) ^ 10) := by
  rw [overflow, show (971 : ℤ) = ((97 * 10 : Nat) : ℤ) + 1 from rfl, zpow_add_one₀ two_ne_zero,
    zpow_natCast, pow_mul, mul_comm _ (2 : ℚ)]

/-- The powers of ten that a float is scaled by lie below the overflow. -/
private theorem ten_pow_lt_overflow {n : Nat} (hn : n ≤ 308) : (10 : ℚ) ^ n < overflow :=
  calc (10 : ℚ) ^ n ≤ 10 ^ (28 * 11) := pow_le_pow_right₀ (by norm_num) (by omega)
    _ = (10 ^ 28) ^ 11 := pow_mul 10 28 11
    _ < (2 ^ 53 - 1 / 2) * (2 * (2 ^ 97) ^ 10) := by norm_num
    _ = overflow := overflow_eq.symm

/-- The next power of ten lies above it. -/
theorem overflow_lt_ten_pow : overflow < 10 ^ 309 :=
  calc overflow = (2 ^ 53 - 1 / 2) * (2 * (2 ^ 97) ^ 10) := overflow_eq
    _ < (10 ^ 103) ^ 3 := by norm_num
    _ = 10 ^ 309 := (pow_mul 10 103 3).symm

/-- The powers of ten that a float is scaled by are almost exact. -/
private theorem magnitude_powerOfTen_bounds {n : Nat} (hn : n ≤ 308) :
    (10 : ℚ) ^ n * (1 - (1 / 2) ^ 53) ≤ (powerOfTen n).magnitude ∧
      (powerOfTen n).magnitude ≤ (10 : ℚ) ^ n * (1 + (1 / 2) ^ 53) := by
  have hvalue : ((Nat.pow 10 n : Nat) : ℚ) / (1 : Nat) = 10 ^ n := by
    rw [Nat.pow_eq, Nat.cast_one, div_one, Nat.cast_pow, Nat.cast_ofNat]
  have h := magnitude_ofRatio_bounds false (Nat.pow 10 n) one_pos
    (by rw [hvalue]; exact one_le_pow₀ (by norm_num)) (by rw [hvalue]; exact ten_pow_lt_overflow hn)
  rw [hvalue] at h
  exact h

/-- The powers of ten that a float is divided by do not make it larger. -/
private theorem one_le_magnitude_powerOfTen {n : Nat} (hn : n ≤ 308) :
    1 ≤ (powerOfTen n).magnitude := by
  cases n with
  | zero =>
    have hsignificand : (powerOfTen 0).significand = 2 ^ 52 := by decide +kernel
    have hexponent : (powerOfTen 0).exponent = -52 := by decide +kernel
    rw [magnitude, hsignificand, hexponent]
    norm_num
  | succ n =>
    have hten : (10 : ℚ) ≤ 10 ^ (n + 1) := le_self_pow₀ (by norm_num) (by omega)
    refine le_trans ?_ (magnitude_powerOfTen_bounds hn).1
    norm_num at hten ⊢
    linarith

/-! ## Scaling -/

/-- A finite float that is scaled stays finite. -/
theorem isFinite_of_scale {x y : Binary64} {e : ℤ} {steps : Nat} (hx : x.isFinite)
    (h : scale x e steps = some y) : y.isFinite := by
  induction steps generalizing x e with
  | zero => exact Option.some.inj h ▸ hx
  | succ steps ih =>
    rw [scale] at h
    dsimp only at h
    split_ifs at h with hsmall hup hfinite hzero
    · exact Option.some.inj h ▸ hfinite
    · have hone : 1 ≤ (powerOfTen (-e).toNat).magnitude := one_le_magnitude_powerOfTen (by omega)
      exact Option.some.inj h ▸ isFinite_div hx hone
    · exact Option.some.inj h ▸ hx
    · exact ih (isFinite_div hx (one_le_magnitude_powerOfTen le_rfl)) h

/-- Scaling down has a result. -/
private theorem scale_of_neg (x : Binary64) {e : ℤ} (he : e < 0) (steps : Nat) :
    ∃ y, scale x e steps = some y := by
  induction steps generalizing x e with
  | zero => exact ⟨x, rfl⟩
  | succ steps ih =>
    rw [scale]
    split_ifs with hsmall hup
    · omega
    · exact ⟨_, rfl⟩
    · exact ⟨_, rfl⟩
    · omega
    · exact ih _ (by omega)

/-- The magnitudes that surely survive two roundings, one of the significand and one of the product
with the power of ten. -/
def safeMagnitude : ℚ := (2 ^ 53 - 5 / 2) * 2 ^ (971 : ℤ)

/-- Integers of 128 bits are not beyond the safe magnitudes. -/
theorem natCast_le_safeMagnitude {n : Nat} (hn : n < 2 ^ 128) : (n : ℚ) ≤ safeMagnitude := by
  have hunit : (2 : ℚ) ^ (76 : ℤ) ≤ 2 ^ (971 : ℤ) := zpow_le_zpow_right₀ one_le_two (by norm_num)
  have hn' : (n : ℚ) < 2 ^ 128 := by exact_mod_cast hn
  rw [safeMagnitude]
  generalize (2 : ℚ) ^ (971 : ℤ) = u at *
  norm_num at hunit
  linarith

private theorem safeMagnitude_lt_overflow : safeMagnitude < overflow := by
  rw [safeMagnitude, overflow]
  exact mul_lt_mul_of_pos_right (by norm_num) (by positivity)

/-- The product of a significand and a power of ten, each rounded, is finite if the exact product is
not beyond the safe magnitudes. -/
private theorem isFinite_mul_powerOfTen {significand n : Nat} (hsignificand : significand < 2 ^ 64)
    (hn : n ≤ 308) (h : (significand : ℚ) * 10 ^ n ≤ safeMagnitude) :
    ((ofRatio false significand 1).mul (powerOfTen n)).isFinite := by
  refine isFinite_mul ?_
  rcases significand.eq_zero_or_pos with rfl | hpos
  · have hzero : (ofRatio false 0 1).magnitude = 0 := by
      have : (ofRatio false 0 1).significand = 0 := by decide +kernel
      rw [magnitude, this, Nat.cast_zero, zero_mul]
    rw [hzero, zero_mul]
    exact (natCast_le_safeMagnitude (by norm_num : 1 < 2 ^ 128)).trans_lt' (by norm_num)
      |>.trans safeMagnitude_lt_overflow
  have hone : (1 : ℚ) ≤ (significand : ℚ) / (1 : Nat) := by
    rw [Nat.cast_one, div_one]
    exact_mod_cast hpos
  have hbelow : (significand : ℚ) / (1 : Nat) < overflow := by
    rw [Nat.cast_one, div_one]
    exact (natCast_le_safeMagnitude (hsignificand.trans (by norm_num))).trans_lt
      safeMagnitude_lt_overflow
  have hx := (magnitude_ofRatio_bounds false significand one_pos hone hbelow).2
  rw [Nat.cast_one, div_one] at hx
  have hy := (magnitude_powerOfTen_bounds hn).2
  -- two relative errors of half a last bit do not reach the overflow
  calc (ofRatio false significand 1).magnitude * (powerOfTen n).magnitude
      ≤ significand * (1 + (1 / 2) ^ 53) * (10 ^ n * (1 + (1 / 2) ^ 53)) :=
        mul_le_mul hx hy (zero_le_one.trans (one_le_magnitude_powerOfTen hn)) (by positivity)
    _ = significand * 10 ^ n * (1 + (1 / 2) ^ 53) ^ 2 := by ring
    _ ≤ safeMagnitude * (1 + (1 / 2) ^ 53) ^ 2 := mul_le_mul_of_nonneg_right h (by positivity)
    _ < overflow := by
      rw [safeMagnitude, overflow, mul_right_comm]
      exact mul_lt_mul_of_pos_right (by norm_num) (by positivity)

/-- A significand and a power of ten have a float if their product is not beyond the safe
magnitudes. -/
theorem combine_isSome (negative : Bool) {significand : Nat} {e : ℤ}
    (hsignificand : significand < 2 ^ 64) (h : (significand : ℚ) * 10 ^ e ≤ safeMagnitude) :
    (combine negative significand e).isSome := by
  obtain ⟨x, hx⟩ : ∃ x, scale (.ofRatio false significand 1) e 4 = some x := by
    rcases lt_or_ge e 0 with he | he
    · -- division makes nothing larger
      exact scale_of_neg _ he 4
    obtain ⟨n, rfl⟩ := Int.eq_ofNat_of_zero_le he
    rw [zpow_natCast] at h
    rw [scale]
    dsimp only
    by_cases hn : n ≤ 308
    · rw [if_pos (by omega), if_pos he, Int.toNat_natCast,
        if_pos (isFinite_mul_powerOfTen hsignificand hn h)]
      exact ⟨_, rfl⟩
    · -- a greater power is too large for any significand but zero
      have hzero : significand = 0 := by
        by_contra hne
        have hone : (1 : ℚ) ≤ significand := by exact_mod_cast Nat.one_le_iff_ne_zero.mpr hne
        refine absurd h (not_le.mpr ?_)
        calc safeMagnitude < 10 ^ 309 := safeMagnitude_lt_overflow.trans overflow_lt_ten_pow
          _ ≤ 10 ^ n := pow_le_pow_right₀ (by norm_num) (by omega)
          _ ≤ significand * 10 ^ n := le_mul_of_one_le_left (by positivity) hone
      subst hzero
      have hisZero : (ofRatio false 0 1).isZero := by decide +kernel
      rw [if_neg (by omega), if_pos hisZero]
      exact ⟨_, rfl⟩
  rw [combine, hx]
  rfl

/-- A power of ten that is not positive does not make a significand too large. -/
theorem combine_isSome_of_nonpos (negative : Bool) {significand : Nat} {e : ℤ}
    (hsignificand : significand < 2 ^ 64) (he : e ≤ 0) :
    (combine negative significand e).isSome := by
  refine combine_isSome negative hsignificand ?_
  refine le_trans ?_ (natCast_le_safeMagnitude (hsignificand.trans (by norm_num)))
  exact mul_le_of_le_one_right (by positivity) (zpow_le_one_of_nonpos₀ (by norm_num) he)

/-- A significand on its own has a finite float. -/
theorem isFinite_ofRatio_significand {significand : Nat} (h : significand < 2 ^ 64) :
    (Binary64.ofRatio false significand 1).isFinite := by
  refine isFinite_ofRatio false one_pos ?_
  rw [Nat.cast_one, div_one]
  exact (natCast_le_safeMagnitude (h.trans (by norm_num))).trans_lt safeMagnitude_lt_overflow

/-- The float of a significand and a power of ten is finite. -/
theorem isFinite_of_combine {negative : Bool} {significand : Nat} {e : ℤ} {x : Binary64}
    (hsignificand : significand < 2 ^ 64) (h : combine negative significand e = some x) :
    x.isFinite := by
  obtain ⟨y, hy, rfl⟩ := Option.map_eq_some_iff.mp h
  have hy' := isFinite_of_scale (isFinite_ofRatio_significand hsignificand) hy
  cases negative
  · exact hy'
  · exact (isFinite_neg y).trans hy'

end SyntaxDump.Json
